import DualCollection.Toml.Json

/-!
# Documents of one-level tables

What the lines of a document are read as: the header of a table (`line_header`), a key with a scalar
that JSON writes (`line_field`), and an empty line.  `lines_fields` and `lines_tables` put them
together, and `loads_join` is about the text.
-/

namespace Toml

variable {F : Type}

/-- A bare name. -/
structure BareName (name : List Char) : Prop where
  /-- It is not empty. -/
  nonempty : name ≠ []
  /-- It consists of characters of bare keys. -/
  bare : ∀ c ∈ name, isBare c = true

theorem BareName.not_mem {name : List Char} (h : BareName name) {c : Char}
    (hc : isBare c = false) : c ∉ name := by
  intro hmem
  rw [h.bare c hmem] at hc
  cases hc

/-- The first character of a bare name. -/
theorem BareName.cons {name : List Char} (h : BareName name) :
    ∃ c cs, name = c :: cs ∧ isBare c = true := by
  obtain ⟨c, cs, rfl⟩ := List.exists_cons_of_ne_nil h.nonempty
  exact ⟨c, cs, rfl, h.bare c List.mem_cons_self⟩

theorem ne_of_isBare {b c : Char} (hb : isBare b = true) (hc : isBare c = false) : b ≠ c := by
  rintro rfl
  rw [hb] at hc
  cases hc

theorem skipSpaces_cons {c : Char} (hc : isSpace c = false) (cs : List Char) :
    skipSpaces (c :: cs) = c :: cs := by
  rw [skipSpaces, List.dropWhile_cons_of_neg]
  rw [hc]
  exact Bool.false_ne_true

theorem isSpace_of_isBare {c : Char} (hc : isBare c = true) : isSpace c = false := by
  by_contra hspace
  rw [Bool.not_eq_false, isSpace, Bool.or_eq_true, beq_iff_eq, beq_iff_eq] at hspace
  rcases hspace with rfl | rfl
  · exact absurd hc (by decide)
  · exact absurd hc (by decide)

/-- A bare name is read as a key. -/
theorem key_bare {name : List Char} (hname : BareName name) {c : Char} {rest : List Char}
    (hc : isBare c = false) (hpoint : (skipSpaces (c :: rest)).head? ≠ some '.') :
    key (name ++ c :: rest) = .ok (name, skipSpaces (c :: rest)) := by
  have hstop : ¬ isBare c = true := by
    rw [hc]
    exact Bool.false_ne_true
  have htake : (name ++ c :: rest).takeWhile isBare = name := by
    rw [List.takeWhile_append_of_pos hname.bare, List.takeWhile_cons_of_neg hstop, List.append_nil]
  have hdrop : (name ++ c :: rest).dropWhile isBare = c :: rest := by
    rw [List.dropWhile_append_of_pos hname.bare, List.dropWhile_cons_of_neg hstop]
  obtain ⟨b, bs, hb, hbare⟩ := hname.cons
  have hhead : (name ++ c :: rest).head? = some b := by
    rw [hb]
    rfl
  have hquote : some b ≠ some quote := fun h => ne_of_isBare hbare (by decide) (Option.some.inj h)
  have hapostrophe : some b ≠ some apostrophe := fun h =>
    ne_of_isBare hbare (by decide) (Option.some.inj h)
  unfold key
  rw [htake, hdrop, hhead, if_neg (not_or.2 ⟨hquote, not_or.2 ⟨hapostrophe, hpoint⟩⟩),
    if_neg hname.nonempty]

/-- The header of a table opens it. -/
theorem line_header (float : Bool → ℚ → F) {tables : Tables F} {name : List Char}
    (hname : BareName name) (hnew : name ∉ tables.map Prod.fst) :
    line float tables ('[' :: name ++ [']']) = .ok ((name, []) :: tables) := by
  obtain ⟨b, bs, hb, hbare⟩ := hname.cons
  have hspace : skipSpaces (name ++ [']']) = name ++ [']'] := by
    rw [hb, List.cons_append, skipSpaces_cons (isSpace_of_isBare hbare)]
  have hkey : key (name ++ [']']) = .ok (name, [']']) := key_bare hname (by decide) (by decide)
  have hheader : header tables (name ++ [']']) = .ok ((name, []) :: tables) := by
    unfold header
    rw [hspace, hkey]
    simp only [bind, Except.bind, if_neg hnew, endOfLine, skipSpaces, List.dropWhile_nil]
    rfl
  have hbracket : b ≠ '[' := ne_of_isBare hbare (by decide)
  unfold line
  rw [List.cons_append, skipSpaces_cons (by decide), ← hheader]
  split
  · rename_i heq
    rw [hb] at heq
    exact absurd (List.cons.inj (List.cons.inj heq).2).1 hbracket
  · rename_i heq
    rw [(List.cons.inj heq).2]
  · rename_i hne heq
    exact (hne (List.cons.inj heq).1.symm).elim
  · contradiction

/-- A key with a scalar. -/
def fieldLine (name text : List Char) : List Char := name ++ ' ' :: '=' :: ' ' :: text

/-- A key with a scalar is put into the table that has been opened last. -/
theorem line_field (d : Doubles F) (table : List Char) (tables : Tables F) {name text : List Char}
    {fields : List (List Char × Value F)} {v : Value F} (hname : BareName name)
    (hnew : name ∉ fields.map Prod.fst) (htext : dumps d v = .ok text) :
    line d.float ((table, fields) :: tables) (fieldLine name text) =
      if v.Admitted then .ok ((table, fields ++ [(name, v)]) :: tables)
      else .error (.illegalCharacter del) := by
  obtain ⟨b, bs, hb, hbare⟩ := hname.cons
  obtain ⟨c, cs, hc, hspace⟩ := (dumps_line htext).head
  have hequals : skipSpaces (' ' :: '=' :: ' ' :: text) = '=' :: ' ' :: text := by
    rw [skipSpaces, List.dropWhile_cons_of_pos (by decide)]
    exact skipSpaces_cons (by decide) _
  have hkey : key (fieldLine name text) = .ok (name, '=' :: ' ' :: text) := by
    rw [← hequals]
    refine key_bare hname (by decide) ?_
    rw [hequals, List.head?_cons]
    decide
  have hskip : skipSpaces (' ' :: text) = text := by
    rw [skipSpaces, List.dropWhile_cons_of_pos (by decide)]
    rw [hc]
    exact skipSpaces_cons hspace cs
  have hvalue : keyValue d.float ((table, fields) :: tables) (fieldLine name text) =
      if v.Admitted then .ok ((table, fields ++ [(name, v)]) :: tables)
      else .error (.illegalCharacter del) := by
    unfold keyValue
    rw [hkey]
    simp only [bind, Except.bind, hskip, value_dumps htext]
    by_cases hv : v.Admitted
    · rw [if_pos hv, if_pos hv]
      simp only [if_neg hnew, endOfLine, skipSpaces, List.dropWhile_nil]
      rfl
    · rw [if_neg hv, if_neg hv]
  have hfirst : skipSpaces (fieldLine name text) = fieldLine name text := by
    rw [fieldLine, hb, List.cons_append, skipSpaces_cons (isSpace_of_isBare hbare)]
  have hbracket : b ≠ '[' := ne_of_isBare hbare (by decide)
  have hline : fieldLine name text = b :: (bs ++ ' ' :: '=' :: ' ' :: text) := by
    rw [fieldLine, hb, List.cons_append]
  unfold line
  rw [hfirst, ← hvalue, hline]
  split
  · rename_i heq
    exact absurd (List.cons.inj heq).1 hbracket
  · rename_i heq
    exact absurd (List.cons.inj heq).1 hbracket
  · rename_i heq
    rw [← heq]
    rw [if_pos]
    left
    rw [← (List.cons.inj heq).1]
    exact hbare
  · contradiction

/-! ### Lines -/

theorem exists_of_mem_right {α β : Type} {R : α → β → Prop} {as : List α} {bs : List β} {b : β}
    (h : List.Forall₂ R as bs) (hb : b ∈ bs) : ∃ a ∈ as, R a b := by
  induction h with
  | nil => exact absurd hb List.not_mem_nil
  | @cons a b' as bs hab _ ih =>
    rcases List.mem_cons.1 hb with rfl | hb
    · exact ⟨a, List.mem_cons_self, hab⟩
    · obtain ⟨a', ha', h'⟩ := ih hb
      exact ⟨a', List.mem_cons_of_mem a ha', h'⟩

/-- The keys of a table, with what JSON writes of their values. -/
def Fields (d : Doubles F) (fields : List (List Char × Value F)) (ls : List (List Char)) : Prop :=
  List.Forall₂ (fun f l => ∃ text, dumps d f.2 = .ok text ∧ l = fieldLine f.1 text) fields ls

theorem lines_cons (float : Bool → ℚ → F) (tables : Tables F) (l : List Char)
    (ls : List (List Char)) :
    lines float tables (l :: ls) = (line float tables l).bind fun t => lines float t ls := by
  unfold lines
  exact List.foldlM_cons

theorem lines_append (float : Bool → ℚ → F) (tables : Tables F) (ls ls' : List (List Char)) :
    lines float tables (ls ++ ls') = (lines float tables ls).bind fun t => lines float t ls' := by
  unfold lines
  exact List.foldlM_append

/-- The lines of the keys of a table, behind those that have been read. -/
theorem lines_fields (d : Doubles F) (table : List Char) (tables : Tables F)
    (before : List (List Char × Value F)) {fields : List (List Char × Value F)}
    {ls : List (List Char)}
    (hbare : ∀ f ∈ fields, BareName f.1) (hnodup : ((before ++ fields).map Prod.fst).Nodup)
    (h : Fields d fields ls) :
    lines d.float ((table, before) :: tables) ls =
      if ∀ f ∈ fields, f.2.Admitted then .ok ((table, before ++ fields) :: tables)
      else .error (.illegalCharacter del) := by
  unfold Fields at h
  induction h generalizing before with
  | nil =>
    rw [List.append_nil, if_pos fun f hf => absurd hf List.not_mem_nil]
    rfl
  | @cons f l fields ls hf _ ih =>
    obtain ⟨text, htext, rfl⟩ := hf
    have hnew : f.1 ∉ before.map Prod.fst := by
      rw [List.map_append, List.nodup_append] at hnodup
      intro hmem
      exact hnodup.2.2 _ hmem _ List.mem_cons_self rfl
    have hnodup' : ((before ++ [f] ++ fields).map Prod.fst).Nodup := by
      rwa [List.append_assoc, List.singleton_append]
    have hrest := ih (before ++ [f]) (fun g hg => hbare g (List.mem_cons_of_mem f hg)) hnodup'
    rw [lines_cons, line_field d table tables (hbare f List.mem_cons_self) hnew htext]
    by_cases hv : f.2.Admitted
    · rw [if_pos hv]
      refine hrest.trans ?_
      rw [List.append_assoc, List.singleton_append]
      simp only [List.forall_mem_cons, hv, true_and]
    · rw [if_neg hv, if_neg fun h => hv (h f List.mem_cons_self)]
      rfl

/-- The lines of a table: its header, its keys, and an empty line. -/
def TableLines (d : Doubles F) (t : Table F) (ls : List (List Char)) : Prop :=
  ∃ fields, Fields d t.2 fields ∧ ls = ('[' :: t.1 ++ [']']) :: (fields ++ [[]])

/-- The values of a table are admitted. -/
def TableAdmitted (t : Table F) : Prop := ∀ f ∈ t.2, f.2.Admitted

instance : DecidablePred (TableAdmitted (F := F)) := fun t =>
  inferInstanceAs (Decidable (∀ f ∈ t.2, f.2.Admitted))

/-- A table that can be written: its name and its keys are bare, and no key is there twice. -/
structure Plainly (t : Table F) : Prop where
  /-- The name. -/
  name : BareName t.1
  /-- The keys. -/
  keys : ∀ f ∈ t.2, BareName f.1
  /-- They differ. -/
  nodup : (t.2.map Prod.fst).Nodup

theorem lines_table (d : Doubles F) {t : Table F} {tables : Tables F} {ls : List (List Char)}
    (ht : Plainly t) (hnew : t.1 ∉ tables.map Prod.fst) (h : TableLines d t ls) :
    lines d.float tables ls =
      if TableAdmitted t then .ok (t :: tables) else .error (.illegalCharacter del) := by
  obtain ⟨fields, hfields, rfl⟩ := h
  have hread := lines_fields d t.1 tables [] ht.keys ht.nodup hfields
  rw [lines_cons, line_header d.float ht.name hnew]
  refine (lines_append d.float _ _ _).trans ?_
  rw [hread]
  by_cases hv : TableAdmitted t
  · have hall : ∀ f ∈ t.2, f.2.Admitted := hv
    rw [if_pos hall, if_pos hv]
    rfl
  · have hall : ¬ ∀ f ∈ t.2, f.2.Admitted := hv
    rw [if_neg hall, if_neg hv]
    rfl

/-- The lines of several tables, behind those that have been read. -/
theorem lines_tables (d : Doubles F) (before : Tables F) {tables : List (Table F)}
    {lss : List (List (List Char))} (hplain : ∀ t ∈ tables, Plainly t)
    (hnodup : ((before.reverse ++ tables).map Prod.fst).Nodup)
    (h : List.Forall₂ (TableLines d) tables lss) :
    lines d.float before lss.flatten =
      if ∀ t ∈ tables, TableAdmitted t then .ok (tables.reverse ++ before)
      else .error (.illegalCharacter del) := by
  induction h generalizing before with
  | nil =>
    rw [if_pos fun t ht => absurd ht List.not_mem_nil]
    rfl
  | @cons t ls tables lss ht _ ih =>
    have hnew : t.1 ∉ before.map Prod.fst := by
      rw [List.map_append, List.nodup_append] at hnodup
      intro hmem
      refine hnodup.2.2 t.1 ?_ _ List.mem_cons_self rfl
      rw [List.map_reverse]
      exact List.mem_reverse.2 hmem
    have hnodup' : (((t :: before).reverse ++ tables).map Prod.fst).Nodup := by
      rwa [List.reverse_cons, List.append_assoc, List.singleton_append]
    have hrest := ih (t :: before) (fun u hu => hplain u (List.mem_cons_of_mem t hu)) hnodup'
    rw [List.flatten_cons, lines_append, lines_table d (hplain t List.mem_cons_self) hnew ht]
    by_cases hv : TableAdmitted t
    · rw [if_pos hv]
      refine hrest.trans ?_
      rw [List.reverse_cons, List.append_assoc, List.singleton_append]
      simp only [List.forall_mem_cons, hv, true_and]
    · rw [if_neg hv, if_neg fun h => hv (h t List.mem_cons_self)]
      rfl

/-! ### The text -/

theorem newlines_of_not_mem {cs : List Char} (h : '\r' ∉ cs) : newlines cs = cs := by
  induction cs with
  | nil => rfl
  | cons c cs ih =>
    rw [List.mem_cons, not_or] at h
    rw [newlines.eq_def]
    split
    · rename_i heq
      exact absurd (List.cons.inj heq).1.symm h.1
    · rename_i heq
      obtain ⟨rfl, rfl⟩ := List.cons.inj heq
      rw [ih h.2]
    · contradiction

theorem mem_intercalate {c : Char} {ls : List (List Char)} (h : c ∈ ['\n'].intercalate ls) :
    c = '\n' ∨ ∃ l ∈ ls, c ∈ l := by
  induction ls with
  | nil => exact absurd h List.not_mem_nil
  | cons l ls ih =>
    cases ls with
    | nil =>
      rw [List.intercalate_singleton] at h
      exact .inr ⟨l, List.mem_cons_self, h⟩
    | cons l' ls =>
      rw [List.intercalate_cons_cons] at h
      rcases List.mem_append.1 h with h | h
      · rcases List.mem_append.1 h with h | h
        · exact .inr ⟨l, List.mem_cons_self, h⟩
        · exact .inl (List.mem_singleton.1 h)
      · rcases ih h with h | ⟨l'', hl'', h⟩
        · exact .inl h
        · exact .inr ⟨l'', List.mem_cons_of_mem l hl'', h⟩

/-- The lines of a table are not broken. -/
theorem TableLines.not_mem {d : Doubles F} {t : Table F} {ls : List (List Char)} (ht : Plainly t)
    (h : TableLines d t ls) {c : Char} (hc : c = '\n' ∨ c = '\r') : ∀ l ∈ ls, c ∉ l := by
  have hbare : isBare c = false := by
    rcases hc with rfl | rfl <;> decide
  obtain ⟨fields, hfields, rfl⟩ := h
  intro l hl
  rcases List.mem_cons.1 hl with rfl | hl
  · intro hmem
    rcases List.mem_append.1 hmem with hmem | hmem
    · rcases List.mem_cons.1 hmem with rfl | hmem
      · exact absurd hc (by decide)
      · exact ht.name.not_mem hbare hmem
    · rw [List.mem_singleton.1 hmem] at hc
      exact absurd hc (by decide)
  · rcases List.mem_append.1 hl with hl | hl
    · obtain ⟨f, hf, text, htext, rfl⟩ := exists_of_mem_right hfields hl
      have hline := dumps_line htext
      intro hmem
      rcases List.mem_append.1 hmem with hmem | hmem
      · exact (ht.keys f hf).not_mem hbare hmem
      · simp only [List.mem_cons] at hmem
        rcases hmem with rfl | rfl | rfl | hmem
        · exact absurd hc (by decide)
        · exact absurd hc (by decide)
        · exact absurd hc (by decide)
        · rcases hc with rfl | rfl
          · exact hline.newline hmem
          · exact hline.carriage hmem
    · rw [List.mem_singleton.1 hl]
      exact List.not_mem_nil

/-- A text of tables is read, unless one of its values is not admitted. -/
theorem loads_join (d : Doubles F) {tables : List (Table F)} {lss : List (List (List Char))}
    (hplain : ∀ t ∈ tables, Plainly t) (hnodup : (tables.map Prod.fst).Nodup)
    (h : List.Forall₂ (TableLines d) tables lss) :
    loads d.float (['\n'].intercalate lss.flatten) =
      if ∀ t ∈ tables, TableAdmitted t then .ok tables else .error (.illegalCharacter del) := by
  have hlines (c : Char) (hc : c = '\n' ∨ c = '\r') : ∀ l ∈ lss.flatten, c ∉ l := by
    intro l hl
    obtain ⟨ls, hls, hl⟩ := List.mem_flatten.1 hl
    obtain ⟨t, ht, htable⟩ := exists_of_mem_right h hls
    exact htable.not_mem (hplain t ht) hc l hl
  have hcarriage : '\r' ∉ ['\n'].intercalate lss.flatten := by
    intro hmem
    rcases mem_intercalate hmem with hmem | ⟨l, hl, hmem⟩
    · exact absurd hmem (by decide)
    · exact hlines _ (.inr rfl) l hl hmem
  have hread := lines_tables d [] hplain hnodup h
  unfold loads
  rw [newlines_of_not_mem hcarriage]
  have hsplit : lines d.float [] ((['\n'].intercalate lss.flatten).splitOn '\n') =
      lines d.float [] lss.flatten := by
    by_cases hempty : lss.flatten = []
    · -- without a table the document has one line, which is empty
      rw [hempty]
      rfl
    · rw [List.splitOn_intercalate '\n' (hlines '\n' (.inl rfl)) hempty]
  rw [hsplit, hread]
  by_cases hall : ∀ t ∈ tables, TableAdmitted t
  · rw [if_pos hall, if_pos hall, List.append_nil]
    simp only [bind, Except.bind, pure, Except.pure, List.reverse_reverse]
  · rw [if_neg hall, if_neg hall]
    rfl

end Toml
