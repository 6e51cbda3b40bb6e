import DualCollection.Control.Exception
import DualCollection.Toml.Document

/-!
# The policy configuration as TOML

`write_toml` of `dagger/unified_config.py` writes the configuration that `resolve_config` has
computed, and `DaggerCollectorSettings.load` and the policy server read it with `tomllib`.  Each
value is written as JSON.

`loads_writeToml` has what is read.  A `U+007F` in a string is what the two notations differ in.
-/

namespace DualCollection

open Toml

/-- A payload: one-level tables with bare names.  As in a dictionary, no name is there twice. -/
structure TomlPayload (F : Type) where
  /-- The tables. -/
  tables : List (Table F)
  /-- The names and the keys are bare, and the keys of a table differ. -/
  plain : ∀ t ∈ tables, Plainly t
  /-- The names differ. -/
  nodup : (tables.map Prod.fst).Nodup

variable {F : Type} (d : Doubles F)

/-- The line of a key. -/
def keyLine (f : List Char × Toml.Value F) : Except String (List Char) := do
  let text ← dumps d f.2
  return fieldLine f.1 text

/-- The lines of a table. -/
def tableLines (t : Table F) : Except String (List (List Char)) := do
  let fields ← t.2.mapM (keyLine d)
  return ('[' :: t.1 ++ [']']) :: (fields ++ [[]])

/-- `write_toml`: what is written to the file. -/
def writeToml (payload : TomlPayload F) : Except String (List Char) := do
  let ls ← payload.tables.mapM (tableLines d)
  return ['\n'].intercalate ls.flatten

variable {d}

theorem tableLines_ok {t : Table F} {ls : List (List Char)} (h : tableLines d t = .ok ls) :
    TableLines d t ls := by
  obtain ⟨fields, hfields, h⟩ := bind_eq_ok h
  cases h
  refine ⟨fields, mapM_ok (fun f l hf => ?_) hfields, rfl⟩
  obtain ⟨text, htext, hf⟩ := bind_eq_ok hf
  cases hf
  exact ⟨text, htext, rfl⟩

/-- What is read of what has been written. -/
theorem loads_writeToml {payload : TomlPayload F} {text : List Char}
    (h : writeToml d payload = .ok text) :
    loads d.float text =
      if ∀ t ∈ payload.tables, TableAdmitted t then .ok payload.tables
      else .error (.illegalCharacter del) := by
  obtain ⟨ls, hls, h⟩ := bind_eq_ok h
  cases h
  exact loads_join d payload.plain payload.nodup (mapM_ok (fun _ _ => tableLines_ok) hls)

/-! ### When it is read back -/

/-- JSON writes a value, and TOML reads it: a string without `U+007F`, and an integer that is not too
long to be written. -/
def Readable : Toml.Value F → Prop
  | .string s => del ∉ s
  | .integer z => (Nat.toDigits 10 z.natAbs).length ≤ maxStrDigits
  | .boolean _ | .float _ => True

theorem readable_iff {v : Toml.Value F} : Readable v ↔ (∃ text, dumps d v = .ok text) ∧ v.Admitted := by
  cases v with
  | string s => exact ⟨fun h => ⟨⟨_, rfl⟩, h⟩, fun h => h.2⟩
  | boolean b =>
    refine ⟨fun _ => ⟨?_, trivial⟩, fun _ => trivial⟩
    cases b with
    | true => exact ⟨_, rfl⟩
    | false => exact ⟨_, rfl⟩
  | integer z =>
    simp only [Readable, dumps]
    constructor
    · intro h
      exact ⟨⟨_, if_neg (not_lt.2 h)⟩, trivial⟩
    · rintro ⟨⟨text, htext⟩, -⟩
      split_ifs at htext with hlong
      exact not_lt.1 hlong
  | float x => exact ⟨fun _ => ⟨⟨_, rfl⟩, trivial⟩, fun _ => trivial⟩

theorem exists_mapM_iff {α β : Type} {f : α → Except String β} {as : List α} :
    (∃ bs, as.mapM f = .ok bs) ↔ ∀ a ∈ as, ∃ b, f a = .ok b := by
  induction as with
  | nil => exact ⟨fun _ a ha => absurd ha List.not_mem_nil, fun _ => ⟨[], rfl⟩⟩
  | cons a as ih =>
    rw [List.forall_mem_cons, ← ih]
    constructor
    · rintro ⟨bs, h⟩
      rw [List.mapM_cons] at h
      obtain ⟨b, hb, h⟩ := bind_eq_ok h
      obtain ⟨bs', hbs, -⟩ := bind_eq_ok h
      exact ⟨⟨b, hb⟩, bs', hbs⟩
    · rintro ⟨⟨b, hb⟩, bs, hbs⟩
      refine ⟨b :: bs, ?_⟩
      rw [List.mapM_cons, hb]
      simp only [bind, Except.bind, hbs]
      rfl

/-- A payload is written, if its values are. -/
theorem exists_writeToml_iff {payload : TomlPayload F} : (∃ text, writeToml d payload = .ok text) ↔
    ∀ t ∈ payload.tables, ∀ f ∈ t.2, ∃ text, dumps d f.2 = .ok text := by
  have hfield (f : List Char × Toml.Value F) :
      (∃ l, keyLine d f = .ok l) ↔ ∃ text, dumps d f.2 = .ok text := by
    constructor
    · rintro ⟨l, hl⟩
      obtain ⟨text, htext, -⟩ := bind_eq_ok hl
      exact ⟨text, htext⟩
    · rintro ⟨text, htext⟩
      refine ⟨fieldLine f.1 text, ?_⟩
      rw [keyLine, htext]
      rfl
  have htable (t : Table F) :
      (∃ ls, tableLines d t = .ok ls) ↔ ∀ f ∈ t.2, ∃ text, dumps d f.2 = .ok text := by
    rw [← forall₂_congr fun f _ => hfield f, ← exists_mapM_iff]
    constructor
    · rintro ⟨ls, hls⟩
      obtain ⟨fields, hfields, -⟩ := bind_eq_ok hls
      exact ⟨fields, hfields⟩
    · rintro ⟨fields, hfields⟩
      refine ⟨('[' :: t.1 ++ [']']) :: (fields ++ [[]]), ?_⟩
      rw [tableLines, hfields]
      rfl
  rw [← forall₂_congr fun t _ => htable t, ← exists_mapM_iff]
  constructor
  · rintro ⟨text, h⟩
    obtain ⟨ls, hls, -⟩ := bind_eq_ok h
    exact ⟨ls, hls⟩
  · rintro ⟨ls, hls⟩
    refine ⟨['\n'].intercalate ls.flatten, ?_⟩
    rw [writeToml, hls]
    rfl

/-- A configuration is written and read back if and only if its values are readable. -/
theorem policyToml_reads_back_iff (d : Doubles F) (payload : TomlPayload F) :
    (∃ text, writeToml d payload = .ok text ∧ loads d.float text = .ok payload.tables) ↔
      ∀ t ∈ payload.tables, ∀ f ∈ t.2, Readable f.2 := by
  have hsplit : (∀ t ∈ payload.tables, ∀ f ∈ t.2, Readable f.2) ↔
      (∀ t ∈ payload.tables, ∀ f ∈ t.2, ∃ text, dumps d f.2 = .ok text) ∧
        ∀ t ∈ payload.tables, TableAdmitted t := by
    simp only [readable_iff (d := d), TableAdmitted, forall_and]
  rw [hsplit, ← exists_writeToml_iff]
  constructor
  · rintro ⟨text, hwrite, hread⟩
    rw [loads_writeToml hwrite] at hread
    split_ifs at hread with hall
    exact ⟨⟨text, hwrite⟩, hall⟩
  · rintro ⟨⟨text, hwrite⟩, hall⟩
    exact ⟨text, hwrite, by rw [loads_writeToml hwrite, if_pos hall]⟩

/-! ### A prompt with `U+007F` -/

/-- A digit that is not zero. -/
def digit (d : Fin 9) : Char := Nat.digitChar (d + 1)

theorem digit_isDigit (d : Fin 9) : ∀ c ∈ [digit d], c.isDigit = true := by
  intro c hc
  rw [List.mem_singleton.1 hc, digit, Nat.isDigit_digitChar, decide_eq_true_iff]
  omega

theorem digit_leading (d : Fin 9) :
    ([digit d] = ['0'] ∧ (0 : ℤ) = 1) ∨ ∃ c cs, [digit d] = c :: cs ∧ c ≠ '0' :=
  .inr ⟨digit d, [], rfl, Nat.digitChar_eq_zero.not.2 (Nat.succ_ne_zero d)⟩

/-- `-0.9, ..., -0.1, 0.1, ..., 0.9` -/
def tenth (x : Bool × Fin 9) : Decimal :=
  ⟨x.1, [digit x.2], 0, digit_isDigit x.2, digit_leading x.2⟩

/-- A literal is read as one of them. -/
def readTenth (negative : Bool) (magnitude : ℚ) : Bool × Fin 9 :=
  (negative, Fin.ofNat 9 ((magnitude * 10).num.toNat - 1))

theorem readTenth_tenth (x : Bool × Fin 9) :
    readTenth (tenth x).negative (tenth x).magnitude = x := by
  revert x
  decide +kernel

/-- Eighteen floats. -/
def tenths : Doubles (Bool × Fin 9) := ⟨tenth, readTenth, readTenth_tenth⟩

theorem promptPayload_plain : ∀ t ∈ [("policy".toList, [("prompt".toList,
    (.string ['p', del] : Toml.Value (Bool × Fin 9)))])], Plainly t := by
  intro t ht
  rw [List.mem_singleton.1 ht]
  refine ⟨⟨by decide, List.all_eq_true.1 rfl⟩, fun f hf => ?_, by decide⟩
  rw [List.mem_singleton.1 hf]
  exact ⟨by decide, List.all_eq_true.1 rfl⟩

theorem promptPayload_nodup : ([("policy".toList, [("prompt".toList,
    (.string ['p', del] : Toml.Value (Bool × Fin 9)))])].map Prod.fst).Nodup := by
  decide

/-- A payload with one string. -/
def promptPayload : TomlPayload (Bool × Fin 9) :=
  ⟨[("policy".toList, [("prompt".toList, .string ['p', del])])], promptPayload_plain,
    promptPayload_nodup⟩

/-- The text is written, and it is no TOML. -/
theorem prompt_refused :
    (∃ text, writeToml tenths promptPayload = .ok text ∧
      loads tenths.float text = .error (.illegalCharacter del)) ∧
    ¬ ∃ text, writeToml tenths promptPayload = .ok text ∧
      loads tenths.float text = .ok promptPayload.tables := by
  have hwritten : writeToml tenths promptPayload =
      .ok "[policy]\nprompt = \x22p\x7f\x22\n".toList := rfl
  have hread := loads_writeToml hwritten
  have hrefused : ¬ ∀ t ∈ promptPayload.tables, TableAdmitted t := by
    intro h
    exact h _ (List.mem_singleton_self _) _ (List.mem_singleton_self _) (by decide)
  rw [if_neg hrefused] at hread
  refine ⟨⟨_, hwritten, hread⟩, ?_⟩
  rintro ⟨text, htext, hok⟩
  rw [hwritten] at htext
  cases htext
  rw [hread] at hok
  cases hok

end DualCollection
