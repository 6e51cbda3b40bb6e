import DualCollection.Toml.Grammar
import Mathlib.Algebra.Order.Field.Rat
import Mathlib.Tactic.Ring
import Mathlib.Tactic.IntervalCases
import Mathlib.Tactic.NormNum

/-!
# JSON scalars that are read as TOML

The notation of a scalar in JSON, as Python writes it when it does not restrict itself to ASCII, is
a notation of the same value in TOML, but for a string with the character `U+007F`: JSON leaves it
as it is, and TOML does not admit it (`value_dumps`).

The shortest decimal of a double is a parameter, of which it is known that the double is read back
from it (`Doubles`).
-/

namespace Toml

/-! ### Writing -/

/-- `DEL` -/
def del : Char := '\x7f'

/-- A character of a string. -/
def encodeChar (c : Char) : List Char :=
  if c = '\x22' then ['\\', '\x22']
  else if c = '\\' then ['\\', '\\']
  else if c = '\n' then ['\\', 'n']
  else if c = '\r' then ['\\', 'r']
  else if c = '\t' then ['\\', 't']
  else if c = '\x0c' then ['\\', 'f']
  else if c = '\x08' then ['\\', 'b']
  else if c.toNat < 32 then
    ['\\', 'u', '0', '0', Nat.digitChar (c.toNat / 16), Nat.digitChar (c.toNat % 16)]
  else [c]

/-- A string. -/
def encodeString (s : List Char) : List Char := quote :: s.flatMap encodeChar ++ [quote]

/-- `int.__repr__` -/
def intRepr (z : ℤ) : List Char :=
  if z < 0 then '-' :: Nat.toDigits 10 z.natAbs else Nat.toDigits 10 z.natAbs

/-- A decimal number: its sign, its digits, and how many of them stand before the point. -/
structure Decimal where
  /-- The sign. -/
  negative : Bool
  /-- The digits. -/
  digits : List Char
  /-- The place of the point. -/
  point : ℤ
  /-- They are digits. -/
  isDigit : ∀ c ∈ digits, c.isDigit = true
  /-- No zero leads, but the one of the number zero. -/
  leading : (digits = ['0'] ∧ point = 1) ∨ ∃ c cs, digits = c :: cs ∧ c ≠ '0'

namespace Decimal

variable (d : Decimal)

/-- The magnitude. -/
def magnitude : ℚ := (Nat.ofDigitChars 10 d.digits 0 : ℚ) * 10 ^ (d.point - d.digits.length)

/-- The notation without an exponent. -/
def fixed : List Char :=
  if d.point ≤ 0 then '0' :: '.' :: (List.replicate (-d.point).toNat '0' ++ d.digits)
  else
    d.digits.take d.point.toNat ++ List.replicate (d.point.toNat - d.digits.length) '0' ++
      '.' :: (if d.digits.drop d.point.toNat = [] then ['0'] else d.digits.drop d.point.toNat)

/-- At least two digits. -/
def twoDigits (n : ℕ) : List Char :=
  List.replicate (2 - (Nat.toDigits 10 n).length) '0' ++ Nat.toDigits 10 n

/-- The notation with an exponent. -/
def scientific : List Char :=
  d.digits.take 1 ++ (if d.digits.drop 1 = [] then [] else '.' :: d.digits.drop 1) ++
    'e' :: (if d.point - 1 < 0 then '-' else '+') :: twoDigits (d.point - 1).natAbs

/-- `float.__repr__` -/
def repr : List Char :=
  (if d.negative then ['-'] else []) ++
    if -4 < d.point ∧ d.point ≤ 16 then d.fixed else d.scientific

end Decimal

/-- The finite doubles: the shortest decimal that is read as the double, and the double of a decimal
literal. -/
structure Doubles (F : Type) where
  /-- The digits of `float.__repr__`. -/
  shortest : F → Decimal
  /-- `float`, of a literal. -/
  float : Bool → ℚ → F
  /-- `float(repr(x)) == x` -/
  float_shortest : ∀ x, float (shortest x).negative (shortest x).magnitude = x

/-- `sys.get_int_max_str_digits()` -/
def maxStrDigits : ℕ := 4300

/-- `json.dumps` of a scalar, with `ensure_ascii=False`. -/
def dumps {F : Type} (d : Doubles F) : Value F → Except String (List Char)
  | .string s => .ok (encodeString s)
  | .boolean true => .ok ['t', 'r', 'u', 'e']
  | .boolean false => .ok ['f', 'a', 'l', 's', 'e']
  | .integer z =>
    if maxStrDigits < (Nat.toDigits 10 z.natAbs).length then
      .error "Exceeds the limit (4300 digits) for integer string conversion"
    else .ok (intRepr z)
  | .float x => .ok (d.shortest x).repr

/-- The strings that TOML admits as JSON writes them. -/
def Value.Admitted {F : Type} : Value F → Prop
  | .string s => del ∉ s
  | _ => True

instance {F : Type} : DecidablePred (Value.Admitted (F := F))
  | .string s => inferInstanceAs (Decidable (del ∉ s))
  | .boolean _ | .integer _ | .float _ => inferInstanceAs (Decidable True)

/-! ### Strings -/

theorem hexValue_digitChar : ∀ n < 16, hexValue (Nat.digitChar n) = some n := by decide

theorem hexValue_zero : hexValue '0' = some 0 := by decide

theorem basicString_cons {c : Char} (hc : c ≠ '\\') (cs : List Char) :
    basicString (c :: cs) =
      if c = quote then .ok ([], cs)
      else if isControl c then .error (.illegalCharacter c)
      else consChar c (basicString cs) := by
  rw [basicString.eq_def]
  split
  · contradiction
  · rename_i heq
    exact absurd (List.cons.inj heq).1 hc
  · rename_i heq
    exact absurd (List.cons.inj heq).1 hc
  · rename_i heq
    exact absurd (List.cons.inj heq).1 hc
  · rename_i heq
    obtain ⟨rfl, rfl⟩ := List.cons.inj heq
    rw [if_neg hc]

/-- A character that is escaped, or that stands for itself, is read. -/
theorem basicString_encodeChar (c : Char) (hc : c ≠ del) (cs : List Char) :
    basicString (encodeChar c ++ cs) = consChar c (basicString cs) := by
  unfold encodeChar
  split_ifs with hquote hback hline hreturn htab hfeed hbs hcontrol
  · subst hquote
    rfl
  · subst hback
    rfl
  · subst hline
    rfl
  · subst hreturn
    rfl
  · subst htab
    rfl
  · subst hfeed
    rfl
  · subst hbs
    rfl
  · -- four hexadecimal digits
    have hhigh := hexValue_digitChar (c.toNat / 16) (by omega)
    have hlow := hexValue_digitChar (c.toNat % 16) (by omega)
    have hnumber : 16 * (c.toNat / 16) + c.toNat % 16 = c.toNat := by omega
    have hhex : hexNumber ['0', '0', Nat.digitChar (c.toNat / 16), Nat.digitChar (c.toNat % 16)] =
        some c.toNat := by
      simp only [hexNumber, List.foldlM_cons, List.foldlM_nil, hexValue_zero, hhigh, hlow,
        Option.map_some, Option.bind_eq_bind, Option.bind_some, pure, Nat.mul_zero, Nat.zero_add,
        hnumber]
    have hvalid : c.toNat.isValidChar := c.valid
    have hunicode : unicode ['0', '0', Nat.digitChar (c.toNat / 16),
        Nat.digitChar (c.toNat % 16)] = .ok c := by
      unfold unicode
      rw [hhex]
      simp only [if_pos hvalid, Char.ofNat_toNat]
    simp only [List.cons_append, List.nil_append]
    rw [basicString, hunicode]
    rfl
  · -- the character itself
    have hplain : isControl c = false := by
      have hne : c.toNat ≠ 127 := fun h => hc (Char.toNat_inj.1 h)
      simp only [isControl, Bool.or_eq_false_iff, Bool.and_eq_false_imp, decide_eq_true_eq,
        beq_eq_false_iff_ne]
      exact ⟨fun hlt => absurd hlt hcontrol, hne⟩
    have hends : c ≠ quote := hquote
    rw [List.singleton_append, basicString_cons hback, if_neg hends, if_neg]
    rw [hplain]
    exact Bool.false_ne_true

/-- The characters are read up to the quotation mark, or to one that is not admitted. -/
theorem basicString_encode (s rest : List Char) :
    basicString (s.flatMap encodeChar ++ quote :: rest) =
      if del ∈ s then .error (.illegalCharacter del) else .ok (s, rest) := by
  induction s with
  | nil =>
    rw [List.flatMap_nil, List.nil_append, basicString_cons (by decide), if_pos rfl]
    rfl
  | cons c s ih =>
    rw [List.flatMap_cons, List.append_assoc]
    by_cases hc : c = del
    · -- the character is written as it is
      subst hc
      have hplain : encodeChar del = [del] := by decide
      rw [hplain, List.singleton_append, basicString_cons (by decide), if_neg (by decide),
        if_pos (by decide), if_pos List.mem_cons_self]
    · rw [basicString_encodeChar c hc, ih]
      have hmem : del ∈ c :: s ↔ del ∈ s := by
        rw [List.mem_cons]
        exact or_iff_right (Ne.symm hc)
      simp only [hmem]
      by_cases hs : del ∈ s
      · rw [if_pos hs, if_pos hs]
        rfl
      · rw [if_neg hs, if_neg hs]
        rfl

/-! ### Digits -/

/-- The digits end here. -/
def Stops (cs : List Char) : Prop := ∀ c ∈ cs.head?, c.isDigit = false ∧ c ≠ '_'

theorem stops_nil : Stops [] := by
  intro c hc
  cases hc

theorem stops_cons {c : Char} {cs : List Char} (hdigit : c.isDigit = false) (hc : c ≠ '_') :
    Stops (c :: cs) := by
  intro b hb
  cases hb
  exact ⟨hdigit, hc⟩

theorem digits_stops {cs : List Char} (h : Stops cs) : digits cs = ([], cs) := by
  cases cs with
  | nil => rfl
  | cons c cs =>
    obtain ⟨hdigit, hc⟩ := h c rfl
    rw [digits.eq_def]
    split
    · contradiction
    · rename_i heq
      exact absurd (List.cons.inj heq).1 hc
    · rename_i heq
      exact absurd (List.cons.inj heq).1 hc
    · rename_i heq
      obtain ⟨rfl, rfl⟩ := List.cons.inj heq
      rw [hdigit]
      rfl

theorem digits_cons {c : Char} (hc : c.isDigit = true) (cs : List Char) :
    digits (c :: cs) = (c :: (digits cs).1, (digits cs).2) := by
  have hne : c ≠ '_' := by
    rintro rfl
    exact absurd hc (by decide)
  rw [digits.eq_def]
  split
  · contradiction
  · rename_i heq
    exact absurd (List.cons.inj heq).1 hne
  · rename_i heq
    exact absurd (List.cons.inj heq).1 hne
  · rename_i heq
    obtain ⟨rfl, rfl⟩ := List.cons.inj heq
    rw [if_pos hc]

theorem digits_append {ds cs : List Char} (hds : ∀ c ∈ ds, c.isDigit = true) (hcs : Stops cs) :
    digits (ds ++ cs) = (ds, cs) := by
  induction ds with
  | nil => exact digits_stops hcs
  | cons d ds ih =>
    rw [List.cons_append, digits_cons (hds d List.mem_cons_self),
      ih fun c hc => hds c (List.mem_cons_of_mem d hc)]

theorem someDigits_append {ds cs : List Char} (hne : ds ≠ [])
    (hds : ∀ c ∈ ds, c.isDigit = true) (hcs : Stops cs) : someDigits (ds ++ cs) = some (ds, cs) := by
  cases ds with
  | nil => contradiction
  | cons d ds =>
    rw [List.cons_append, someDigits, if_pos (hds d List.mem_cons_self),
      digits_append (fun c hc => hds c (List.mem_cons_of_mem d hc)) hcs]

theorem wholePart_append {d : Char} {ds cs : List Char} (hd : d ≠ '0')
    (hds : ∀ c ∈ d :: ds, c.isDigit = true) (hcs : Stops cs) :
    wholePart (d :: ds ++ cs) = some (d :: ds, cs) := by
  have hsome := someDigits_append (List.cons_ne_nil d ds) hds hcs
  rw [List.cons_append, wholePart.eq_def]
  split
  · rename_i heq
    exact absurd (List.cons.inj heq).1 hd
  · exact hsome

theorem fractionPart_append {ds cs : List Char} (hne : ds ≠ [])
    (hds : ∀ c ∈ ds, c.isDigit = true) (hcs : Stops cs) :
    fractionPart ('.' :: (ds ++ cs)) = (some ds, cs) := by
  rw [fractionPart, someDigits_append hne hds hcs]

theorem sign_digit {c : Char} (hc : c.isDigit = true) (cs : List Char) :
    sign (c :: cs) = (false, c :: cs) := by
  rw [sign.eq_def]
  split
  · rename_i heq
    obtain ⟨rfl, rfl⟩ := List.cons.inj heq
    exact absurd hc (by decide)
  · rename_i heq
    obtain ⟨rfl, rfl⟩ := List.cons.inj heq
    exact absurd hc (by decide)
  · rfl

/-! ### Numbers -/

theorem isDigit_toDigits (n : ℕ) : ∀ c ∈ Nat.toDigits 10 n, c.isDigit = true :=
  fun _ hc => Nat.isDigit_of_mem_toDigits (by decide) (by decide) hc

/-- No zero leads the digits of a number, but of zero. -/
theorem toDigits_leading (n : ℕ) :
    Nat.toDigits 10 n = ['0'] ∨ ∃ c cs, Nat.toDigits 10 n = c :: cs ∧ c ≠ '0' := by
  induction n using Nat.strong_induction_on with
  | _ n ih =>
    rw [Nat.toDigits_eq_if (by decide)]
    split_ifs with hlt
    · interval_cases n
      · exact .inl rfl
      all_goals exact .inr ⟨_, _, rfl, by decide⟩
    · -- the first digit is the one of the quotient
      right
      obtain hzero | ⟨c, cs, hcs, hc⟩ := ih (n / 10) (by omega)
      · have hvalue := Nat.ofDigitChars_ten_toDigits (n := n / 10)
        rw [hzero] at hvalue
        have : Nat.ofDigitChars 10 ['0'] 0 = 0 := by decide
        omega
      · exact ⟨c, cs ++ [Nat.digitChar (n % 10)], by rw [hcs, List.cons_append], hc⟩

/-- What may follow the first digit of a number. -/
def Plain (cs : List Char) : Prop := ∀ c ∈ cs.head?, c.isDigit = true ∨ c = '.' ∨ c = 'e'

theorem otherNumber_digit {c : Char} (hc : c.isDigit = true) {cs : List Char} (hcs : Plain cs) :
    otherNumber (c :: cs) = false := by
  have hi : c ≠ 'i' := by
    rintro rfl
    exact absurd hc (by decide)
  have hn : c ≠ 'n' := by
    rintro rfl
    exact absurd hc (by decide)
  have hsecond (b : Char) (hb : b.isDigit = false) (hpoint : b ≠ '.') (he : b ≠ 'e') :
      [b].isPrefixOf cs = false := by
    cases cs with
    | nil => rfl
    | cons b' cs =>
      rw [List.isPrefixOf_cons_cons, Bool.and_eq_false_iff]
      left
      rw [beq_eq_false_iff_ne]
      rintro rfl
      rcases hcs b rfl with h | h | h
      · rw [hb] at h
        cases h
      · exact hpoint h
      · exact he h
  have hx := hsecond 'x' (by decide) (by decide) (by decide)
  have ho := hsecond 'o' (by decide) (by decide) (by decide)
  have hb := hsecond 'b' (by decide) (by decide) (by decide)
  have hi' : ('i' == c) = false := beq_eq_false_iff_ne.2 (Ne.symm hi)
  have hn' : ('n' == c) = false := beq_eq_false_iff_ne.2 (Ne.symm hn)
  simp only [otherNumber, String.reduceToList, List.any_cons, List.any_nil, List.isPrefixOf_cons_cons, hx,
    ho, hb, hi', hn', Bool.and_false, Bool.false_and, Bool.or_false]

section Numbers

variable {F : Type} (float : Bool → ℚ → F) (negative : Bool)

/-- The sign of a number. -/
def minus : List Char := if negative then ['-'] else []

theorem sign_minus {c : Char} (hc : c.isDigit = true) (cs : List Char) :
    sign (minus negative ++ c :: cs) = (negative, c :: cs) := by
  cases negative with
  | true => rfl
  | false => exact sign_digit hc cs

/-- A number that consists of digits is an integer. -/
theorem number_integer {c : Char} {cs : List Char} (hds : ∀ d ∈ c :: cs, d.isDigit = true)
    (hleading : c ≠ '0' ∨ cs = []) :
    number float (minus negative ++ c :: cs) = .ok (.integer (signed negative (c :: cs)), []) := by
  have hc := hds c List.mem_cons_self
  have hplain : Plain cs := fun d hd =>
    .inl (hds d (List.mem_cons_of_mem c (List.mem_of_mem_head? hd)))
  have hwhole : wholePart (c :: cs) = some (c :: cs, []) := by
    by_cases hzero : c = '0'
    · subst hzero
      rw [hleading.resolve_left (not_not.2 rfl)]
      rfl
    · have happend := wholePart_append hzero hds stops_nil
      rwa [List.append_nil] at happend
  unfold number
  rw [sign_minus negative hc cs]
  simp only [otherNumber_digit hc hplain, Bool.false_eq_true, if_false, hwhole, fractionPart,
    exponentPart, and_self, if_true]

/-- A number with a fraction or an exponent is a float. -/
theorem number_float {c : Char} {cs whole rest rest' : List Char} {fraction : Option (List Char)}
    {exponent : Option ℤ} (hc : c.isDigit = true) (hcs : Plain cs)
    (hwhole : wholePart (c :: cs) = some (whole, rest))
    (hfraction : fractionPart rest = (fraction, rest'))
    (hexponent : exponentPart rest' = (exponent, []))
    (hsome : ¬ (fraction = none ∧ exponent = none)) :
    number float (minus negative ++ c :: cs) =
      .ok (.float (float negative (magnitude whole (fraction.getD []) (exponent.getD 0))), []) := by
  unfold number
  rw [sign_minus negative hc cs]
  simp only [otherNumber_digit hc hcs, Bool.false_eq_true, if_false, hwhole, hfraction, hexponent,
    if_neg hsome]

/-- What begins with a digit or with a sign is a number, unless it looks like a time. -/
theorem value_number {c : Char} (hc : c.isDigit = true ∨ c = '-') {cs : List Char}
    (htime : isTime (c :: cs) = false) : value float (c :: cs) = number float (c :: cs) := by
  have hne (b : Char) (hb : b.isDigit = false) (hminus : b ≠ '-') : c ≠ b := by
    rintro rfl
    rcases hc with h | h
    · rw [hb] at h
      cases h
    · exact hminus h
  have hquote : c ≠ quote := hne quote (by decide) (by decide)
  have ht : c ≠ 't' := hne 't' (by decide) (by decide)
  have hf : c ≠ 'f' := hne 'f' (by decide) (by decide)
  have hother : ¬ (c = apostrophe ∨ c = '[' ∨ c = '\x7b') :=
    not_or.2 ⟨hne _ (by decide) (by decide), not_or.2 ⟨hne _ (by decide) (by decide),
      hne _ (by decide) (by decide)⟩⟩
  unfold value
  rw [if_neg]
  · split
    · rename_i heq
      exact absurd (List.cons.inj heq).1 ht
    · rename_i heq
      exact absurd (List.cons.inj heq).1 hf
    · rename_i heq
      obtain ⟨rfl, rfl⟩ := List.cons.inj heq
      rw [if_neg hquote, if_neg hother, htime]
      rfl
    · contradiction
  · intro hthree
    rw [List.take_succ_cons] at hthree
    exact hquote (List.cons.inj hthree).1

end Numbers

/-- Without a sign or a colon behind its first character, a text is no time. -/
theorem isTime_eq_false {c : Char} {cs : List Char} (h : ∀ d ∈ cs, d ≠ '-' ∧ d ≠ ':') :
    isTime (c :: cs) = false := by
  have hhead (n : ℕ) (b : Char) (hb : b = '-' ∨ b = ':') : ((cs.drop n).head? == some b) = false := by
    rw [beq_eq_false_iff_ne]
    intro heq
    have hmem : b ∈ cs := List.mem_of_mem_drop (List.mem_of_mem_head? heq)
    rcases hb with rfl | rfl
    · exact (h _ hmem).1 rfl
    · exact (h _ hmem).2 rfl
  simp only [isTime, List.drop_succ_cons, hhead 3 '-' (.inl rfl), hhead 1 ':' (.inr rfl),
    Bool.and_false, Bool.or_false]

/-- A time begins with two digits. -/
theorem isTime_of_second {c d : Char} {cs : List Char} (h : c.isDigit = false ∨ d.isDigit = false) :
    isTime (c :: d :: cs) = false := by
  have hboth : (c.isDigit && d.isDigit) = false := by
    rcases h with h | h
    · rw [h, Bool.false_and]
    · rw [h, Bool.and_false]
  simp only [isTime, List.take_succ_cons, List.take_zero, List.all_cons, ← Bool.and_assoc, hboth,
    Bool.false_and, Bool.and_false, Bool.or_false]

/-- An integer is read. -/
theorem value_intRepr {F : Type} (float : Bool → ℚ → F) (z : ℤ) :
    value float (intRepr z) = .ok (.integer z, []) := by
  have hdigits := isDigit_toDigits z.natAbs
  have hnumber := Nat.ofDigitChars_ten_toDigits (n := z.natAbs)
  have hleading : ∃ c cs, Nat.toDigits 10 z.natAbs = c :: cs ∧ (c ≠ '0' ∨ cs = []) := by
    obtain h | ⟨c, cs, h, hc⟩ := toDigits_leading z.natAbs
    · exact ⟨'0', [], h, .inr rfl⟩
    · exact ⟨c, cs, h, .inl hc⟩
  obtain ⟨c, cs, hcs, hleading⟩ := hleading
  rw [hcs] at hdigits hnumber
  have hplain : ∀ d ∈ c :: cs, d ≠ '-' ∧ d ≠ ':' := by
    intro d hd
    have hdigit := hdigits d hd
    constructor
    · rintro rfl
      exact absurd hdigit (by decide)
    · rintro rfl
      exact absurd hdigit (by decide)
  unfold intRepr
  rw [hcs]
  by_cases hz : z < 0
  · rw [if_pos hz, value_number float (.inr rfl) (isTime_eq_false hplain)]
    have hread := number_integer float true hdigits hleading
    have hsigned : signed true (c :: cs) = z := by
      simp only [signed, if_true, hnumber]
      omega
    rwa [hsigned] at hread
  · rw [if_neg hz, value_number float (.inl (hdigits c List.mem_cons_self))
      (isTime_eq_false fun d hd => hplain d (List.mem_cons_of_mem c hd))]
    have hread := number_integer float false hdigits hleading
    have hsigned : signed false (c :: cs) = z := by
      simp only [signed, Bool.false_eq_true, if_false, hnumber]
      omega
    rwa [hsigned] at hread

/-! ### Floats -/

namespace Decimal

theorem ten_ne : (10 : ℚ) ≠ 0 := by norm_num

variable {F : Type} (float : Bool → ℚ → F) (d : Decimal)

/-- The notation without an exponent, of a number below one. -/
theorem number_below (h : d.point ≤ 0) :
    number float (minus d.negative ++ d.fixed) = .ok (.float (float d.negative d.magnitude), []) := by
  have hne : d.digits ≠ [] := by
    rcases d.leading with ⟨hd, -⟩ | ⟨c, cs, hd, -⟩ <;> simp [hd]
  have hdigit : ∀ c ∈ List.replicate (-d.point).toNat '0' ++ d.digits, c.isDigit = true := by
    intro c hc
    rcases List.mem_append.1 hc with hc | hc
    · rw [List.eq_of_mem_replicate hc]
      decide
    · exact d.isDigit c hc
  have hfraction := fractionPart_append (List.append_ne_nil_of_right_ne_nil _ hne) hdigit stops_nil
  rw [List.append_nil] at hfraction
  have hplain : Plain ('.' :: (List.replicate (-d.point).toNat '0' ++ d.digits)) := by
    intro c hc
    cases hc
    exact .inr (.inl rfl)
  unfold fixed
  rw [if_pos h, number_float float d.negative (by decide) hplain rfl hfraction rfl (by simp)]
  have hmagnitude : Toml.magnitude ['0'] (List.replicate (-d.point).toNat '0' ++ d.digits) 0 =
      d.magnitude := by
    have hexponent : (0 : ℤ) - (List.replicate (-d.point).toNat '0' ++ d.digits).length =
        d.point - d.digits.length := by
      rw [List.length_append, List.length_replicate]
      omega
    have hvalue : Nat.ofDigitChars 10 (['0'] ++ (List.replicate (-d.point).toNat '0' ++ d.digits)) 0 =
        Nat.ofDigitChars 10 d.digits 0 := by
      rw [Nat.ofDigitChars_append, Nat.ofDigitChars_append, Nat.ofDigitChars_replicate_zero]
      rfl
    rw [Toml.magnitude, hexponent, hvalue, magnitude]
  rw [Option.getD_some, Option.getD_none, hmagnitude]

/-- The digits of a number that is not below one. -/
theorem wholePart_fixed (h : 0 < d.point) {cs : List Char} (hcs : Stops cs) :
    ∃ c ds, d.digits.take d.point.toNat ++
        List.replicate (d.point.toNat - d.digits.length) '0' = c :: ds ∧
      c.isDigit = true ∧ (∀ e ∈ ds, e.isDigit = true) ∧ wholePart (c :: ds ++ cs) = some (c :: ds, cs) := by
  obtain ⟨n, hn⟩ : ∃ n, d.point.toNat = n + 1 := ⟨d.point.toNat - 1, by omega⟩
  rcases d.leading with ⟨hd, hpoint⟩ | ⟨c, cs', hd, hc⟩
  · refine ⟨'0', [], ?_, by decide, fun e he => absurd he (List.not_mem_nil), rfl⟩
    rw [hd, hpoint]
    rfl
  · have hall : ∀ e ∈ c :: (cs'.take n ++ List.replicate (n + 1 - (c :: cs').length) '0'),
        e.isDigit = true := by
      intro e he
      rcases List.mem_cons.1 he with rfl | he
      · exact d.isDigit e (by rw [hd]; exact List.mem_cons_self)
      · rcases List.mem_append.1 he with he | he
        · exact d.isDigit e (by rw [hd]; exact List.mem_cons_of_mem c (List.mem_of_mem_take he))
        · rw [List.eq_of_mem_replicate he]
          decide
    refine ⟨c, _, ?_, hall c List.mem_cons_self, fun e he => hall e (List.mem_cons_of_mem c he),
      wholePart_append hc hall hcs⟩
    rw [hn, hd, List.take_succ_cons, List.cons_append]

/-- The notation without an exponent, of a number that is not below one. -/
theorem number_above (h : 0 < d.point) :
    number float (minus d.negative ++ d.fixed) = .ok (.float (float d.negative d.magnitude), []) := by
  obtain ⟨fraction, hfraction⟩ : ∃ fraction, fraction =
      if d.digits.drop d.point.toNat = [] then ['0'] else d.digits.drop d.point.toNat := ⟨_, rfl⟩
  have hne : fraction ≠ [] := by
    rw [hfraction]
    split_ifs with hdrop
    · decide
    · exact hdrop
  have hdigit : ∀ e ∈ fraction, e.isDigit = true := by
    rw [hfraction]
    split_ifs with hdrop
    · intro e he
      rw [List.mem_singleton.1 he]
      decide
    · exact fun e he => d.isDigit e (List.mem_of_mem_drop he)
  obtain ⟨c, ds, hwhole, hc, hds, hread⟩ := d.wholePart_fixed h
    (stops_cons (by decide) (by decide) : Stops ('.' :: fraction))
  have hplain : Plain (ds ++ '.' :: fraction) := by
    intro e he
    cases ds with
    | nil =>
      cases he
      exact .inr (.inl rfl)
    | cons e' ds =>
      cases he
      exact .inl (hds e List.mem_cons_self)
  have hpart := fractionPart_append hne hdigit stops_nil
  rw [List.append_nil] at hpart
  unfold fixed
  rw [if_neg (not_le.2 h), ← hfraction, hwhole, List.cons_append,
    number_float float d.negative hc hplain hread hpart rfl (by simp)]
  have hmagnitude : Toml.magnitude (c :: ds) fraction 0 = d.magnitude := by
    rw [← hwhole, Toml.magnitude, magnitude, hfraction]
    by_cases hdrop : d.digits.drop d.point.toNat = []
    · -- zeros stand before the point, and one behind it
      have hlength := List.drop_eq_nil_iff.1 hdrop
      rw [if_pos hdrop, List.take_of_length_le hlength, Nat.ofDigitChars_append,
        Nat.ofDigitChars_append, Nat.ofDigitChars_replicate_zero]
      have hzero (n : ℕ) : Nat.ofDigitChars 10 ['0'] n = 10 * n := by
        rw [Nat.ofDigitChars_cons]
        rfl
      have hexponent : d.point - d.digits.length =
          ((d.point.toNat - d.digits.length : ℕ) : ℤ) + 1 + (0 - ((['0'] : List Char).length : ℤ)) := by
        rw [List.length_singleton]
        omega
      rw [hzero, hexponent, zpow_add₀ ten_ne, zpow_add₀ ten_ne, zpow_natCast, zpow_one]
      push_cast
      ring
    · -- the digits stand on both sides of the point
      have hlength : ¬ d.digits.length ≤ d.point.toNat := fun hle =>
        hdrop (List.drop_eq_nil_iff.2 hle)
      have hnone : d.point.toNat - d.digits.length = 0 := by omega
      have hexponent : (0 : ℤ) - (d.digits.drop d.point.toNat).length =
          d.point - d.digits.length := by
        rw [List.length_drop]
        omega
      rw [if_neg hdrop, hnone, List.replicate_zero, List.append_nil, List.take_append_drop, hexponent]
  rw [Option.getD_some, Option.getD_none, hmagnitude]

theorem exponentPart_scientific (e : ℤ) :
    exponentPart ('e' :: (if e < 0 then '-' else '+') :: twoDigits e.natAbs) = (some e, []) := by
  have hdigit : ∀ c ∈ twoDigits e.natAbs, c.isDigit = true := by
    intro c hc
    rcases List.mem_append.1 hc with hc | hc
    · rw [List.eq_of_mem_replicate hc]
      decide
    · exact isDigit_toDigits _ c hc
  have hne : twoDigits e.natAbs ≠ [] :=
    List.append_ne_nil_of_right_ne_nil _ Nat.toDigits_ne_nil
  have hsome := someDigits_append hne hdigit stops_nil
  rw [List.append_nil] at hsome
  have hvalue : Nat.ofDigitChars 10 (twoDigits e.natAbs) 0 = e.natAbs := by
    rw [twoDigits, Nat.ofDigitChars_append, Nat.ofDigitChars_replicate_zero, Nat.mul_zero,
      Nat.ofDigitChars_ten_toDigits]
  by_cases he : e < 0
  · have hsigned : signed true (twoDigits e.natAbs) = e := by
      simp only [signed, if_true, hvalue]
      omega
    simp only [exponentPart, if_pos he, true_or, if_true, sign, hsome, hsigned]
  · have hsigned : signed false (twoDigits e.natAbs) = e := by
      simp only [signed, Bool.false_eq_true, if_false, hvalue]
      omega
    simp only [exponentPart, if_neg he, true_or, if_true, sign, hsome, hsigned]

/-- The notation with an exponent. -/
theorem number_scientific : number float (minus d.negative ++ d.scientific) =
    .ok (.float (float d.negative d.magnitude), []) := by
  obtain ⟨c, cs, hd⟩ : ∃ c cs, d.digits = c :: cs := by
    rcases d.leading with ⟨hd, -⟩ | ⟨c, cs, hd, -⟩
    · exact ⟨_, _, hd⟩
    · exact ⟨c, cs, hd⟩
  have hc : c.isDigit = true := d.isDigit c (by rw [hd]; exact List.mem_cons_self)
  have hcs : ∀ e ∈ cs, e.isDigit = true := fun e he =>
    d.isDigit e (by rw [hd]; exact List.mem_cons_of_mem c he)
  have hexponent := exponentPart_scientific (d.point - 1)
  obtain ⟨tail, htail⟩ : ∃ tail, tail = 'e' :: (if d.point - 1 < 0 then '-' else '+') ::
      twoDigits (d.point - 1).natAbs := ⟨_, rfl⟩
  rw [← htail] at hexponent
  have hstops : Stops tail := by
    rw [htail]
    exact stops_cons (by decide) (by decide)
  have hmagnitude : Toml.magnitude [c] cs (d.point - 1) = d.magnitude := by
    have hpower : d.point - 1 - (cs.length : ℤ) = d.point - (c :: cs).length := by
      rw [List.length_cons]
      omega
    rw [Toml.magnitude, magnitude, hd, hpower]
    rfl
  unfold scientific
  rw [hd, ← htail, List.take_succ_cons, List.take_zero, List.drop_succ_cons, List.drop_zero,
    List.singleton_append, List.cons_append]
  have hwhole (rest : List Char) (hrest : Stops rest) : wholePart (c :: rest) = some ([c], rest) := by
    by_cases hzero : c = '0'
    · subst hzero
      rfl
    · have happend : wholePart ([c] ++ rest) = some ([c], rest) :=
        wholePart_append hzero (by simpa using hc) hrest
      exact happend
  cases cs with
  | nil =>
    rw [if_pos rfl, List.nil_append]
    have hplain : Plain tail := by
      rw [htail]
      intro e he
      cases he
      exact .inr (.inr rfl)
    have hnone : fractionPart tail = (none, tail) := by
      rw [htail]
      rfl
    rw [number_float float d.negative hc hplain (hwhole tail hstops) hnone hexponent (by simp),
      Option.getD_none, Option.getD_some, hmagnitude]
  | cons e cs =>
    rw [if_neg (List.cons_ne_nil e cs), List.cons_append]
    have hplain : Plain ('.' :: (e :: cs ++ tail)) := by
      intro b hb
      cases hb
      exact .inr (.inl rfl)
    have hpoint : Stops ('.' :: (e :: cs ++ tail)) := stops_cons (by decide) (by decide)
    rw [number_float float d.negative hc hplain (hwhole _ hpoint)
      (fractionPart_append (List.cons_ne_nil e cs) hcs hstops) hexponent (by simp),
      Option.getD_some, Option.getD_some, hmagnitude]

/-- The notation without an exponent has digits and a point. -/
theorem fixed_chars : ∀ c ∈ d.fixed, c.isDigit = true ∨ c = '.' := by
  intro c hc
  have hzeros (n : ℕ) (h : c ∈ List.replicate n '0') : c.isDigit = true := by
    rw [List.eq_of_mem_replicate h]
    decide
  unfold fixed at hc
  split_ifs at hc with hpoint hdrop
  · rcases List.mem_cons.1 hc with rfl | hc
    · exact .inl (by decide)
    · rcases List.mem_cons.1 hc with rfl | hc
      · exact .inr rfl
      · rcases List.mem_append.1 hc with hc | hc
        · exact .inl (hzeros _ hc)
        · exact .inl (d.isDigit c hc)
  all_goals
    rcases List.mem_append.1 hc with hc | hc
    · rcases List.mem_append.1 hc with hc | hc
      · exact .inl (d.isDigit c (List.mem_of_mem_take hc))
      · exact .inl (hzeros _ hc)
    · rcases List.mem_cons.1 hc with rfl | hc
      · exact .inr rfl
      · left
        first
        | exact d.isDigit c (List.mem_of_mem_drop hc)
        | exact hzeros 1 hc

/-- A notation begins with a digit, and is no time. -/
theorem fixed_head : ∃ c e cs, d.fixed = c :: e :: cs ∧ c.isDigit = true ∧
    isTime (c :: e :: cs) = false := by
  have hhead : ∃ c e cs, d.fixed = c :: e :: cs ∧ c.isDigit = true := by
    by_cases hpoint : d.point ≤ 0
    · have hfixed : d.fixed = '0' :: '.' :: (List.replicate (-d.point).toNat '0' ++ d.digits) := by
        unfold fixed
        rw [if_pos hpoint]
      exact ⟨'0', '.', _, hfixed, by decide⟩
    · obtain ⟨c, ds, hwhole, hc, -, -⟩ := d.wholePart_fixed (not_le.1 hpoint) stops_nil
      unfold fixed
      rw [if_neg hpoint, hwhole]
      cases ds with
      | nil => exact ⟨c, '.', _, rfl, hc⟩
      | cons e ds => exact ⟨c, e, _, rfl, hc⟩
  obtain ⟨c, e, cs, hfixed, hc⟩ := hhead
  refine ⟨c, e, cs, hfixed, hc, isTime_eq_false fun b hb => ?_⟩
  have hmem : b ∈ d.fixed := by
    rw [hfixed]
    exact List.mem_cons_of_mem c hb
  rcases d.fixed_chars b hmem with hdigit | rfl
  · constructor
    · rintro rfl
      exact absurd hdigit (by decide)
    · rintro rfl
      exact absurd hdigit (by decide)
  · decide

theorem scientific_head : ∃ c e cs, d.scientific = c :: e :: cs ∧ c.isDigit = true ∧
    isTime (c :: e :: cs) = false := by
  obtain ⟨c, cs, hd⟩ : ∃ c cs, d.digits = c :: cs := by
    rcases d.leading with ⟨hd, -⟩ | ⟨c, cs, hd, -⟩
    · exact ⟨_, _, hd⟩
    · exact ⟨c, cs, hd⟩
  have hc : c.isDigit = true := d.isDigit c (by rw [hd]; exact List.mem_cons_self)
  unfold scientific
  rw [hd]
  cases cs with
  | nil => exact ⟨c, 'e', _, rfl, hc, isTime_of_second (.inr (by decide))⟩
  | cons b cs => exact ⟨c, '.', _, rfl, hc, isTime_of_second (.inr (by decide))⟩

/-- A float is read. -/
theorem value_repr : value float d.repr = .ok (.float (float d.negative d.magnitude), []) := by
  obtain ⟨body, hbody, hnumber, c, e, cs, hcs, hc, htime⟩ : ∃ body, d.repr = minus d.negative ++ body ∧
      number float (minus d.negative ++ body) = .ok (.float (float d.negative d.magnitude), []) ∧
      ∃ c e cs, body = c :: e :: cs ∧ c.isDigit = true ∧ isTime (c :: e :: cs) = false := by
    by_cases hrange : -4 < d.point ∧ d.point ≤ 16
    · refine ⟨d.fixed, ?_, ?_, d.fixed_head⟩
      · rw [repr, if_pos hrange]
        rfl
      · by_cases hpoint : d.point ≤ 0
        · exact d.number_below float hpoint
        · exact d.number_above float (not_le.1 hpoint)
    · refine ⟨d.scientific, ?_, d.number_scientific float, d.scientific_head⟩
      rw [repr, if_neg hrange]
      rfl
  rw [hbody, ← hnumber, hcs]
  cases d.negative with
  | true => exact value_number float (.inr rfl) (isTime_of_second (.inl (by decide)))
  | false => exact value_number float (.inl hc) htime

end Decimal

/-! ### Scalars -/

theorem value_quote {F : Type} (float : Bool → ℚ → F) {cs : List Char}
    (h : (quote :: cs).take 3 ≠ [quote, quote, quote]) :
    value float (quote :: cs) = (basicString cs).map fun r => (.string r.1, r.2) := by
  unfold value
  rw [if_neg h]
  exact if_pos rfl

/-- A scalar that JSON writes is read, unless it is a string that is not admitted. -/
theorem value_dumps {F : Type} {d : Doubles F} {v : Value F} {text : List Char}
    (h : dumps d v = .ok text) :
    value d.float text = if v.Admitted then .ok (v, []) else .error (.illegalCharacter del) := by
  cases v with
  | string s =>
    cases h
    have hthree : (encodeString s).take 3 ≠ [quote, quote, quote] := by
      -- a quotation mark in the string is escaped
      cases s with
      | nil => decide
      | cons c s =>
        have hfirst : ∃ e es, encodeChar c = e :: es ∧ e ≠ quote := by
          unfold encodeChar
          split_ifs with hquote
          all_goals first
            | exact ⟨_, _, rfl, by decide⟩
            | exact ⟨_, _, rfl, hquote⟩
        obtain ⟨e, es, hes, he⟩ := hfirst
        intro heq
        rw [encodeString, List.flatMap_cons, hes, List.cons_append, List.cons_append,
          List.cons_append, List.take_succ_cons, List.take_succ_cons] at heq
        exact he (List.cons.inj (List.cons.inj heq).2).1
    have hstring := basicString_encode s []
    rw [encodeString, List.cons_append] at hthree ⊢
    rw [value_quote d.float hthree, hstring]
    by_cases hs : del ∈ s
    · have hrefused : ¬ (Value.string (F := F) s).Admitted := fun h => h hs
      rw [if_pos hs, if_neg hrefused]
      rfl
    · have hadmitted : (Value.string (F := F) s).Admitted := hs
      rw [if_neg hs, if_pos hadmitted]
      rfl
  | boolean b =>
    cases b with
    | true =>
      cases h
      rfl
    | false =>
      cases h
      rfl
  | integer z =>
    simp only [dumps] at h
    split_ifs at h with hlength
    cases h
    exact value_intRepr d.float z
  | float x =>
    cases h
    rw [(d.shortest x).value_repr, d.float_shortest]
    rfl

/-- What JSON writes stays on its line, and does not begin with a space. -/
structure OneLine (text : List Char) : Prop where
  /-- The line is not ended. -/
  newline : '\n' ∉ text
  /-- Nor is it ended in another way. -/
  carriage : '\r' ∉ text
  /-- There is no space to leave out. -/
  head : ∃ c cs, text = c :: cs ∧ isSpace c = false

theorem encodeChar_line (c : Char) : '\n' ∉ encodeChar c ∧ '\r' ∉ encodeChar c := by
  unfold encodeChar
  split_ifs with hquote hback hline hreturn htab hfeed hbs hcontrol
  all_goals try decide
  · have hdigit : ∀ n < 16, Nat.digitChar n ≠ '\n' ∧ Nat.digitChar n ≠ '\r' := by decide
    have hhigh := hdigit (c.toNat / 16) (by omega)
    have hlow := hdigit (c.toNat % 16) (by omega)
    simp only [List.mem_cons, List.not_mem_nil, or_false]
    constructor
    · rintro (h | h | h | h | h | h)
      all_goals first | exact absurd h (by decide) | exact hhigh.1 h.symm | exact hlow.1 h.symm
    · rintro (h | h | h | h | h | h)
      all_goals first | exact absurd h (by decide) | exact hhigh.2 h.symm | exact hlow.2 h.symm
  · simp only [List.mem_singleton]
    exact ⟨Ne.symm hline, Ne.symm hreturn⟩

theorem encodeString_line (s : List Char) : OneLine (encodeString s) := by
  have hchar (b : Char) (hb : b ≠ quote) (h : ∀ c, b ∉ encodeChar c) : b ∉ encodeString s := by
    intro hmem
    rcases List.mem_append.1 hmem with hmem | hmem
    · rcases List.mem_cons.1 hmem with hmem | hmem
      · exact hb hmem
      · obtain ⟨c, -, hc⟩ := List.mem_flatMap.1 hmem
        exact h c hc
    · exact hb (List.mem_singleton.1 hmem)
  exact ⟨hchar _ (by decide) fun c => (encodeChar_line c).1,
    hchar _ (by decide) fun c => (encodeChar_line c).2, quote, _, rfl, by decide⟩

/-- The characters of numbers. -/
def isNumeric (c : Char) : Bool := c.isDigit || c == '-' || c == '+' || c == '.' || c == 'e'

theorem oneLine_of_numeric {text : List Char} (hne : text ≠ [])
    (h : ∀ c ∈ text, isNumeric c = true) : OneLine text := by
  refine ⟨fun hmem => absurd (h _ hmem) (by decide), fun hmem => absurd (h _ hmem) (by decide), ?_⟩
  obtain ⟨c, cs, rfl⟩ := List.exists_cons_of_ne_nil hne
  refine ⟨c, cs, rfl, ?_⟩
  have hc := h c List.mem_cons_self
  by_contra hspace
  rw [Bool.not_eq_false, isSpace, Bool.or_eq_true, beq_iff_eq, beq_iff_eq] at hspace
  rcases hspace with rfl | rfl
  · exact absurd hc (by decide)
  · exact absurd hc (by decide)

theorem isNumeric_of_isDigit {c : Char} (h : c.isDigit = true) : isNumeric c = true := by
  simp only [isNumeric, h, Bool.true_or]

theorem intRepr_line (z : ℤ) : OneLine (intRepr z) := by
  have hdigit := isDigit_toDigits z.natAbs
  unfold intRepr
  split_ifs with hz
  · refine oneLine_of_numeric (List.cons_ne_nil _ _) fun c hc => ?_
    rcases List.mem_cons.1 hc with rfl | hc
    · decide
    · exact isNumeric_of_isDigit (hdigit c hc)
  · exact oneLine_of_numeric Nat.toDigits_ne_nil fun c hc => isNumeric_of_isDigit (hdigit c hc)

theorem Decimal.scientific_chars (d : Decimal) : ∀ c ∈ d.scientific, isNumeric c = true := by
  intro c hc
  unfold scientific at hc
  rcases List.mem_append.1 hc with hc | hc
  · rcases List.mem_append.1 hc with hc | hc
    · exact isNumeric_of_isDigit (d.isDigit c (List.mem_of_mem_take hc))
    · split_ifs at hc with hdrop
      · exact absurd hc List.not_mem_nil
      · rcases List.mem_cons.1 hc with rfl | hc
        · decide
        · exact isNumeric_of_isDigit (d.isDigit c (List.mem_of_mem_drop hc))
  · rcases List.mem_cons.1 hc with rfl | hc
    · decide
    · rcases List.mem_cons.1 hc with rfl | hc
      · split_ifs <;> decide
      · rcases List.mem_append.1 hc with hc | hc
        · rw [List.eq_of_mem_replicate hc]
          decide
        · exact isNumeric_of_isDigit (isDigit_toDigits _ c hc)

theorem Decimal.repr_line (d : Decimal) : OneLine d.repr := by
  have hbody : ∀ c ∈ (if -4 < d.point ∧ d.point ≤ 16 then d.fixed else d.scientific),
      isNumeric c = true := by
    intro c hc
    split_ifs at hc with hrange
    · rcases d.fixed_chars c hc with h | rfl
      · exact isNumeric_of_isDigit h
      · decide
    · exact d.scientific_chars c hc
  have hne : (if -4 < d.point ∧ d.point ≤ 16 then d.fixed else d.scientific) ≠ [] := by
    split_ifs with hrange
    · obtain ⟨c, e, cs, h, -⟩ := d.fixed_head
      rw [h]
      exact List.cons_ne_nil _ _
    · obtain ⟨c, e, cs, h, -⟩ := d.scientific_head
      rw [h]
      exact List.cons_ne_nil _ _
  refine oneLine_of_numeric (List.append_ne_nil_of_right_ne_nil _ hne) fun c hc => ?_
  rcases List.mem_append.1 hc with hc | hc
  · split_ifs at hc with hnegative
    · rw [List.mem_singleton.1 hc]
      decide
    · exact absurd hc List.not_mem_nil
  · exact hbody c hc

theorem dumps_line {F : Type} {d : Doubles F} {v : Value F} {text : List Char}
    (h : dumps d v = .ok text) : OneLine text := by
  cases v with
  | string s =>
    cases h
    exact encodeString_line s
  | boolean b =>
    cases b with
    | true =>
      cases h
      exact ⟨by decide, by decide, 't', _, rfl, by decide⟩
    | false =>
      cases h
      exact ⟨by decide, by decide, 'f', _, rfl, by decide⟩
  | integer z =>
    simp only [dumps] at h
    split_ifs at h with hlength
    cases h
    exact intRepr_line z
  | float x =>
    cases h
    exact (d.shortest x).repr_line

end Toml
