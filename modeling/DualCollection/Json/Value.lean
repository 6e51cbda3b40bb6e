import Mathlib.Data.List.Nodup
import Mathlib.Data.Rat.Defs

/-!
# JSON documents

What is read of a JSON text in Python: booleans are numbers there, and an integer and a float may be
equal.  `Json.Codec` is a notation of documents as texts of which only this is known, that a plain
document is read back from the text that is written of it.
-/

/-- A JSON document. -/
inductive Json
  | null
  | bool (b : Bool)
  | int (z : ℤ)
  /-- A float; one that is not finite has no value. -/
  | float (q : Option ℚ)
  | str (s : String)
  | arr (xs : List Json)
  | obj (fields : List (String × Json))

namespace Json

/-- The number that a document is equal to. -/
def number : Json → Option ℚ
  | bool b => some (if b then 1 else 0)
  | int z => some z
  | float q => q
  | _ => none

/-- The document is a list or a dictionary, which cannot be looked up in a set. -/
def isContainer : Json → Bool
  | arr _ | obj _ => true
  | _ => false

/-- A number that every notation of numbers has. -/
def small (z : ℤ) : Bool := z.natAbs ≤ 9007199254740992

mutual

/-- No key is there twice, and every number is a small integer. -/
def plain : Json → Bool
  | int z => small z
  | float (some q) => q.den = 1 && small q.num
  | float none => false
  | arr xs => plainList xs
  | obj fields => (fields.map Prod.fst).Nodup && plainFields fields
  | _ => true

/-- The documents of a list are plain. -/
def plainList : List Json → Bool
  | [] => true
  | x :: xs => x.plain && plainList xs

/-- The values of a dictionary are plain. -/
def plainFields : List (String × Json) → Bool
  | [] => true
  | (_, x) :: fields => x.plain && plainFields fields

end

/-- A notation of documents. -/
structure Codec (W : Type) where
  /-- `json.loads`, of the text of a file. -/
  loads : W → Except String Json
  /-- `json.dumps`, as the bytes of a file. -/
  dumps : Json → W

/-- A plain document is read back. -/
def Codec.Faithful {W : Type} (codec : Codec W) : Prop :=
  ∀ v : Json, v.plain = true → codec.loads (codec.dumps v) = .ok v

end Json
