import Mathlib.Data.List.Basic
import Mathlib.Data.Rat.Defs
import Mathlib.Tactic.Common

/-!
# TOML

Documents of one-level tables, after the grammar of TOML 1.0: a document is a list of lines, each
of which is empty, the header of a table, or a key with its value.

What belongs to TOML and is not needed for such documents is `unsupported`: quoted and dotted keys,
arrays, tables in a line and arrays of tables, literal and multi-line strings, dates, numbers of
other bases, and infinities.  It is told apart from what is no TOML.

`Document.loads` reads a document; the reading of a floating-point literal, by its sign and its
magnitude, is a parameter.
-/

namespace Toml

/-- A value. -/
inductive Value (F : Type)
  | string (s : List Char)
  | boolean (b : Bool)
  | integer (z : ℤ)
  | float (x : F)
  deriving DecidableEq

/-- Why a text is refused. -/
inductive Error
  | illegalCharacter (c : Char)
  | unterminatedString
  | invalidEscape
  | invalidValue
  | invalidKey
  | invalidStatement
  | expectedEquals
  | expectedNewline
  | unclosedHeader
  | duplicateTable (name : List Char)
  | duplicateKey (name : List Char)
  /-- This is TOML, but not of the kind that is read here. -/
  | unsupported
  deriving DecidableEq

/-- A table: its name, and its keys with their values. -/
abbrev Table (F : Type) := List Char × List (List Char × Value F)

/-! ### Characters -/

/-- `wschar` -/
def isSpace (c : Char) : Bool := c == ' ' || c == '\t'

/-- The characters of a bare key. -/
def isBare (c : Char) : Bool := c.isAlpha || c.isDigit || c == '_' || c == '-'

/-- The control characters that may not stand in a string or in a comment. -/
def isControl (c : Char) : Bool := (c.toNat < 32 && c != '\t') || c.toNat == 127

/-- The quotation mark. -/
def quote : Char := '\x22'

/-- The apostrophe. -/
def apostrophe : Char := '\x27'

/-- Leave out the spaces at the front. -/
def skipSpaces (cs : List Char) : List Char := cs.dropWhile isSpace

/-! ### Strings -/

/-- The value of a hexadecimal digit. -/
def hexValue (c : Char) : Option ℕ :=
  if c.isDigit then some (c.toNat - '0'.toNat)
  else if 'a' ≤ c ∧ c ≤ 'f' then some (c.toNat - 'a'.toNat + 10)
  else if 'A' ≤ c ∧ c ≤ 'F' then some (c.toNat - 'A'.toNat + 10)
  else none

/-- The number of some hexadecimal digits. -/
def hexNumber (cs : List Char) : Option ℕ :=
  cs.foldlM (fun n c => (hexValue c).map fun d => 16 * n + d) 0

/-- The character of some hexadecimal digits: a Unicode scalar value. -/
def unicode (cs : List Char) : Except Error Char :=
  match hexNumber cs with
  | some n => if n.isValidChar then .ok (Char.ofNat n) else .error .invalidEscape
  | none => .error .invalidEscape

/-- The escapes of one character. -/
def escapes : List (Char × Char) :=
  [('b', '\x08'), ('t', '\t'), ('n', '\n'), ('f', '\x0c'), ('r', '\r'), ('\x22', '\x22'),
    ('\\', '\\')]

/-- Put a character in front of what follows. -/
def consChar (c : Char) (rest : Except Error (List Char × List Char)) :
    Except Error (List Char × List Char) := rest.map fun r => (c :: r.1, r.2)

/-- A basic string of one line, after its quotation mark, and what follows it. -/
def basicString : List Char → Except Error (List Char × List Char)
  | [] => .error .unterminatedString
  | '\\' :: 'u' :: a :: b :: c :: d :: cs => do
    let e ← unicode [a, b, c, d]
    consChar e (basicString cs)
  | '\\' :: 'U' :: a :: b :: c :: d :: a' :: b' :: c' :: d' :: cs => do
    let e ← unicode [a, b, c, d, a', b', c', d']
    consChar e (basicString cs)
  | '\\' :: c :: cs =>
    match escapes.lookup c with
    | some e => consChar e (basicString cs)
    | none => .error .invalidEscape
  | c :: cs =>
    if c = quote then .ok ([], cs)
    else if c = '\\' then .error .invalidEscape
    else if isControl c then .error (.illegalCharacter c)
    else consChar c (basicString cs)

/-! ### Numbers -/

/-- The digits at the front, with underscores between them, and what follows. -/
def digits : List Char → List Char × List Char
  | [] => ([], [])
  | ['_'] => ([], ['_'])
  | '_' :: d :: cs => if d.isDigit then (d :: (digits cs).1, (digits cs).2) else ([], '_' :: d :: cs)
  | c :: cs => if c.isDigit then (c :: (digits cs).1, (digits cs).2) else ([], c :: cs)

/-- A digit, and the digits that follow it. -/
def someDigits : List Char → Option (List Char × List Char)
  | c :: cs => if c.isDigit then some (c :: (digits cs).1, (digits cs).2) else none
  | [] => none

/-- The digits before the point: no zero leads. -/
def wholePart : List Char → Option (List Char × List Char)
  | '0' :: cs => some (['0'], cs)
  | cs => someDigits cs

/-- The digits after the point. -/
def fractionPart : List Char → Option (List Char) × List Char
  | '.' :: cs =>
    match someDigits cs with
    | some (ds, rest) => (some ds, rest)
    | none => (none, '.' :: cs)
  | cs => (none, cs)

/-- A sign, and what follows it. -/
def sign : List Char → Bool × List Char
  | '-' :: cs => (true, cs)
  | '+' :: cs => (false, cs)
  | cs => (false, cs)

/-- The number of some decimal digits, with a sign. -/
def signed (negative : Bool) (ds : List Char) : ℤ :=
  if negative then -(Nat.ofDigitChars 10 ds 0 : ℤ) else Nat.ofDigitChars 10 ds 0

/-- The exponent. -/
def exponentPart : List Char → Option ℤ × List Char
  | c :: cs =>
    if c = 'e' ∨ c = 'E' then
      match someDigits (sign cs).2 with
      | some (ds, rest) => (some (signed (sign cs).1 ds), rest)
      | none => (none, c :: cs)
    else (none, c :: cs)
  | [] => (none, [])

/-- The magnitude of a literal. -/
def magnitude (whole fraction : List Char) (exponent : ℤ) : ℚ :=
  (Nat.ofDigitChars 10 (whole ++ fraction) 0 : ℚ) * 10 ^ (exponent - fraction.length)

/-- The numbers that are not read here: of another base, infinite, or none. -/
def otherNumber (body : List Char) : Bool :=
  ["0x", "0o", "0b", "inf", "nan"].any fun p => p.toList.isPrefixOf body

section Values

variable {F : Type} (float : Bool → ℚ → F)

/-- A number, and what follows it. -/
def number (cs : List Char) : Except Error (Value F × List Char) :=
  let negative := (sign cs).1
  let body := (sign cs).2
  if otherNumber body then .error .unsupported
  else match wholePart body with
    | none => .error .invalidValue
    | some (whole, rest) =>
      let (fraction, rest) := fractionPart rest
      let (exponent, rest) := exponentPart rest
      if fraction = none ∧ exponent = none then .ok (.integer (signed negative whole), rest)
      else .ok (.float (float negative (magnitude whole (fraction.getD []) (exponent.getD 0))), rest)

/-- A date, or a time of the day. -/
def isTime (cs : List Char) : Bool :=
  ((cs.take 4).length == 4 && (cs.take 4).all Char.isDigit && (cs.drop 4).head? == some '-') ||
  ((cs.take 2).length == 2 && (cs.take 2).all Char.isDigit && (cs.drop 2).head? == some ':')

/-- A value, and what follows it. -/
def value (cs : List Char) : Except Error (Value F × List Char) :=
  if cs.take 3 = [quote, quote, quote] then .error .unsupported
  else match cs with
    | 't' :: 'r' :: 'u' :: 'e' :: rest => .ok (.boolean true, rest)
    | 'f' :: 'a' :: 'l' :: 's' :: 'e' :: rest => .ok (.boolean false, rest)
    | c :: rest =>
      if c = quote then (basicString rest).map fun r => (.string r.1, r.2)
      else if c = apostrophe ∨ c = '[' ∨ c = '\x7b' then .error .unsupported
      else if isTime (c :: rest) then .error .unsupported
      else number float (c :: rest)
    | [] => .error .invalidValue

/-! ### Lines -/

/-- Nothing may follow but a comment. -/
def endOfLine (cs : List Char) : Except Error Unit :=
  match skipSpaces cs with
  | [] => .ok ()
  | '#' :: comment =>
    match comment.find? isControl with
    | none => .ok ()
    | some c => .error (.illegalCharacter c)
  | _ => .error .expectedNewline

/-- A bare key, and what follows it without the spaces. -/
def key (cs : List Char) : Except Error (List Char × List Char) :=
  let name := cs.takeWhile isBare
  let rest := skipSpaces (cs.dropWhile isBare)
  if cs.head? = some quote ∨ cs.head? = some apostrophe ∨ rest.head? = some '.' then
    .error .unsupported
  else if name = [] then .error .invalidKey
  else .ok (name, rest)

/-- The tables that have been read, the last first. -/
abbrev Tables (F : Type) := List (Table F)

/-- The header of a table, after its bracket. -/
def header (tables : Tables F) (cs : List Char) : Except Error (Tables F) := do
  let (name, rest) ← key (skipSpaces cs)
  match rest with
  | ']' :: rest => do
    if name ∈ tables.map Prod.fst then .error (.duplicateTable name)
    else do
      endOfLine rest
      return (name, []) :: tables
  | _ => .error .unclosedHeader

/-- A key with its value. -/
def keyValue (tables : Tables F) (cs : List Char) : Except Error (Tables F) := do
  let (name, rest) ← key cs
  match rest with
  | '=' :: rest => do
    let (value, rest) ← value float (skipSpaces rest)
    match tables with
    | [] => .error .unsupported
    | (table, fields) :: tables =>
      if name ∈ fields.map Prod.fst then .error (.duplicateKey name)
      else do
        endOfLine rest
        return (table, fields ++ [(name, value)]) :: tables
  | _ => .error .expectedEquals

/-- A line. -/
def line (tables : Tables F) (cs : List Char) : Except Error (Tables F) :=
  match skipSpaces cs with
  | '[' :: '[' :: _ => .error .unsupported
  | '[' :: rest => header tables rest
  | c :: rest =>
    if isBare c ∨ c = quote ∨ c = apostrophe then keyValue float tables (c :: rest)
    else do
      let _ ← if c = '#' then endOfLine (c :: rest) else .error .invalidStatement
      return tables
  | [] => .ok tables

/-- `\r\n` ends a line as `\n` does. -/
def newlines : List Char → List Char
  | '\r' :: '\n' :: cs => '\n' :: newlines cs
  | c :: cs => c :: newlines cs
  | [] => []

/-- The lines of a document, one after the other. -/
def lines (tables : Tables F) (ls : List (List Char)) : Except Error (Tables F) :=
  ls.foldlM (line float) tables

/-- Read a document. -/
def loads (text : List Char) : Except Error (List (Table F)) := do
  let tables ← lines float [] ((newlines text).splitOn '\n')
  return tables.reverse

end Values

end Toml
