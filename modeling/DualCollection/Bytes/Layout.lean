import DualCollection.Bytes.Endian
import Mathlib.Data.List.Forall2

/-!
# Layouts of memory

Bytes are put into a memory by `poke` and taken out of it by `slice`.  A *layout* has the offsets of
scalars.  There are two that are computed: the one of a structure of C, in which a scalar is aligned
to its size (`naturalLayout`), and the one of a format of Python's `struct` that starts with `<`,
in which nothing is aligned (`packedLayout`).  `Format.parse` reads such a format.

Numbers are little-endian, and a double is its 64 bits.

* `Holds m base layout items`: the items are found at their offsets.
* `holds_pokeAll`: so they are after they have been put there.
* `Holds.readAll`: and then they are read back.
-/

namespace Bytes

/-! ### Memory -/

/-- The bytes from an offset on. -/
def slice (m : List UInt8) (offset n : ℕ) : List UInt8 := (m.drop offset).take n

/-- Put some bytes at an offset. -/
def poke (m : List UInt8) (offset : ℕ) (bs : List UInt8) : List UInt8 :=
  m.take offset ++ bs ++ m.drop (offset + bs.length)

section Memory

variable {m bs : List UInt8} {offset other n k : ℕ}

theorem length_poke (h : offset + bs.length ≤ m.length) : (poke m offset bs).length = m.length := by
  unfold poke
  simp only [List.length_append, List.length_take, List.length_drop]
  omega

theorem slice_poke (hn : bs.length = n) (h : offset ≤ m.length) :
    slice (poke m offset bs) offset n = bs := by
  subst hn
  have hlength : (m.take offset).length = offset := by
    rw [List.length_take]
    omega
  unfold slice poke
  rw [List.append_assoc, List.drop_left' hlength, List.take_left]

/-- What is elsewhere is not changed. -/
theorem slice_poke_of_disjoint (hroom : offset + bs.length ≤ m.length)
    (h : other + n ≤ offset ∨ offset + bs.length ≤ other) :
    slice (poke m offset bs) other n = slice m other n := by
  have hlength : (m.take offset).length = offset := by
    rw [List.length_take]
    omega
  unfold slice poke
  rcases h with h | h
  · -- before the bytes
    rw [List.append_assoc, List.drop_append_of_le_length (by omega),
      List.take_append_of_le_length (by rw [List.length_drop]; omega), List.drop_take, List.take_take]
    congr 1
    omega
  · -- after the bytes
    have hfront : (m.take offset ++ bs).length = offset + bs.length := by
      rw [List.length_append, hlength]
    rw [List.drop_append, List.drop_eq_nil_of_le (by omega), List.nil_append, hfront, List.drop_drop]
    congr 2
    omega

theorem take_slice (h : k ≤ n) : (slice m offset n).take k = slice m offset k := by
  unfold slice
  rw [List.take_take, min_eq_left h]

theorem drop_slice : (slice m offset n).drop k = slice m (offset + k) (n - k) := by
  unfold slice
  rw [List.drop_take, List.drop_drop]

end Memory

/-! ### Scalars -/

/-- The types of scalars. -/
inductive Scalar
  /-- Some characters. -/
  | chars (n : ℕ)
  | u32
  | u64
  | i64
  /-- A double. -/
  | f64
  deriving DecidableEq

namespace Scalar

/-- The number of bytes. -/
def size : Scalar → ℕ
  | chars n => n
  | u32 => 4
  | u64 | i64 | f64 => 8

/-- The natural alignment. -/
def align : Scalar → ℕ
  | chars _ => 1
  | u32 => 4
  | u64 | i64 | f64 => 8

end Scalar

/-- A scalar; a double is given by its bits. -/
inductive Item
  | chars (bs : List UInt8)
  | u32 (x : UInt32)
  | u64 (x : UInt64)
  | i64 (x : Int64)
  | f64 (bits : UInt64)
  deriving DecidableEq

namespace Item

/-- The type of a scalar. -/
def scalar : Item → Scalar
  | chars bs => .chars bs.length
  | u32 _ => .u32
  | u64 _ => .u64
  | i64 _ => .i64
  | f64 _ => .f64

/-- The bytes of a scalar in memory. -/
def memory : Item → List UInt8
  | chars bs => bs
  | u32 x => leBytes 4 x.toNat
  | u64 x => leBytes 8 x.toNat
  | i64 x => leBytes 8 x.toUInt64.toNat
  | f64 bits => leBytes 8 bits.toNat

@[simp] theorem length_memory (i : Item) : i.memory.length = i.scalar.size := by
  cases i with
  | chars bs => rfl
  | u32 x => exact length_leBytes 4 _
  | u64 x => exact length_leBytes 8 _
  | i64 x => exact length_leBytes 8 _
  | f64 bits => exact length_leBytes 8 _

end Item

/-- The scalar of some bytes. -/
def Scalar.read : Scalar → List UInt8 → Item
  | chars _, bs => .chars bs
  | u32, bs => .u32 (UInt32.ofNat (leNat bs))
  | u64, bs => .u64 (UInt64.ofNat (leNat bs))
  | i64, bs => .i64 (UInt64.ofNat (leNat bs)).toInt64
  | f64, bs => .f64 (UInt64.ofNat (leNat bs))

theorem ofNat_leNat_leBytes (x : UInt64) : UInt64.ofNat (leNat (leBytes 8 x.toNat)) = x := by
  have hlt : x.toNat < 256 ^ 8 := by
    have := x.toNat_lt
    omega
  rw [leNat_leBytes hlt, UInt64.ofNat_toNat]

/-- A scalar is read back from its bytes. -/
theorem Item.read_memory (i : Item) : i.scalar.read i.memory = i := by
  cases i with
  | chars bs => rfl
  | u32 x =>
    have hlt : x.toNat < 256 ^ 4 := by
      have := x.toNat_lt
      omega
    simp only [scalar, memory, Scalar.read, leNat_leBytes hlt, UInt32.ofNat_toNat]
  | u64 x => simp only [scalar, memory, Scalar.read, ofNat_leNat_leBytes]
  | i64 x => simp only [scalar, memory, Scalar.read, ofNat_leNat_leBytes, Int64.toInt64_toUInt64]
  | f64 bits => simp only [scalar, memory, Scalar.read, ofNat_leNat_leBytes]

/-! ### Layouts -/

/-- The offsets and the types of scalars. -/
abbrev Layout := List (ℕ × Scalar)

/-- The offset after the last scalar. -/
def Layout.extent (layout : Layout) : ℕ := (layout.map fun f => f.1 + f.2.size).foldr max 0

/-- The scalars follow one another. -/
def Layout.Sorted (layout : Layout) : Prop := layout.Pairwise fun f g => f.1 + f.2.size ≤ g.1

instance (layout : Layout) : Decidable layout.Sorted :=
  inferInstanceAs (Decidable (layout.Pairwise fun f g => f.1 + f.2.size ≤ g.1))

/-- The next multiple of an alignment. -/
def alignUp (offset align : ℕ) : ℕ := (offset + align - 1) / align * align

/-- The layout of the members of a structure from an offset on. -/
def naturalLayout : ℕ → List Scalar → Layout
  | _, [] => []
  | offset, t :: ts => (alignUp offset t.align, t) :: naturalLayout (alignUp offset t.align + t.size) ts

/-- The size of a structure: up to its last member, aligned as the member that is aligned most. -/
def structSize (members : List Scalar) : ℕ :=
  alignUp (naturalLayout 0 members).extent ((members.map Scalar.align).foldr max 1)

/-- What a format consists of. -/
inductive Code
  /-- `x` -/
  | pad (n : ℕ)
  | scalar (t : Scalar)
  deriving DecidableEq

/-- `calcsize` -/
def calcsize (codes : List Code) : ℕ :=
  (codes.map fun | .pad n => n | .scalar t => t.size).sum

/-- The layout of a format from an offset on. -/
def packedLayout : ℕ → List Code → Layout
  | _, [] => []
  | offset, .pad n :: codes => packedLayout (offset + n) codes
  | offset, .scalar t :: codes => (offset, t) :: packedLayout (offset + t.size) codes

namespace Format

/-- A code of a format, with the number before it. -/
def code (count : ℕ) : Char → Option (List Code)
  | 'x' => some [.pad count]
  | 's' => some [.scalar (.chars count)]
  | 'I' => some (List.replicate count (.scalar .u32))
  | 'Q' => some (List.replicate count (.scalar .u64))
  | 'q' => some (List.replicate count (.scalar .i64))
  | 'd' => some (List.replicate count (.scalar .f64))
  | _ => none

/-- The codes that follow, after the digits of a number. -/
def codes : Option ℕ → List Char → Option (List Code)
  | none, [] => some []
  | some _, [] => none
  | count, c :: cs =>
    if c.isDigit then codes (some (count.getD 0 * 10 + (c.toNat - '0'.toNat))) cs
    else do
      let front ← code (count.getD 1) c
      let back ← codes none cs
      return front ++ back

/-- A little-endian format, without the codes that are not used here. -/
def parse (format : String) : Option (List Code) :=
  match format.toList with
  | '<' :: cs => codes none cs
  | _ => none

end Format

/-! ### Reading and writing by a layout -/

/-- Put scalars at their offsets. -/
def pokeAll (m : List UInt8) (base : ℕ) : Layout → List Item → List UInt8
  | f :: layout, i :: items => pokeAll (poke m (base + f.1) i.memory) base layout items
  | _, _ => m

/-- The scalars at their offsets. -/
def readAll (m : List UInt8) (base : ℕ) (layout : Layout) : List Item :=
  layout.map fun f => f.2.read (slice m (base + f.1) f.2.size)

/-- The scalars are found at their offsets. -/
def Holds (m : List UInt8) (base : ℕ) (layout : Layout) (items : List Item) : Prop :=
  List.Forall₂ (fun f i => i.scalar = f.2 ∧ slice m (base + f.1) f.2.size = i.memory) layout items

/-- The scalars are those of a layout. -/
def Fits (layout : Layout) (items : List Item) : Prop := items.map Item.scalar = layout.map Prod.snd

section Reading

variable {m bs : List UInt8} {base offset : ℕ} {layout : Layout} {items : List Item} {f : ℕ × Scalar}
  {i : Item}

theorem Layout.extent_cons : Layout.extent (f :: layout) = max (f.1 + f.2.size) layout.extent := rfl

theorem Holds.readAll (h : Holds m base layout items) : readAll m base layout = items := by
  induction h with
  | nil => rfl
  | @cons f i layout items hi _ ih =>
    obtain ⟨hscalar, hslice⟩ := hi
    rw [Bytes.readAll, List.map_cons, hslice, ← hscalar, i.read_memory]
    exact congrArg (i :: ·) ih

/-- The scalars are found wherever the same bytes are. -/
theorem Holds.congr {m' : List UInt8} (h : Holds m base layout items)
    (heq : ∀ f ∈ layout, slice m' (base + f.1) f.2.size = slice m (base + f.1) f.2.size) :
    Holds m' base layout items := by
  unfold Holds at h ⊢
  induction h with
  | nil => exact .nil
  | @cons f i layout items hi _ ih =>
    refine .cons ⟨hi.1, ?_⟩ (ih fun g hg => heq g (List.mem_cons_of_mem f hg))
    rw [heq f List.mem_cons_self]
    exact hi.2

theorem Fits.head (h : Fits (f :: layout) (i :: items)) : i.scalar = f.2 := (List.cons.inj h).1

theorem Fits.tail (h : Fits (f :: layout) (i :: items)) : Fits layout items := (List.cons.inj h).2

theorem length_pokeAll (hroom : base + layout.extent ≤ m.length) (hfits : Fits layout items) :
    (pokeAll m base layout items).length = m.length := by
  induction layout generalizing m items with
  | nil => cases items <;> rfl
  | cons f layout ih =>
    cases items with
    | nil => rfl
    | cons i items =>
      rw [Layout.extent_cons] at hroom
      have hlength : (Bytes.poke m (base + f.1) i.memory).length = m.length := by
        apply length_poke
        rw [i.length_memory, hfits.head]
        omega
      rw [pokeAll, ih (by omega) hfits.tail, hlength]

/-- What is put elsewhere by a layout changes nothing. -/
theorem slice_pokeAll {other n : ℕ} (hroom : base + layout.extent ≤ m.length)
    (hfits : Fits layout items)
    (hd : ∀ g ∈ layout, other + n ≤ base + g.1 ∨ base + g.1 + g.2.size ≤ other) :
    slice (pokeAll m base layout items) other n = slice m other n := by
  induction layout generalizing m items with
  | nil => cases items <;> rfl
  | cons f layout ih =>
    cases items with
    | nil => rfl
    | cons i items =>
      rw [Layout.extent_cons] at hroom
      have hsize : i.memory.length = f.2.size := by rw [i.length_memory, hfits.head]
      have hf := hd f List.mem_cons_self
      have hlength : (Bytes.poke m (base + f.1) i.memory).length = m.length :=
        length_poke (by omega)
      rw [pokeAll, ih (by omega) hfits.tail fun g hg => hd g (List.mem_cons_of_mem f hg),
        slice_poke_of_disjoint (by omega) (by omega)]

/-- Scalars that have been put at their offsets are found there. -/
theorem holds_pokeAll (hsorted : layout.Sorted) (hroom : base + layout.extent ≤ m.length)
    (hfits : Fits layout items) : Holds (pokeAll m base layout items) base layout items := by
  induction layout generalizing m items with
  | nil =>
    cases items with
    | nil => exact .nil
    | cons i items => cases hfits
  | cons f layout ih =>
    cases items with
    | nil => cases hfits
    | cons i items =>
      obtain ⟨hfirst, hrest⟩ := List.pairwise_cons.1 hsorted
      rw [Layout.extent_cons] at hroom
      have hsize : i.memory.length = f.2.size := by rw [i.length_memory, hfits.head]
      have hlength : (Bytes.poke m (base + f.1) i.memory).length = m.length :=
        length_poke (by omega)
      refine .cons ⟨hfits.head, ?_⟩ (ih hrest (by omega) hfits.tail)
      -- the scalars that follow are put behind the first
      rw [pokeAll, slice_pokeAll (by omega) hfits.tail]
      · exact slice_poke hsize (by omega)
      · intro g hg
        have := hfirst g hg
        omega

end Reading

end Bytes
