/-!
# Tables in order of use

A table of bounded size. Its entries stand in order of use, most recent first, so the entry
that makes room for a new one is the last. Looking an entry up is not a use of it; `touch` is.
A table holds at least one entry: the capacity of size zero is one.
-/

namespace FormEngine

structure RecencyTable (α : Type) where
  capacity : Nat
  /-- Most recent first. -/
  entries : List (String × α) := []
  deriving Repr, Inhabited

namespace RecencyTable

variable {α : Type}

/-- The empty table of a size. -/
def ofSize (size : Nat) : RecencyTable α := { capacity := max size 1 }

def size (t : RecencyTable α) : Nat := t.entries.length

/-- The value under a key. -/
def find? (t : RecencyTable α) (key : String) : Option α := t.entries.lookup key

def contains (t : RecencyTable α) (key : String) : Bool := (t.find? key).isSome

/-- The entries under other keys. -/
def others (t : RecencyTable α) (key : String) : List (String × α) :=
  t.entries.filter fun e => e.1 != key

/-- The entry of a key becomes the most recent one. -/
def touch (t : RecencyTable α) (key : String) : RecencyTable α :=
  match t.find? key with
  | none => t
  | some value => { t with entries := (key, value) :: t.others key }

/-- The table without the entry of a key. -/
def erase (t : RecencyTable α) (key : String) : RecencyTable α :=
  { t with entries := t.others key }

/-- The entry that a new one under `key` takes the place of: the one with the same key, or the
least recent one of a full table. -/
def displaced? (t : RecencyTable α) (key : String) : Option (String × α) :=
  match t.find? key with
  | some value => some (key, value)
  | none => if t.size < t.capacity then none else t.entries.getLast?

/-- A value is put under a key as the most recent entry, in place of the displaced one. -/
def push (t : RecencyTable α) (key : String) (value : α) : RecencyTable α :=
  let kept :=
    if t.contains key then t.others key
    else if t.size < t.capacity then t.entries
    else t.entries.dropLast
  { t with entries := (key, value) :: kept }

/-- The table without any entry. -/
def clear (t : RecencyTable α) : RecencyTable α := { t with entries := [] }

/-! ## The bound -/

theorem size_others_le (t : RecencyTable α) (key : String) : (t.others key).length ≤ t.size :=
  List.length_filter_le _ _

/-- A table within its bound stays within it. -/
theorem size_push_le {t : RecencyTable α} (h : t.size ≤ t.capacity) (hpos : 0 < t.capacity)
    (key : String) (value : α) : (t.push key value).size ≤ t.capacity := by
  unfold push
  split
  · rename_i hc
    obtain ⟨v, hv⟩ := Option.isSome_iff_exists.1 hc
    have hlt : (t.others key).length < t.size := by
      refine List.length_filter_lt_length_iff_exists.2 ?_
      obtain ⟨l, hl⟩ : ∃ e ∈ t.entries, e.1 = key := by
        have := List.lookup_eq_some_iff.1 hv
        obtain ⟨l₁, l₂, he, _⟩ := this
        exact ⟨(key, v), by simp [he], rfl⟩
      exact ⟨l, hl.1, by simp [hl.2]⟩
    simp only [size, List.length_cons] at *
    omega
  · split <;> simp only [size, List.length_cons, List.length_dropLast] at * <;> omega

end RecencyTable

end FormEngine
