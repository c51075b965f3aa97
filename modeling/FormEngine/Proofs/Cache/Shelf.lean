import FormEngine.Proofs.Cache.Documents
import Mathlib.Algebra.Order.Group.Multiset
import Mathlib.Tactic.Abel
/-!
# The document cache as a shelf

What a document cache promises is said by a shelf: a list of documents under fingerprints in the
order of storing, the oldest first. A document that is stored goes to the end, in place of the one
under its fingerprint, and a shelf that is full of others gives up the oldest of these; a document
that is taken leaves the shelf. The cache keeps its table the other way round and looks for the entry
that it displaces instead. After any run of calls it holds what the shelf holds, and it hands out what
the shelf has. So documents are conserved: those that were stored are the ones that were handed out,
those that were replaced, evicted or cleared away, and those that are held.
-/

namespace FormEngine

/-- Documents under fingerprints, the oldest first. -/
structure Shelf (D : Type) where
  capacity : Nat
  entries : List (String × D) := []
  deriving DecidableEq, Repr

namespace Shelf

variable {D : Type}

/-- The empty shelf of a size. -/
def ofSize (size : Nat) : Shelf D := { capacity := max size 1 }

/-- The document under a fingerprint. -/
def find? (s : Shelf D) (fingerprint : String) : Option D := s.entries.lookup fingerprint

/-- The entry under a fingerprint, which a new one replaces. -/
def replaced (s : Shelf D) (fingerprint : String) : List (String × D) :=
  s.entries.filter fun e => e.1 == fingerprint

/-- The entries under other fingerprints. -/
def others (s : Shelf D) (fingerprint : String) : List (String × D) :=
  s.entries.filter fun e => e.1 != fingerprint

/-- The number of entries that have to go for a new one: one where the shelf is full of others. -/
def excess (s : Shelf D) (fingerprint : String) : Nat :=
  if (s.others fingerprint).length = s.capacity then 1 else 0

/-- The oldest of the other entries, where they fill the shelf. -/
def evicted (s : Shelf D) (fingerprint : String) : List (String × D) :=
  (s.others fingerprint).take (s.excess fingerprint)

/-- A document is put last. -/
def store (s : Shelf D) (fingerprint : String) (document : D) : Shelf D :=
  { s with
    entries := (s.others fingerprint).drop (s.excess fingerprint) ++ [(fingerprint, document)] }

/-- The shelf without the entry under a fingerprint. -/
def remove (s : Shelf D) (fingerprint : String) : Shelf D :=
  { s with entries := s.others fingerprint }

/-- The shelf without any entry. -/
def clear (s : Shelf D) : Shelf D := { s with entries := [] }

/-- The shelf after a call, where `key` gives the fingerprints of pairs. -/
def apply (key : StatePair → String) (s : Shelf D) : DocumentCall D → Shelf D
  | .store pair document => s.store (key pair) document
  | .take pair => s.remove (key pair)
  | .clear => s.clear

/-- The entry that a call brings. -/
def stored (key : StatePair → String) : DocumentCall D → List (String × D)
  | .store pair document => [(key pair, document)]
  | .take _ => []
  | .clear => []

/-- The entries that a call loses: what it replaces under its own fingerprint, what it evicts, and
what it clears away. -/
def lost (key : StatePair → String) (s : Shelf D) : DocumentCall D → List (String × D)
  | .store pair _ => s.replaced (key pair) ++ s.evicted (key pair)
  | .take _ => []
  | .clear => s.entries

/-- The entries that a run of calls loses. -/
def lostAlong (key : StatePair → String) (s : Shelf D) : List (DocumentCall D) → List (String × D)
  | [] => []
  | call :: calls => s.lost key call ++ lostAlong key (s.apply key call) calls

/-- The shelf after a run of calls on an empty one. -/
def after (key : StatePair → String) (size : Nat) (calls : List (DocumentCall D)) : Shelf D :=
  calls.foldl (apply key) (.ofSize size)

/-- Calls do not change how much a shelf can hold. -/
theorem capacity_run (key : StatePair → String) (s : Shelf D) (calls : List (DocumentCall D)) :
    (calls.foldl (apply key) s).capacity = s.capacity := by
  induction calls generalizing s with
  | nil => rfl
  | cons call calls ih =>
    have hstep : (s.apply key call).capacity = s.capacity := by cases call <;> rfl
    exact (ih (s.apply key call)).trans hstep

end Shelf

/-! ## Reading a cache as a shelf -/

namespace DocumentCache

variable {D : Type}

/-- The entry that a call hands out. -/
def handed (c : DocumentCache D) : DocumentCall D → List (String × D)
  | .store _ _ => []
  | .take pair => ((c.take pair).1.map fun document => (c.key pair, document)).toList
  | .clear => []

/-- The entries that a run of calls hands out. -/
def handedAlong (c : DocumentCache D) : List (DocumentCall D) → List (String × D)
  | [] => []
  | call :: calls => c.handed call ++ handedAlong (c.apply call) calls

/-- The table of the cache is that of the shelf, the other way round. -/
structure Reads (c : DocumentCache D) (s : Shelf D) : Prop where
  capacity : c.table.capacity = s.capacity
  entries : c.table.entries = s.entries.reverse
  sound : c.table.Sound

theorem reads_ofSize (digest : String → String) (name : String) (size : Nat) (staticOnly : Bool) :
    (ofSize digest name size staticOnly : DocumentCache D).Reads (.ofSize size) where
  capacity := rfl
  entries := rfl
  sound := RecencyTable.sound_ofSize size

variable {c : DocumentCache D} {s : Shelf D}

theorem Reads.others (h : c.Reads s) (fingerprint : String) :
    c.table.others fingerprint = (s.others fingerprint).reverse := by
  unfold RecencyTable.others Shelf.others
  rw [h.entries, List.filter_reverse]

/-- What a push keeps is what the shelf keeps: where others fill the shelf, the oldest of them is the
last one of the table. -/
theorem Reads.kept (h : c.Reads s) (fingerprint : String) :
    c.table.kept fingerprint = ((s.others fingerprint).drop (s.excess fingerprint)).reverse := by
  have hlength : (s.others fingerprint).length ≤ s.capacity := by
    have hle := Nat.le_trans (c.table.size_others_le fingerprint) h.sound.size_le
    rw [h.others, List.length_reverse, h.capacity] at hle
    exact hle
  have hpos := h.sound.capacity_pos
  rw [h.capacity] at hpos
  have hexcess : (s.others fingerprint).length - (s.capacity - 1) = s.excess fingerprint := by
    unfold Shelf.excess
    split <;> omega
  unfold RecencyTable.kept
  rw [h.others, h.capacity, List.take_reverse, hexcess]

/-- One entry under a fingerprint is found from either end. -/
theorem Reads.find? (h : c.Reads s) (fingerprint : String) :
    c.table.find? fingerprint = s.find? fingerprint := by
  have hsound : ({ capacity := s.capacity, entries := s.entries } : RecencyTable D).Sound := by
    have hnodup := h.sound.nodup
    have hle := h.sound.size_le
    have hpos := h.sound.capacity_pos
    rw [h.entries, List.map_reverse, List.nodup_reverse] at hnodup
    rw [h.capacity] at hle hpos
    unfold RecencyTable.size at hle
    rw [h.entries, List.length_reverse] at hle
    exact ⟨hnodup, hle, hpos⟩
  refine Option.ext fun document => ?_
  rw [h.sound.find?_eq_some_iff, h.entries, List.mem_reverse]
  exact hsound.find?_eq_some_iff.symm

theorem Reads.length_le (h : c.Reads s) : s.entries.length ≤ s.capacity := by
  have hle := h.sound.size_le
  unfold RecencyTable.size at hle
  rw [h.entries, List.length_reverse, h.capacity] at hle
  exact hle

/-- **One call on a cache is one call on its shelf.** -/
theorem Reads.apply (h : c.Reads s) (call : DocumentCall D) :
    (c.apply call).Reads (s.apply c.key call) := by
  cases call with
  | store pair document =>
    refine ⟨h.capacity, ?_, h.sound.push _ _⟩
    show (c.table.push (c.key pair) document).entries = (s.store (c.key pair) document).entries.reverse
    rw [h.sound.entries_push, h.kept]
    simp [Shelf.store]
  | take pair => exact ⟨h.capacity, h.others _, h.sound.erase _⟩
  | clear => exact ⟨h.capacity, rfl, h.sound.clear⟩

/-- **A run of calls on a cache is a run on its shelf.** -/
theorem Reads.run (h : c.Reads s) (calls : List (DocumentCall D)) :
    (calls.foldl DocumentCache.apply c).Reads (calls.foldl (Shelf.apply c.key) s) := by
  induction calls generalizing c s with
  | nil => exact h
  | cons call calls ih =>
    have hrest := ih (h.apply call)
    rw [key_apply] at hrest
    exact hrest

/-! ## Conservation -/

/-- **One call loses no document but those that it names**: what was held and what comes in is what is
handed out, what is lost and what is held then. -/
theorem Reads.conserve (h : c.Reads s) (call : DocumentCall D) :
    (s.entries ++ Shelf.stored c.key call).Perm
      (c.handed call ++ s.lost c.key call ++ (s.apply c.key call).entries) := by
  cases call with
  | store pair document =>
    have hsplit : s.entries.Perm (s.replaced (c.key pair) ++ s.others (c.key pair)) :=
      (List.filter_append_perm _ _).symm
    have hothers : s.others (c.key pair) =
        s.evicted (c.key pair) ++ (s.others (c.key pair)).drop (s.excess (c.key pair)) :=
      (List.take_append_drop _ _).symm
    rw [hothers] at hsplit
    have hgoal := hsplit.append_right [(c.key pair, document)]
    simpa [handed, Shelf.lost, Shelf.stored, Shelf.apply, Shelf.store] using hgoal
  | take pair =>
    have hfound := h.sound.perm_found_others (c.key pair)
    rw [h.entries, h.others] at hfound
    have hheld := (List.reverse_perm s.entries).symm.trans
      (hfound.trans ((List.reverse_perm _).append_left _))
    simpa [handed, take, DocumentCache.find?, Shelf.lost, Shelf.stored, Shelf.apply, Shelf.remove]
      using hheld
  | clear => simp [handed, Shelf.lost, Shelf.stored, Shelf.apply, Shelf.clear]

/-- **Documents are conserved along a run of calls.** -/
theorem Reads.conserve_run (h : c.Reads s) (calls : List (DocumentCall D)) :
    (s.entries ++ calls.flatMap (Shelf.stored c.key)).Perm
      (c.handedAlong calls ++ s.lostAlong c.key calls ++
        (calls.foldl (Shelf.apply c.key) s).entries) := by
  induction calls generalizing c s with
  | nil => simp [handedAlong, Shelf.lostAlong]
  | cons call calls ih =>
    have hfirst := h.conserve call
    have hrest := ih (h.apply call)
    rw [key_apply] at hrest
    -- as bags the two lists of each kind add up
    rw [← Multiset.coe_eq_coe] at hfirst hrest ⊢
    simp only [handedAlong, Shelf.lostAlong, List.flatMap_cons, List.foldl_cons,
      ← Multiset.coe_add] at hfirst hrest ⊢
    rw [← add_assoc, hfirst, add_assoc _ _ (Multiset.ofList _), hrest]
    abel

/-- **A document cache behaves as a shelf**, for every size and every run of calls: it holds the
entries of the shelf, the other way round, which are no more than the size and one at least; it finds
what the shelf has under a fingerprint; and the documents that were stored are those that were handed
out, those that were replaced under their own fingerprint, evicted or cleared away, and those that are
held. -/
theorem behaves_as_shelf (digest : String → String) (name : String) (size : Nat) (staticOnly : Bool)
    (calls : List (DocumentCall D)) :
    let empty : DocumentCache D := ofSize digest name size staticOnly
    let cache := after digest name size staticOnly calls
    let shelf := Shelf.after empty.key size calls
    cache.table.entries = shelf.entries.reverse ∧
      shelf.entries.length ≤ max size 1 ∧
      (∀ pair, (cache.take pair).1 = shelf.find? (empty.key pair)) ∧
      (calls.flatMap (Shelf.stored empty.key)).Perm
        (empty.handedAlong calls ++ (Shelf.ofSize size).lostAlong empty.key calls ++
          shelf.entries) := by
  intro empty cache shelf
  have hempty : empty.Reads (.ofSize size) := reads_ofSize digest name size staticOnly
  have hreads : cache.Reads shelf := hempty.run calls
  refine ⟨hreads.entries, ?_, fun pair => ?_, hempty.conserve_run calls⟩
  · exact Nat.le_trans hreads.length_le (Nat.le_of_eq (Shelf.capacity_run _ _ calls))
  · have hkey : cache.key = empty.key := key_after digest name size staticOnly calls
    rw [← hkey]
    exact hreads.find? (cache.key pair)

/-- In a cache for one document the second that is stored evicts the first, is taken, is stored again
and replaced. -/
def busyCalls : List (DocumentCall String) :=
  [.store ⟨"s", "1"⟩ "first", .store ⟨"s", "2"⟩ "second", .take ⟨"s", "2"⟩, .take ⟨"s", "2"⟩,
    .store ⟨"s", "2"⟩ "second", .store ⟨"s", "2"⟩ "third"]

example :
    let empty : DocumentCache String := ofSize (fun text => text) "documents" 0 false
    empty.handedAlong busyCalls = [("s|2", "second")] ∧
      (Shelf.ofSize 0).lostAlong empty.key busyCalls = [("s|1", "first"), ("s|2", "second")] ∧
      (Shelf.after empty.key 0 busyCalls).entries = [("s|2", "third")] := by decide

end DocumentCache

end FormEngine
