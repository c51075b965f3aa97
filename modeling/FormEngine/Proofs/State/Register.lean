import FormEngine.Proofs.Cache.Recency
import FormEngine.Proofs.State.Tally
import Mathlib.Data.List.Dedup
/-!
# The store as a register

What a store promises is said by a register: a list of dynamic states, most recent first and no
longer than its capacity, each with the static key that owns it; and for each static key one text,
taken when the key is first held and kept as long as some entry is owned by it. The register keeps
no counts. A store has a table of them instead of looking for owners. It implements the register:
after any run of calls it holds the same entries in the same order, its counts are the numbers of
entries owned, and it finds exactly what the register holds.
-/

namespace FormEngine

/-- An entry of a register: a dynamic state under its key, with the static key that owns it. -/
structure Holding where
  key : String
  owner : String
  text : String
  deriving DecidableEq, Repr

/-- The dynamic states that are held, most recent first, with the text of each static key. The text
of a key that owns nothing says nothing. -/
structure Register where
  capacity : Nat
  held : List Holding := []
  text : String → String := fun _ => ""

namespace Register

/-- The empty register of a size. -/
def ofSize (size : Nat) : Register := { capacity := max size 1 }

/-- The number of entries that a static key owns. -/
def users (r : Register) (key : String) : Nat := r.held.countP fun h => h.owner == key

/-- The entries under other keys. -/
def others (r : Register) (key : String) : List Holding := r.held.filter fun h => h.key != key

/-- The entry of a dynamic key goes to the front. -/
def touch (r : Register) (key : String) : Register :=
  { r with held := r.held.filter (fun h => h.key == key) ++ r.others key }

/-- An entry is put in front, and of the others those stay that there is room for beside it: with
the entry of the same key gone there is room for all, and otherwise the least recent one of a full
register goes. A static key that owned nothing takes the text of the call. -/
def add (r : Register) (keys states : StatePair) : Register :=
  { r with
    held := { key := keys.dynamicState, owner := keys.staticState, text := states.dynamicState } ::
      (r.others keys.dynamicState).take (r.capacity - 1)
    text := fun key =>
      if key = keys.staticState ∧ r.users key = 0 then states.staticState else r.text key }

/-- The register answers a pair of keys with a pair of states: the static key owns the entry of the
dynamic key, and the states are its text and the text of the entry. -/
def Answers (r : Register) (keys states : StatePair) : Prop :=
  ∃ h ∈ r.held, h.key = keys.dynamicState ∧ h.owner = keys.staticState ∧
    states = { staticState := r.text keys.staticState, dynamicState := h.text }

end Register

/-- A call on a store. -/
inductive StoreCall where
  | add (keys states : StatePair)
  | find (keys : StatePair)

/-- The register after a call. -/
def Register.apply (r : Register) : StoreCall → Register
  | .add keys states => r.add keys states
  | .find keys => r.touch keys.dynamicState

/-- The register after a run of calls on an empty one. -/
def Register.after (size : Nat) (calls : List StoreCall) : Register :=
  calls.foldl Register.apply (.ofSize size)

/-- Calls do not change how much a register can hold. -/
theorem Register.capacity_run (r : Register) (calls : List StoreCall) :
    (calls.foldl Register.apply r).capacity = r.capacity := by
  induction calls generalizing r with
  | nil => rfl
  | cons call calls ih =>
    have hstep : (r.apply call).capacity = r.capacity := by cases call <;> rfl
    exact (ih (r.apply call)).trans hstep

/-! ## What is held after a call -/

namespace Register

/-- What is held after an addition is the new entry or was held before. -/
theorem mem_held_add {r : Register} {keys states : StatePair} {h : Holding}
    (hmem : h ∈ (r.add keys states).held) :
    h = { key := keys.dynamicState, owner := keys.staticState, text := states.dynamicState } ∨
      h ∈ r.held := by
  rcases List.mem_cons.1 hmem with hnew | hkept
  · exact .inl hnew
  · exact .inr (List.mem_filter.1 (List.mem_of_mem_take hkept)).1

/-- A static key that owns something keeps its text. -/
theorem text_add_of_mem {r : Register} {h : Holding} (hmem : h ∈ r.held) (keys states : StatePair) :
    (r.add keys states).text h.owner = r.text h.owner := by
  have hpos : 0 < r.users h.owner := List.countP_pos_iff.2 ⟨h, hmem, beq_self_eq_true _⟩
  show (if h.owner = keys.staticState ∧ r.users h.owner = 0 then _ else _) = _
  rw [if_neg (by omega)]

/-- A static key that is added takes the text of the call, or has one from an entry that it owned
before. -/
theorem text_add_self (r : Register) (keys states : StatePair) :
    (r.add keys states).text keys.staticState = states.staticState ∨
      ∃ h ∈ r.held, h.owner = keys.staticState := by
  by_cases hzero : r.users keys.staticState = 0
  · refine .inl ?_
    show (if _ then _ else _) = _
    rw [if_pos ⟨rfl, hzero⟩]
  · obtain ⟨h, hmem, howner⟩ := List.countP_pos_iff.1 (Nat.pos_of_ne_zero hzero)
    exact .inr ⟨h, hmem, beq_iff_eq.1 howner⟩

theorem mem_held_touch {r : Register} {key : String} {h : Holding}
    (hmem : h ∈ (r.touch key).held) : h ∈ r.held := by
  rcases List.mem_append.1 hmem with hmem | hmem
  · exact (List.mem_filter.1 hmem).1
  · exact (List.mem_filter.1 hmem).1

end Register

/-! ## Implementing a register -/

/-- The row of an entry in the table of a store. -/
def Holding.row (h : Holding) : String × OwnedState :=
  (h.key, { owner := h.owner, encoded := h.text })

namespace StateStore

/-- The store after a call. -/
def apply (s : StateStore) : StoreCall → StateStore
  | .add keys states => s.add keys states
  | .find keys => s.touch keys

/-- The store after a run of calls on an empty one. -/
def after (size : Nat) (calls : List StoreCall) : StateStore :=
  calls.foldl apply (.ofSize size)

/-- The store has the entries of the register in their order, and a row of shared states for each
key that owns some of them, with their number and the text of the key. -/
structure Implements (s : StateStore) (r : Register) : Prop where
  capacity : s.owned.capacity = r.capacity
  entries : s.owned.entries = r.held.map Holding.row
  sound : s.owned.Sound
  tallies : SharedState.Tallies s.shared r.users r.text

theorem implements_ofSize (size : Nat) : Implements (.ofSize size) (.ofSize size) where
  capacity := rfl
  entries := rfl
  sound := RecencyTable.sound_ofSize size
  tallies := SharedState.tallies_nil _

variable {s : StateStore} {r : Register}

theorem Implements.others (h : s.Implements r) (key : String) :
    s.owned.others key = (r.others key).map Holding.row := by
  unfold RecencyTable.others Register.others
  rw [h.entries, List.filter_map]
  rfl

theorem Implements.kept (h : s.Implements r) (key : String) :
    s.owned.kept key = ((r.others key).take (r.capacity - 1)).map Holding.row := by
  unfold RecencyTable.kept
  rw [h.others, h.capacity, List.map_take]

/-- The entries of a table that belong to a static key. -/
def ownedBy (key : String) (entries : List (String × OwnedState)) : Nat :=
  entries.countP fun e => e.2.owner == key

theorem ownedBy_map_row (key : String) (held : List Holding) :
    ownedBy key (held.map Holding.row) = held.countP fun h => h.owner == key := by
  unfold ownedBy
  rw [List.countP_map]
  rfl

theorem Implements.ownedBy_eq (h : s.Implements r) (key : String) :
    ownedBy key s.owned.entries = r.users key := by
  rw [h.entries, ownedBy_map_row]
  rfl

/-- A search moves the entry of its dynamic key in both. -/
theorem Implements.touch (h : s.Implements r) (keys : StatePair) :
    (s.touch keys).Implements (r.touch keys.dynamicState) := by
  have hentries : (s.touch keys).owned.entries =
      (r.touch keys.dynamicState).held.map Holding.row := by
    show (s.owned.touch keys.dynamicState).entries = _
    rw [h.sound.entries_touch, h.others, h.entries, List.filter_map]
    simp only [Register.touch, List.map_append]
    rfl
  have husers : (r.touch keys.dynamicState).users = r.users := by
    funext key
    exact (List.filter_append_perm (fun g => g.key == keys.dynamicState) r.held).countP_eq _
  refine ⟨?_, hentries, h.sound.touch _, ?_⟩
  · exact (RecencyTable.capacity_touch _ _).trans h.capacity
  · rw [husers]
    exact h.tallies

/-- Of the entries before an addition, those of a key are the displaced one, if it is of the key,
and those that the register keeps. -/
theorem Implements.users_eq (h : s.Implements r) (dynamicKey key : String) :
    r.users key = ownedBy key (s.owned.displaced? dynamicKey).toList +
      ((r.others dynamicKey).take (r.capacity - 1)).countP fun g => g.owner == key := by
  rw [← h.ownedBy_eq, ← ownedBy_map_row, ← h.kept]
  unfold ownedBy
  rw [(h.sound.perm_displaced?_kept dynamicKey).countP_eq, List.countP_append]

/-- The owner of the displaced entry has users. -/
theorem Implements.users_displaced?_pos (h : s.Implements r) {dynamicKey : String}
    {old : String × OwnedState} (hold : s.owned.displaced? dynamicKey = some old) :
    0 < r.users old.2.owner := by
  have hone : ownedBy old.2.owner (some old).toList = 1 := by simp [ownedBy]
  rw [h.users_eq dynamicKey, hold, hone]
  omega

/-- An entry that is put in front gives its owner one user more, and the displaced entry takes one
from its own. -/
theorem Implements.users_add (h : s.Implements r) (keys states : StatePair) (key : String) :
    (r.add keys states).users key =
      r.users key + (if key = keys.staticState then 1 else 0) -
        ownedBy key (s.owned.displaced? keys.dynamicState).toList := by
  rw [h.users_eq keys.dynamicState key]
  unfold Register.users Register.add
  rw [List.countP_cons]
  by_cases hkey : key = keys.staticState
  · simp only [hkey, beq_self_eq_true, if_true]
    omega
  · have hne : (keys.staticState == key) = false := by simpa using Ne.symm hkey
    simp only [hne, hkey, Bool.false_eq_true, if_false]
    omega

/-- The table after the new entry is held and before the displaced one is released. -/
theorem Implements.hold (h : s.Implements r) (keys states : StatePair) :
    SharedState.Tallies (SharedState.hold keys.staticState states.staticState s.shared)
      (fun key => r.users key + if key = keys.staticState then 1 else 0)
      (r.add keys states).text :=
  h.tallies.hold keys.staticState states.staticState

/-- An addition puts the same entry in front of both, and the counts follow. -/
theorem Implements.add (h : s.Implements r) (keys states : StatePair) :
    (s.add keys states).Implements (r.add keys states) := by
  refine ⟨h.capacity, ?_, h.sound.push _ _, ?_⟩
  · show (s.owned.push keys.dynamicState _).entries = _
    rw [h.sound.entries_push, h.kept]
    rfl
  · have hhold := h.hold keys states
    have husers := fun key => h.users_add keys states key
    unfold StateStore.add
    -- whether anything is released depends on whether anything is displaced
    cases hdisplaced : s.owned.displaced? keys.dynamicState with
    | none =>
      have heq : (r.add keys states).users =
          fun key => r.users key + if key = keys.staticState then 1 else 0 := by
        funext key
        rw [husers, hdisplaced]
        rfl
      rw [heq]
      exact hhold
    | some old =>
      have heq : (r.add keys states).users = fun key =>
          (r.users key + if key = keys.staticState then 1 else 0) -
            if key = old.2.owner then 1 else 0 := by
        funext key
        rw [husers, hdisplaced]
        by_cases hkey : key = old.2.owner
        · simp [ownedBy, hkey]
        · simp [ownedBy, hkey, Ne.symm hkey]
      have hpos := h.users_displaced?_pos hdisplaced
      rw [heq]
      exact hhold.release (by omega)

/-- **One call on a store is one call on its register.** -/
theorem Implements.apply (h : s.Implements r) (call : StoreCall) :
    (s.apply call).Implements (r.apply call) := by
  cases call with
  | add keys states => exact h.add keys states
  | find keys => exact h.touch keys

/-- **A run of calls on a store is a run on its register.** -/
theorem Implements.run (h : s.Implements r) (calls : List StoreCall) :
    (calls.foldl StateStore.apply s).Implements (calls.foldl Register.apply r) := by
  induction calls generalizing s r with
  | nil => exact h
  | cons call calls ih => exact ih (h.apply call)

/-! ## What is found -/

/-- A store finds what its register answers. -/
theorem Implements.find?_eq_some_iff (h : s.Implements r) {keys states : StatePair} :
    s.find? keys = some states ↔ r.Answers keys states := by
  have hmem : ∀ o : OwnedState, s.owned.find? keys.dynamicState = some o ↔
      ∃ g ∈ r.held, g.row = (keys.dynamicState, o) := by
    intro o
    rw [h.sound.find?_eq_some_iff, h.entries, List.mem_map]
  unfold find? Register.Answers
  constructor
  · intro hfind
    rw [Option.bind_eq_bind, Option.bind_eq_some_iff] at hfind
    obtain ⟨o, ho, hfind⟩ := hfind
    obtain ⟨g, hg, hrow⟩ := (hmem o).1 ho
    obtain ⟨hkey, rfl⟩ := Prod.mk.inj hrow
    split at hfind
    · rename_i howner
      rw [Option.bind_eq_bind, Option.bind_eq_some_iff] at hfind
      obtain ⟨shared, hshared, hstates⟩ := hfind
      rw [h.tallies.lookup] at hshared
      split at hshared
      · contradiction
      · obtain rfl := Option.some.inj hshared
        exact ⟨g, hg, hkey, howner, (Option.some.inj hstates).symm⟩
    · contradiction
  · rintro ⟨g, hg, hkey, howner, rfl⟩
    have hfound := (hmem _).2 ⟨g, hg, congrArg (·, g.row.2) hkey⟩
    -- the entry found is one of those that the static key owns
    have hpos : r.users keys.staticState ≠ 0 := by
      have hcount : 0 < r.users keys.staticState :=
        List.countP_pos_iff.2 ⟨g, hg, beq_iff_eq.2 howner⟩
      omega
    rw [hfound]
    simp [Holding.row, howner, h.tallies.lookup, hpos]

/-- The rows of the shared states are as many as the owners. -/
theorem Implements.sharedSize_eq (h : s.Implements r) :
    s.sharedSize = (r.held.map Holding.owner).dedup.length := by
  have hperm : (s.shared.map Prod.fst).Perm (r.held.map Holding.owner).dedup := by
    rw [List.perm_ext_iff_of_nodup h.tallies.nodup (List.nodup_dedup _)]
    intro key
    rw [h.tallies.mem_keys_iff, List.mem_dedup, List.mem_map]
    unfold Register.users
    rw [List.countP_pos_iff]
    simp only [beq_iff_eq]
  rw [← hperm.length_eq, List.length_map]
  rfl

/-- **The store behaves as a register**, for every size and every run of calls. It holds the entries
of the register in their order, which are no more than the size and one at least; it finds a pair of
keys exactly if the register has the dynamic key under that owner, and then gives the two texts of
the register; it has a row for each owner, as many as there are, which counts the entries that the
owner has and keeps its text; and whenever a further addition displaces an entry, the row of its
owner has a user to be taken off. -/
theorem behaves_as_register (size : Nat) (calls : List StoreCall) :
    (after size calls).owned.entries = (Register.after size calls).held.map Holding.row ∧
    (Register.after size calls).held.length ≤ max size 1 ∧
    (∀ keys states, (after size calls).find? keys = some states ↔
      (Register.after size calls).Answers keys states) ∧
    (∀ key, (after size calls).shared.lookup key =
      if (Register.after size calls).users key = 0 then none
      else some { encoded := (Register.after size calls).text key
                  users := (Register.after size calls).users key }) ∧
    (after size calls).sharedSize = ((Register.after size calls).held.map Holding.owner).dedup.length ∧
    ∀ keys states : StatePair, ∀ old ∈ (after size calls).owned.displaced? keys.dynamicState,
      ∃ row, (SharedState.hold keys.staticState states.staticState
        (after size calls).shared).lookup old.2.owner = some row ∧ 0 < row.users := by
  have h : (after size calls).Implements (.after size calls) := (implements_ofSize size).run calls
  refine ⟨h.entries, ?_, fun keys states => h.find?_eq_some_iff, h.tallies.lookup, h.sharedSize_eq,
    fun keys states old hold => ?_⟩
  · have hle := h.sound.size_le
    unfold RecencyTable.size at hle
    rw [h.entries, List.length_map, h.capacity] at hle
    exact Nat.le_trans hle (Nat.le_of_eq ((Register.ofSize size).capacity_run calls))
  · have hpos := h.users_displaced?_pos hold
    exact (h.hold keys states).exists_row (by omega)

/-- In a store for one entry, the second of two dynamic states of one static state takes the place of
the first. -/
def sameOwner : List StoreCall :=
  [.add { staticState := "s", dynamicState := "d1" } { staticState := "first", dynamicState := "1" },
    .add { staticState := "s", dynamicState := "d2" } { staticState := "second", dynamicState := "2" }]

/-- After `sameOwner` the static state was never without an entry, so it still has its first text;
and a third addition takes the one entry off its row. -/
theorem behaves_as_register_sameOwner :
    (after 0 sameOwner).find? { staticState := "s", dynamicState := "d2" } =
        some { staticState := "first", dynamicState := "2" } ∧
      (after 0 sameOwner).sharedSize = 1 ∧
      (after 0 sameOwner).owned.displaced? "d3" = some ("d2", { owner := "s", encoded := "2" }) ∧
      ∃ row, (SharedState.hold "s" "third" (after 0 sameOwner).shared).lookup "s" = some row ∧
        0 < row.users := by
  obtain ⟨-, -, hfind, -, hsize, hrow⟩ := behaves_as_register 0 sameOwner
  have hdisplaced : (after 0 sameOwner).owned.displaced? "d3" =
      some ("d2", { owner := "s", encoded := "2" }) := by decide
  refine ⟨(hfind _ _).2 ?_, hsize, hdisplaced, ?_⟩
  · exact ⟨{ key := "d2", owner := "s", text := "2" }, by decide, rfl, rfl, by decide⟩
  · exact hrow { staticState := "s", dynamicState := "d3" }
      { staticState := "third", dynamicState := "3" } _ hdisplaced

end StateStore

end FormEngine
