import FormEngine.Cache.Recency
import FormEngine.State.Pair
/-!
# Stores

A store keeps encoded states under the keys that clients hold. Its size bounds the number of
dynamic states; the one used least recently makes room for a new one. A static state is kept
once for all dynamic states that belong to it, with their number, and goes when the last of
them goes.
-/

namespace FormEngine

/-- A static state with the number of the dynamic states that belong to it. -/
structure SharedState where
  encoded : String
  users : Nat
  deriving DecidableEq, Repr, Inhabited

/-- A dynamic state with the key of the static state that it belongs to. -/
structure OwnedState where
  owner : String
  encoded : String
  deriving DecidableEq, Repr, Inhabited

structure StateStore where
  /-- By static key. -/
  shared : List (String × SharedState) := []
  /-- By dynamic key. -/
  owned : RecencyTable OwnedState
  deriving Repr, Inhabited

namespace SharedState

/-- One more dynamic state belongs to the static state of a key. The text that was there first
stays. -/
def hold (key encoded : String) : List (String × SharedState) → List (String × SharedState)
  | [] => [(key, { encoded, users := 1 })]
  | (k, s) :: rest =>
    if k = key then (k, { s with users := s.users + 1 }) :: rest else (k, s) :: hold key encoded rest

/-- One dynamic state less belongs to the static state of a key, which goes with the last. -/
def release (key : String) : List (String × SharedState) → List (String × SharedState)
  | [] => []
  | (k, s) :: rest =>
    if k = key then
      if s.users - 1 = 0 then rest else (k, { s with users := s.users - 1 }) :: rest
    else (k, s) :: release key rest

end SharedState

namespace StateStore

/-- The number of dynamic states that a store keeps unless it is told otherwise. -/
def defaultSize : Nat := 1000

/-- The empty store of a size. -/
def ofSize (size : Nat) : StateStore := { owned := .ofSize size }

def capacity (s : StateStore) : Nat := s.owned.capacity

/-- The number of dynamic states. -/
def size (s : StateStore) : Nat := s.owned.size

/-- The number of static states. -/
def sharedSize (s : StateStore) : Nat := s.shared.length

/-- The states under a pair of keys. The dynamic state has to belong to the static one. -/
def find? (s : StateStore) (keys : StatePair) : Option StatePair := do
  let dynamic ← s.owned.find? keys.dynamicState
  if dynamic.owner = keys.staticState then
    let static ← s.shared.lookup keys.staticState
    return { staticState := static.encoded, dynamicState := dynamic.encoded }
  else none

/-- A search uses the dynamic state, also when the search ends with nothing. -/
def touch (s : StateStore) (keys : StatePair) : StateStore :=
  { s with owned := s.owned.touch keys.dynamicState }

/-- A pair of states is put under a pair of keys. The dynamic state that it displaces is
released after the new one is held, so that a static state which both belong to stays. -/
def add (s : StateStore) (keys states : StatePair) : StateStore :=
  let shared := SharedState.hold keys.staticState states.staticState s.shared
  let entry : OwnedState := { owner := keys.staticState, encoded := states.dynamicState }
  { shared :=
      match s.owned.displaced? keys.dynamicState with
      | none => shared
      | some (_, old) => SharedState.release old.owner shared
    owned := s.owned.push keys.dynamicState entry }

end StateStore

end FormEngine
