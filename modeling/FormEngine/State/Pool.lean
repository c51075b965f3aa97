import FormEngine.StaticState.Basic
/-!
# Static states in use

A static state is shared by all documents of a form, and what one of them does to it, an
analysis or a serialization, all others see. So the states stand in a pool, and documents and
caches refer to them by number.
-/

namespace FormEngine

/-- The number of a state in a pool. -/
abbrev StateId := Nat

structure StatePool where
  states : Array StaticState := #[]
  /-- Identifiers for new states, in order. -/
  uuids : Nat → String

namespace StatePool

def size (p : StatePool) : Nat := p.states.size

/-- The state of a number; no number of the pool is without one. -/
def state (p : StatePool) (id : StateId) : StaticState := p.states.getD id default

/-- The number of the next state. -/
def nextId (p : StatePool) : StateId := p.states.size

/-- The identifier of the next state. -/
def nextUuid (p : StatePool) : String := p.uuids p.states.size

/-- A state joins the pool. -/
def push (p : StatePool) (s : StaticState) : StatePool := { p with states := p.states.push s }

/-- A state is replaced by what became of it. -/
def update (p : StatePool) (id : StateId) (f : StaticState → StaticState) : StatePool :=
  { p with states := p.states.modify id f }

/-- The state of a form document joins the pool. -/
def create (p : StatePool) (d : Document) (config : EngineConfig) :
    Except AnalysisError (StateId × StatePool) := do
  return (p.nextId, p.push (← StaticState.ofDocument p.nextUuid d none config))

/-- The state of a token joins the pool. -/
def restore (p : StatePool) (token : String) (origin : TokenOrigin) (config : EngineConfig) :
    Except AnalysisError (StateId × StatePool) := do
  return (p.nextId, p.push (← StaticState.ofEncoded p.nextUuid token origin config))

/-- A state is serialized, if it has not been already. -/
def serialize (p : StatePool) (id : StateId) : String × StatePool :=
  ((p.state id).token, p.update id StaticState.serialize)

/-- A state is analysed, if it has not been already, and the answer says whether it was. -/
def analyze (p : StatePool) (id : StateId) : Except Stop Bool × StatePool :=
  match (p.state id).analyze with
  | .error e => (.error e, p)
  | .ok (performed, s) => (.ok performed, p.update id fun _ => s)

end StatePool

end FormEngine
