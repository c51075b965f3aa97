import FormEngine.Json.Reader
/-!
# Pairs of states

The state of a form between two requests is a pair of texts: one for the part that every
session shares and one for the part of one session. The same pair type serves for the encoded
states themselves and for the keys that stand for them.
-/

namespace FormEngine

structure StatePair where
  staticState : String
  dynamicState : String
  deriving DecidableEq, Repr, Inhabited

namespace StatePair

open Json

/-- The two halves around a bar. -/
def render (p : StatePair) : String := p.staticState ++ "|" ++ p.dynamicState

def toJson (p : StatePair) : Value :=
  .record [("staticState", .text p.staticState), ("dynamicState", .text p.dynamicState)]

/-- Both halves have to be there. -/
def ofJson? (v : Value) : Option StatePair := do
  match ← v.fields? ["staticState", "dynamicState"] with
  | [staticState, dynamicState] =>
    return { staticState := ← required Value.asText? staticState
             dynamicState := ← required Value.asText? dynamicState }
  | _ => none

/-- The pair of a JSON text. -/
def ofText? (text : String) : Option StatePair := (Json.ofText? text).bind ofJson?

end StatePair

end FormEngine
