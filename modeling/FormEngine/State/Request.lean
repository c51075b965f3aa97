import FormEngine.Document.Walk
import FormEngine.State.Fault
import FormEngine.Text.Blank
/-!
# Requests

A request is a document with one child element for each of its two tokens. It may come from a
session or without one.
-/

namespace FormEngine

/-- The session of a request. -/
structure Session where
  /-- The request at hand began the session. -/
  isNew : Bool := false
  /-- Seconds without a request after which the session ends. -/
  maxInactiveInterval : Int
  deriving DecidableEq, Repr, Inhabited

/-- The fault of keys that no store knows. A session that the request at hand began cannot have
put anything there, so the session that did has ended. -/
def StateError.lostState (keys : StatePair) : Option Session → StateError
  | none => .sessionExpired keys
  | some session => if session.isNew then .sessionExpired keys else .unableToRetrieve keys

namespace Document

/-- The token under a name: the text of the first child of the root with that name, without
blanks around it. -/
def requestToken? (request : Document) (localName : String) : Option String :=
  (request.firstChildNamed? request.root Namespace.xxforms localName).map fun n =>
    Text.trim (request.textContent n)

/-- The static and the dynamic token of a request. -/
def requestTokens (request : Document) : Except StateError (String × String) :=
  match request.requestToken? "static-state", request.requestToken? "dynamic-state" with
  | some static, some dynamic => .ok (static, dynamic)
  | none, _ => .error (.malformedRequest "missing xxf:static-state element")
  | some _, none => .error (.malformedRequest "missing xxf:dynamic-state element")

end Document

end FormEngine
