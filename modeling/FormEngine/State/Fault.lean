import FormEngine.Diagnostics
import FormEngine.State.Pair
/-!
# Faults of a request

Why a request finds no document. The wording is meant for the user of a form, who can reload
the page when a state is gone.
-/

namespace FormEngine

/-- Why the state of a request cannot be had. -/
inductive StateError where
  | noSession
  | inconsistentMarks (static dynamic : String)
  | unknownMark (mark : String)
  | sessionExpired (keys : StatePair)
  | unableToRetrieve (keys : StatePair)
  | malformedRequest (reason : String)
  | restore (reason : String)
  | token (e : TokenError)
  | analysis (e : AnalysisError)
  deriving DecidableEq, Repr

namespace StateError

/-- The keys in the wording of a fault. -/
def keysText (keys : StatePair) : String :=
  "Static state key: " ++ keys.staticState ++ ", dynamic state key: " ++ keys.dynamicState

/-- What the user can do about a state that is gone. -/
def reloadText : String :=
  "Please reload the current page. Note that you will lose any unsaved changes."

/-- The wording of a fault. -/
def message : StateError → String
  | .noSession => "Session has expired. Unable to process incoming request."
  | .inconsistentMarks static dynamic =>
    "Inconsistent XForms state prefixes: " ++ static ++ ", " ++ dynamic
  | .unknownMark mark => "Invalid state prefix: " ++ mark
  | .sessionExpired keys =>
    "Your session has expired. " ++ reloadText ++ " " ++ keysText keys
  | .unableToRetrieve keys =>
    "Unable to retrieve XForms engine state. " ++ reloadText ++ " " ++ keysText keys
  | .malformedRequest reason => "Malformed state request: " ++ reason
  | .restore reason => "Unable to restore document: " ++ reason
  | .token e => e.message
  | .analysis e => e.message

end StateError

end FormEngine
