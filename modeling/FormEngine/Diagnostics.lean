import FormEngine.Token
/-!
# Findings of an analysis

An error ends an analysis: no part of a state is shown after one. A warning is recorded and the
analysis goes on. Each error breaks one of the guarantees that a finished analysis gives, and
its code names that guarantee.
-/

namespace FormEngine

/-- Why a form cannot be analysed. -/
inductive AnalysisError where
  | missingControlId (element : String)
  | invalidProperty (property value : String)
  | unresolvedComponent (reference reason : String)
  | missingAttribute (element name : String)
  | malformedMarkup (reason : String)
  | token (e : TokenError)
  deriving DecidableEq, Repr

namespace AnalysisError

/-- The wording of an error. -/
def message : AnalysisError → String
  | .missingControlId element => "Missing mandatory id for element: " ++ element
  | .invalidProperty property value => "Invalid xxf:" ++ property ++ " attribute value: " ++ value
  | .unresolvedComponent reference reason =>
    "Unresolvable component reference '" ++ reference ++ "': " ++ reason
  | .missingAttribute element name =>
    "Missing attribute '" ++ name ++ "' on element: " ++ element
  | .malformedMarkup reason => "Malformed markup: " ++ reason
  | .token e => e.message

/-- The code of the guarantee that the error breaks. -/
def code : AnalysisError → String
  | .missingControlId _ => "FS-ERR-ID-001"
  | .invalidProperty _ _ => "FS-ERR-PROP-001"
  | .unresolvedComponent _ _ => "FS-ERR-XBL-001"
  | .missingAttribute _ _ => "FS-ERR-ATTR-001"
  | .malformedMarkup _ => "FS-ERR-MARKUP-001"
  | .token _ => "FS-ERR-CODEC-001"

/-- The guarantee that the error breaks. -/
def guarantee : AnalysisError → String
  | .missingControlId _ => "Every control carries an id that is unique once prefixed by its scope."
  | .invalidProperty _ _ => "Enumerated properties only take one of their allowed values."
  | .unresolvedComponent _ _ =>
    "Every component instance resolves to exactly one binding and template."
  | .missingAttribute _ _ =>
    "Attribute controls name both the element they target and the attribute."
  | .malformedMarkup _ => "Analysis only runs on a well-formed document with a root element."
  | .token _ => "A static state token decodes to the document it was encoded from."

end AnalysisError

/-- A finding that does not end the analysis. -/
inductive Warning where
  | ignoredGlobalProperty (name : String)
  | ignoredModelProperty (name : String)
  | unresolvedTarget (element target : String)
  deriving DecidableEq, Repr

/-- The code of a warning. -/
def Warning.code : Warning → String
  | .ignoredGlobalProperty _ | .ignoredModelProperty _ => "FS-WARN-PROP"
  | .unresolvedTarget _ _ => "FS-WARN-LHHA"

/-- The wording of a warning. -/
def Warning.message : Warning → String
  | .ignoredGlobalProperty name => "ignoring global property '" ++ name ++ "'"
  | .ignoredModelProperty name => "ignoring property '" ++ name ++ "' on model element"
  | .unresolvedTarget element target =>
    "could not find control associated with LHHA element: " ++ element ++ " for " ++ target

end FormEngine
