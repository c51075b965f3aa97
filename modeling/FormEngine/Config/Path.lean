import FormEngine.Document.Basic
import FormEngine.Pattern.Matcher
import FormEngine.Pattern.Parser
import FormEngine.Pattern.Tables
/-!
# Versioned paths

A path matcher is a pattern for the full path of a request, with the media type that it is
about and whether the path carries a version. Inside a document it is a `matcher` element. Which
paths it accepts depends on the engine that compiles its pattern.
-/

namespace FormEngine

structure PathMatcher where
  pathInfo : String
  mimeType : Option String := none
  versioned : Bool := false
  deriving DecidableEq, Repr, Inhabited

namespace PathMatcher

/-- The text of a pattern between the two ends of a text. -/
def anchored (pattern : String) : String := "^(?:" ++ pattern ++ ")$"

/-- The path is one that the matcher is about. A matcher whose pattern cannot be read is about
no path. -/
def accepts [PatternEngine] (m : PathMatcher) (path : String) : Bool :=
  (Pattern.ofText? (anchored m.pathInfo)).any fun p => p.isFoundIn path

/-- The attributes of the element of a matcher. -/
def toAttributes (m : PathMatcher) : List Attribute :=
  [⟨.plain "path-info", m.pathInfo⟩] ++
    (m.mimeType.map fun t => ⟨.plain "mime-type", t⟩).toList ++
    [⟨.plain "versioned", if m.versioned then "true" else "false"⟩]

/-- The element of a matcher is appended under `parent`. -/
def appendTo (m : PathMatcher) (d : Document) (parent : NodeId) : Document :=
  d.appendElement parent (.plain "matcher") m.toAttributes

/-- The matcher of an element. -/
def ofElement? (d : Document) (n : NodeId) : Option PathMatcher :=
  (d.attr? n "path-info").map fun pathInfo =>
    { pathInfo, mimeType := d.attr? n "mime-type", versioned := d.attr? n "versioned" == some "true" }

end PathMatcher

end FormEngine
