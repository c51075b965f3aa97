/-!
# Qualified names

A name is a namespace URI and a local name; the prefix it was written with is kept for display
and for re-reading selectors, but two names are the same name when URI and local name agree.
The empty URI is "no namespace". The module also lists the namespaces that analysis knows.
-/

namespace FormEngine

namespace Namespace

def xforms : String := "http://www.w3.org/2002/xforms"
def xxforms : String := "http://orbeon.org/oxf/xml/xforms"
def events : String := "http://www.w3.org/2001/xml-events"
def xbl : String := "http://www.w3.org/ns/xbl"
def xhtml : String := "http://www.w3.org/1999/xhtml"
def xmlns : String := "http://www.w3.org/2000/xmlns/"
def xml : String := "http://www.w3.org/XML/1998/namespace"

end Namespace

/-- A qualified name as it was written. -/
structure QName where
  nsPrefix : String := ""
  uri : String := ""
  localName : String
  deriving DecidableEq, Repr, Inhabited

namespace QName

/-- A name in no namespace. -/
def plain (localName : String) : QName := { localName }

/-- The name has this URI and this local name. -/
def is (n : QName) (uri localName : String) : Bool :=
  n.uri == uri && n.localName == localName

theorem is_iff {n : QName} {uri localName : String} :
    n.is uri localName = true ↔ n.uri = uri ∧ n.localName = localName := by
  rw [is, Bool.and_eq_true, beq_iff_eq, beq_iff_eq]

/-- The two are the same name, whatever their prefixes. -/
def same (m n : QName) : Bool := m.is n.uri n.localName

theorem same_iff {m n : QName} : m.same n = true ↔ m.uri = n.uri ∧ m.localName = n.localName :=
  is_iff

/-- `prefix:local`, or the local name alone when there is no prefix. -/
def qualified (n : QName) : String :=
  if n.nsPrefix.isEmpty then n.localName else n.nsPrefix ++ ":" ++ n.localName

end QName

/-- An attribute of an element. -/
structure Attribute where
  name : QName
  value : String
  deriving DecidableEq, Repr, Inhabited

namespace Attributes

/-- The value of the first attribute with the given name. -/
def find? (uri localName : String) (attributes : List Attribute) : Option String :=
  (attributes.find? fun a => a.name.is uri localName).map (·.value)

/-- The list with an attribute set: the first one of that name takes the value and keeps its
prefix, and otherwise the attribute is put at the end. -/
def set (name : QName) (value : String) : List Attribute → List Attribute
  | [] => [⟨name, value⟩]
  | a :: rest =>
    if a.name.same name then { a with value } :: rest else a :: set name value rest

end Attributes

end FormEngine
