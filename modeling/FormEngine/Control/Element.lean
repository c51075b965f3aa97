import FormEngine.Scope.Resolver
/-!
# Elements of a form

A form is its controls document together with the shadow trees of its component instances. An
element of a form is a node in one of these documents. The module says which names are
controls, and of what class an element of the control markup is.
-/

namespace FormEngine

/-! ## Classes of names -/

namespace QName

def isContainerControl (n : QName) : Bool :=
  (n.uri == Namespace.xforms && ["group", "switch", "case", "repeat"].contains n.localName) ||
    n.is Namespace.xxforms "dialog"

/-- Controls that hold a value. -/
def isValueControl (n : QName) : Bool :=
  (n.uri == Namespace.xforms &&
      ["input", "secret", "textarea", "output", "upload", "range", "select", "select1"].contains
        n.localName) ||
    (n.uri == Namespace.xxforms && ["attribute", "text"].contains n.localName)

/-- Controls that contain no other controls. -/
def isCoreControl (n : QName) : Bool :=
  n.isValueControl || (n.uri == Namespace.xforms && ["submit", "trigger"].contains n.localName)

def isBuiltinControl (n : QName) : Bool := n.isContainerControl || n.isCoreControl

def isVariable (n : QName) : Bool :=
  (n.uri == Namespace.xxforms || n.uri == Namespace.xforms) && n.localName == "variable"

end QName

/-- The elements that explain a control. -/
inductive SupportKind where
  | label
  | help
  | hint
  | alert
  deriving DecidableEq, Repr, Inhabited

namespace SupportKind

def name : SupportKind → String
  | .label => "label"
  | .help => "help"
  | .hint => "hint"
  | .alert => "alert"

def all : List SupportKind := [.label, .help, .hint, .alert]

def ofName? (localName : String) : Option SupportKind :=
  all.find? fun k => k.name == localName

end SupportKind

/-- The kind of support element that a name stands for. -/
def QName.supportKind? (n : QName) : Option SupportKind :=
  if n.uri = Namespace.xforms then SupportKind.ofName? n.localName else none

/-- What an element of the control markup is to the control tree. -/
inductive ElementClass where
  | container
  | leaf
  | component
  | variable
  | support
  deriving DecidableEq, Repr, Inhabited

/-- The class of an element name; `none` for markup that is no part of the control tree. -/
def ScopeTree.classify (t : ScopeTree) (n : QName) : Option ElementClass :=
  if n.isContainerControl then some .container
  else if n.isCoreControl then some .leaf
  else if t.components.isComponent n then some .component
  else if n.isVariable then some .variable
  else if n.supportKind?.isSome then some .support
  else none

/-! ## Elements and their documents -/

/-- A document of a form: the controls document or a shadow tree by its position. -/
inductive TreeRef where
  | controls
  | shadow (index : Nat)
  deriving DecidableEq, Repr, Inhabited

/-- An element of a form. -/
structure ElementRef where
  tree : TreeRef
  node : NodeId
  deriving DecidableEq, Repr, Inhabited

/-- A controls document with its resolved scopes. -/
structure Form where
  controls : Document
  scopes : ScopeTree
  deriving Repr, Inhabited

namespace Form

/-- All documents of a form, the controls document first. -/
def trees (f : Form) : List TreeRef :=
  .controls :: (List.range f.scopes.shadowTrees.length).map .shadow

def shadow? (f : Form) : TreeRef → Option ShadowTree
  | .controls => none
  | .shadow i => f.scopes.shadowTreeAt? i

def document (f : Form) (t : TreeRef) : Document :=
  ((f.shadow? t).map (·.document)).getD f.controls

/-- The scope in which an element resolves. -/
def scopeOf (f : Form) (e : ElementRef) : ScopeId :=
  ((f.shadow? e.tree).map fun s => s.scopeOf e.node).getD 0

/-- The prefix of the scope in which an element resolves. -/
def prefixOf (f : Form) (e : ElementRef) : String :=
  ((f.scopes.scope? (f.scopeOf e)).map (·.fullPrefix)).getD ""

def name? (f : Form) (e : ElementRef) : Option QName := (f.document e.tree).name? e.node

def attr? (f : Form) (e : ElementRef) (localName : String) : Option String :=
  (f.document e.tree).attr? e.node localName

def staticId? (f : Form) (e : ElementRef) : Option String := f.attr? e "id"

/-- The id of an element with the prefix of its scope. -/
def prefixedId? (f : Form) (e : ElementRef) : Option String :=
  (f.staticId? e).map fun id => f.prefixOf e ++ id

/-- The child elements of an element, in its document. -/
def childElements (f : Form) (e : ElementRef) : List ElementRef :=
  ((f.document e.tree).childElements e.node).map fun n => ⟨e.tree, n⟩

end Form

end FormEngine
