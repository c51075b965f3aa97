import FormEngine.Document.Name
/-!
# Documents

A document is an arena: a list of nodes addressed by their position, each of which names its
parent and its children. Unlinked nodes stay in the arena, so a node keeps its address for
good. `root` is the node that the document hangs from. Reading at an address that the arena
does not have gives the empty answer.
-/

namespace FormEngine

/-- The address of a node in its document. -/
abbrev NodeId := Nat

/-- What a node is, apart from its links. -/
inductive NodeKind where
  | element (name : QName) (attributes : List Attribute)
  | text (value : String)
  deriving DecidableEq, Repr, Inhabited

/-- A node with its links. -/
structure Node where
  kind : NodeKind
  parent : Option NodeId := none
  children : List NodeId := []
  deriving DecidableEq, Repr, Inhabited

/-- A document. The table `namespaces` gives the namespace of each prefix in use, in the order
in which the prefixes were met. -/
structure Document where
  nodes : Array Node
  root : NodeId
  namespaces : List (String × String) := []
  deriving DecidableEq, Repr, Inhabited

namespace NodeKind

def isElement : NodeKind → Bool
  | .element _ _ => true
  | .text _ => false

def name? : NodeKind → Option QName
  | .element name _ => some name
  | .text _ => none

def attributes : NodeKind → List Attribute
  | .element _ attributes => attributes
  | .text _ => []

end NodeKind

namespace Document

/-- The document of a lone root element. -/
def ofRoot (name : QName) : Document :=
  { nodes := #[{ kind := .element name [] }], root := 0 }

/-- The number of nodes in the arena, unlinked ones included. -/
def size (d : Document) : Nat := d.nodes.size

/-! ## Reading -/

def node? (d : Document) (n : NodeId) : Option Node := d.nodes[n]?

def isElement (d : Document) (n : NodeId) : Bool :=
  (d.node? n).any fun node => node.kind.isElement

def name? (d : Document) (n : NodeId) : Option QName :=
  (d.node? n).bind fun node => node.kind.name?

/-- The node is an element with this name. -/
def isNamed (d : Document) (n : NodeId) (uri localName : String) : Bool :=
  (d.name? n).any fun name => name.is uri localName

def attributes (d : Document) (n : NodeId) : List Attribute :=
  ((d.node? n).map fun node => node.kind.attributes).getD []

/-- The value of an element's attribute. -/
def attribute? (d : Document) (n : NodeId) (uri localName : String) : Option String :=
  Attributes.find? uri localName (d.attributes n)

/-- The value of an attribute in no namespace. -/
def attr? (d : Document) (n : NodeId) (localName : String) : Option String :=
  d.attribute? n "" localName

/-- The `id` attribute of an element. -/
def staticId? (d : Document) (n : NodeId) : Option String := d.attr? n "id"

def parent? (d : Document) (n : NodeId) : Option NodeId :=
  (d.node? n).bind (·.parent)

def children (d : Document) (n : NodeId) : List NodeId :=
  ((d.node? n).map (·.children)).getD []

def childElements (d : Document) (n : NodeId) : List NodeId :=
  (d.children n).filter d.isElement

def firstChildNamed? (d : Document) (n : NodeId) (uri localName : String) : Option NodeId :=
  (d.childElements n).find? fun c => d.isNamed c uri localName

/-- The position of a node among the children of its parent. -/
def childIndex? (d : Document) (n : NodeId) : Option Nat :=
  (d.parent? n).bind fun p => (d.children p).findIdx? (· == n)

/-- The namespace of a prefix. -/
def namespace? (d : Document) (nsPrefix : String) : Option String :=
  d.namespaces.lookup nsPrefix

/-! ## Writing -/

/-- A prefix joins the table unless it is there already. -/
def declareNamespace (d : Document) (nsPrefix uri : String) : Document :=
  if (d.namespace? nsPrefix).isSome then d
  else { d with namespaces := d.namespaces ++ [(nsPrefix, uri)] }

/-- A new node becomes the last child of `parent`; its address is the old size. -/
def append (d : Document) (parent : NodeId) (kind : NodeKind) : Document :=
  let nodes := d.nodes.push { kind, parent := some parent }
  { d with nodes := nodes.modify parent fun p => { p with children := p.children ++ [d.size] } }

def appendElement (d : Document) (parent : NodeId) (name : QName) (attributes : List Attribute) :
    Document :=
  d.append parent (.element name attributes)

def appendText (d : Document) (parent : NodeId) (value : String) : Document :=
  d.append parent (.text value)

/-- A node is unlinked from its parent and stays in the arena. -/
def detach (d : Document) (n : NodeId) : Document :=
  match d.parent? n with
  | none => d
  | some p =>
    let nodes := d.nodes.modify n fun node => { node with parent := none }
    { d with nodes := nodes.modify p fun node =>
        { node with children := node.children.filter (· != n) } }

/-- An attribute of an element is set; on a text node nothing happens. -/
def setAttribute (d : Document) (n : NodeId) (name : QName) (value : String) : Document :=
  { d with nodes := d.nodes.modify n fun node =>
      match node.kind with
      | .element e attributes => { node with kind := .element e (Attributes.set name value attributes) }
      | .text _ => node }

end Document

end FormEngine
