import FormEngine.Document.Basic
/-!
# Walks over a document

Up: the ancestors of a node, nearest first. Down: the elements of a subtree in document order,
and the text of a subtree. A walk takes at most as many steps as the arena has nodes, which in
a forest is more than any branch is long, so on a forest no walk is cut short.
-/

namespace FormEngine.Document

/-- The first `fuel` ancestors of a node, nearest first. -/
def ancestorsWithin (d : Document) : Nat → NodeId → List NodeId
  | 0, _ => []
  | fuel + 1, n =>
    match d.parent? n with
    | none => []
    | some p => p :: d.ancestorsWithin fuel p

/-- The ancestors of a node, nearest first. -/
def ancestors (d : Document) (n : NodeId) : List NodeId :=
  d.ancestorsWithin d.size n

/-- Some ancestor of the node has this name. -/
def hasAncestorNamed (d : Document) (n : NodeId) (uri localName : String) : Bool :=
  (d.ancestors n).any fun a => d.isNamed a uri localName

/-- The elements of the first `fuel` levels of a subtree in document order. -/
def descendantsWithin (d : Document) : Nat → NodeId → List NodeId
  | 0, _ => []
  | fuel + 1, n =>
    if d.isElement n then n :: (d.children n).flatMap (d.descendantsWithin fuel) else []

/-- The elements of the subtree under a node in document order, the node included. -/
def descendants (d : Document) (n : NodeId) : List NodeId :=
  d.descendantsWithin d.size n

/-- The texts in the first `fuel` levels of a subtree in document order. -/
def textsWithin (d : Document) : Nat → NodeId → List String
  | 0, _ => []
  | fuel + 1, n =>
    match d.node? n with
    | none => []
    | some node =>
      match node.kind with
      | .text value => [value]
      | .element _ _ => node.children.flatMap (d.textsWithin fuel)

/-- The text of a subtree: its text nodes joined in document order. -/
def textContent (d : Document) (n : NodeId) : String :=
  String.join (d.textsWithin d.size n)

end FormEngine.Document
