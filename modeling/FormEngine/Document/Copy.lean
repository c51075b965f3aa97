import FormEngine.Document.Basic
/-!
# Copying subtrees

A subtree is copied node by node in document order, so the copies get consecutive addresses
from the old size of the destination on, the first being the copy of the subtree's top. A copy
goes to the end of the children of a destination node, or to a given position among them.
-/

namespace FormEngine.Document

/-- The first `fuel` levels of the subtree of `source` at `n`, copied under `parent`. -/
def copyWithin (source : Document) : Nat → NodeId → Document → NodeId → Document
  | 0, _, dest, _ => dest
  | fuel + 1, n, dest, parent =>
    match source.node? n with
    | none => dest
    | some node =>
      node.children.foldl (fun dest' c => source.copyWithin fuel c dest' dest.size)
        (dest.append parent node.kind)

/-- The subtree of `source` at `n` copied to the end of the children of `parent`. The copy of
its top has the old size of `dest` for its address. -/
def copySubtree (source : Document) (n : NodeId) (dest : Document) (parent : NodeId) : Document :=
  source.copyWithin source.size n dest parent

/-- The last child of `parent` moved to position `index`, or left last when the others are
fewer. -/
def moveLastChild (d : Document) (parent : NodeId) (index : Nat) : Document :=
  { d with nodes := d.nodes.modify parent fun node =>
      match node.children.getLast? with
      | none => node
      | some c =>
        let others := node.children.dropLast
        { node with children := others.insertIdx (min index others.length) c } }

/-- The subtree of `source` at `n` copied under `parent` at position `index`. -/
def insertSubtree (source : Document) (n : NodeId) (dest : Document) (parent : NodeId)
    (index : Nat) : Document :=
  (source.copySubtree n dest parent).moveLastChild parent index

/-- A document whose root is a copy of the element at `n`, with the same namespace table. Of
attributes with one name the root has one. -/
def subtreeDocument (source : Document) (n : NodeId) : Document :=
  let top := { ofRoot ((source.name? n).getD (.plain "text")) with namespaces := source.namespaces }
  let root := (source.attributes n).foldl (fun d a => d.setAttribute d.root a.name a.value) top
  (source.children n).foldl (fun d c => source.copySubtree c d d.root) root

end FormEngine.Document
