import FormEngine.Document.Basic
/-!
# Walks one node at a time

A walk can be asked for its nodes one after the other. On the way up the address that comes next is
kept, and it gives way to the parent of its node. On the way down the addresses that are still to be
looked at wait on a stack: a text is passed over, and an element is answered with and puts its children
in its place, the first one on top. No walk remembers the nodes it has been to, so on links that go
round in a circle it would go round as well, and an address that the arena does not have brings it to a
stop.
-/

namespace FormEngine.Document

/-- What a walk answers when it is asked for the next node. -/
inductive Move (σ : Type) where
  | next (n : NodeId) (rest : σ)
  | ended
  | stray (n : NodeId)
  deriving DecidableEq, Repr

/-- The next ancestor. A walk up from a node begins with its parent. -/
def moveUp (d : Document) : Option NodeId → Move (Option NodeId)
  | none => .ended
  | some n =>
    match d.node? n with
    | none => .stray n
    | some node => .next n node.parent

/-- The next element. A walk down from a node begins with the node alone. -/
def moveDown (d : Document) : List NodeId → Move (List NodeId)
  | [] => .ended
  | n :: stack =>
    match d.node? n with
    | none => .stray n
    | some node =>
      match node.kind with
      | .text _ => d.moveDown stack
      | .element _ _ => .next n (node.children ++ stack)

end FormEngine.Document
