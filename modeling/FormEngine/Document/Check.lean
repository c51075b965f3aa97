import FormEngine.Document.Basic
/-!
# The arena check

A document that arrives from outside may link its nodes in any way. The check accepts exactly
the forests: the root is in range and has no parent, parent and child links are in range and
agree, no child is listed twice, text has no children, and every node is reached from a node
without a parent. Faults are found node by node in address order, links before cycles.
-/

namespace FormEngine

/-- What can be wrong with the links of an arena. -/
inductive ArenaError where
  | rootOutOfRange (root : NodeId) (size : Nat)
  | rootHasParent
  | parentOutOfRange (node parent : NodeId)
  | missingFromChildren (node parent : NodeId)
  | textHasChildren (node : NodeId)
  | childOutOfRange (node child : NodeId)
  | childPointsElsewhere (child node : NodeId)
  | childListedTwice (child : NodeId)
  | cycle
  deriving DecidableEq, Repr

/-- The wording of an arena fault. -/
def ArenaError.message : ArenaError → String
  | .rootOutOfRange root size => s!"root {root} out of range for {size} nodes"
  | .rootHasParent => "root has a parent"
  | .parentOutOfRange node parent => s!"node {node} has parent {parent} out of range"
  | .missingFromChildren node parent => s!"node {node} is missing from the children of {parent}"
  | .textHasChildren node => s!"text node {node} has children"
  | .childOutOfRange node child => s!"node {node} has child {child} out of range"
  | .childPointsElsewhere child node => s!"child {child} does not point back to {node}"
  | .childListedTwice child => s!"node {child} is listed as a child more than once"
  | .cycle => "node links form a cycle"

namespace Document

/-- The children of node `n` are in range, point back and are listed once. `before` are the
children already looked at. -/
def checkChildren (d : Document) (n : NodeId) (before : List NodeId) :
    List NodeId → Except ArenaError Unit
  | [] => .ok ()
  | c :: rest =>
    if h : c < d.nodes.size then
      if d.nodes[c].parent ≠ some n then .error (.childPointsElsewhere c n)
      else if c ∈ before then .error (.childListedTwice c)
      else d.checkChildren n (c :: before) rest
    else .error (.childOutOfRange n c)

/-- The parent of node `n`, if any, is in range and lists it. -/
def checkParent (d : Document) (n : NodeId) : Option NodeId → Except ArenaError Unit
  | none => .ok ()
  | some p =>
    if h : p < d.nodes.size then
      if n ∈ d.nodes[p].children then .ok () else .error (.missingFromChildren n p)
    else .error (.parentOutOfRange n p)

/-- The links of one node. -/
def checkNode (d : Document) (n : NodeId) (node : Node) : Except ArenaError Unit := do
  d.checkParent n node.parent
  if !node.kind.isElement && !node.children.isEmpty then throw (.textHasChildren n)
  d.checkChildren n [] node.children

/-- The links of the given nodes, the first of which has address `n`. -/
def checkNodes (d : Document) (n : NodeId) : List Node → Except ArenaError Unit
  | [] => .ok ()
  | node :: rest => do
    d.checkNode n node
    d.checkNodes (n + 1) rest

/-- The nodes without a parent, in address order. -/
def parentless (d : Document) : List NodeId :=
  (List.range d.size).filter fun n => (d.parent? n).isNone

/-- The number of nodes met by working off a stack, where a node puts its children on the
stack. It is `none` when an address is out of range or `fuel` does not last. -/
def reached? (d : Document) : Nat → List NodeId → Option Nat
  | _, [] => some 0
  | 0, _ :: _ => none
  | fuel + 1, n :: stack =>
    if h : n < d.nodes.size then
      (d.reached? fuel (d.nodes[n].children ++ stack)).map (· + 1)
    else none

/-- Accepts the arenas that are forests. -/
def check (d : Document) : Except ArenaError Unit := do
  if h : d.root < d.nodes.size then
    if d.nodes[d.root].parent.isSome then throw .rootHasParent
    d.checkNodes 0 d.nodes.toList
    if d.reached? d.size d.parentless = some d.size then return ()
    throw .cycle
  else throw (.rootOutOfRange d.root d.size)

end Document

end FormEngine
