import FormEngine.Control.Element
/-!
# The walk over the controls

The walk goes through the control markup in document order. At a component instance it goes on
in the shadow tree instead of the content that was written there. What it meets is a list of
visits: a control that is opened and later closed, a control without children, or a support
element. Support elements that stand directly in a shadow tree belong to the component and are
not met. Models, instances, XBL definitions and event handlers are not entered.
-/

namespace FormEngine

/-- An event of the walk. -/
inductive Visit where
  /-- A container or a component instance begins. -/
  | enter (e : ElementRef) (c : ElementClass)
  /-- The control that was entered last ends. -/
  | leave
  /-- A control without children. -/
  | leaf (e : ElementRef) (c : ElementClass)
  /-- A label, help, hint or alert. -/
  | support (e : ElementRef)
  deriving DecidableEq, Repr, Inhabited

namespace Form

/-- Markup that the walk does not enter. -/
def isOpaque (f : Form) (e : ElementRef) (n : QName) : Bool :=
  n.uri == Namespace.xbl || n.is Namespace.xforms "model" || n.is Namespace.xforms "instance" ||
    ((f.document e.tree).attribute? e.node Namespace.events "event").isSome

/-- The root of the shadow tree of a component instance. -/
def expansion? (f : Form) (e : ElementRef) : Option ElementRef :=
  ((f.prefixedId? e).bind f.scopes.shadowTreeIndex?).map fun i =>
    ⟨.shadow i, (f.document (.shadow i)).root⟩

/-- The visits at an element, where `under` gives those under an element. -/
def visitsAt (f : Form) (under : ElementRef → Bool → Except Stop (List Visit))
    (inComponent : Bool) (e : ElementRef) : Except Stop (List Visit) :=
  match f.name? e with
  | none => .ok []
  | some n =>
    match f.scopes.classify n with
    | some .container => do return .enter e .container :: (← under e false) ++ [.leave]
    | some .component =>
      match f.expansion? e with
      | none => .ok [.enter e .component, .leave]
      | some root => do return .enter e .component :: (← under root true) ++ [.leave]
    | some .leaf => .ok [.leaf e .leaf]
    | some .variable => .ok [.leaf e .variable]
    | some .support => .ok (if inComponent then [] else [.support e])
    | none => if f.isOpaque e n then .ok [] else under e inComponent

/-- The visits of the walk under an element, at most `fuel` levels deep. -/
def visitsUnder (f : Form) : Nat → ElementRef → Bool → Except Stop (List Visit)
  | 0, _, _ => .error .endless
  | fuel + 1, e, inComponent => do
    let parts ← (f.childElements e).mapM (f.visitsAt (f.visitsUnder fuel) inComponent)
    return parts.flatten

/-- The depth that no walk exceeds unless an instance stands in its own shadow tree. -/
def visitBound (f : Form) : Nat :=
  f.scopes.shadowTrees.foldr (fun s n => s.2.document.size + n) (f.controls.size + 1)

/-- The visits of the whole walk. -/
def visits (f : Form) : Except Stop (List Visit) :=
  f.visitsUnder f.visitBound ⟨.controls, f.controls.root⟩ false

end Form

end FormEngine
