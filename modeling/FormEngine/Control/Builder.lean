import FormEngine.Control.Tree
import FormEngine.Control.Visit
/-!
# Building the control tree

The builder takes the visits of the walk one by one. It keeps a stack of frames, one for the
whole form and one for each control that is open, and a frame holds the variables declared
directly in it. A support element with `for` is given to the control it names; if that control
has not been met yet, it waits until the end of the walk.
-/

namespace FormEngine

/-- An open control with the variables declared in it so far. The frame of the whole form has
no control. -/
structure Frame where
  control : Option ControlId := none
  declared : List String := []
  deriving DecidableEq, Repr, Inhabited

structure TreeBuilder where
  tree : ControlTree := {}
  /-- The open frames, innermost first. -/
  frames : List Frame := [{}]
  /-- Support elements whose control has not been met, in the order of the walk. -/
  waiting : List ElementRef := []
  deriving Repr, Inhabited

namespace TreeBuilder

/-- The innermost open control. -/
def container? (b : TreeBuilder) : Option ControlId := b.frames.head?.bind (·.control)

/-- The variables of all open frames, outermost first. -/
def visibleVariables (b : TreeBuilder) : List String :=
  b.frames.reverse.flatMap (·.declared)

/-- A variable is declared in the innermost frame. -/
def declareVariable (b : TreeBuilder) (name : String) : TreeBuilder :=
  match b.frames with
  | [] => b
  | top :: rest => { b with frames := { top with declared := top.declared ++ [name] } :: rest }

/-! ## The record of one control -/

/-- An attribute that an attribute control has to have. -/
def requiredAttribute (f : Form) (e : ElementRef) (prefixedId name : String) :
    Except AnalysisError String :=
  match f.attr? e name with
  | some v => .ok v
  | none => .error (.missingAttribute prefixedId name)

/-- The kind of a control. -/
def kindOf (f : Form) (e : ElementRef) (c : ElementClass) (n : QName) (staticId : String) :
    Except AnalysisError ControlKind := do
  if n.is Namespace.xforms "repeat" then return .repetition []
  else if n.is Namespace.xxforms "attribute" then
    let target ← requiredAttribute f e (f.prefixOf e ++ staticId) "for"
    let name ← requiredAttribute f e (f.prefixOf e ++ staticId) "name"
    return .attributeOf (f.prefixOf e ++ target) name
  else
    match c with
    | .container => return .container
    | .component => return .component
    | .variable => return .variable ((f.attr? e "name").getD staticId)
    | .leaf | .support => return .leaf

/-- The support elements directly in a control that do not name another one. -/
def ownSupports (f : Form) (e : ElementRef) : List Support :=
  (f.childElements e).filterMap fun child =>
    match (f.name? child).bind (·.supportKind?), f.attr? child "for" with
    | some kind, none => some (.ofElement f child kind)
    | _, _ => none

/-- The record of the control at an element, without what other controls add to it. -/
def controlOf (b : TreeBuilder) (f : Form) (e : ElementRef) (c : ElementClass) :
    Except AnalysisError Control := do
  let n := (f.name? e).getD (.plain "")
  match f.staticId? e with
  | none => throw (.missingControlId n.qualified)
  | some staticId =>
    let parent := b.container?.bind b.tree.get?
    let kind ← kindOf f e c n staticId
    let bare : Control :=
      { id := b.tree.size
        prefixedId := f.prefixOf e ++ staticId
        staticId, name := n, element := e, scope := f.scopeOf e, parent := b.container?
        level := (parent.map fun p => p.level + 1).getD 0
        kind, isContainer := c == .container
        hasNodeBinding := ["ref", "bind", "nodeset"].any fun a => (f.attr? e a).isSome
        hasValue := n.isValueControl
        classes := addClasses [] ((f.attr? e "class").getD "")
        supports := []
        ancestorRepeat := parent.bind fun p => if p.isRepeat then some p.id else p.ancestorRepeat
        inScopeVariables := b.visibleVariables }
    return if c == .component then bare else (ownSupports f e).foldl Control.setSupport bare

/-! ## Indexing -/

/-- A repeat is entered into the hierarchy and into the repeat around it. -/
def indexRepeat (t : ControlTree) (c : Control) : ControlTree :=
  let separator := if t.repeatHierarchy.isEmpty then "" else ","
  let entry := t.repeatHierarchy ++ separator ++ c.prefixedId
  match c.ancestorRepeat.bind t.get? with
  | none => { t with repeatHierarchy := entry }
  | some outer =>
    { t with
      repeatHierarchy := entry ++ " " ++ outer.prefixedId
      repeatChildren := pushUnder outer.prefixedId c.prefixedId t.repeatChildren
      controls := t.controls.modify outer.id fun r => r.addNested c.id }

/-- What the kind of a new control adds to the indices. -/
def indexKind (t : ControlTree) (c : Control) : ControlTree :=
  match c.kind with
  | .repetition _ => indexRepeat t c
  | .attributeOf target name =>
    let inner := Json.assign name c.id ((t.attributeControls.lookup target).getD [])
    { t with attributeControls := Json.assign target inner t.attributeControls }
  | _ => t

/-- A new control joins the tree. -/
def addControl (t : ControlTree) (c : Control) : ControlTree :=
  let t := indexKind t c
  { t with
    controls := t.controls.push c
    byPrefixedId := (c.prefixedId, c.id) :: t.byPrefixedId
    byName := pushUnder c.name.localName c.id t.byName }

/-! ## The steps -/

/-- A control is met. -/
def start (b : TreeBuilder) (f : Form) (e : ElementRef) (k : ElementClass) :
    Except AnalysisError TreeBuilder := do
  let c ← b.controlOf f e k
  let b := match c.kind with
    | .variable name => b.declareVariable name
    | _ => b
  return { b with tree := addControl b.tree c }

/-- A support element is given to the control that it names. It is `none` when there is no such
control; an element that names none, or is no support element, needs no control. -/
def attach? (t : ControlTree) (f : Form) (e : ElementRef) : Option ControlTree :=
  match f.attr? e "for", (f.name? e).bind fun n => SupportKind.ofName? n.localName with
  | some target, some kind =>
    (t.id? (f.prefixOf e ++ target)).map fun c =>
      t.modify c fun control => control.setSupport (.ofElement f e kind)
  | _, _ => some t

/-- The effect of a visit. -/
def step (f : Form) (b : TreeBuilder) : Visit → Except AnalysisError TreeBuilder
  | .enter e k => do
    let b' ← b.start f e k
    return { b' with frames := { control := some b.tree.size } :: b'.frames }
  | .leave => .ok { b with frames := b.frames.tail }
  | .leaf e k => b.start f e k
  | .support e =>
    match attach? b.tree f e with
    | some tree => .ok { b with tree }
    | none => .ok { b with waiting := b.waiting ++ [e] }

/-- A support element that waited is given to its control, or a warning is recorded. -/
def settle (f : Form) (s : ControlTree × List Warning) (e : ElementRef) : ControlTree × List Warning :=
  match attach? s.1 f e with
  | some tree => (tree, s.2)
  | none =>
    let element := ((f.name? e).map (·.qualified)).getD ""
    (s.1, s.2 ++ [.unresolvedTarget element ((f.attr? e "for").getD "")])

end TreeBuilder

/-- The control tree of a form with the warnings about support elements without a control. -/
def buildControlTree (f : Form) : Except Stop (ControlTree × List Warning) := do
  let visits ← f.visits
  let b ← (visits.foldlM (TreeBuilder.step f) ({} : TreeBuilder)).mapError Stop.finding
  return b.waiting.foldl (TreeBuilder.settle f) (b.tree, [])

end FormEngine
