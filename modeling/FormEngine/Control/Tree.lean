import FormEngine.Control.Element
/-!
# The control tree

One record per control, in the order of the walk, and indices over them: by prefixed id, by
element name, the nesting of repeats, the attribute controls by the element and attribute they
are for. Where two controls have one prefixed id, the later one is found under it.
-/

namespace FormEngine

/-- The number of a control in the order of the walk, from 0. -/
abbrev ControlId := Nat

/-- A label, help, hint or alert of a control. -/
structure Support where
  kind : SupportKind
  staticId : Option String
  element : ElementRef
  /-- It names its control by `for`. -/
  isExternal : Bool
  /-- Its text, when that is fixed. -/
  staticValue : Option String
  deriving DecidableEq, Repr, Inhabited

/-- The support element at an element of a form. -/
def Support.ofElement (f : Form) (e : ElementRef) (kind : SupportKind) : Support :=
  let isDynamic := ["ref", "bind", "value"].any fun a => (f.attr? e a).isSome
  { kind, staticId := f.staticId? e, element := e, isExternal := (f.attr? e "for").isSome
    staticValue :=
      if isDynamic then none else some (Text.trim ((f.document e.tree).textContent e.node)) }

/-- What sets a control apart from others of its class. -/
inductive ControlKind where
  | container
  | leaf
  | component
  | variable (name : String)
  /-- A repeat with the repeats directly inside it. -/
  | repetition (nested : List ControlId)
  /-- A control for an attribute of the element with the given prefixed id. -/
  | attributeOf (forPrefixedId attributeName : String)
  deriving DecidableEq, Repr, Inhabited

structure Control where
  id : ControlId
  prefixedId : String
  staticId : String
  name : QName
  element : ElementRef
  scope : ScopeId
  parent : Option ControlId
  level : Nat
  kind : ControlKind
  isContainer : Bool
  /-- It is bound to a node by `ref`, `bind` or `nodeset`. -/
  hasNodeBinding : Bool
  hasValue : Bool
  /-- The classes in order of their first mention. -/
  classes : List String
  /-- Its support elements, at most one of a kind. -/
  supports : List Support
  /-- The nearest repeat around it. -/
  ancestorRepeat : Option ControlId
  /-- The names of the variables that can be seen from it, outermost first. -/
  inScopeVariables : List String
  deriving DecidableEq, Repr, Inhabited

/-- Words join a list of classes, each once. -/
def addClasses (classes : List String) (text : String) : List String :=
  (Text.words text).foldl (fun cs c => if cs.contains c then cs else cs ++ [c]) classes

namespace Control

/-- The place of the control in the walk, from 1. -/
def position (c : Control) : Nat := c.id + 1

def isRepeat (c : Control) : Bool :=
  match c.kind with
  | .repetition _ => true
  | _ => false

def support? (c : Control) (k : SupportKind) : Option Support :=
  c.supports.find? fun s => s.kind == k

/-- A support element takes the place of the one of its kind. -/
def setSupport (c : Control) (s : Support) : Control :=
  { c with supports := c.supports.filter (fun s' => s'.kind != s.kind) ++ [s] }

def addClass (c : Control) (text : String) : Control :=
  { c with classes := addClasses c.classes text }

/-- The classes separated by blanks, if there are any. -/
def classString? (c : Control) : Option String :=
  if c.classes.isEmpty then none else some (" ".intercalate c.classes)

/-- A repeat gets another repeat directly inside it. -/
def addNested (c : Control) (r : ControlId) : Control :=
  match c.kind with
  | .repetition nested => { c with kind := .repetition (nested ++ [r]) }
  | _ => c

end Control

/-- A value is put at the end of the list under a key. -/
def pushUnder {α : Type} (key : String) (a : α) : List (String × List α) → List (String × List α)
  | [] => [(key, [a])]
  | (k, as) :: rest => if k = key then (k, as ++ [a]) :: rest else (k, as) :: pushUnder key a rest

structure ControlTree where
  /-- The controls in the order of the walk, each at the position of its number. -/
  controls : Array Control := #[]
  /-- The controls by prefixed id; the newest entry of an id comes first and holds. -/
  byPrefixedId : List (String × ControlId) := []
  /-- The controls by the local name of their element. -/
  byName : List (String × List ControlId) := []
  /-- The prefixed ids of the repeats directly inside a repeat. -/
  repeatChildren : List (String × List String) := []
  /-- The repeats in the order of the walk, each followed by the repeat around it, if any. -/
  repeatHierarchy : String := ""
  /-- The attribute controls by the prefixed id they are for and by attribute. -/
  attributeControls : List (String × List (String × ControlId)) := []
  hasOfflineSupport : Bool := false
  offlineInsertTriggerIds : List String := []
  /-- The bodies of scripts by prefixed id. -/
  scripts : List (String × String) := []
  deriving Repr, Inhabited

namespace ControlTree

def size (t : ControlTree) : Nat := t.controls.size

def get? (t : ControlTree) (c : ControlId) : Option Control := t.controls[c]?

/-- The number of the control with a prefixed id. -/
def id? (t : ControlTree) (prefixedId : String) : Option ControlId :=
  t.byPrefixedId.lookup prefixedId

def control? (t : ControlTree) (prefixedId : String) : Option Control :=
  (t.id? prefixedId).bind t.get?

def contains (t : ControlTree) (prefixedId : String) : Bool := (t.id? prefixedId).isSome

/-- The control with a number is changed. -/
def modify (t : ControlTree) (c : ControlId) (f : Control → Control) : ControlTree :=
  { t with controls := t.controls.modify c f }

def hasNodeBinding (t : ControlTree) (prefixedId : String) : Bool :=
  (t.control? prefixedId).any (·.hasNodeBinding)

def support? (t : ControlTree) (prefixedId : String) (k : SupportKind) : Option Support :=
  (t.control? prefixedId).bind fun c => c.support? k

/-- A prefixed id with iterations of repeats, less the iterations: what stands before the first
middle dot. -/
def prefixedIdOfEffective (effectiveId : String) : String :=
  String.ofList (effectiveId.toList.takeWhile (· != '·'))

/-- The control has a value; its id may carry iterations. -/
def isValueControl (t : ControlTree) (effectiveId : String) : Bool :=
  (t.control? (prefixedIdOfEffective effectiveId)).any (·.hasValue)

/-- The prefixed ids of the repeats directly inside a repeat. -/
def childrenOfRepeat (t : ControlTree) (prefixedId : String) : List String :=
  (t.repeatChildren.lookup prefixedId).getD []

/-- The repeats in the order of the walk. -/
def repeats (t : ControlTree) : List Control := t.controls.toList.filter (·.isRepeat)

def hasControlNamed (t : ControlTree) (localName : String) : Bool :=
  (t.byName.lookup localName).isSome

def controlsNamed (t : ControlTree) (localName : String) : List Control :=
  ((t.byName.lookup localName).getD []).filterMap t.get?

def hasAttributeControl (t : ControlTree) (forPrefixedId : String) : Bool :=
  (t.attributeControls.lookup forPrefixedId).isSome

def attributeControl? (t : ControlTree) (forPrefixedId name : String) : Option Control :=
  ((t.attributeControls.lookup forPrefixedId).bind (·.lookup name)).bind t.get?

/-- The first `fuel` repeats of the chain that starts at a control's nearest repeat. -/
def repeatChainWithin (t : ControlTree) : Nat → Option ControlId → List Control
  | 0, _ => []
  | _ + 1, none => []
  | fuel + 1, some r =>
    match t.get? r with
    | none => []
    | some c => c :: t.repeatChainWithin fuel c.ancestorRepeat

/-- The repeats around a control, innermost first. -/
def repeatChain (t : ControlTree) (c : Control) : List Control :=
  t.repeatChainWithin t.size c.ancestorRepeat

/-- The prefixed ids of the repeats around a control, innermost first, up to but without `stop`. -/
def ancestorRepeats (t : ControlTree) (c : Control) (stop : Option String) : List String :=
  ((t.repeatChain c).map (·.prefixedId)).takeWhile fun id => some id != stop

/-- The classes of a control are added to a text, after a blank if it is not empty. -/
def appendClasses (t : ControlTree) (text prefixedId : String) : String :=
  match (t.control? prefixedId).bind (·.classString?) with
  | none => text
  | some classes => if text.isEmpty then classes else text ++ " " ++ classes

end ControlTree

end FormEngine
