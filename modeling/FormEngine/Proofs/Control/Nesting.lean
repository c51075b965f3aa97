import FormEngine.Proofs.Control.Place
import FormEngine.Proofs.Outwards
/-!
# How the records of controls depend on each other

The builder makes the record of a control when the walk comes to it, out of the record of the
innermost control that is open then; later controls change the record once more when they are
repeats inside it. A standing is what other controls can refer to in a record, and the records of a
tree nest when the standing of each control follows from that of its parent, and the repeats listed
in a repeat and the groups by name from the standings of all controls. Every visit of the walk keeps
that, and with it that the controls are those of the visits so far and that what is open can hold
others.

How deep an element stands in the markup is not the subject here: transparent markup around a control
leaves no trace in its record.
-/

namespace FormEngine

/-! ## What controls say of each other -/

def Control.isComponent (c : Control) : Bool := c.kind == .component

/-- The repeats listed in a repeat. -/
def Control.nested (c : Control) : List ControlId :=
  match c.kind with
  | .repetition nested => nested
  | _ => []

/-- What other controls can refer to in the record of a control. -/
structure Standing where
  element : ElementRef
  name : QName
  id : ControlId
  parent : Option ControlId
  level : Nat
  isContainer : Bool
  isComponent : Bool
  isRepeat : Bool
  ancestorRepeat : Option ControlId

def Control.standing (c : Control) : Standing :=
  { element := c.element, name := c.name, id := c.id, parent := c.parent, level := c.level
    isContainer := c.isContainer, isComponent := c.isComponent, isRepeat := c.isRepeat
    ancestorRepeat := c.ancestorRepeat }

/-- A control with this standing can hold others. -/
def Standing.Holds (s : Standing) : Prop := s.isContainer = true ∨ s.isComponent = true

/-- The standing of the control with number `i` follows from that of its parent. -/
inductive Standing.Fits (l : List Standing) (i : ControlId) (s : Standing) : Prop
  | top (hid : s.id = i) (hparent : s.parent = none) (hlevel : s.level = 0)
      (hrepeat : s.ancestorRepeat = none)
  | under {p : ControlId} {q : Standing} (hid : s.id = i) (hparent : s.parent = some p)
      (hlt : p < i) (hq : l[p]? = some q) (hholds : q.Holds) (hlevel : s.level = q.level + 1)
      (hrepeat : s.ancestorRepeat = if q.isRepeat then some p else q.ancestorRepeat)

/-- The repeats whose nearest repeat is the control with number `i`. -/
def repeatsIn (l : List Standing) (i : ControlId) : List ControlId :=
  (l.filter fun s => s.isRepeat && s.ancestorRepeat == some i).map (·.id)

/-- The controls with a local name. -/
def namedIn (l : List Standing) (localName : String) : List ControlId :=
  (l.filter fun s => s.name.localName == localName).map (·.id)

namespace ControlTree

def standings (t : ControlTree) : List Standing := t.controls.toList.map Control.standing

def nestings (t : ControlTree) : List (List ControlId) := t.controls.toList.map Control.nested

/-- The records of a tree agree with each other. -/
structure Nests (t : ControlTree) : Prop where
  fits : ∀ (i : ControlId) (s : Standing), t.standings[i]? = some s → s.Fits t.standings i
  nested : ∀ (i : ControlId) (s : Standing) (ids : List ControlId), t.standings[i]? = some s →
    t.nestings[i]? = some ids → s.isRepeat = true → ids = repeatsIn t.standings i
  names : (t.byName.map Prod.fst).Nodup
  groups : ∀ name, t.byName.lookup name =
    if namedIn t.standings name = [] then none else some (namedIn t.standings name)

end ControlTree

/-! ## Small laws -/

theorem standing_setSupport (c : Control) (s : Support) : (c.setSupport s).standing = c.standing :=
  rfl

theorem nested_setSupport (c : Control) (s : Support) : (c.setSupport s).nested = c.nested := rfl

theorem standing_addNested (c : Control) (r : ControlId) : (c.addNested r).standing = c.standing := by
  unfold Control.addNested
  split
  · rename_i nested hkind
    simp [Control.standing, Control.isComponent, Control.isRepeat, hkind]
  · rfl

theorem nested_addNested {c : Control} (h : c.isRepeat = true) (r : ControlId) :
    (c.addNested r).nested = c.nested ++ [r] := by
  unfold Control.isRepeat at h
  split at h
  · rename_i nested hkind
    simp [Control.addNested, Control.nested, hkind]
  · contradiction

theorem foldl_setSupport (ss : List Support) (c : Control) :
    (ss.foldl Control.setSupport c).standing = c.standing ∧
      (ss.foldl Control.setSupport c).nested = c.nested := by
  induction ss generalizing c with
  | nil => exact ⟨rfl, rfl⟩
  | cons s ss ih =>
    rw [List.foldl_cons, (ih _).1, (ih _).2, standing_setSupport, nested_setSupport]
    exact ⟨rfl, rfl⟩

/-- A control is numbered by its place. -/
theorem Standing.Fits.id_eq {l : List Standing} {i : ControlId} {s : Standing} (h : s.Fits l i) :
    s.id = i := by
  cases h <;> assumption

theorem Standing.Fits.append {l : List Standing} {i : ControlId} {s : Standing} (h : s.Fits l i)
    (l' : List Standing) : s.Fits (l ++ l') i := by
  cases h with
  | top hid hparent hlevel hrepeat => exact .top hid hparent hlevel hrepeat
  | @under p q hid hparent hlt hq hholds hlevel hrepeat =>
    have hp : p < l.length := (List.getElem?_eq_some_iff.1 hq).1
    exact .under hid hparent hlt ((List.getElem?_append_left hp).trans hq) hholds hlevel hrepeat

theorem repeatsIn_concat (l : List Standing) (s : Standing) (i : ControlId) :
    repeatsIn (l ++ [s]) i =
      repeatsIn l i ++ if s.isRepeat && s.ancestorRepeat == some i then [s.id] else [] := by
  rw [repeatsIn, List.filter_append, List.map_append, List.filter_singleton, repeatsIn]
  cases s.isRepeat && s.ancestorRepeat == some i <;> rfl

theorem namedIn_concat (l : List Standing) (s : Standing) (localName : String) :
    namedIn (l ++ [s]) localName =
      namedIn l localName ++ if s.name.localName == localName then [s.id] else [] := by
  rw [namedIn, List.filter_append, List.map_append, List.filter_singleton, namedIn]
  cases s.name.localName == localName <;> rfl

theorem keys_pushUnder {α : Type} (key : String) (a : α) (m : List (String × List α)) :
    (pushUnder key a m).map Prod.fst =
      if key ∈ m.map Prod.fst then m.map Prod.fst else m.map Prod.fst ++ [key] := by
  induction m with
  | nil => rfl
  | cons e m ih =>
    unfold pushUnder
    by_cases hkey : e.1 = key
    · simp [hkey]
    · rw [if_neg hkey, List.map_cons, ih]
      by_cases hmem : key ∈ m.map Prod.fst
      · simp [hmem]
      · simp [hmem, Ne.symm hkey]

theorem lookup_pushUnder {α : Type} (key name : String) (a : α) (m : List (String × List α)) :
    (pushUnder key a m).lookup name =
      if name = key then some ((m.lookup key).getD [] ++ [a]) else m.lookup name := by
  induction m with
  | nil =>
    by_cases hname : name = key
    · simp [pushUnder, hname]
    · simp [pushUnder, hname]
  | cons e m ih =>
    obtain ⟨k, as⟩ := e
    unfold pushUnder
    by_cases hkey : k = key
    · subst hkey
      by_cases hname : name = k
      · simp [hname]
      · simp [hname, List.lookup_cons, beq_eq_false_iff_ne.2 hname]
    · rw [if_neg hkey, List.lookup_cons, List.lookup_cons, List.lookup_cons, ih,
        beq_eq_false_iff_ne.2 (Ne.symm hkey)]
      by_cases hname : name = key
      · subst hname
        simp [beq_eq_false_iff_ne.2 (Ne.symm hkey)]
      · simp [hname]

/-! ## The visits of a walk -/

/-- The element that a visit begins a control at, with its class. -/
def Visit.begins? : Visit → Option (ElementRef × ElementClass)
  | .enter e k => some (e, k)
  | .leaf e k => some (e, k)
  | _ => none

/-- The visit is one that the walk makes: controls are entered when they can hold others. -/
inductive Visit.Proper (f : Form) : Visit → Prop
  | enter {e : ElementRef} {name : QName} {k : ElementClass} (hname : f.name? e = some name)
      (hclass : f.scopes.classify name = some k) (hk : k = .container ∨ k = .component) :
      Proper f (.enter e k)
  | leaf {e : ElementRef} {name : QName} {k : ElementClass} (hname : f.name? e = some name)
      (hclass : f.scopes.classify name = some k) (hk : k = .leaf ∨ k = .variable) :
      Proper f (.leaf e k)
  | leave : Proper f .leave
  | support (e : ElementRef) : Proper f (.support e)

/-- What the walk does at an element. -/
inductive Form.Walks (f : Form) (under : ElementRef → Bool → Except Stop (List Visit))
    (inComponent : Bool) (e : ElementRef) : List Visit → Prop
  | text (hname : f.name? e = none) : Walks f under inComponent e []
  | container {name : QName} {ws : List Visit} (hname : f.name? e = some name)
      (hclass : f.scopes.classify name = some .container) (hunder : under e false = .ok ws) :
      Walks f under inComponent e (.enter e .container :: ws ++ [.leave])
  /-- An instance without a shadow tree. -/
  | bare {name : QName} (hname : f.name? e = some name)
      (hclass : f.scopes.classify name = some .component) (hroot : f.expansion? e = none) :
      Walks f under inComponent e (.enter e .component :: [] ++ [.leave])
  | component {name : QName} {root : ElementRef} {ws : List Visit} (hname : f.name? e = some name)
      (hclass : f.scopes.classify name = some .component) (hroot : f.expansion? e = some root)
      (hunder : under root true = .ok ws) :
      Walks f under inComponent e (.enter e .component :: ws ++ [.leave])
  | leaf {name : QName} {k : ElementClass} (hname : f.name? e = some name)
      (hclass : f.scopes.classify name = some k) (hk : k = .leaf ∨ k = .variable) :
      Walks f under inComponent e [.leaf e k]
  | support {name : QName} (hname : f.name? e = some name)
      (hclass : f.scopes.classify name = some .support) :
      Walks f under inComponent e (if inComponent then [] else [.support e])
  /-- Markup that is not entered. -/
  | closed {name : QName} (hname : f.name? e = some name) (hclass : f.scopes.classify name = none)
      (hclosed : f.isOpaque e name = true) : Walks f under inComponent e []
  | transparent {name : QName} {vs : List Visit} (hname : f.name? e = some name)
      (hclass : f.scopes.classify name = none) (hopen : f.isOpaque e name = false)
      (hunder : under e inComponent = .ok vs) : Walks f under inComponent e vs

/-- **A walk that goes on without an error does one of these.** -/
theorem walks_of_visitsAt {f : Form} {under : ElementRef → Bool → Except Stop (List Visit)}
    {inComponent : Bool} {e : ElementRef} {vs : List Visit}
    (h : f.visitsAt under inComponent e = .ok vs) : f.Walks under inComponent e vs := by
  unfold Form.visitsAt at h
  cases hname : f.name? e with
  | none =>
    simp only [hname] at h
    obtain rfl := Except.ok.inj h
    exact .text hname
  | some name =>
    simp only [hname] at h
    cases hclass : f.scopes.classify name with
    | none =>
      simp only [hclass] at h
      split at h
      · obtain rfl := Except.ok.inj h
        exact .closed hname hclass ‹_›
      · exact .transparent hname hclass (Bool.eq_false_iff.2 ‹_›) h
    | some k =>
      cases k <;> simp only [hclass] at h
      · -- a container
        obtain ⟨ws, hws, h⟩ := ok_of_bind h
        obtain rfl := Except.ok.inj h
        exact .container hname hclass hws
      · -- a control without children
        obtain rfl := Except.ok.inj h
        exact .leaf hname hclass (.inl rfl)
      · -- a component instance, with a shadow tree or without
        split at h
        · obtain rfl := Except.ok.inj h
          exact .bare hname hclass ‹_›
        · obtain ⟨ws, hws, h⟩ := ok_of_bind h
          obtain rfl := Except.ok.inj h
          exact .component hname hclass ‹_› hws
      · -- a variable
        obtain rfl := Except.ok.inj h
        exact .leaf hname hclass (.inr rfl)
      · -- a support element
        obtain rfl := Except.ok.inj h
        exact .support hname hclass

theorem proper_of_visitsAt {f : Form} {under : ElementRef → Bool → Except Stop (List Visit)}
    (hunder : ∀ e inComponent vs, under e inComponent = .ok vs → ∀ v ∈ vs, v.Proper f)
    {inComponent : Bool} {e : ElementRef} {vs : List Visit}
    (h : f.visitsAt under inComponent e = .ok vs) : ∀ v ∈ vs, v.Proper f := by
  have haround : ∀ {v : Visit} {ws : List Visit}, v.Proper f → (∀ w ∈ ws, w.Proper f) →
      ∀ w ∈ v :: ws ++ [.leave], w.Proper f := by
    intro v ws hv hws w hw
    rw [List.mem_append, List.mem_cons, List.mem_singleton] at hw
    rcases hw with (rfl | hw) | rfl
    · exact hv
    · exact hws w hw
    · exact .leave
  cases walks_of_visitsAt h with
  | text hname => exact List.forall_mem_nil _
  | @container name ws hname hclass hws =>
    exact haround (.enter hname hclass (.inl rfl)) (hunder e false ws hws)
  | bare hname hclass hroot => exact haround (.enter hname hclass (.inr rfl)) (List.forall_mem_nil _)
  | @component name root ws hname hclass hroot hws =>
    exact haround (.enter hname hclass (.inr rfl)) (hunder root true ws hws)
  | leaf hname hclass hk => exact List.forall_mem_singleton.2 (.leaf hname hclass hk)
  | support hname hclass =>
    split
    · exact List.forall_mem_nil _
    · exact List.forall_mem_singleton.2 (.support e)
  | closed hname hclass hclosed => exact List.forall_mem_nil _
  | transparent hname hclass hopen hws => exact hunder e inComponent vs hws

theorem proper_of_visitsUnder {f : Form} {fuel : Nat} {e : ElementRef} {inComponent : Bool}
    {vs : List Visit} (h : f.visitsUnder fuel e inComponent = .ok vs) : ∀ v ∈ vs, v.Proper f := by
  induction fuel generalizing e inComponent vs with
  | zero => contradiction
  | succ fuel ih =>
    rw [Form.visitsUnder] at h
    obtain ⟨parts, hparts, h⟩ := ok_of_bind h
    obtain rfl := Except.ok.inj h
    intro v hv
    obtain ⟨part, hpart, hv⟩ := List.mem_flatten.1 hv
    obtain ⟨c, -, hc⟩ := exists_mem_of_mapM hparts hpart
    exact proper_of_visitsAt (fun _ _ _ hunder => ih hunder) hc v hv

/-! ## What a control adds to the tree -/

namespace ControlTree

variable {t : ControlTree}

theorem getElem?_standings (t : ControlTree) (i : ControlId) :
    t.standings[i]? = (t.get? i).map Control.standing := by
  rw [standings, List.getElem?_map, Array.getElem?_toList, get?]

theorem getElem?_standings_of_get? {i : ControlId} {c : Control} (h : t.get? i = some c) :
    t.standings[i]? = some c.standing := by
  rw [getElem?_standings, h, Option.map_some]

theorem standing_mem_standings {i : ControlId} {c : Control} (h : t.get? i = some c) :
    c.standing ∈ t.standings :=
  List.mem_of_getElem? (getElem?_standings_of_get? h)

theorem getElem?_nestings (t : ControlTree) (i : ControlId) :
    t.nestings[i]? = (t.get? i).map Control.nested := by
  rw [nestings, List.getElem?_map, Array.getElem?_toList, get?]

theorem length_standings (t : ControlTree) : t.standings.length = t.size := by
  rw [standings, List.length_map, Array.length_toList, size]

/-- The nearest repeat around a control is an earlier repeat. -/
theorem Nests.ancestorRepeat (h : t.Nests) {i r : ControlId} {s : Standing}
    (hs : s.Fits t.standings i) (hr : s.ancestorRepeat = some r) :
    r < i ∧ ∃ q, t.standings[r]? = some q ∧ q.isRepeat = true := by
  induction i using Nat.strongRecOn generalizing s with
  | _ i ih =>
    cases hs with
    | top hid hparent hlevel hrepeat =>
      rw [hrepeat] at hr
      contradiction
    | @under p q hid hparent hlt hq hholds hlevel hrepeat =>
      rw [hrepeat] at hr
      split at hr
      · obtain rfl := Option.some.inj hr
        exact ⟨hlt, q, hq, ‹_›⟩
      · obtain ⟨hrp, hrepeat⟩ := ih p hlt (h.fits p q hq) hr
        exact ⟨Nat.lt_trans hrp hlt, hrepeat⟩

/-- A control is in no repeat that stands later. -/
theorem Nests.not_in_later (h : t.Nests) {i : ControlId} {s : Standing}
    (hs : s.Fits t.standings i) (hle : i ≤ t.standings.length) :
    (s.isRepeat && s.ancestorRepeat == some t.standings.length) = false := by
  rw [← Bool.not_eq_true, Bool.and_eq_true, beq_iff_eq]
  rintro ⟨-, hancestor⟩
  exact Nat.lt_irrefl _ (Nat.lt_of_lt_of_le (h.ancestorRepeat hs hancestor).1 hle)

/-- Changes of records that no other control refers to. -/
theorem Nests.congr (h : t.Nests) {t' : ControlTree} (hstandings : t'.standings = t.standings)
    (hnestings : t'.nestings = t.nestings) (hnames : t'.byName = t.byName) : t'.Nests := by
  refine ⟨?_, ?_, ?_, ?_⟩
  · rw [hstandings]
    exact h.fits
  · rw [hstandings, hnestings]
    exact h.nested
  · rw [hnames]
    exact h.names
  · rw [hstandings, hnames]
    exact h.groups

end ControlTree

namespace TreeBuilder

/-- The standing of a control that begins in the control `container`. -/
def begun (l : List Standing) (container : Option ControlId) (e : ElementRef) (name : QName)
    (k : ElementClass) : Standing :=
  let outer := container.bind (l[·]?)
  { element := e, name, id := l.length, parent := container
    level := (outer.map fun q => q.level + 1).getD 0
    isContainer := k == .container, isComponent := k == .component
    isRepeat := name.is Namespace.xforms "repeat"
    ancestorRepeat := outer.bind fun q => if q.isRepeat then some q.id else q.ancestorRepeat }

/-- The kind of a control says whether it is a repeat or an instance, as its name and class do. -/
theorem kind_of_kindOf {f : Form} {e : ElementRef} {name : QName} {k : ElementClass}
    {staticId : String} {c : Control} (hclass : f.scopes.classify name = some k)
    (h : kindOf f e k name staticId = .ok c.kind) :
    c.isComponent = (k == .component) ∧ c.isRepeat = name.is Namespace.xforms "repeat" ∧
      c.nested = [] := by
  unfold kindOf at h
  split at h
  · rename_i hrepeat
    have hk : k = .container := by
      rw [ScopeTree.classify, if_pos] at hclass
      · exact (Option.some.inj hclass).symm
      · rw [QName.is_iff] at hrepeat
        simp [QName.isContainerControl, hrepeat.1, hrepeat.2]
    have hkind := Except.ok.inj h
    subst hk
    simp [Control.isComponent, Control.isRepeat, Control.nested, ← hkind, hrepeat]
  · rename_i hrepeat
    rw [Bool.not_eq_true] at hrepeat
    split at h
    · rename_i hattribute
      obtain ⟨target, -, h⟩ := ok_of_bind h
      obtain ⟨a, -, h⟩ := ok_of_bind h
      have hkind := Except.ok.inj h
      have hk : k = .leaf := by
        rw [QName.is_iff] at hattribute
        simpa [ScopeTree.classify, QName.isContainerControl, QName.isCoreControl,
          QName.isValueControl, QName.is, hattribute.1, hattribute.2, Namespace.xforms,
          Namespace.xxforms, eq_comm] using hclass
      subst hk
      simp [Control.isComponent, Control.isRepeat, Control.nested, ← hkind, hrepeat]
    · cases k <;> have hkind := Except.ok.inj h <;>
        simp [Control.isComponent, Control.isRepeat, Control.nested, ← hkind, hrepeat]

theorem standing_controlOf {b : TreeBuilder} {f : Form} {e : ElementRef} {name : QName}
    {k : ElementClass} {c : Control} (hname : f.name? e = some name)
    (hclass : f.scopes.classify name = some k) (h : b.controlOf f e k = .ok c) :
    c.standing = begun b.tree.standings b.container? e name k ∧ c.nested = [] := by
  unfold controlOf at h
  simp only [hname, Option.getD_some] at h
  cases hid : f.staticId? e with
  | none =>
    rw [hid] at h
    contradiction
  | some staticId =>
    rw [hid] at h
    obtain ⟨kind, hkind, h⟩ := ok_of_bind h
    have hc := Except.ok.inj h
    -- the supports of the control do not matter, so take the record without them
    generalize hbare : Control.mk _ _ _ _ _ _ _ _ _ _ _ _ _ _ _ _ = bare at hc
    have hsame : c.standing = bare.standing ∧ c.nested = bare.nested := by
      rw [← hc]
      split
      · exact ⟨rfl, rfl⟩
      · exact foldl_setSupport _ _
    rw [hsame.1, hsame.2]
    have hkind' : kindOf f e k name staticId = .ok bare.kind := by rw [hkind, ← hbare]
    obtain ⟨hcomponent, hrepeat, hnested⟩ := kind_of_kindOf hclass hkind'
    refine ⟨?_, hnested⟩
    rw [Control.standing, hcomponent, hrepeat, ← hbare, begun, ControlTree.length_standings]
    cases hb : b.container? with
    | none => rfl
    | some p =>
      simp only [Option.bind_some, ControlTree.getElem?_standings]
      cases b.tree.get? p <;> rfl

theorem begun_fits {l : List Standing}
    (hids : ∀ (i : ControlId) (s : Standing), l[i]? = some s → s.id = i)
    {container : Option ControlId}
    (hopened : ∀ p, container = some p → ∃ q, l[p]? = some q ∧ q.Holds) (e : ElementRef)
    (name : QName) (k : ElementClass) : (begun l container e name k).Fits l l.length := by
  cases container with
  | none => exact .top rfl rfl rfl rfl
  | some p =>
    obtain ⟨q, hq, hholds⟩ := hopened p rfl
    refine .under rfl rfl (List.getElem?_eq_some_iff.1 hq).1 hq hholds ?_ ?_
    · simp [begun, hq]
    · simp [begun, hq, hids p q hq]

theorem standings_indexKind (t : ControlTree) (c : Control) :
    (indexKind t c).standings = t.standings :=
  map_controls_indexKind standing_addNested t c

theorem standings_addControl (t : ControlTree) (c : Control) :
    (addControl t c).standings = t.standings ++ [c.standing] :=
  map_controls_addControl standing_addNested t c

theorem byName_addControl (t : ControlTree) (c : Control) :
    (addControl t c).byName = pushUnder c.name.localName c.id t.byName := by
  have hindex : (indexKind t c).byName = t.byName := by
    unfold indexKind
    split
    · unfold indexRepeat
      cases c.ancestorRepeat.bind t.get? <;> rfl
    · rfl
    · rfl
  rw [addControl, hindex]

/-- A new repeat is listed in the repeat around it, and nowhere else. -/
theorem nestings_addControl {t : ControlTree}
    (hids : ∀ (i : ControlId) (s : Standing), t.standings[i]? = some s → s.id = i) {c : Control}
    {i : ControlId} {outer : Control} (hi : t.get? i = some outer)
    (hrepeat : outer.isRepeat = true) :
    (addControl t c).nestings[i]? = some (outer.nested ++
      if c.isRepeat && c.ancestorRepeat == some i then [c.id] else []) := by
  have hid : ∀ j x, t.get? j = some x → x.id = j :=
    fun j x hj => hids j x.standing (ControlTree.getElem?_standings_of_get? hj)
  have hpush : (addControl t c).get? i = (indexKind t c).controls[i]? := by
    have hlt : i < (indexKind t c).controls.size := by
      have hsize : (indexKind t c).size = t.size := by
        rw [← ControlTree.length_standings, standings_indexKind, ControlTree.length_standings]
      exact lt_of_lt_of_eq (Array.getElem?_eq_some_iff.1 hi).1 hsize.symm
    show ((indexKind t c).controls.push c)[i]? = _
    rw [Array.getElem?_push, if_neg (Nat.ne_of_lt hlt)]
  -- the records stay, and the new one is not listed in the control `i`
  have hsame : ∀ cs : Array Control, cs[i]? = some outer →
      (c.isRepeat && c.ancestorRepeat == some i) = false → cs[i]?.map Control.nested =
        some (outer.nested ++ if c.isRepeat && c.ancestorRepeat == some i then [c.id] else []) := by
    intro cs hcs hnot
    rw [hcs, hnot, if_neg Bool.false_ne_true, List.append_nil, Option.map_some]
  rw [ControlTree.getElem?_nestings, hpush, controls_indexKind]
  cases hr : if c.isRepeat then c.ancestorRepeat.bind t.get? else none with
  | none =>
    refine hsame t.controls hi ?_
    rw [← Bool.not_eq_true, Bool.and_eq_true, beq_iff_eq]
    rintro ⟨hnew, hancestor⟩
    rw [if_pos hnew, hancestor, Option.bind_some, hi] at hr
    contradiction
  | some r =>
    obtain ⟨hnew, hr⟩ := Option.ite_none_right_eq_some.1 hr
    obtain ⟨j, hj, hget⟩ := Option.bind_eq_some_iff.1 hr
    obtain rfl := hid j r hget
    by_cases hir : r.id = i
    · subst hir
      obtain rfl := Option.some.inj (hget.symm.trans hi)
      have hmodify : (t.controls.modify r.id fun x => x.addNested c.id)[r.id]? =
          (t.get? r.id).map fun x => x.addNested c.id := by
        rw [Array.getElem?_modify, if_pos rfl]
        rfl
      show Option.map _ (t.controls.modify r.id fun x => x.addNested c.id)[r.id]? = _
      rw [hmodify, hi, Option.map_some, Option.map_some, nested_addNested hrepeat, hnew, hj,
        Bool.true_and, if_pos (beq_self_eq_true _)]
    · refine hsame _ ?_ ?_
      · rw [Array.getElem?_modify, if_neg hir]
        exact hi
      · rw [hj, Bool.and_eq_false_iff]
        exact .inr (beq_eq_false_iff_ne.2 fun h => hir (Option.some.inj h))

/-- The new control stands at the end. -/
theorem get?_addControl_new (t : ControlTree) (c : Control) :
    (addControl t c).get? t.standings.length = some c := by
  have hsize : t.standings.length = (indexKind t c).controls.size := by
    rw [← standings_indexKind t c, ControlTree.length_standings]
    rfl
  show ((indexKind t c).controls.push c)[t.standings.length]? = some c
  rw [hsize, Array.getElem?_push, if_pos rfl]

theorem fits_addControl {t : ControlTree} (h : t.Nests) {c : Control}
    (hfits : c.standing.Fits t.standings t.standings.length) {i : ControlId} {s : Standing}
    (hs : (addControl t c).standings[i]? = some s) : s.Fits (addControl t c).standings i := by
  rw [standings_addControl] at hs ⊢
  rcases getElem?_concat hs with hs | ⟨rfl, rfl⟩
  · exact (h.fits i s hs).append _
  · exact hfits.append _

/-- Repeats are listed in the repeat around them, the new one too. -/
theorem nested_addControl {t : ControlTree} (h : t.Nests) {c : Control}
    (hfits : c.standing.Fits t.standings t.standings.length) (hnested : c.nested = [])
    {i : ControlId} {s : Standing} {ids : List ControlId}
    (hs : (addControl t c).standings[i]? = some s) (hids : (addControl t c).nestings[i]? = some ids)
    (hrepeat : s.isRepeat = true) : ids = repeatsIn (addControl t c).standings i := by
  rw [standings_addControl] at hs ⊢
  rw [repeatsIn_concat]
  rcases getElem?_concat hs with hs | ⟨rfl, rfl⟩
  · -- a control that was there lists the new one if that is a repeat in it
    rw [ControlTree.getElem?_standings, Option.map_eq_some_iff] at hs
    obtain ⟨x, hx, rfl⟩ := hs
    have hlisted := nestings_addControl (fun i s hs => (h.fits i s hs).id_eq) (c := c) hx hrepeat
    rw [hids] at hlisted
    have hbefore := h.nested i x.standing x.nested (ControlTree.getElem?_standings_of_get? hx)
      (by rw [ControlTree.getElem?_nestings, hx]; rfl) hrepeat
    rw [Option.some.inj hlisted, ← hbefore]
    rfl
  · -- the new control is around no control
    have hnew : ids = [] := by
      rw [ControlTree.getElem?_nestings, get?_addControl_new, Option.map_some, hnested] at hids
      exact (Option.some.inj hids).symm
    have hbefore : repeatsIn t.standings t.standings.length = [] := by
      rw [repeatsIn, List.map_eq_nil_iff, List.filter_eq_nil_iff]
      intro s hs
      obtain ⟨i, hi⟩ := List.getElem?_of_mem hs
      rw [h.not_in_later (h.fits i s hi) (Nat.le_of_lt (List.getElem?_eq_some_iff.1 hi).1)]
      exact Bool.false_ne_true
    rw [hnew, hbefore, h.not_in_later hfits (Nat.le_refl _)]
    rfl

theorem names_addControl {t : ControlTree} (h : t.Nests) (c : Control) :
    ((addControl t c).byName.map Prod.fst).Nodup := by
  rw [byName_addControl, keys_pushUnder]
  split
  · exact h.names
  · rename_i hkey
    rw [List.nodup_append]
    refine ⟨h.names, List.pairwise_singleton _ _, ?_⟩
    rintro a ha b hb rfl
    rw [List.mem_singleton] at hb
    exact hkey (hb ▸ ha)

theorem groups_addControl {t : ControlTree} (h : t.Nests) (c : Control) (name : String) :
    (addControl t c).byName.lookup name =
      if namedIn (addControl t c).standings name = [] then none
      else some (namedIn (addControl t c).standings name) := by
  rw [byName_addControl, lookup_pushUnder, standings_addControl, namedIn_concat]
  by_cases hname : name = c.name.localName
  · subst hname
    have hself : (c.standing.name.localName == c.name.localName) = true := beq_self_eq_true _
    rw [if_pos rfl, hself, if_pos rfl, if_neg (by simp), h.groups]
    refine congrArg some ?_
    split
    · rename_i hnone
      rw [hnone]
      rfl
    · rfl
  · have hother : (c.standing.name.localName == name) = false :=
      beq_eq_false_iff_ne.2 (Ne.symm hname)
    rw [if_neg hname, hother, if_neg Bool.false_ne_true, List.append_nil]
    exact h.groups name

theorem nests_addControl {t : ControlTree} (h : t.Nests) {c : Control}
    (hfits : c.standing.Fits t.standings t.standings.length) (hnested : c.nested = []) :
    (addControl t c).Nests where
  fits _ _ hs := fits_addControl h hfits hs
  nested _ _ _ hs hids hrepeat := nested_addControl h hfits hnested hs hids hrepeat
  names := names_addControl h c
  groups := groups_addControl h c

/-! ## The steps -/

theorem standings_modify_setSupport (t : ControlTree) (i : ControlId) (s : Support) :
    (t.modify i fun c => c.setSupport s).standings = t.standings :=
  map_modify_same fun c => standing_setSupport c s

/-- A support element changes neither what agrees nor what others refer to. -/
theorem nests_modify_setSupport {l : List Standing} (t : ControlTree) (i : ControlId) (s : Support)
    (h : t.Nests ∧ t.standings = l) : (t.modify i fun c => c.setSupport s).Nests ∧
      (t.modify i fun c => c.setSupport s).standings = l := by
  have hsame := standings_modify_setSupport t i s
  exact ⟨h.1.congr hsame (map_modify_same fun c => nested_setSupport c s) rfl, hsame.trans h.2⟩

/-- The controls so far agree with each other and with the visits so far, and those that are open
can hold others. -/
structure Nested (f : Form) (visits : List Visit) (b : TreeBuilder) : Prop where
  nests : b.tree.Nests
  opened : ∀ p, some p ∈ b.frames.map Frame.control → ∃ q, b.tree.standings[p]? = some q ∧ q.Holds
  begun : b.tree.standings.map (fun s => (s.element, s.isComponent)) =
    (visits.filterMap Visit.begins?).map fun v => (v.1, v.2 == .component)
  named : ∀ s ∈ b.tree.standings, f.name? s.element = some s.name

/-- A control that is met is not open yet, and declaring a variable opens and closes nothing. -/
theorem frames_start {b b' : TreeBuilder} {f : Form} {e : ElementRef} {k : ElementClass}
    (h : b.start f e k = .ok b') : b'.frames.map Frame.control = b.frames.map Frame.control := by
  obtain ⟨c, -, h⟩ := ok_of_bind h
  obtain rfl := Except.ok.inj h
  split
  · unfold declareVariable
    split
    · rfl
    · rename_i htop
      rw [htop]
      rfl
  · rfl

/-- The standing of a control that is met joins those that there are. -/
theorem standings_start {b b' : TreeBuilder} {f : Form} {e : ElementRef} {name : QName}
    {k : ElementClass} (hname : f.name? e = some name) (hclass : f.scopes.classify name = some k)
    (h : b.start f e k = .ok b') : b'.tree.standings =
      b.tree.standings ++ [TreeBuilder.begun b.tree.standings b.container? e name k] := by
  obtain ⟨c, hc, htree⟩ := tree_start h
  rw [htree, standings_addControl, (standing_controlOf hname hclass hc).1]

theorem Nested.start {f : Form} {visits : List Visit} {b b' : TreeBuilder} (h : Nested f visits b)
    {v : Visit} {e : ElementRef} {name : QName} {k : ElementClass} (hv : v.begins? = some (e, k))
    (hname : f.name? e = some name) (hclass : f.scopes.classify name = some k)
    (hstart : b.start f e k = .ok b') :
    Nested f (visits ++ [v]) b' ∧ b'.frames.map Frame.control = b.frames.map Frame.control ∧
      b'.tree.standings = b.tree.standings ++ [TreeBuilder.begun b.tree.standings b.container? e name k] := by
  obtain ⟨c, hc, htree⟩ := tree_start hstart
  obtain ⟨hstanding, hnested⟩ := standing_controlOf hname hclass hc
  have hframes := frames_start hstart
  have hstandings := standings_start hname hclass hstart
  have hopened : ∀ p, b.container? = some p → ∃ q, b.tree.standings[p]? = some q ∧ q.Holds := by
    intro p hp
    refine h.opened p ?_
    obtain ⟨fr, hfr, hp⟩ := Option.bind_eq_some_iff.1 hp
    exact List.mem_map.2 ⟨fr, List.mem_of_head? hfr, hp⟩
  have hfits := begun_fits (fun i s hs => (h.nests.fits i s hs).id_eq) hopened e name k
  refine ⟨⟨?_, ?_, ?_, ?_⟩, hframes, hstandings⟩
  · rw [htree]
    exact nests_addControl h.nests (hstanding ▸ hfits) hnested
  · intro p hp
    rw [hframes] at hp
    obtain ⟨q, hq, hholds⟩ := h.opened p hp
    rw [hstandings]
    exact ⟨q, (List.getElem?_append_left (List.getElem?_eq_some_iff.1 hq).1).trans hq, hholds⟩
  · rw [hstandings, List.map_append, h.begun, List.filterMap_append, List.filterMap_cons, hv,
      List.map_append]
    rfl
  · intro s hs
    rw [hstandings, List.mem_append, List.mem_singleton] at hs
    rcases hs with hs | rfl
    · exact h.named s hs
    · exact hname

theorem Nested.step {f : Form} {visits : List Visit} {b b' : TreeBuilder} (h : Nested f visits b)
    {v : Visit} (hv : v.Proper f) (hstep : TreeBuilder.step f b v = .ok b') :
    Nested f (visits ++ [v]) b' := by
  -- a visit that begins no control
  have hsame : v.begins? = none → b'.tree.Nests → b'.tree.standings = b.tree.standings →
      (∀ p, some p ∈ b'.frames.map Frame.control → some p ∈ b.frames.map Frame.control) →
      Nested f (visits ++ [v]) b' := by
    intro hnone hnests hstandings hframes
    refine ⟨hnests, ?_, ?_, ?_⟩
    · intro p hp
      rw [hstandings]
      exact h.opened p (hframes p hp)
    · rw [hstandings, h.begun, List.filterMap_append, List.filterMap_cons, hnone,
        List.filterMap_nil, List.append_nil]
    · rw [hstandings]
      exact h.named
  cases hv with
  | @enter e name k hname hclass hk =>
    obtain ⟨b₁, hb₁, hstep⟩ := ok_of_bind hstep
    obtain rfl := Except.ok.inj hstep
    obtain ⟨hnested, hframes, hstandings⟩ := h.start (v := .enter e k) rfl hname hclass hb₁
    refine ⟨hnested.nests, ?_, hnested.begun, hnested.named⟩
    intro p hp
    rcases List.mem_cons.1 hp with hp | hp
    · obtain rfl := Option.some.inj hp
      refine ⟨TreeBuilder.begun b.tree.standings b.container? e name k, ?_, ?_⟩
      · show b₁.tree.standings[b.tree.size]? = _
        rw [hstandings, ← ControlTree.length_standings, List.getElem?_concat_length]
      · rcases hk with rfl | rfl
        · exact .inl rfl
        · exact .inr rfl
    · exact hnested.opened p hp
  | @leaf e name k hname hclass hk => exact (h.start rfl hname hclass hstep).1
  | leave =>
    obtain rfl := Except.ok.inj hstep
    refine hsame rfl h.nests rfl fun p hp => ?_
    rw [List.map_tail] at hp
    exact List.mem_of_mem_tail hp
  | support e =>
    obtain ⟨⟨hnests, hstandings⟩, hframes⟩ :=
      step_support_keeps nests_modify_setSupport hstep ⟨h.nests, rfl⟩
    exact hsame rfl hnests hstandings fun p hp => hframes ▸ hp

theorem nested_empty (f : Form) : Nested f [] {} := by
  refine ⟨⟨?_, ?_, ?_, ?_⟩, ?_, rfl, ?_⟩
  all_goals simp [ControlTree.standings, namedIn]

theorem Nested.run {f : Form} {visits before : List Visit} {b b' : TreeBuilder}
    (h : Nested f before b) (hvisits : ∀ v ∈ visits, v.Proper f)
    (hrun : visits.foldlM (TreeBuilder.step f) b = .ok b') : Nested f (before ++ visits) b' :=
  foldlM_invariant_along hrun h fun v hv _ _ _ hnested hstep => hnested.step (hvisits v hv) hstep

end TreeBuilder

/-- The records of a finished tree agree with each other and with the visits of the walk. -/
theorem nests_buildControlTree {f : Form} {tree : ControlTree} {warnings : List Warning}
    (h : buildControlTree f = .ok (tree, warnings)) :
    ∃ visits, f.visits = .ok visits ∧ tree.Nests ∧
      tree.standings.map (fun s => (s.element, s.isComponent)) =
        (visits.filterMap Visit.begins?).map (fun v => (v.1, v.2 == .component)) ∧
      ∀ s ∈ tree.standings, f.name? s.element = some s.name := by
  obtain ⟨visits, b, hvisits, hb, hsettled⟩ := exists_run h
  have hnested := (TreeBuilder.nested_empty f).run (proper_of_visitsUnder hvisits) hb
  obtain ⟨hnests, hstandings⟩ :=
    TreeBuilder.settled_keeps TreeBuilder.nests_modify_setSupport hsettled ⟨hnested.nests, rfl⟩
  refine ⟨visits, hvisits, hnests, ?_, ?_⟩
  · rw [hstandings]
    exact hnested.begun
  · rw [hstandings]
    exact hnested.named

end FormEngine
