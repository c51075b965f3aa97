import FormEngine.Proofs.Control.Around
import FormEngine.Proofs.Control.Balance
import FormEngine.Proofs.Control.Open
import FormEngine.Proofs.StaticState.Passes
/-!
# The repeats around a control in the markup

The records of controls say which controls are around a control, and the markup says which elements
are around an element. The two agree in the controls document: what is around a control are the
containers above its element, in the same order, since the walk comes to an element through open
markup only and opens a control at each container on the way. Transparent markup leaves no trace. The
repeats around a control are therefore the repeats above its element.
-/

namespace FormEngine

/-! ## The control that holds a control -/

/-- The place of the control with number `p`, or that of the whole form. -/
inductive Standing.At (l : List Standing) : Option ControlId → Option ElementRef → Prop
  | top : At l none none
  | under {p : ControlId} {s : Standing} (hs : l[p]? = some s) : At l (some p) (some s.element)

/-- Each control stands in a place where it may begin, and the repeats are those by name. -/
structure Standing.Held (R : Option ElementRef → ElementRef → Prop) (l : List Standing) : Prop where
  stands : ∀ s ∈ l, ∃ place, Standing.At l s.parent place ∧ R place s.element
  repeats : ∀ s ∈ l, s.isRepeat = s.name.is Namespace.xforms "repeat"

namespace Standing

variable {R : Option ElementRef → ElementRef → Prop} {l : List Standing} {s : Standing}
  {p : Option ControlId} {place : Option ElementRef}

theorem At.append (h : At l p place) (l' : List Standing) : At (l ++ l') p place := by
  cases h with
  | top => exact .top
  | under hs =>
    exact .under ((List.getElem?_append_left (List.getElem?_eq_some_iff.1 hs).1).trans hs)

theorem Held.concat (h : Held R l) (hat : At l s.parent place) (hplace : R place s.element)
    (hrepeat : s.isRepeat = s.name.is Namespace.xforms "repeat") : Held R (l ++ [s]) := by
  refine ⟨fun s' hs' => ?_, fun s' hs' => ?_⟩
  · rcases List.mem_append.1 hs' with hs' | hs'
    · obtain ⟨place', hat', hplace'⟩ := h.stands s' hs'
      exact ⟨place', hat'.append _, hplace'⟩
    · obtain rfl := List.mem_singleton.1 hs'
      exact ⟨place, hat.append _, hplace⟩
  · rcases List.mem_append.1 hs' with hs' | hs'
    · exact h.repeats s' hs'
    · obtain rfl := List.mem_singleton.1 hs'
      exact hrepeat

end Standing

namespace TreeBuilder

variable {R : Option ElementRef → ElementRef → Prop} {f : Form} {b b' : TreeBuilder}
  {place : Option ElementRef} {e : ElementRef} {k : ElementClass}

theorem container?_eq (b : TreeBuilder) :
    b.container? = (b.frames.map Frame.control).head?.join := by
  rw [container?, List.head?_map]
  cases b.frames.head? <;> rfl

/-- The walk is in `place`, and each control so far stands where it may begin. -/
structure Holds (R : Option ElementRef → ElementRef → Prop) (place : Option ElementRef)
    (b : TreeBuilder) : Prop where
  held : Standing.Held R b.tree.standings
  place : Standing.At b.tree.standings b.container? place

namespace Holds

/-- The walk is where it was if the same controls are open. -/
theorem congr (h : Standing.Held R b'.tree.standings)
    (hplace : Standing.At b.tree.standings b.container? place)
    (hframes : b'.frames.map Frame.control = b.frames.map Frame.control)
    (hgrows : b.tree.standings <+: b'.tree.standings) : Holds R place b' := by
  obtain ⟨more, hmore⟩ := hgrows
  refine ⟨h, ?_⟩
  rw [container?_eq, hframes, ← container?_eq, ← hmore]
  exact hplace.append more

/-- **A control is met**, in the place of the walk. -/
theorem start (h : Holds R place b) (hplace : R place e) {name : QName}
    (hname : f.name? e = some name) (hclass : f.scopes.classify name = some k)
    (hstart : b.start f e k = .ok b') : Holds R place b' ∧
      b'.frames.map Frame.control = b.frames.map Frame.control ∧
      ∃ s, s.element = e ∧ b'.tree.standings = b.tree.standings ++ [s] := by
  have hstandings := standings_start hname hclass hstart
  have hframes := frames_start hstart
  refine ⟨.congr ?_ h.place hframes ⟨_, hstandings.symm⟩, hframes, _, rfl, hstandings⟩
  rw [hstandings]
  exact h.held.concat h.place hplace rfl

/-- A control that is entered is the place of what follows. -/
theorem enter (h : Holds R place b) (hplace : R place e) {name : QName}
    (hname : f.name? e = some name) (hclass : f.scopes.classify name = some k)
    (hstep : step f b (.enter e k) = .ok b') : Holds R (some e) b' ∧
      b'.frames.map Frame.control = some b.tree.size :: b.frames.map Frame.control ∧
      b.tree.standings <+: b'.tree.standings := by
  obtain ⟨b₁, hb₁, hstep⟩ := ok_of_bind hstep
  obtain rfl := Except.ok.inj hstep
  obtain ⟨h₁, hframes, s, rfl, hstandings⟩ := h.start hplace hname hclass hb₁
  refine ⟨⟨h₁.held, ?_⟩, congrArg (some b.tree.size :: ·) hframes, ⟨_, hstandings.symm⟩⟩
  refine .under ?_
  show b₁.tree.standings[b.tree.size]? = some s
  rw [hstandings, ← ControlTree.length_standings, List.getElem?_concat_length]

/-- **The walk holds its controls**, and after it the same are open as before. By induction on how
the visits are balanced. -/
theorem run {visits : List Visit} (hbalanced : Visit.Balanced R place visits)
    (hproper : ∀ v ∈ visits, v.Proper f) (h : Holds R place b)
    (hrun : visits.foldlM (step f) b = .ok b') : Holds R place b' ∧
      b'.frames.map Frame.control = b.frames.map Frame.control ∧
      b.tree.standings <+: b'.tree.standings := by
  induction hbalanced generalizing b b' with
  | nil =>
    obtain rfl : b = b' := Except.ok.inj hrun
    exact ⟨h, rfl, List.prefix_rfl⟩
  | leaf k hplace _ ih =>
    rw [List.foldlM_cons] at hrun
    obtain ⟨b₁, hstart, hrun⟩ := ok_of_bind hrun
    obtain ⟨hleaf, hproper⟩ := List.forall_mem_cons.1 hproper
    cases hleaf with
    | leaf hname hclass hk =>
      obtain ⟨h₁, hframes₁, s, -, hgrows₁⟩ := h.start hplace hname hclass hstart
      obtain ⟨h', hframes, hgrows⟩ := ih hproper h₁ hrun
      exact ⟨h', hframes.trans hframes₁, List.IsPrefix.trans ⟨[s], hgrows₁.symm⟩ hgrows⟩
  | support e _ ih =>
    rw [List.foldlM_cons] at hrun
    obtain ⟨b₁, hsupport, hrun⟩ := ok_of_bind hrun
    obtain ⟨hstandings, hsame⟩ := step_support_eq standings_modify_setSupport hsupport
    have h₁ : Holds R _ b₁ := .congr (hstandings ▸ h.held) h.place (congrArg _ hsame)
      (hstandings ▸ List.prefix_rfl)
    obtain ⟨h', hframes, hgrows⟩ := ih (List.forall_mem_cons.1 hproper).2 h₁ hrun
    exact ⟨h', hframes.trans (congrArg _ hsame), hstandings ▸ hgrows⟩
  | enter k hplace _ _ ihinner ih =>
    obtain ⟨henter, hproper⟩ := List.forall_mem_cons.1 hproper
    obtain ⟨hproperInner, hproper⟩ := List.forall_mem_append.1 hproper
    obtain ⟨b₁, b₂, hstep, hinner, hrun⟩ := exists_run_enter hrun
    cases henter with
    | enter hname hclass hk =>
      obtain ⟨h₁, hframes₁, hgrows₁⟩ := h.enter hplace hname hclass hstep
      obtain ⟨h₂, hframes₂, hgrows₂⟩ := ihinner hproperInner h₁ hinner
      have hback : b₂.frames.tail.map Frame.control = b.frames.map Frame.control := by
        rw [List.map_tail, hframes₂, hframes₁, List.tail_cons]
      have h₃ : Holds R _ { b₂ with frames := b₂.frames.tail } :=
        .congr h₂.held h.place hback (hgrows₁.trans hgrows₂)
      obtain ⟨h', hframes, hgrows⟩ := ih (List.forall_mem_cons.1 hproper).2 h₃ hrun
      exact ⟨h', hframes.trans hback, (hgrows₁.trans hgrows₂).trans hgrows⟩

end Holds

theorem holds_empty (R : Option ElementRef → ElementRef → Prop) : Holds R none {} := by
  refine ⟨⟨?_, ?_⟩, .top⟩ <;> intro s hs <;> simp [ControlTree.standings] at hs

end TreeBuilder

/-- The controls of a form stand where they may begin. -/
theorem held_buildControlTree {f : Form} {tree : ControlTree} {warnings : List Warning}
    (h : buildControlTree f = .ok (tree, warnings)) {R W : Option ElementRef → ElementRef → Prop}
    (hdescends : f.Descends R W) (hroot : W none ⟨.controls, f.controls.root⟩) :
    Standing.Held R tree.standings := by
  obtain ⟨visits, b, hvisits, hrun, hsettled⟩ := exists_run h
  have hstandings : tree.standings = b.tree.standings :=
    TreeBuilder.settled_eq TreeBuilder.standings_modify_setSupport hsettled
  rw [hstandings]
  exact ((TreeBuilder.holds_empty R).run (hdescends.visitsUnder hroot hvisits)
    (proper_of_visitsUnder hvisits) hrun).1.held

/-! ## What a record says of its element -/

/-- The element is a repeat. -/
def Form.isRepeat (f : Form) (e : ElementRef) : Bool :=
  (f.name? e).any fun name => name.is Namespace.xforms "repeat"

section Element

variable {f : Form} {t : ControlTree} {i : ControlId} {c : Control}

/-- A control is a repeat if its element is. -/
theorem Standing.Held.isRepeat_eq {R : Option ElementRef → ElementRef → Prop}
    (h : Standing.Held R t.standings)
    (hnamed : ∀ s ∈ t.standings, f.name? s.element = some s.name) (hc : t.get? i = some c) :
    c.isRepeat = f.isRepeat c.element := by
  have hmem := ControlTree.standing_mem_standings hc
  have hname : f.name? c.element = some c.name := hnamed c.standing hmem
  rw [Form.isRepeat, hname, Option.any_some]
  exact h.repeats c.standing hmem

/-- A control has the prefixed id of its element. -/
theorem prefixedId?_element (hplaced : ∀ p ∈ t.places, p.In f) (hc : t.get? i = some c) :
    f.prefixedId? c.element = some c.prefixedId := by
  obtain ⟨hstatic, hprefixed, -⟩ := hplaced c.place (place_mem_places hc)
  have hstatic' : f.staticId? c.element = some c.staticId := hstatic
  rw [Form.prefixedId?, hstatic', Option.map_some]
  exact congrArg some hprefixed.symm

end Element

/-! ## Containers in the controls document -/

namespace Form

variable {f : Form}

/-- The node of the controls document is a container. -/
def isHolder (f : Form) (n : NodeId) : Bool := f.class? ⟨.controls, n⟩ == some .container

/-- An element of the controls document stands in the nearest container above it. -/
def StandsIn (f : Form) (place : Option ElementRef) (e : ElementRef) : Prop :=
  e.tree = .controls →
    place = ((f.controls.ancestors e.node).find? f.isHolder).map (ElementRef.mk .controls)

/-- What is under a node of the controls document stands in the nearest container on its line. -/
def HoldsUnder (f : Form) (place : Option ElementRef) (e : ElementRef) : Prop :=
  e.tree = .controls →
    place = ((f.controls.line e.node).find? f.isHolder).map (ElementRef.mk .controls)

theorem isHolder_eq {e : ElementRef} {name : QName} (htree : e.tree = .controls)
    (hname : f.name? e = some name) :
    f.isHolder e.node = (f.scopes.classify name == some .container) := by
  obtain ⟨tree, n⟩ := e
  obtain rfl : tree = .controls := htree
  rw [isHolder, class?_eq hname]

theorem descends_standsIn (hforest : f.controls.IsForest) :
    f.Descends f.StandsIn f.HoldsUnder := by
  refine ⟨fun {place e c} hunder hc htree => ?_, fun {place e name} _ hname hclass htree => ?_,
    fun {e root} hroot htree => ?_, fun {place e name} hstands hname hclass htree => ?_⟩
  · have hetree : e.tree = .controls := (tree_of_mem_childElements hc).symm.trans htree
    have hplace := hunder hetree
    obtain ⟨tree, n⟩ := e
    obtain rfl : tree = .controls := hetree
    rw [hplace, hforest.ancestors_of_parent? (parent?_of_mem_childElements hforest hc).2]
    rfl
  · have hholder : f.isHolder e.node = true := by
      rw [isHolder_eq htree hname, hclass]
      rfl
    rw [Document.line, List.find?_cons_of_pos hholder, Option.map_some]
    obtain ⟨tree, n⟩ := e
    obtain rfl : tree = .controls := htree
    rfl
  · obtain ⟨i, -, rfl⟩ := Option.map_eq_some_iff.1 hroot
    contradiction
  · have hholder : f.isHolder e.node = false := by
      rw [isHolder_eq htree hname, hclass]
      rfl
    rw [Document.line, List.find?_cons_of_neg (by rw [hholder]; exact Bool.false_ne_true)]
    exact hstands htree

/-- The prefixed ids of the repeats above a node of the controls document, innermost first. -/
def repeatsAround (f : Form) (n : NodeId) : List String :=
  ((f.controls.ancestors n).filter fun a => f.controls.isNamed a Namespace.xforms "repeat").filterMap
    fun a => f.prefixedId? ⟨.controls, a⟩

/-- A repeat is a container. -/
theorem isHolder_of_isRepeat {n : NodeId}
    (h : f.controls.isNamed n Namespace.xforms "repeat" = true) : f.isHolder n = true := by
  obtain ⟨name, hname, hrepeat⟩ := (Option.any_eq_true _ _).1 h
  have hcontainer : name.isContainerControl = true := by
    rw [QName.is_iff] at hrepeat
    simp [QName.isContainerControl, hrepeat.1, hrepeat.2]
  rw [isHolder_eq (e := ⟨.controls, n⟩) rfl hname, ScopeTree.classify, if_pos hcontainer]
  rfl

end Form

/-! ## The controls around a control -/

section Around

variable {f : Form} {t : ControlTree} {place : Option ControlId} {chain : List Control} {n : NodeId}

/-- **The controls around a control are the containers above its element.** By induction on the way
outwards. -/
theorem ControlTree.Around.map_element (h : t.Around place chain) (hforest : f.controls.IsForest)
    (hheld : Standing.Held f.StandsIn t.standings)
    (hplace : Standing.At t.standings place
      (((f.controls.ancestors n).find? f.isHolder).map (ElementRef.mk .controls))) :
    chain.map Control.element =
      ((f.controls.ancestors n).filter f.isHolder).map (ElementRef.mk .controls) := by
  induction h generalizing n with
  | top =>
    generalize hfind : (f.controls.ancestors n).find? f.isHolder = found at hplace
    cases found with
    | some m => cases hplace
    | none =>
      rw [List.find?_eq_none] at hfind
      rw [List.filter_eq_nil_iff.2 hfind]
      rfl
  | @under p c chain hp _ ih =>
    generalize hfind : (f.controls.ancestors n).find? f.isHolder = found at hplace
    have hstanding := ControlTree.getElem?_standings_of_get? hp
    cases found with
    | none => cases hplace
    | some m =>
      have helement : c.element = ⟨.controls, m⟩ := by
        rw [Option.map_some] at hplace
        generalize hsome : some (ElementRef.mk .controls m) = place at hplace
        cases hplace with
        | under hs =>
          obtain rfl := Option.some.inj (hstanding.symm.trans hs)
          exact (Option.some.inj hsome).symm
      obtain ⟨hholder, inner, outer, hsplit, hbefore⟩ := List.find?_eq_some_iff_append.1 hfind
      obtain ⟨place', hat, hstands⟩ := hheld.stands c.standing (ControlTree.standing_mem_standings hp)
      have hplace' := hstands (congrArg ElementRef.tree helement)
      have hinner : inner.filter f.isHolder = [] := List.filter_eq_nil_iff.2 fun a ha => by
        simpa using hbefore a ha
      have hnode : c.standing.element.node = m := congrArg ElementRef.node helement
      rw [hnode] at hplace'
      rw [List.map_cons, ih (hplace' ▸ hat), helement, hforest.ancestors_of_split hsplit, hsplit,
        List.filter_append, hinner, List.filter_cons_of_pos hholder]
      rfl

end Around

/-- **The repeats around a control are the repeats above its element**, for the controls of the
controls document. The passes over the finished tree make no difference. -/
theorem ancestorRepeats_eq_repeatsAround {f : Form} {tree t : ControlTree} {warnings : List Warning}
    (h : buildControlTree f = .ok (tree, warnings)) (htagged : tree.Tagged t)
    (hforest : f.controls.IsForest) (hroot : f.isHolder f.controls.root = false) {i : ControlId}
    {c : Control} {n : NodeId} (hc : t.get? i = some c) (helement : c.element = ⟨.controls, n⟩) :
    t.ancestorRepeats c none = f.repeatsAround n := by
  obtain ⟨-, -, hbuilt, -, hnamed⟩ := nests_buildControlTree h
  obtain ⟨-, -, -, hplaced⟩ := places_buildControlTree h
  have hnests := htagged.nests hbuilt
  rw [← htagged.standings] at hnamed
  rw [← htagged.places] at hplaced
  have hunder : f.HoldsUnder none ⟨.controls, f.controls.root⟩ := by
    intro _
    rw [Document.line, Document.ancestors_of_parent?_eq_none hforest.root_parent,
      List.find?_cons_of_neg (by rw [hroot]; exact Bool.false_ne_true)]
    rfl
  have hheld := held_buildControlTree h (Form.descends_standsIn hforest) hunder
  rw [← htagged.standings] at hheld
  obtain ⟨chain, haround, hrepeats⟩ := (hnests.sits hc).ancestorRepeats_none
  obtain ⟨place, hat, hstands⟩ := hheld.stands c.standing (ControlTree.standing_mem_standings hc)
  have hplace := hstands (congrArg ElementRef.tree helement)
  have hnode : c.standing.element.node = n := congrArg ElementRef.node helement
  rw [hnode] at hplace
  have hchain := haround.map_element hforest hheld (hplace ▸ hat)
  have hrepeat : ∀ r ∈ chain, r.isRepeat = f.isRepeat r.element := fun r hr => by
    obtain ⟨j, hj⟩ := haround.exists_get? hr
    exact hheld.isRepeat_eq hnamed hj
  have hid : ∀ r ∈ chain, f.prefixedId? r.element = some r.prefixedId := fun r hr => by
    obtain ⟨j, hj⟩ := haround.exists_get? hr
    exact prefixedId?_element hplaced hj
  calc t.ancestorRepeats c none
      = (chain.filter Control.isRepeat).map (·.prefixedId) := hrepeats
    _ = (chain.filter fun r => f.isRepeat r.element).filterMap
            fun r => f.prefixedId? r.element := by
        rw [← List.filterMap_eq_map, List.filter_congr hrepeat]
        exact List.filterMap_congr fun r hr => (hid r (List.mem_of_mem_filter hr)).symm
    _ = ((chain.map Control.element).filter f.isRepeat).filterMap f.prefixedId? := by
        rw [List.filter_map, List.filterMap_map]
        rfl
    _ = f.repeatsAround n := by
        rw [hchain, List.filter_map, List.filterMap_map, List.filter_filter, Form.repeatsAround]
        refine congrArg (List.filterMap _) (List.filter_congr fun a _ => ?_)
        show (f.controls.isNamed a Namespace.xforms "repeat" && f.isHolder a) = _
        cases hnamedRepeat : f.controls.isNamed a Namespace.xforms "repeat" with
        | false => rfl
        | true => exact Form.isHolder_of_isRepeat hnamedRepeat

end FormEngine
