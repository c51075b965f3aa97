import FormEngine.Proofs.Control.Open
import FormEngine.Proofs.StaticState.Passes
/-!
# Support elements that are accounted for

A support element with `for` is given to the control that it names, or a warning says that there is no
such control. That takes the walk to come to the element, and the walk does not look into a control
without children, or into a variable. What such a control takes from its children are the support
elements without `for`. So an element with `for` that stands in one is lost between the two, and
nothing is said about it. Everywhere else in the control markup of the controls document it is
accounted for.

An element whose name a binding takes is a component instance and no support element, and it is not
delivered as one.
-/

namespace FormEngine

/-! ## The control markup -/

namespace Form

variable {f : Form} {n : NodeId}

/-- A control that the walk does not look into. -/
def isSealed (f : Form) (e : ElementRef) : Bool :=
  (f.class? e).any fun k => k == .leaf || k == .variable

/-- The node stands in the control markup of the controls document: all that is between it and the
root is transparent or a control, and none of it is an instance. -/
structure InMarkup (f : Form) (n : NodeId) : Prop where
  below : f.controls.root ∈ f.controls.ancestors n
  between : ∀ a ∈ f.controls.ancestors n, a ≠ f.controls.root →
    f.isOpen ⟨.controls, a⟩ = true ∨ f.isSealed ⟨.controls, a⟩ = true

/-- The node is a support element by its name, and it stands in no control that the walk does not look
into. -/
structure Heard (f : Form) (n : NodeId) : Prop where
  own : f.class? ⟨.controls, n⟩ = some .support
  unsealed : ∀ a ∈ f.controls.ancestors n, a ≠ f.controls.root → f.isSealed ⟨.controls, a⟩ = false

/-- The element is accounted for: the control that it names has a support of the kind that named it,
or a warning says that there is no such control. -/
def Accounts (f : Form) (tree : ControlTree) (warnings : List Warning) (e : ElementRef)
    (k : SupportKind) : Prop :=
  (∃ id s, f.target? e = some id ∧ tree.support? id k = some s ∧ s.isExternal = true) ∨
    f.strayWarning e ∈ warnings

/-- The element is dropped: it supports no control, and the warnings are about others. -/
structure Drops (f : Form) (tree : ControlTree) (warnings : List Warning) (e : ElementRef) :
    Prop where
  support : ∀ id k s, tree.support? id k = some s → s.element ≠ e
  warnings : ∃ es : List ElementRef, e ∉ es ∧ warnings = es.map f.strayWarning

theorem isSealed_eq_false {e : ElementRef} (h : f.isOpen e = true) : f.isSealed e = false := by
  obtain ⟨name, hname, hclass | ⟨hclass, -⟩⟩ := cases_of_isOpen h
  all_goals
    rw [isSealed, class?_eq hname, hclass]
    rfl

/-- In the control markup, the walk comes to a support element that it hears and to no other. -/
theorem InMarkup.heard_iff (h : f.InMarkup n) :
    f.Heard n ↔ f.Reaches n ∧ f.class? ⟨.controls, n⟩ = some .support := by
  constructor
  · rintro ⟨hown, hunsealed⟩
    refine ⟨⟨h.below, fun a ha hne => (h.between a ha hne).resolve_right ?_⟩, hown⟩
    rw [hunsealed a ha hne]
    exact Bool.false_ne_true
  · rintro ⟨⟨-, hopen⟩, hown⟩
    exact ⟨hown, fun a ha hne => isSealed_eq_false (hopen a ha hne)⟩

/-- Only a support element is visited as one. -/
theorem eq_support_of_meets? {v : Visit} {e : ElementRef} (hv : v.Proper f)
    (h : v.meets? = some (e, .support)) : v = .support e := by
  cases hv with
  | enter hname hclass hk =>
    obtain ⟨-, rfl⟩ := Prod.mk.inj (Option.some.inj h)
    simp at hk
  | leaf hname hclass hk =>
    obtain ⟨-, rfl⟩ := Prod.mk.inj (Option.some.inj h)
    simp at hk
  | leave => contradiction
  | support e' => rw [(Prod.mk.inj (Option.some.inj h)).1]

theorem InMarkup.mem_visits_iff (h : f.InMarkup n) (hforest : f.controls.IsForest)
    {visits : List Visit} (hvisits : f.visits = .ok visits) :
    (⟨.controls, n⟩ : ElementRef) ∈ visits.filterMap Visit.support? ↔ f.Heard n := by
  rw [h.heard_iff, ← exists_visit_iff hforest hvisits, List.mem_filterMap]
  refine exists_congr fun v => and_congr_right fun hv => ⟨fun hsupport => ?_, fun hmeets => ?_⟩
  · cases v <;> simp [Visit.support?] at hsupport
    rw [hsupport]
    rfl
  · rw [eq_support_of_meets? (proper_of_visitsUnder hvisits v hv) hmeets]
    rfl

/-! ## The scopes of a finished analysis -/

theorem classify_freeTemplates (t : ScopeTree) (name : QName) :
    t.freeTemplates.classify name = t.classify name := by
  have hcomponent : t.freeTemplates.components.isComponent name = t.components.isComponent name := by
    show (ComponentRegistry.binding? _ _).isSome = (ComponentRegistry.binding? _ _).isSome
    unfold ComponentRegistry.binding? ScopeTree.freeTemplates ComponentRegistry.freeTemplates
    rw [List.find?_map, Option.isSome_map]
    rfl
  rw [ScopeTree.classify, ScopeTree.classify, hcomponent]

variable {c : Document} {t : ScopeTree}

theorem class?_freeTemplates (e : ElementRef) : class? ⟨c, t.freeTemplates⟩ e = class? ⟨c, t⟩ e := by
  have hname : name? ⟨c, t.freeTemplates⟩ e = name? ⟨c, t⟩ e := rfl
  rw [class?, class?, hname]
  exact congrArg _ (funext (classify_freeTemplates t))

theorem isOpen_freeTemplates (e : ElementRef) : isOpen ⟨c, t.freeTemplates⟩ e = isOpen ⟨c, t⟩ e := by
  unfold isOpen
  simp only [classify_freeTemplates]
  rfl

theorem inMarkup_freeTemplates : InMarkup ⟨c, t.freeTemplates⟩ n ↔ InMarkup ⟨c, t⟩ n := by
  constructor <;> rintro ⟨hbelow, hbetween⟩ <;> refine ⟨hbelow, fun a ha hne => ?_⟩
  all_goals
    have h := hbetween a ha hne
    simpa only [isSealed, class?_freeTemplates, isOpen_freeTemplates] using h

theorem heard_freeTemplates : Heard ⟨c, t.freeTemplates⟩ n ↔ Heard ⟨c, t⟩ n := by
  constructor <;> rintro ⟨hown, hunsealed⟩ <;> refine ⟨?_, fun a ha hne => ?_⟩
  all_goals first
    | simpa only [class?_freeTemplates] using hown
    | simpa only [isSealed, class?_freeTemplates] using hunsealed a ha hne

/-- The templates have no part in what an element names and is. -/
theorem accounts_freeTemplates {tree : ControlTree} {warnings : List Warning} {e : ElementRef}
    {k : SupportKind} :
    Accounts ⟨c, t.freeTemplates⟩ tree warnings e k ↔ Accounts ⟨c, t⟩ tree warnings e k := Iff.rfl

theorem drops_freeTemplates {tree : ControlTree} {warnings : List Warning} {e : ElementRef} :
    Drops ⟨c, t.freeTemplates⟩ tree warnings e ↔ Drops ⟨c, t⟩ tree warnings e :=
  ⟨fun ⟨hsupport, hwarnings⟩ => ⟨hsupport, hwarnings⟩,
    fun ⟨hsupport, hwarnings⟩ => ⟨hsupport, hwarnings⟩⟩

end Form

namespace ControlTree.Tagged

variable {f : Form} {t t' : ControlTree} {warnings : List Warning} {e : ElementRef}

theorem accounts_iff (h : Tagged t t') {k : SupportKind} :
    f.Accounts t' warnings e k ↔ f.Accounts t warnings e k := by
  unfold Form.Accounts
  simp only [h.support?]

theorem drops_iff (h : Tagged t t') : f.Drops t' warnings e ↔ f.Drops t warnings e := by
  constructor <;> rintro ⟨hsupport, hwarnings⟩ <;>
    refine ⟨fun id k s hs => hsupport id k s ?_, hwarnings⟩
  · rw [h.support?]
    exact hs
  · rw [← h.support?]
    exact hs

end ControlTree.Tagged

/-! ## The supports and the warnings of a form -/

section Built

variable {f : Form} {tree : ControlTree} {warnings : List Warning} {visits : List Visit}

/-- An element that names a control, when it is delivered, leaves the control with a support that
named it. -/
theorem exists_support_of_naming (h : buildControlTree f = .ok (tree, warnings))
    (hnodup : tree.prefixedIds.Nodup) (hvisits : f.visits = .ok visits) {id : String}
    (hid : id ∈ tree.prefixedIds) {k : SupportKind} {e : ElementRef}
    (he : e ∈ f.naming visits id k) :
    ∃ s, tree.support? id k = some s ∧ s.isExternal = true := by
  obtain ⟨visits', hvisits', hcontrols, -⟩ := support?_buildControlTree h hnodup
  obtain rfl := Except.ok.inj (hvisits.symm.trans hvisits')
  obtain ⟨i, hi⟩ := List.getElem?_of_mem hid
  rw [ControlTree.getElem?_prefixedIds, Option.map_eq_some_iff] at hi
  obtain ⟨c, hc, rfl⟩ := hi
  obtain ⟨before, v, after, rfl, -, hcontrol, hsupport⟩ := hcontrols i c hc
  have hv : f.naming [v] c.prefixedId k = [] := by
    cases v <;> simp [Form.naming, Visit.support?, Visit.control?] at hcontrol ⊢
  have hsplit : e ∈ f.naming before c.prefixedId k ∨ e ∈ f.naming after c.prefixedId k := by
    rw [← List.singleton_append, Form.naming_append, Form.naming_append, hv, List.nil_append,
      List.mem_append] at he
    exact he
  -- the last that named the control before it came, or else the last that named it later
  obtain ⟨x, hx, hnames⟩ : ∃ x, (f.naming before c.prefixedId k).getLast?.or
      ((f.naming after c.prefixedId k).getLast?.or (f.ownSupport? c k)) = some x ∧
      f.names c.prefixedId k x = true := by
    have hlast : ∀ {vs : List Visit}, e ∈ f.naming vs c.prefixedId k → ∃ x,
        (f.naming vs c.prefixedId k).getLast? = some x ∧ f.names c.prefixedId k x = true := by
      intro vs hmem
      obtain ⟨x, hx⟩ := Option.isSome_iff_exists.1
        (List.getLast?_isSome.2 (List.ne_nil_of_mem hmem))
      exact ⟨x, hx, (List.mem_filter.1 (List.mem_of_getLast? hx)).2⟩
    cases hbefore : (f.naming before c.prefixedId k).getLast? with
    | some x =>
      refine ⟨x, Option.some_or, ?_⟩
      exact (List.mem_filter.1 (List.mem_of_getLast? hbefore)).2
    | none =>
      have hnil := List.getLast?_eq_none_iff.1 hbefore
      rw [hnil] at hsplit
      obtain ⟨x, hx, hnames⟩ := hlast (hsplit.resolve_left List.not_mem_nil)
      exact ⟨x, by rw [Option.none_or, hx, Option.some_or], hnames⟩
  refine ⟨.ofElement f x k, by rw [hsupport, hx, Option.map_some], ?_⟩
  have htarget := (Form.names_iff.1 hnames).2
  rw [Form.target?, Option.map_eq_some_iff] at htarget
  obtain ⟨name, hfor, -⟩ := htarget
  show (f.attr? x "for").isSome = true
  rw [hfor]
  rfl

/-- The supports of a control are elements that were delivered, or children of it without `for`. -/
theorem mem_visits_of_support? (h : buildControlTree f = .ok (tree, warnings))
    (hnodup : tree.prefixedIds.Nodup) (hvisits : f.visits = .ok visits) {id : String}
    {k : SupportKind} {s : Support} (hs : tree.support? id k = some s) :
    s.element ∈ visits.filterMap Visit.support? ∨ (f.attr? s.element "for").isNone = true := by
  obtain ⟨visits', hvisits', hcontrols, -⟩ := support?_buildControlTree h hnodup
  obtain rfl := Except.ok.inj (hvisits.symm.trans hvisits')
  obtain ⟨c, hc, hcs⟩ := Option.bind_eq_some_iff.1 hs
  have hid : c.prefixedId = id := (located_buildControlTree h).prefixedId hc
  obtain ⟨i, -, hget⟩ := Option.bind_eq_some_iff.1 hc
  obtain ⟨before, v, after, rfl, -, -, hsupport⟩ := hcontrols i c hget
  rw [← hid, hsupport, Option.map_eq_some_iff] at hs
  obtain ⟨x, hx, rfl⟩ := hs
  have hdelivered : ∀ {vs : List Visit}, (f.naming vs c.prefixedId k).getLast? = some x →
      x ∈ vs.filterMap Visit.support? :=
    fun hlast => List.mem_of_mem_filter (List.mem_of_getLast? hlast)
  rw [List.filterMap_append, List.filterMap_cons]
  rcases Option.or_eq_some_iff.1 hx with hbefore | ⟨-, hx⟩
  · exact .inl (List.mem_append_left _ (hdelivered hbefore))
  rcases Option.or_eq_some_iff.1 hx with hafter | ⟨-, hown⟩
  · refine .inl (List.mem_append_right _ ?_)
    have hmem := hdelivered hafter
    cases v.support? with
    | none => exact hmem
    | some y => exact List.mem_cons_of_mem y hmem
  · rw [Form.ownSupport?] at hown
    split at hown
    · contradiction
    · have hchild := (List.mem_filter.1 (List.mem_of_getLast? hown)).2
      rw [Bool.and_eq_true] at hchild
      exact .inr hchild.2

/-- A delivered element that names something is accounted for. -/
theorem accounts_of_mem (h : buildControlTree f = .ok (tree, warnings))
    (hnodup : tree.prefixedIds.Nodup) (hvisits : f.visits = .ok visits) {e : ElementRef}
    {k : SupportKind} (hkind : f.supportKind? e = some k) (hfor : (f.attr? e "for").isSome = true)
    (he : e ∈ visits.filterMap Visit.support?) : f.Accounts tree warnings e k := by
  obtain ⟨visits', hvisits', -, hwarnings⟩ := support?_buildControlTree h hnodup
  obtain rfl := Except.ok.inj (hvisits.symm.trans hvisits')
  obtain ⟨id, hid⟩ : ∃ id, f.target? e = some id := by
    rw [← Option.isSome_iff_exists, Form.target?, Option.isSome_map]
    exact hfor
  by_cases hmem : id ∈ tree.prefixedIds
  · have hnaming : e ∈ f.naming visits id k :=
      List.mem_filter.2 ⟨he, Form.names_iff.2 ⟨hkind, hid⟩⟩
    obtain ⟨s, hs, hexternal⟩ := exists_support_of_naming h hnodup hvisits hmem hnaming
    exact .inl ⟨id, s, hid, hs, hexternal⟩
  · right
    rw [hwarnings]
    refine List.mem_map_of_mem (List.mem_filter.2 ⟨he, ?_⟩)
    rw [Form.isStray, hid, Option.any_some, Bool.not_eq_true', Bool.eq_false_iff]
    exact fun hcontains => hmem (List.contains_iff_mem.1 hcontains)

/-- An element that names something is dropped if it is not delivered. -/
theorem drops_of_notMem (h : buildControlTree f = .ok (tree, warnings))
    (hnodup : tree.prefixedIds.Nodup) (hvisits : f.visits = .ok visits) {e : ElementRef}
    (hfor : (f.attr? e "for").isSome = true) (he : e ∉ visits.filterMap Visit.support?) :
    f.Drops tree warnings e := by
  obtain ⟨visits', hvisits', -, hwarnings⟩ := support?_buildControlTree h hnodup
  obtain rfl := Except.ok.inj (hvisits.symm.trans hvisits')
  refine ⟨fun id k s hs heq => ?_, _, fun hes => he (List.mem_of_mem_filter hes), hwarnings⟩
  rcases mem_visits_of_support? h hnodup hvisits hs with helement | hnone
  · exact he (heq ▸ helement)
  · rw [heq, Option.isNone_iff_eq_none] at hnone
    rw [hnone] at hfor
    contradiction

end Built

/-! ## The analysis -/

namespace Analysis

variable {controls : Document} {models : List Document} {r : ComponentRegistry} {a : Analysis}

/-- The form that the analysis is of. -/
def form (a : Analysis) (controls : Document) : Form := { controls, scopes := a.scopes }

/-- **A support element with `for` is accounted for unless a control without children or a variable is
around it, or its name is bound**; then it is dropped. This is so for every such element in the control
markup of a controls document, in every analysis in which no two controls have one prefixed id. -/
theorem accounts_or_drops (h : run controls models r = .ok a) (hcheck : controls.check = .ok ())
    (hnodup : a.controls.prefixedIds.Nodup) {n : NodeId} {k : SupportKind}
    (hmarkup : (a.form controls).InMarkup n)
    (hkind : (a.form controls).supportKind? ⟨.controls, n⟩ = some k)
    (hfor : ((a.form controls).attr? ⟨.controls, n⟩ "for").isSome = true) :
    ((a.form controls).Heard n →
      (a.form controls).Accounts a.controls a.warnings ⟨.controls, n⟩ k) ∧
    (¬(a.form controls).Heard n →
      (a.form controls).Drops a.controls a.warnings ⟨.controls, n⟩) := by
  obtain ⟨scopes, tree, -, hscopes, hbuild, htagged⟩ := exists_tagged h
  rw [htagged.prefixedIds] at hnodup
  obtain ⟨visits, hvisits, -, -⟩ := support?_buildControlTree hbuild hnodup
  -- the templates and classes make no difference
  rw [form, hscopes] at hmarkup hkind hfor ⊢
  rw [Form.inMarkup_freeTemplates] at hmarkup
  rw [Form.heard_freeTemplates, Form.accounts_freeTemplates, Form.drops_freeTemplates,
    htagged.accounts_iff, htagged.drops_iff,
    ← hmarkup.mem_visits_iff (Document.check_eq_ok_iff.1 hcheck) hvisits]
  exact ⟨accounts_of_mem hbuild hnodup hvisits hkind hfor,
    drops_of_notMem hbuild hnodup hvisits hfor⟩

/-- An input and a group, each with a support element in it that names no control. -/
def sealedControls : Document :=
  { nodes :=
      #[{ kind := .element (.plain "controls") [], children := [1, 3] },
        { kind := .element { nsPrefix := "xf", uri := Namespace.xforms, localName := "input" }
            [⟨.plain "id", "a"⟩]
          parent := some 0, children := [2] },
        { kind := .element { nsPrefix := "xf", uri := Namespace.xforms, localName := "label" }
            [⟨.plain "for", "nobody"⟩]
          parent := some 1 },
        { kind := .element { nsPrefix := "xf", uri := Namespace.xforms, localName := "group" }
            [⟨.plain "id", "g"⟩]
          parent := some 0, children := [4] },
        { kind := .element { nsPrefix := "xf", uri := Namespace.xforms, localName := "hint" }
            [⟨.plain "for", "nobody"⟩]
          parent := some 3 }]
    root := 0 }

/-- The controls of `sealedControls`, and the warnings; nothing is found under the target. -/
theorem warnings_sealed :
    ((run sealedControls [] {}).toOption.map fun a =>
      (a.controls.prefixedIds, (a.controls.control? "nobody").isNone, a.warnings,
        (a.form sealedControls).target? ⟨.controls, 2⟩)) =
      some (["a", "g"], true, [.unresolvedTarget "xf:hint" "nobody"], some "nobody") := by
  decide +kernel

/-- What the walk makes of the elements of `sealedControls`, and that it goes on below the group. -/
theorem markup_sealed :
    ((run sealedControls [] {}).toOption.map fun a =>
      ([1, 2, 4].map (fun n => (a.form sealedControls).class? ⟨.controls, n⟩),
        (a.form sealedControls).isOpen ⟨.controls, 3⟩)) =
      some ([some .leaf, some .support, some .support], true) := by
  decide +kernel

/-- Both support elements of `sealedControls` stand in the control markup, the one is not heard, and
no warning is about it. -/
theorem exists_sealed : ∃ a, run sealedControls [] {} = .ok a ∧ a.controls.prefixedIds.Nodup ∧
    (a.form sealedControls).InMarkup 2 ∧ ¬(a.form sealedControls).Heard 2 ∧
    (a.form sealedControls).InMarkup 4 ∧ (a.form sealedControls).Heard 4 ∧
    ¬(a.form sealedControls).Accounts a.controls a.warnings ⟨.controls, 2⟩ .label := by
  obtain ⟨a, ha, hrun⟩ := ok_of_toOption_map warnings_sealed
  have hmarkup := markup_sealed
  rw [ha] at hmarkup
  simp only [Except.toOption, Option.map_some, Option.some.injEq, Prod.mk.injEq, List.map_cons,
    List.map_nil, List.cons.injEq, and_true] at hrun hmarkup
  obtain ⟨hids, hnobody, hwarnings, htarget⟩ := hrun
  obtain ⟨⟨hinput, -, hhint⟩, hgroup⟩ := hmarkup
  have hsealed : (a.form sealedControls).isSealed ⟨.controls, 1⟩ = true := by
    rw [Form.isSealed, hinput]
    rfl
  have habove : (a.form sealedControls).controls.ancestors 2 = [1, 0] ∧
      (a.form sealedControls).controls.ancestors 4 = [3, 0] := by
    show sealedControls.ancestors 2 = [1, 0] ∧ sealedControls.ancestors 4 = [3, 0]
    decide
  have hbetween : ∀ {m : NodeId} {P : NodeId → Prop}, P m →
      ∀ x ∈ [m, 0], x ≠ (a.form sealedControls).controls.root → P x := by
    intro m P hm x hx hne
    rcases List.mem_cons.1 hx with rfl | hx
    · exact hm
    · exact absurd (List.mem_singleton.1 hx) hne
  refine ⟨a, ha, ?_, ⟨?_, ?_⟩, fun hheard => ?_, ⟨?_, ?_⟩, ⟨hhint, ?_⟩, ?_⟩
  · rw [hids]
    decide
  · rw [habove.1]
    exact List.mem_cons_of_mem 1 List.mem_cons_self
  · rw [habove.1]
    exact hbetween (.inr hsealed)
  · have hnot := hheard.unsealed 1 (habove.1 ▸ List.mem_cons_self) Nat.one_ne_zero
    rw [hsealed] at hnot
    contradiction
  · rw [habove.2]
    exact List.mem_cons_of_mem 3 List.mem_cons_self
  · rw [habove.2]
    exact hbetween (.inl hgroup)
  · rw [habove.2]
    exact hbetween (P := fun x => (a.form sealedControls).isSealed ⟨.controls, x⟩ = false)
      (Form.isSealed_eq_false hgroup)
  · rintro (⟨id, s, hid, hs, -⟩ | hwarning)
    · obtain rfl := Option.some.inj (htarget.symm.trans hid)
      rw [ControlTree.support?, Option.isNone_iff_eq_none.1 hnobody] at hs
      contradiction
    · rw [hwarnings, List.mem_singleton] at hwarning
      have hlabel : (a.form sealedControls).strayWarning ⟨.controls, 2⟩ =
          .unresolvedTarget "xf:label" "nobody" := rfl
      rw [hlabel] at hwarning
      exact absurd hwarning (by decide)

/-- **Not every support element with `for` is accounted for**: the label in the input of
`sealedControls` is not. -/
theorem not_all_accounted :
    ¬∀ (controls : Document) (models : List Document) (r : ComponentRegistry) (a : Analysis)
      (n : NodeId) (k : SupportKind), run controls models r = .ok a → controls.check = .ok () →
      a.controls.prefixedIds.Nodup → (a.form controls).InMarkup n →
      (a.form controls).supportKind? ⟨.controls, n⟩ = some k →
      ((a.form controls).attr? ⟨.controls, n⟩ "for").isSome = true →
      (a.form controls).Accounts a.controls a.warnings ⟨.controls, n⟩ k := by
  intro hall
  obtain ⟨a, ha, hnodup, hmarkup, -, -, -, hnot⟩ := exists_sealed
  exact hnot (hall sealedControls [] {} a 2 .label ha (by decide) hnodup hmarkup rfl rfl)

/-- The law at both support elements of `sealedControls`: the one in the input is dropped, the one in
the group is accounted for. -/
theorem accounts_or_drops_sealed : ∃ a, run sealedControls [] {} = .ok a ∧
    sealedControls.check = .ok () ∧ a.controls.prefixedIds.Nodup ∧
    (a.form sealedControls).InMarkup 2 ∧ (a.form sealedControls).InMarkup 4 ∧
    (a.form sealedControls).Drops a.controls a.warnings ⟨.controls, 2⟩ ∧
    (a.form sealedControls).Accounts a.controls a.warnings ⟨.controls, 4⟩ .hint := by
  obtain ⟨a, ha, hnodup, hmarkup, hnot, hmarkup', hheard, -⟩ := exists_sealed
  have hcheck : sealedControls.check = .ok () := by decide
  exact ⟨a, ha, hcheck, hnodup, hmarkup, hmarkup',
    (accounts_or_drops (k := .label) ha hcheck hnodup hmarkup rfl rfl).2 hnot,
    (accounts_or_drops (k := .hint) ha hcheck hnodup hmarkup' rfl rfl).1 hheard⟩

end Analysis

end FormEngine
