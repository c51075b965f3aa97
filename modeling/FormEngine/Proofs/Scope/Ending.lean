import FormEngine.Proofs.Scope.Reading
/-!
# Walks that come to an end

While a walk reads every address in the document that it took it from, it goes down branches of
documents of the form, and of shadow trees that are filled templates. The fuel of a reading covers
the reach of the element there: an instance costs more than the branches of its template, and what it
passes on into its shadow tree is among what it reaches itself. So the walk never runs out of fuel,
and what stops it is a finding about the form.

An instance inside of itself takes this away. It replaces the shadow tree that the walk around it is
in, and the addresses that are left there are read in the shadow tree of the inner instance.
-/

namespace FormEngine

variable {controls : Document} {r : ComponentRegistry} {v w : Reading} {l : Loop} {e : Stop}

/-! ## Enough fuel -/

/-- The fuel is enough for every branch from the element. -/
def Reading.Covers (controls : Document) (r : ComponentRegistry) (v : Reading) : Prop :=
  ∃ p t, v.origin.Holds p t ∧ t.id = v.node ∧ t.reach (r.cost controls) ≤ v.fuel

/-- The fuel is enough for every branch from the elements. -/
def Loop.Covers (controls : Document) (r : ComponentRegistry) (l : Loop) : Prop :=
  ∀ c ∈ l.elements, ∃ p t, l.origin.Holds p t ∧ t.id = c ∧ t.reach (r.cost controls) ≤ l.fuel

theorem Loop.Turn.covers (h : l.Turn controls w) (hl : l.Covers controls r) :
    w.Covers controls r := by
  cases h with
  | @intro before after c t s hsplit hbefore hscope =>
    refine hl c ?_
    rw [hsplit]
    exact List.mem_append_right before List.mem_cons_self

/-- The fuel is enough for the children of a tree when it is enough for them one by one. -/
theorem Document.Holds.covers_children {d : Document} {p : Option NodeId} {t : Tree}
    (h : d.Holds p t) {fuel : Nat} {cost : NodeKind → Nat}
    (hfuel : ∀ c ∈ t.children, c.reach cost ≤ fuel) :
    ∀ n ∈ d.childElements t.id, ∃ p s, d.Holds p s ∧ s.id = n ∧ s.reach cost ≤ fuel := by
  intro n hn
  have hmem := List.mem_of_mem_filter hn
  rw [h.children] at hmem
  obtain ⟨c, hc, rfl⟩ := List.mem_map.1 hmem
  exact ⟨some t.id, c, h.of_mem_children hc, rfl, hfuel c hc⟩

/-- What follows an element has at least the cost of the element less to reach. -/
theorem Tree.add_le_of_reach_le {t : Tree} {cost : NodeKind → Nat} {fuel : Nat}
    (ht : t.reach cost ≤ fuel + 1) (hdata : t.kind.isData = false) :
    ∀ c ∈ t.children, cost t.kind + c.reach cost ≤ fuel + 1 :=
  fun _ hc => Nat.le_trans (Tree.cost_add_reach_le cost hdata hc) ht

/-- The shadow tree of an instance reaches less far than the instance: the instance pays for the
branches of its template, and the rest of its reach for the content. -/
theorem ComponentRegistry.reach_instance_le {d : Document} {p : Option NodeId} {t : Tree}
    {name : QName} {key : String} {outerScope innerScope : ScopeId} {shadow : ShadowTree}
    {fuel : Nat} (h : r.instantiate d t.id key outerScope innerScope = .ok shadow)
    (hd : d.Grounded) (ht : d.Holds p t) (hname : t.kind.name? = some name)
    (hdata : t.kind.isData = false) (hreach : t.reach (r.cost controls) ≤ fuel + 1)
    (hforests : ∀ name template, r.template? name = some template → template.IsForest)
    (hacyclic : ∀ b, ¬Relation.TransGen r.Uses b b) :
    ∃ filled, shadow.document.Holds none filled ∧ filled.id = shadow.document.root ∧
      ∀ c ∈ filled.children, c.reach (r.cost controls) ≤ fuel := by
  obtain ⟨name', template, hname', htemplate, -⟩ := ComponentRegistry.instantiate_spec h
  obtain rfl : name = name' := Option.some.inj (hname.symm.trans (ht.name?.symm.trans hname'))
  obtain ⟨b, hbinding, hb⟩ := ComponentRegistry.template?_eq_some htemplate
  have hforest := hforests name template htemplate
  obtain ⟨u, hu, -⟩ := hforest.exists_hasTree
  have hcost := ComponentRegistry.cost_of_binding controls hname hbinding
  obtain ⟨m, hm⟩ := Nat.exists_eq_succ_of_ne_zero (Nat.ne_of_gt (r.cost_pos controls t.kind))
  have hbelow : ∀ c ∈ u.children, c.reach (r.cost controls) ≤ m := by
    intro c hc
    have hlt := ComponentRegistry.reach_child_template_lt controls hacyclic
      (ComponentRegistry.mem_of_binding? hbinding) hb hu hc
    rw [← hcost, hm] at hlt
    exact Nat.lt_succ_iff.1 hlt
  have hcontent : ∀ c ∈ t.children, c.reach (r.cost controls) ≤ fuel - m := by
    intro c hc
    have hadd := Tree.add_le_of_reach_le hreach hdata c hc
    omega
  obtain ⟨filled, hheld, hroot, hfilled⟩ :=
    ComponentRegistry.exists_filledFrom_of_instantiate h hd ht (hd.height_le ht) hcontent hname
      htemplate hforest.grounded hu
  have hm : m ≤ fuel := by
    have htop : r.cost controls t.kind ≤ t.reach (r.cost controls) := by
      cases t
      rw [Tree.reach]
      exact Nat.le_add_right _ _
    omega
  refine ⟨filled, hheld, hroot, fun c hc => ?_⟩
  have hle := hfilled.children_reach_le hbelow c hc
  omega

/-- **What a reading opens is covered by one less fuel.** -/
theorem Reading.Opens.covers (h : v.Opens controls l) (hv : v.Covers controls r)
    (hown : v.Own controls) (hsound : v.Sound controls r)
    (hforests : ∀ name template, r.template? name = some template → template.IsForest)
    (hacyclic : ∀ b, ¬Relation.TransGen r.Uses b b) : l.Covers controls r := by
  obtain ⟨p, t, ht, hid, hreach⟩ := hv
  have hkind : ∀ {name : QName}, v.origin.name? v.node = some name → t.kind.name? = some name := by
    intro name hname
    rwa [← hid, ht.name?] at hname
  have hisData : ∀ {name : QName}, t.kind.name? = some name →
      name.is Namespace.xforms "instance" = false → t.kind.isData = false := by
    intro name hname hdata
    rw [NodeKind.isData, hname]
    exact hdata
  cases h with
  | @below fuel d hfuel hpasses =>
    obtain rfl : v.origin = d := Option.some.inj (hown.symm.trans hpasses.document)
    obtain ⟨name, hname, -, hdata, -⟩ := hpasses.plain
    rw [hfuel] at hreach
    have hless : ∀ c ∈ t.children, c.reach (r.cost controls) ≤ fuel := by
      intro c hc
      have hadd := Tree.add_le_of_reach_le hreach (hisData (hkind hname) hdata) c hc
      have hpos := r.cost_pos controls t.kind
      omega
    show ∀ n ∈ v.origin.childElements v.node, _
    rw [← hid]
    exact ht.covers_children hless
  | @inside fuel d id shadow hfuel henters =>
    obtain rfl : v.origin = d := Option.some.inj (hown.symm.trans henters.document)
    obtain ⟨name, hname, -, hdata, -⟩ := henters.component
    rw [hfuel] at hreach
    have hshadow := henters.shadow
    rw [hsound.founded.components, ← hid] at hshadow
    obtain ⟨filled, hheld, hroot, hless⟩ :=
      ComponentRegistry.reach_instance_le hshadow hsound.origin ht (hkind hname)
        (hisData (hkind hname) hdata) hreach hforests hacyclic
    show ∀ n ∈ shadow.document.childElements shadow.document.root, _
    rw [← hroot]
    exact hheld.covers_children hless

theorem Loop.covers_top (hcontrols : controls.IsForest) : (Loop.top controls r).Covers controls r := by
  obtain ⟨t, ht, -⟩ := hcontrols.exists_hasTree
  show ∀ n ∈ controls.childElements controls.root, _
  rw [← ht.root]
  exact ht.holds.covers_children fun c hc => r.reach_child_controls_le ht hc

theorem Read.covers (h : Read controls r v)
    (hchecked : ∀ d ∈ r.documents controls, d.check = .ok ())
    (hacyclic : ∀ b, ¬Relation.TransGen r.Uses b b)
    (hown : ∀ v, Read controls r v → v.Own controls) : v.Covers controls r := by
  have hforests : ∀ name template, r.template? name = some template → template.IsForest :=
    fun _ _ htemplate => ComponentRegistry.isForest_of_template? hchecked htemplate
  induction h with
  | top hturn =>
    have hcontrols := Document.check_eq_ok_iff.1 (hchecked controls List.mem_cons_self)
    exact hturn.covers (Loop.covers_top hcontrols)
  | @next v w l hv hopens hturn ih =>
    have hsound := hv.sound (arenas_of_checked hchecked)
    exact hturn.covers (hopens.covers ih (hown v hv) hsound hforests hacyclic)

/-- No visit is at the depth where the walk is cut off: an element reaches at least itself. -/
theorem Read.fuel_pos (h : Read controls r v)
    (hchecked : ∀ d ∈ r.documents controls, d.check = .ok ())
    (hacyclic : ∀ b, ¬Relation.TransGen r.Uses b b)
    (hown : ∀ v, Read controls r v → v.Own controls) : 0 < v.fuel := by
  obtain ⟨p, ⟨n, kind, ts⟩, -, -, hreach⟩ := h.covers hchecked hacyclic hown
  rw [Tree.reach] at hreach
  have hpos := r.cost_pos controls kind
  omega

/-! ## What stops a walk -/

/-- A loop that fails does so when the turn of some element has come. -/
theorem Loop.exists_turn_of_error (hl : l.Sound controls r)
    (h : l.outcome controls = .error e) : ∃ w, l.Turn controls w ∧ w.outcome controls = .error e := by
  obtain ⟨before, c, after, t, hsplit, hbefore, hc⟩ := exists_of_foldlM_error h
  cases hscope : t.scopeOfChild? l.scope c l.source with
  | some s =>
    rw [hscope] at hc
    exact ⟨_, .intro hsplit hbefore hscope, hc⟩
  | none =>
    -- the source has had a document from the start
    have hstands : (t.document? controls l.source).isSome = true :=
      Loop.keeps_of_turns (l := { l with elements := before })
        (P := fun t => (t.document? controls l.source).isSome = true) hbefore hl.stands
        fun w _ hw t ht => w.stands hw ht
    cases hsource : l.source with
    | controls =>
      rw [hsource] at hscope
      contradiction
    | shadow key =>
      rw [hsource, ScopeTree.document?, Option.isSome_map] at hstands
      rw [hsource, ScopeTree.scopeOfChild?, Option.map_eq_none_iff] at hscope
      rw [hscope] at hstands
      contradiction

/-- By induction on the fuel: what stops the walk stops it at a reading that opens nothing. -/
theorem Read.finding_of_error (hv : Read controls r v)
    (hchecked : ∀ d ∈ r.documents controls, d.check = .ok ())
    (hacyclic : ∀ b, ¬Relation.TransGen r.Uses b b)
    (hown : ∀ v, Read controls r v → v.Own controls) (h : v.outcome controls = .error e) :
    ∃ f, e = .finding f := by
  have harenas := arenas_of_checked hchecked
  generalize hfuel : v.fuel = fuel
  induction fuel generalizing v with
  | zero => exact absurd (hv.fuel_pos hchecked hacyclic hown) (hfuel ▸ Nat.lt_irrefl 0)
  | succ fuel ih =>
    rcases v.outcome_cases controls hfuel with ⟨-, hstray⟩ | ⟨f, hf⟩ | ⟨ids, hids⟩ | ⟨l, hl, hloop⟩
    · exact absurd (hv.node_lt harenas) (Nat.not_lt.2 (hstray v.origin (hown v hv)))
    · rw [hf] at h
      exact ⟨f, (Except.error.inj h).symm⟩
    · rw [hids] at h
      contradiction
    · rw [hloop] at h
      obtain ⟨w, hw, he⟩ :=
        Loop.exists_turn_of_error (hl.sound harenas (hv.sound harenas)) h
      refine ih (.next hv hl hw) he ?_
      rw [hw.fuel]
      cases hl with
      | inside hfuel' henters => exact Nat.succ.inj (hfuel'.symm.trans hfuel)
      | below hfuel' hpasses => exact Nat.succ.inj (hfuel'.symm.trans hfuel)

/-- **What a walk reads, and how it ends**, under bindings of which none reaches itself. It asks for
addresses of the document that it took them from. As long as it reads them there, it ends well or
with a finding. And it does read them there unless it comes to an instance inside of itself; that
several elements have the same id is no harm as long as none of them is inside of another. -/
theorem reads_and_ends (hchecked : ∀ d ∈ r.documents controls, d.check = .ok ())
    (hacyclic : ∀ b, ¬Relation.TransGen r.Uses b b) :
    (∀ v, Read controls r v → v.node < v.origin.size) ∧
    ((∀ v, Read controls r v → v.Own controls) →
      (∃ t, resolveScopes controls r = .ok t) ∨
        ∃ f, resolveScopes controls r = .error (.finding f)) ∧
    ((∀ v, Read controls r v → ¬v.InItself controls) → ∀ v, Read controls r v → v.Own controls) := by
  have harenas := arenas_of_checked hchecked
  refine ⟨fun v hv => hv.node_lt harenas, fun hown => ?_, fun hapart v hv => hv.own hapart harenas⟩
  cases h : resolveScopes controls r with
  | ok t => exact .inl ⟨t, rfl⟩
  | error e =>
    obtain ⟨w, hw, he⟩ := Loop.exists_turn_of_error (Loop.sound_top harenas) h
    obtain ⟨f, rfl⟩ := Read.finding_of_error (.top hw) hchecked hacyclic hown he
    exact .inr ⟨f, rfl⟩

/-! ## An instance inside of itself -/

/-- A template of its content and an input. -/
def fieldsetTemplate : Document :=
  { nodes :=
      #[{ kind := .element { nsPrefix := "xbl", uri := Namespace.xbl, localName := "template" } []
          children := [1, 2] },
        { kind := .element { nsPrefix := "xbl", uri := Namespace.xbl, localName := "content" } []
          parent := some 0 },
        { kind := .element { nsPrefix := "xf", uri := Namespace.xforms, localName := "input" }
            [⟨.plain "id", "x"⟩]
          parent := some 0 }]
    root := 0 }

def fieldsetComponents : ComponentRegistry :=
  { bindings :=
      [{ element := { nsPrefix := "fr", uri := "fr", localName := "fieldset" }, bindingId := none
         template := some fieldsetTemplate },
       { element := { nsPrefix := "fr", uri := "fr", localName := "blank" }, bindingId := none
         template := some emptyTemplate }] }

/-- An instance `a` with an instance of the same id for content, which therefore has the same
prefixed id. -/
def twiceControls : Document :=
  { nodes :=
      #[{ kind := .element (.plain "controls") [], children := [1] },
        { kind := .element { nsPrefix := "fr", uri := "fr", localName := "fieldset" }
            [⟨.plain "id", "a"⟩]
          parent := some 0, children := [2] },
        { kind := .element { nsPrefix := "fr", uri := "fr", localName := "blank" }
            [⟨.plain "id", "a"⟩]
          parent := some 1 }]
    root := 0 }

theorem check_twice :
    ∀ d ∈ fieldsetComponents.documents twiceControls, d.check = .ok () := by
  decide

theorem acyclic_fieldset : ∀ b, ¬Relation.TransGen fieldsetComponents.Uses b b :=
  ComponentRegistry.acyclic_of_forall (by decide)

/-- The inner instance leaves a shadow tree of one node, and the input is asked for there. -/
theorem stray_twice : resolveScopes twiceControls fieldsetComponents = .error .strayNode := by
  have hrun : (resolveScopes twiceControls fieldsetComponents).map (fun _ => ()) =
      .error .strayNode := by decide +kernel
  cases h : resolveScopes twiceControls fieldsetComponents with
  | ok t =>
    rw [h] at hrun
    contradiction
  | error e =>
    rw [h] at hrun
    exact congrArg Except.error (Except.error.inj hrun)

/-- So the walk comes to no answer about the form. -/
theorem no_answer_twice : ¬((∃ t, resolveScopes twiceControls fieldsetComponents = .ok t) ∨
    ∃ f, resolveScopes twiceControls fieldsetComponents = .error (.finding f)) := by
  rintro (⟨t, ht⟩ | ⟨f, hf⟩)
  · rw [stray_twice] at ht
    contradiction
  · rw [stray_twice] at hf
    exact Stop.noConfusion (Except.error.inj hf)

/-- **Not every walk reads what is there.** In `twiceControls` the shadow tree of the inner instance
has no node with the address of the input that comes next. -/
theorem not_always_reads : ¬∀ (controls : Document) (r : ComponentRegistry),
    (∀ d ∈ r.documents controls, d.check = .ok ()) →
    (∀ b, ¬Relation.TransGen r.Uses b b) →
    (∃ t, resolveScopes controls r = .ok t) ∨
      ∃ f, resolveScopes controls r = .error (.finding f) := by
  exact fun hall =>
    no_answer_twice (hall twiceControls fieldsetComponents check_twice acyclic_fieldset)

/-- The law at `twiceControls`: the walk asks for a node of the outer shadow tree, and since it comes
to no answer, it comes to an instance inside of itself. -/
theorem reads_and_ends_twice :
    (∀ d ∈ fieldsetComponents.documents twiceControls, d.check = .ok ()) ∧
      (∀ b, ¬Relation.TransGen fieldsetComponents.Uses b b) ∧
      (∀ v, Read twiceControls fieldsetComponents v → v.node < v.origin.size) ∧
      ∃ v, Read twiceControls fieldsetComponents v ∧ v.InItself twiceControls := by
  obtain ⟨hnode, hends, hown⟩ := reads_and_ends check_twice acyclic_fieldset
  refine ⟨check_twice, acyclic_fieldset, hnode, ?_⟩
  by_contra hnone
  have hapart : ∀ v, Read twiceControls fieldsetComponents v → ¬v.InItself twiceControls :=
    fun v hv hself => hnone ⟨v, hv, hself⟩
  exact no_answer_twice (hends (hown hapart))

end FormEngine
