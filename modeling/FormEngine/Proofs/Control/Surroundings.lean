import FormEngine.Proofs.Control.Enclosed
/-!
# What is open when a control is met

The visits of a walk alone say which controls are open when a control is met: those that have been
entered and not yet left. The records say which controls are around a control: its parent, the parent
of that, and so on. The two are the same elements in the same order, in the controls document and in
shadow trees alike, because the walk leaves what it enters and the builder makes a record with the
control that is open at that time as its parent.
-/

namespace FormEngine

/-! ## The visits -/

/-- The elements that controls begin at, each with the elements of the controls that are open then,
innermost first. -/
def Visit.around : List ElementRef → List Visit → List (ElementRef × List ElementRef)
  | _, [] => []
  | os, .enter e _ :: vs => (e, os) :: around (e :: os) vs
  | os, .leave :: vs => around os.tail vs
  | os, .leaf e _ :: vs => (e, os) :: around os vs
  | os, .support _ :: vs => around os vs

/-- What is entered in balanced visits is left before the visits that follow. -/
theorem Visit.Balanced.around_append {R : Option ElementRef → ElementRef → Prop}
    {place : Option ElementRef} {us : List Visit} (h : Visit.Balanced R place us)
    (os : List ElementRef) (vs : List Visit) :
    Visit.around os (us ++ vs) = Visit.around os us ++ Visit.around os vs := by
  induction h generalizing os vs with
  | nil => rfl
  | leaf k _ _ ih => rw [List.cons_append, Visit.around, Visit.around, ih, List.cons_append]
  | support e _ ih => rw [List.cons_append, Visit.around, Visit.around, ih]
  | enter k _ _ _ ihinner ih =>
    rw [List.cons_append, Visit.around, Visit.around, List.append_assoc, ihinner, ihinner,
      List.cons_append, Visit.around, Visit.around, List.tail_cons, ih, List.cons_append,
      List.append_assoc]

/-! ## The records -/

/-- The elements of the controls at a place and around it, innermost first. -/
def Above (l : List Standing) (place : Option ControlId) (es : List ElementRef) : Prop :=
  ∃ chain, Outwards (fun i => l[i]?) Standing.parent place chain ∧ es = chain.map Standing.element

theorem above_top (l : List Standing) : Above l none [] := ⟨[], .top, rfl⟩

theorem Above.under {l : List Standing} {p : ControlId} {s : Standing} {es : List ElementRef}
    (hs : l[p]? = some s) (h : Above l s.parent es) : Above l (some p) (s.element :: es) := by
  obtain ⟨chain, hchain, rfl⟩ := h
  exact ⟨s :: chain, .under hs hchain, rfl⟩

theorem Above.append {l : List Standing} {place : Option ControlId} {es : List ElementRef}
    (h : Above l place es) (l' : List Standing) : Above (l ++ l') place es := by
  obtain ⟨chain, hchain, rfl⟩ := h
  exact ⟨chain, hchain.append l', rfl⟩

/-- The control is that of the visit, and around it are the controls that were open then. -/
structure Standing.Met (l : List Standing) (s : Standing) (v : ElementRef × List ElementRef) :
    Prop where
  element : s.element = v.1
  above : Above l s.parent v.2

theorem Standing.forall₂_met_append {l more : List Standing}
    {vs : List (ElementRef × List ElementRef)} (h : List.Forall₂ (Standing.Met l) more vs)
    (l' : List Standing) : List.Forall₂ (Standing.Met (l ++ l')) more vs :=
  h.imp fun _ _ hmet => ⟨hmet.element, hmet.above.append l'⟩

/-! ## The run -/

namespace TreeBuilder

variable {f : Form} {b b' : TreeBuilder} {es : List ElementRef}

/-- The same controls are open, and those that have come are the ones met in between. -/
structure Meets (b : TreeBuilder) (vs : List (ElementRef × List ElementRef)) (b' : TreeBuilder) :
    Prop where
  frames : b'.frames.map Frame.control = b.frames.map Frame.control
  joined : ∃ more, b'.tree.standings = b.tree.standings ++ more ∧
    List.Forall₂ (Standing.Met b'.tree.standings) more vs

namespace Meets

variable {b₁ : TreeBuilder} {us vs : List (ElementRef × List ElementRef)}

theorem trans (h : Meets b us b₁) (h' : Meets b₁ vs b') : Meets b (us ++ vs) b' := by
  obtain ⟨more, hmore, hmet⟩ := h.joined
  obtain ⟨more', hmore', hmet'⟩ := h'.joined
  refine ⟨h'.frames.trans h.frames, more ++ more', ?_, ?_⟩
  · rw [hmore', hmore, List.append_assoc]
  · rw [hmore'] at hmet' ⊢
    exact List.rel_append (Standing.forall₂_met_append hmet more') hmet'

/-- The walk is where it was, under the same elements. -/
theorem above (h : Meets b vs b') (hb : Above b.tree.standings b.container? es) :
    Above b'.tree.standings b'.container? es := by
  obtain ⟨more, hmore, -⟩ := h.joined
  rw [container?_eq, h.frames, ← container?_eq, hmore]
  exact hb.append more

end Meets

/-- **A control is met** under the elements of the controls that are open. -/
theorem meets_start {e : ElementRef} {k : ElementClass} {name : QName}
    (hb : Above b.tree.standings b.container? es) (hname : f.name? e = some name)
    (hclass : f.scopes.classify name = some k) (hstart : b.start f e k = .ok b') :
    Meets b [(e, es)] b' := by
  have hstandings := standings_start hname hclass hstart
  refine ⟨frames_start hstart, _, hstandings, .cons ⟨rfl, ?_⟩ .nil⟩
  rw [hstandings]
  exact hb.append _

/-- A control that is entered is the innermost one in what follows. -/
theorem meets_enter {e : ElementRef} {k : ElementClass} {name : QName}
    (hb : Above b.tree.standings b.container? es) (hname : f.name? e = some name)
    (hclass : f.scopes.classify name = some k) (hstep : step f b (.enter e k) = .ok b') :
    Meets b [(e, es)] { b' with frames := b'.frames.tail } ∧
      Above b'.tree.standings b'.container? (e :: es) := by
  obtain ⟨b₁, hb₁, hstep⟩ := ok_of_bind hstep
  obtain rfl := Except.ok.inj hstep
  have hmeets := meets_start hb hname hclass hb₁
  have hstandings := standings_start hname hclass hb₁
  refine ⟨hmeets, ?_⟩
  have hnew : b₁.tree.standings[b.tree.size]? = some (begun b.tree.standings b.container? e name k) := by
    rw [hstandings, ← ControlTree.length_standings, List.getElem?_concat_length]
  refine .under hnew ?_
  show Above b₁.tree.standings b.container? es
  rw [hstandings]
  exact hb.append _

/-- **The controls that a run adds are those of its visits**, each under what is open then. By
induction on how the visits are balanced. -/
theorem meets_run {R : Option ElementRef → ElementRef → Prop} {place : Option ElementRef}
    {visits : List Visit} (hbalanced : Visit.Balanced R place visits)
    (hproper : ∀ v ∈ visits, v.Proper f) (hb : Above b.tree.standings b.container? es)
    (hrun : visits.foldlM (step f) b = .ok b') : Meets b (Visit.around es visits) b' := by
  induction hbalanced generalizing b b' es with
  | nil =>
    obtain rfl : b = b' := Except.ok.inj hrun
    exact ⟨rfl, [], (List.append_nil _).symm, .nil⟩
  | leaf k _ _ ih =>
    rw [List.foldlM_cons] at hrun
    obtain ⟨b₁, hstart, hrun⟩ := ok_of_bind hrun
    obtain ⟨hleaf, hproper⟩ := List.forall_mem_cons.1 hproper
    cases hleaf with
    | leaf hname hclass hk =>
      have hmeets := meets_start hb hname hclass hstart
      exact hmeets.trans (ih hproper (hmeets.above hb) hrun)
  | support e _ ih =>
    rw [List.foldlM_cons] at hrun
    obtain ⟨b₁, hsupport, hrun⟩ := ok_of_bind hrun
    obtain ⟨hstandings, hframes⟩ := step_support_eq standings_modify_setSupport hsupport
    have hmeets : Meets b [] b₁ :=
      ⟨congrArg _ hframes, [], by rw [hstandings, List.append_nil], .nil⟩
    exact hmeets.trans (ih (List.forall_mem_cons.1 hproper).2 (hmeets.above hb) hrun)
  | @enter _ e k ws vs _ hinner _ ihinner ih =>
    obtain ⟨henter, hproper⟩ := List.forall_mem_cons.1 hproper
    obtain ⟨hproperInner, hproper⟩ := List.forall_mem_append.1 hproper
    obtain ⟨b₁, b₂, hstep, hinnerRun, hrun⟩ := exists_run_enter hrun
    cases henter with
    | enter hname hclass hk =>
      obtain ⟨hmeets₁, hopened⟩ := meets_enter hb hname hclass hstep
      have hmeets₂ := ihinner hproperInner hopened hinnerRun
      -- once the control is left, what is open is what was open before it
      have hleft : Meets { b₁ with frames := b₁.frames.tail } (Visit.around (e :: es) ws)
          { b₂ with frames := b₂.frames.tail } := by
        refine ⟨?_, hmeets₂.joined⟩
        rw [List.map_tail, List.map_tail, hmeets₂.frames]
      have hmeets := hmeets₁.trans hleft
      have hrest := ih (List.forall_mem_cons.1 hproper).2 (hmeets.above hb) hrun
      rw [Visit.around, hinner.around_append, Visit.around, List.tail_cons]
      exact hmeets.trans hrest

end TreeBuilder

/-! ## The finished tree -/

namespace ControlTree

/-- The controls around a place are those at the elements above it. -/
theorem Around.elements {t : ControlTree} {place : Option ControlId} {chain : List Control}
    (h : t.Around place chain) {es : List ElementRef} (habove : Above t.standings place es) :
    chain.map Control.element = es := by
  obtain ⟨standings, hstandings, rfl⟩ := habove
  have hseen : Outwards (fun i => t.standings[i]?) Standing.parent place (chain.map Control.standing) :=
    h.map (getElem?_standings t) fun _ => rfl
  rw [hseen.unique hstandings, List.map_map]
  rfl

end ControlTree

/-- **The controls of a form are those that its walk meets**, each under what is open then. -/
theorem met_buildControlTree {f : Form} {tree : ControlTree} {warnings : List Warning}
    (h : buildControlTree f = .ok (tree, warnings)) :
    ∃ visits, f.visits = .ok visits ∧
      List.Forall₂ (Standing.Met tree.standings) tree.standings (Visit.around [] visits) := by
  obtain ⟨visits, b, hvisits, hrun, hsettled⟩ := exists_run h
  have hstandings : tree.standings = b.tree.standings :=
    TreeBuilder.settled_eq TreeBuilder.standings_modify_setSupport hsettled
  have hmeets := TreeBuilder.meets_run (Visit.balanced_of_visitsUnder none hvisits)
    (proper_of_visitsUnder hvisits) (above_top _) hrun
  obtain ⟨more, hmore, hmet⟩ := hmeets.joined
  obtain rfl : b.tree.standings = more := hmore
  rw [hstandings]
  exact ⟨visits, hvisits, hmet⟩

end FormEngine
