import FormEngine.Proofs.Control.Reach
import FormEngine.Proofs.Document.Line
/-!
# What the walk comes to in the controls document

The walk goes on below containers and below transparent markup. It does not look into a control
without children, an instance is left for its shadow tree, and markup that is opaque is passed by. So
it comes to an element of the controls document exactly if everything between the element and the root
is a container or transparent, and what it makes of the element there is what the name says.

This is about the controls document. The walk comes back to it from no shadow tree.
-/

namespace FormEngine

/-- What a visit comes to, as what. -/
def Visit.meets? : Visit → Option (ElementRef × ElementClass)
  | .enter e k => some (e, k)
  | .leaf e k => some (e, k)
  | .support e => some (e, .support)
  | .leave => none

namespace Form

variable {f : Form} {e : ElementRef} {n : NodeId} {k : ElementClass}

/-- The class of an element by its name. -/
def class? (f : Form) (e : ElementRef) : Option ElementClass := (f.name? e).bind f.scopes.classify

/-- The walk goes on below the element, in the same document. -/
def isOpen (f : Form) (e : ElementRef) : Bool :=
  (f.name? e).any fun name =>
    match f.scopes.classify name with
    | some k => k == .container
    | none => !f.isOpaque e name

/-- The node stands below the root of the controls document, with nothing between that is not
open. -/
def Reaches (f : Form) (n : NodeId) : Prop :=
  f.controls.root ∈ f.controls.ancestors n ∧
    ∀ a ∈ f.controls.ancestors n, a ≠ f.controls.root → f.isOpen ⟨.controls, a⟩ = true

/-- The walk goes on below the node. -/
def Enters (f : Form) (n : NodeId) : Prop :=
  n = f.controls.root ∨ f.Reaches n ∧ f.isOpen ⟨.controls, n⟩ = true

/-! ## Small laws -/

theorem class?_eq {name : QName} (hname : f.name? e = some name) :
    f.class? e = f.scopes.classify name := by
  rw [class?, hname, Option.bind_some]

theorem isOpen_container {name : QName} (hname : f.name? e = some name)
    (hclass : f.scopes.classify name = some .container) : f.isOpen e = true := by
  rw [isOpen, hname, Option.any_some, hclass]
  rfl

theorem isOpen_transparent {name : QName} (hname : f.name? e = some name)
    (hclass : f.scopes.classify name = none) (hopen : f.isOpaque e name = false) :
    f.isOpen e = true := by
  rw [isOpen, hname, Option.any_some, hclass, hopen]
  rfl

/-- Open markup is a container or transparent. -/
theorem cases_of_isOpen (h : f.isOpen e = true) : ∃ name, f.name? e = some name ∧
    (f.scopes.classify name = some .container ∨
      f.scopes.classify name = none ∧ f.isOpaque e name = false) := by
  obtain ⟨name, hname, hopen⟩ := (Option.any_eq_true _ _).1 h
  refine ⟨name, hname, ?_⟩
  cases hclass : f.scopes.classify name with
  | none =>
    rw [hclass, Bool.not_eq_true'] at hopen
    exact .inr ⟨rfl, hopen⟩
  | some k =>
    rw [hclass, beq_iff_eq] at hopen
    exact .inl (congrArg some hopen)

/-- Below what the walk enters, the way to the root is open. -/
theorem Enters.child (hforest : f.controls.IsForest) (h : f.Enters n) {c : NodeId}
    (hc : f.controls.parent? c = some n) : f.Reaches c := by
  have hup := hforest.ancestors_of_parent? hc
  rcases h with rfl | ⟨⟨hroot, hbetween⟩, hopen⟩
  · rw [Document.ancestors_of_parent?_eq_none hforest.root_parent] at hup
    refine ⟨hup ▸ List.mem_cons_self, fun a ha hne => ?_⟩
    rw [hup, List.mem_singleton] at ha
    exact absurd ha hne
  · refine ⟨hup ▸ List.mem_cons_of_mem n hroot, fun a ha hne => ?_⟩
    rcases List.mem_cons.1 (hup ▸ ha) with rfl | ha
    · exact hopen
    · exact hbetween a ha hne

/-- What is reached stands below something that the walk enters. -/
theorem Reaches.exists_parent (hforest : f.controls.IsForest) (h : f.Reaches n) :
    ∃ p, f.controls.parent? n = some p ∧ f.Enters p := by
  obtain ⟨hroot, hbetween⟩ := h
  cases hp : f.controls.parent? n with
  | none =>
    rw [Document.ancestors_of_parent?_eq_none hp] at hroot
    contradiction
  | some p =>
    have hup := hforest.ancestors_of_parent? hp
    refine ⟨p, rfl, ?_⟩
    by_cases hpr : p = f.controls.root
    · exact .inl hpr
    rw [hup] at hroot hbetween
    refine .inr ⟨⟨?_, fun a ha => hbetween a (List.mem_cons_of_mem p ha)⟩, ?_⟩
    · exact (List.mem_cons.1 hroot).resolve_left (Ne.symm hpr)
    · exact hbetween p List.mem_cons_self hpr

theorem parent?_of_mem_childElements (hforest : f.controls.IsForest) {c : ElementRef}
    (hc : c ∈ f.childElements ⟨.controls, n⟩) :
    c.tree = .controls ∧ f.controls.parent? c.node = some n := by
  obtain ⟨m, hm, rfl⟩ := List.mem_map.1 hc
  have hchild : m ∈ f.controls.children n := List.mem_of_mem_filter hm
  exact ⟨rfl, (hforest.linked n (Document.lt_size_of_mem_children hchild)).back m hchild⟩

theorem tree_of_mem_childElements {c : ElementRef} (hc : c ∈ f.childElements e) :
    c.tree = e.tree := by
  obtain ⟨m, -, rfl⟩ := List.mem_map.1 hc
  rfl

/-! ## What is visited is reached -/

/-- The visits come to elements of the controls document that are reached, as what they are. -/
def Sound (f : Form) (vs : List Visit) : Prop :=
  ∀ v ∈ vs, ∀ n k, v.meets? = some (⟨.controls, n⟩, k) →
    f.Reaches n ∧ f.class? ⟨.controls, n⟩ = some k

theorem sound_of_visitsAt {under : ElementRef → Bool → Except Stop (List Visit)}
    (hunder : ∀ e inComponent vs, (e.tree = .controls → f.Enters e.node) →
      under e inComponent = .ok vs → f.Sound vs)
    {inComponent : Bool} {vs : List Visit} (he : e.tree = .controls → f.Reaches e.node)
    (h : f.visitsAt under inComponent e = .ok vs) : f.Sound vs := by
  have hown : ∀ {v : Visit} {name : QName} {k : ElementClass}, f.name? e = some name →
      f.scopes.classify name = some k → v.meets? = some (e, k) →
      ∀ n k, v.meets? = some (⟨.controls, n⟩, k) →
        f.Reaches n ∧ f.class? ⟨.controls, n⟩ = some k := by
    intro v name k hname hclass hv n k' hn
    obtain ⟨rfl, rfl⟩ := Prod.mk.inj (Option.some.inj (hv.symm.trans hn))
    exact ⟨he rfl, (class?_eq hname).trans hclass⟩
  have henters : f.isOpen e = true → e.tree = .controls → f.Enters e.node := by
    intro hopen htree
    obtain ⟨tree, n⟩ := e
    obtain rfl : tree = .controls := htree
    exact .inr ⟨he rfl, hopen⟩
  have haround : ∀ {name : QName} {k : ElementClass} {ws : List Visit},
      f.name? e = some name → f.scopes.classify name = some k → f.Sound ws →
      f.Sound (.enter e k :: ws ++ [.leave]) := by
    intro name k ws hname hclass hws v hv
    rw [List.mem_append, List.mem_cons, List.mem_singleton] at hv
    rcases hv with (rfl | hv) | rfl
    · exact hown hname hclass rfl
    · exact hws v hv
    · exact fun _ _ hn => by contradiction
  cases walks_of_visitsAt h with
  | text hname => exact List.forall_mem_nil _
  | container hname hclass hws =>
    exact haround hname hclass (hunder e false _ (henters (isOpen_container hname hclass)) hws)
  | bare hname hclass hroot => exact haround hname hclass (List.forall_mem_nil _)
  | @component name root ws hname hclass hroot hws =>
    refine haround hname hclass (hunder root true _ (fun htree => ?_) hws)
    obtain ⟨i, -, rfl⟩ := Option.map_eq_some_iff.1 hroot
    contradiction
  | leaf hname hclass hk => exact List.forall_mem_singleton.2 (hown hname hclass rfl)
  | support hname hclass =>
    split
    · exact List.forall_mem_nil _
    · exact List.forall_mem_singleton.2 (hown hname hclass rfl)
  | closed hname hclass hclosed => exact List.forall_mem_nil _
  | transparent hname hclass hopen hws =>
    exact hunder e inComponent vs (henters (isOpen_transparent hname hclass hopen)) hws

theorem sound_of_visitsUnder (hforest : f.controls.IsForest) {fuel : Nat} {inComponent : Bool}
    {vs : List Visit} (he : e.tree = .controls → f.Enters e.node)
    (h : f.visitsUnder fuel e inComponent = .ok vs) : f.Sound vs := by
  induction fuel generalizing e inComponent vs with
  | zero => contradiction
  | succ fuel ih =>
    rw [visitsUnder] at h
    obtain ⟨parts, hparts, h⟩ := ok_of_bind h
    obtain rfl := Except.ok.inj h
    intro v hv
    obtain ⟨part, hpart, hv⟩ := List.mem_flatten.1 hv
    obtain ⟨c, hc, hwalk⟩ := exists_mem_of_mapM hparts hpart
    refine sound_of_visitsAt (fun _ _ _ he hunder => ih he hunder) (fun htree => ?_) hwalk v hv
    have hetree : e.tree = .controls := (tree_of_mem_childElements hc).symm.trans htree
    obtain ⟨tree, n⟩ := e
    obtain rfl : tree = .controls := hetree
    exact (he rfl).child hforest (parent?_of_mem_childElements hforest hc).2

/-! ## What is reached is visited -/

section Walked

variable {visits : List Visit}

/-- The walk goes over the children of what it enters. -/
theorem exists_part (hforest : f.controls.IsForest) {fuel : Nat} {inComponent : Bool} {p : NodeId}
    {vs : List Visit} (hunder : f.visitsUnder fuel ⟨.controls, p⟩ inComponent = .ok vs)
    (hparent : f.controls.parent? n = some p) (hn : f.controls.isElement n = true) :
    ∃ fuel ws, f.visitsAt (f.visitsUnder fuel) inComponent ⟨.controls, n⟩ = .ok ws ∧ ws ⊆ vs := by
  cases fuel with
  | zero => contradiction
  | succ fuel =>
    rw [visitsUnder] at hunder
    obtain ⟨parts, hparts, hunder⟩ := ok_of_bind hunder
    obtain rfl := Except.ok.inj hunder
    have hchild : (⟨.controls, n⟩ : ElementRef) ∈ f.childElements ⟨.controls, p⟩ :=
      List.mem_map_of_mem (List.mem_filter.2 ⟨hforest.listed hparent, hn⟩)
    obtain ⟨ws, hws, hwalk⟩ := exists_ok_of_mapM hparts hchild
    exact ⟨fuel, ws, hwalk, fun v hv => List.mem_flatten.2 ⟨ws, hws, hv⟩⟩

/-- The walk below open markup is part of the walk at it. -/
theorem exists_under (hopen : f.isOpen ⟨.controls, n⟩ = true) {fuel : Nat} {vs : List Visit}
    (hwalk : f.visitsAt (f.visitsUnder fuel) false ⟨.controls, n⟩ = .ok vs) :
    ∃ ws, f.visitsUnder fuel ⟨.controls, n⟩ false = .ok ws ∧ ws ⊆ vs := by
  obtain ⟨name, hname, hclass⟩ := cases_of_isOpen hopen
  rw [visitsAt, hname] at hwalk
  rcases hclass with hclass | ⟨hclass, hopaque⟩
  · simp only [hclass] at hwalk
    obtain ⟨ws, hws, hwalk⟩ := ok_of_bind hwalk
    obtain rfl := Except.ok.inj hwalk
    exact ⟨ws, hws, fun v hv => List.mem_append_left _ (List.mem_cons_of_mem _ hv)⟩
  · simp only [hclass, hopaque, Bool.false_eq_true, if_false] at hwalk
    exact ⟨vs, hwalk, List.Subset.refl vs⟩

/-- The walk is at every element that is reached. By induction on the way up from it. -/
theorem exists_walk (hforest : f.controls.IsForest) (hvisits : f.visits = .ok visits)
    (hn : f.Reaches n) (helement : f.controls.isElement n = true) :
    ∃ fuel vs, f.visitsAt (f.visitsUnder fuel) false ⟨.controls, n⟩ = .ok vs ∧ vs ⊆ visits := by
  generalize hup : f.controls.ancestors n = up
  induction up generalizing n with
  | nil =>
    have hroot := hn.1
    rw [hup] at hroot
    contradiction
  | cons a up ih =>
    obtain ⟨p, hparent, henters⟩ := hn.exists_parent hforest
    have hunder : ∃ fuel vs, f.visitsUnder fuel ⟨.controls, p⟩ false = .ok vs ∧ vs ⊆ visits := by
      rcases henters with rfl | ⟨hreaches, hopen⟩
      · exact ⟨_, visits, hvisits, List.Subset.refl visits⟩
      · have hpup : f.controls.ancestors p = up := by
          rw [hforest.ancestors_of_parent? hparent] at hup
          exact (List.cons.inj hup).2
        have helement : f.controls.isElement p = true := by
          obtain ⟨name, hname, -⟩ := cases_of_isOpen hopen
          exact Document.isElement_of_name? hname
        obtain ⟨fuel, vs, hwalk, hsub⟩ := ih hreaches helement hpup
        obtain ⟨ws, hws, hsub'⟩ := exists_under hopen hwalk
        exact ⟨fuel, ws, hws, fun v hv => hsub (hsub' hv)⟩
    obtain ⟨fuel, vs, hvs, hsub⟩ := hunder
    obtain ⟨fuel, ws, hwalk, hsub'⟩ := exists_part hforest hvs hparent helement
    exact ⟨fuel, ws, hwalk, fun v hv => hsub (hsub' hv)⟩

end Walked

/-- **The walk comes to an element of the controls document exactly if everything above it is open**,
and then as what its name says. -/
theorem exists_visit_iff (hforest : f.controls.IsForest) {visits : List Visit}
    (hvisits : f.visits = .ok visits) :
    (∃ v ∈ visits, v.meets? = some (⟨.controls, n⟩, k)) ↔
      f.Reaches n ∧ f.class? ⟨.controls, n⟩ = some k := by
  constructor
  · rintro ⟨v, hv, hmeets⟩
    exact sound_of_visitsUnder hforest (fun _ => .inl rfl) hvisits v hv n k hmeets
  · rintro ⟨hn, hclass⟩
    obtain ⟨name, hname, hclassify⟩ := Option.bind_eq_some_iff.1 hclass
    obtain ⟨fuel, vs, hwalk, hsub⟩ :=
      exists_walk hforest hvisits hn (Document.isElement_of_name? hname)
    suffices hmeets : ∃ v ∈ vs, v.meets? = some (⟨.controls, n⟩, k) by
      obtain ⟨v, hv, hmeets⟩ := hmeets
      exact ⟨v, hsub hv, hmeets⟩
    rw [visitsAt, hname] at hwalk
    cases k <;> simp only [hclassify] at hwalk
    · -- a container
      obtain ⟨ws, -, hwalk⟩ := ok_of_bind hwalk
      obtain rfl := Except.ok.inj hwalk
      exact ⟨_, List.mem_append_left _ List.mem_cons_self, rfl⟩
    · -- a control without children
      obtain rfl := Except.ok.inj hwalk
      exact ⟨_, List.mem_singleton.2 rfl, rfl⟩
    · -- a component instance, with a shadow tree or without
      split at hwalk
      · obtain rfl := Except.ok.inj hwalk
        exact ⟨_, List.mem_cons_self, rfl⟩
      · obtain ⟨ws, -, hwalk⟩ := ok_of_bind hwalk
        obtain rfl := Except.ok.inj hwalk
        exact ⟨_, List.mem_append_left _ List.mem_cons_self, rfl⟩
    · -- a variable
      obtain rfl := Except.ok.inj hwalk
      exact ⟨_, List.mem_singleton.2 rfl, rfl⟩
    · -- a support element
      obtain rfl := Except.ok.inj hwalk
      exact ⟨_, List.mem_singleton.2 rfl, rfl⟩

end Form

end FormEngine
