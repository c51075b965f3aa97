import FormEngine.Proofs.Control.Nesting
/-!
# What the walk opens it closes

The visits of a walk are balanced: each control that is entered is left again, and what is between
stands in it. A visit therefore has a place, the element of the innermost control that is open then,
and what is said of elements and their places step by step down the markup holds of every visit.
-/

namespace FormEngine

section Places

/-! `R place e` says that a control may begin at `e` in `place`. -/

variable {R W : Option ElementRef → ElementRef → Prop} {place : Option ElementRef} {f : Form}

/-- Every control that is entered is left, nothing else is, and all controls begin where they may. -/
inductive Visit.Balanced (R : Option ElementRef → ElementRef → Prop) :
    Option ElementRef → List Visit → Prop
  | nil {place : Option ElementRef} : Balanced R place []
  | leaf {place : Option ElementRef} {e : ElementRef} (k : ElementClass) {vs : List Visit}
      (hplace : R place e) (h : Balanced R place vs) : Balanced R place (.leaf e k :: vs)
  | support {place : Option ElementRef} (e : ElementRef) {vs : List Visit}
      (h : Balanced R place vs) : Balanced R place (.support e :: vs)
  | enter {place : Option ElementRef} {e : ElementRef} (k : ElementClass) {ws vs : List Visit}
      (hplace : R place e) (hinner : Balanced R (some e) ws) (h : Balanced R place vs) :
      Balanced R place (.enter e k :: (ws ++ .leave :: vs))

namespace Visit.Balanced

theorem append {us vs : List Visit} (hus : Balanced R place us) (hvs : Balanced R place vs) :
    Balanced R place (us ++ vs) := by
  induction hus with
  | nil => exact hvs
  | leaf k hplace _ ih => exact .leaf k hplace (ih hvs)
  | support e _ ih => exact .support e (ih hvs)
  | @enter _ e k ws us hplace hinner _ _ ih =>
    rw [List.cons_append, List.append_assoc, List.cons_append]
    exact .enter k hplace hinner (ih hvs)

theorem flatten {parts : List (List Visit)} (h : ∀ part ∈ parts, Balanced R place part) :
    Balanced R place parts.flatten := by
  induction parts with
  | nil => exact .nil
  | cons part parts ih =>
    rw [List.forall_mem_cons] at h
    exact h.1.append (ih h.2)

end Visit.Balanced

/-- The run over a control that is entered and left, and what comes after it. -/
theorem TreeBuilder.exists_run_enter {b b' : TreeBuilder} {e : ElementRef} {k : ElementClass}
    {ws vs : List Visit} (h : (Visit.enter e k :: (ws ++ .leave :: vs)).foldlM (step f) b = .ok b') :
    ∃ b₁ b₂, step f b (.enter e k) = .ok b₁ ∧ ws.foldlM (step f) b₁ = .ok b₂ ∧
      vs.foldlM (step f) { b₂ with frames := b₂.frames.tail } = .ok b' := by
  rw [List.foldlM_cons] at h
  obtain ⟨b₁, henter, h⟩ := ok_of_bind h
  rw [List.foldlM_append] at h
  obtain ⟨b₂, hinner, h⟩ := ok_of_bind h
  rw [List.foldlM_cons] at h
  obtain ⟨b₃, hleave, h⟩ := ok_of_bind h
  obtain rfl := Except.ok.inj hleave
  exact ⟨b₁, b₂, henter, hinner, h⟩

/-- What is said of elements in their places holds step by step down the markup: `W place e` is said
where the walk goes over the children of `e` in `place`. -/
structure Form.Descends (f : Form) (R W : Option ElementRef → ElementRef → Prop) : Prop where
  child : ∀ {place e c}, W place e → c ∈ f.childElements e → R place c
  container : ∀ {place e name}, R place e → f.name? e = some name →
    f.scopes.classify name = some .container → W (some e) e
  component : ∀ {e root}, f.expansion? e = some root → W (some e) root
  transparent : ∀ {place e name}, R place e → f.name? e = some name →
    f.scopes.classify name = none → W place e

theorem Form.Descends.visitsAt (h : f.Descends R W)
    {under : ElementRef → Bool → Except Stop (List Visit)}
    (hunder : ∀ place e inComponent vs, W place e → under e inComponent = .ok vs →
      Visit.Balanced R place vs)
    {e : ElementRef} {inComponent : Bool} {vs : List Visit} (he : R place e)
    (hvs : f.visitsAt under inComponent e = .ok vs) : Visit.Balanced R place vs := by
  have haround : ∀ {k : ElementClass} {ws : List Visit}, Visit.Balanced R (some e) ws →
      Visit.Balanced R place (.enter e k :: ws ++ [.leave]) := fun hws => .enter _ he hws .nil
  cases walks_of_visitsAt hvs with
  | text hname => exact .nil
  | container hname hclass hws =>
    exact haround (hunder _ e false _ (h.container he hname hclass) hws)
  | bare hname hclass hroot => exact haround .nil
  | component hname hclass hroot hws => exact haround (hunder _ _ true _ (h.component hroot) hws)
  | leaf hname hclass hk => exact .leaf _ he .nil
  | support hname hclass =>
    split
    · exact .nil
    · exact .support e .nil
  | closed hname hclass hclosed => exact .nil
  | transparent hname hclass hopen hws =>
    exact hunder place e inComponent vs (h.transparent he hname hclass) hws

/-- **The visits of a walk are balanced**, and what holds down the markup holds of them. -/
theorem Form.Descends.visitsUnder (h : f.Descends R W) {fuel : Nat} {e : ElementRef}
    {inComponent : Bool} {vs : List Visit} (he : W place e)
    (hvs : f.visitsUnder fuel e inComponent = .ok vs) : Visit.Balanced R place vs := by
  induction fuel generalizing place e inComponent vs with
  | zero => contradiction
  | succ fuel ih =>
    rw [Form.visitsUnder] at hvs
    obtain ⟨parts, hparts, hvs⟩ := ok_of_bind hvs
    obtain rfl := Except.ok.inj hvs
    refine .flatten fun part hpart => ?_
    obtain ⟨c, hc, hvisits⟩ := exists_mem_of_mapM hparts hpart
    exact h.visitsAt (fun _ _ _ _ hW hunder => ih hW hunder) (h.child he hc) hvisits

theorem Form.descends_true (f : Form) : f.Descends (fun _ _ => True) (fun _ _ => True) := by
  constructor <;> intros <;> trivial

/-- The visits of any walk are balanced, wherever controls may begin. -/
theorem Visit.balanced_of_visitsUnder (place : Option ElementRef) {fuel : Nat} {e : ElementRef}
    {inComponent : Bool} {vs : List Visit} (hvs : f.visitsUnder fuel e inComponent = .ok vs) :
    Visit.Balanced (fun _ _ => True) place vs :=
  f.descends_true.visitsUnder trivial hvs

end Places

end FormEngine
