import FormEngine.Proofs.Component.Reach
import FormEngine.Proofs.Scope.Distinct
/-!
# How much an instance costs

Under bindings of which none reaches itself an instance costs a power of the size of the form, with
the number of bindings that its own one reaches for exponent. So it costs more than any branch of
its template, whatever instances stand there, and the bound of a walk is more than any branch of the
controls document.
-/

namespace FormEngine

namespace ComponentRegistry

variable {r : ComponentRegistry} {controls template : Document} {b b' : Binding} {t c : Tree}

/-! ## The rank of a binding -/

open Classical in
/-- The number of bindings that a binding reaches. -/
noncomputable def rank (r : ComponentRegistry) (b : Binding) : Nat :=
  r.bindings.countP fun b' => decide (Relation.TransGen r.Uses b b')

theorem rank_le_length (r : ComponentRegistry) (b : Binding) : r.rank b ≤ r.bindings.length :=
  List.countP_le_length

theorem countP_lt_of_imp {α : Type} {p q : α → Bool} {xs : List α}
    (h : ∀ x ∈ xs, p x = true → q x = true) {a : α} (ha : a ∈ xs) (hp : ¬p a = true)
    (hq : q a = true) : xs.countP p < xs.countP q := by
  obtain ⟨before, after, rfl⟩ := List.append_of_mem ha
  have hbefore : before.countP p ≤ before.countP q :=
    List.countP_mono_left fun x hx => h x (List.mem_append_left _ hx)
  have hafter : after.countP p ≤ after.countP q :=
    List.countP_mono_left fun x hx => h x (List.mem_append_right _ (List.mem_cons_of_mem a hx))
  rw [List.countP_append, List.countP_append, List.countP_cons_of_neg hp, List.countP_cons_of_pos hq]
  omega

open Classical in
/-- **A binding reaches more than each binding that it uses**, namely that one as well. -/
theorem rank_lt_of_uses (hacyclic : ∀ b, ¬Relation.TransGen r.Uses b b) (h : r.Uses b b') :
    r.rank b' < r.rank b := by
  refine countP_lt_of_imp (fun b'' _ hreach => ?_) (mem_of_uses h) ?_ ?_
  · exact decide_eq_true (.head h (of_decide_eq_true hreach))
  · exact fun hself => hacyclic b' (of_decide_eq_true hself)
  · exact decide_eq_true (.single h)

/-! ## The cost of an element -/

/-- A number that is greater than the nodes of any document of the form. -/
def base (r : ComponentRegistry) (controls : Document) : Nat :=
  controls.size + r.templateSize + 2

theorem base_pos (r : ComponentRegistry) (controls : Document) : 0 < r.base controls :=
  Nat.succ_pos _

/-- The powers of that number. -/
def price (r : ComponentRegistry) (controls : Document) (k : Nat) : Nat :=
  Nat.pow (r.base controls) k

theorem price_pos (r : ComponentRegistry) (controls : Document) (k : Nat) :
    0 < r.price controls k :=
  Nat.pow_pos (base_pos r controls)

theorem price_le_price (r : ComponentRegistry) (controls : Document) {j k : Nat} (h : j ≤ k) :
    r.price controls j ≤ r.price controls k :=
  Nat.pow_le_pow_right (base_pos r controls) h

theorem base_mul_price (r : ComponentRegistry) (controls : Document) (k : Nat) :
    r.base controls * r.price controls k = r.price controls (k + 1) :=
  (Nat.pow_succ').symm

/-- What it costs a walk to go through an element, for an instance with its shadow tree. -/
noncomputable def cost (r : ComponentRegistry) (controls : Document) (kind : NodeKind) : Nat :=
  match kind.name?.bind r.binding? with
  | some b => r.price controls (r.rank b + 1)
  | none => 1

theorem cost_of_binding (controls : Document) {kind : NodeKind} {name : QName}
    (hname : kind.name? = some name) (hbinding : r.binding? name = some b) :
    r.cost controls kind = r.price controls (r.rank b + 1) := by
  rw [cost, hname, Option.bind_some, hbinding]

theorem cost_pos (r : ComponentRegistry) (controls : Document) (kind : NodeKind) :
    0 < r.cost controls kind := by
  rw [cost]
  split
  · exact price_pos r controls _
  · exact Nat.one_pos

/-- An element costs no more than a power that is enough for its binding. -/
theorem cost_le {kind : NodeKind} {k : Nat}
    (h : ∀ name b, kind.name? = some name → r.binding? name = some b → r.rank b + 1 ≤ k) :
    r.cost controls kind ≤ r.price controls k := by
  rw [cost]
  split
  · rename_i b hb
    obtain ⟨name, hname, hbinding⟩ := Option.bind_eq_some_iff.1 hb
    exact price_le_price r controls (h name b hname hbinding)
  · exact price_pos r controls k

/-! ## The reach of the documents of a form -/

theorem size_le_templateSize (hb : b ∈ r.bindings) (htemplate : template ∈ b.template) :
    template.size ≤ r.templateSize := by
  rw [templateSize]
  generalize r.bindings = bs at hb
  induction bs with
  | nil => contradiction
  | cons b₁ bs ih =>
    rw [List.foldr_cons]
    rcases List.mem_cons.1 hb with rfl | hb
    · rw [Option.mem_def.1 htemplate, Option.map_some, Option.getD_some]
      exact Nat.le_add_right _ _
    · exact Nat.le_trans (ih hb) (Nat.le_add_left _ _)

/-- Where the elements below the root cost `m` at most, a branch costs `m` for each node at most. -/
theorem reach_child_le {d : Document} {cost : NodeKind → Nat} {m : Nat} (ht : d.HasTree t)
    (hm : ∀ s ∈ t.walked, cost s.kind ≤ m) (hc : c ∈ t.children) : c.reach cost ≤ d.size * m :=
  calc c.reach cost ≤ c.height * m :=
        Tree.reach_le_height_mul fun s hs => hm s (Tree.exposed_subset_walked hc hs)
    _ ≤ d.size * m :=
        Nat.mul_le_mul_right m (Nat.le_trans (Tree.height_le_of_mem_children hc) ht.height)

/-- **An instance costs more than any branch of its template.** -/
theorem reach_child_template_lt (controls : Document)
    (hacyclic : ∀ b, ¬Relation.TransGen r.Uses b b) (hb : b ∈ r.bindings)
    (htemplate : template ∈ b.template) (ht : template.HasTree t) (hc : c ∈ t.children) :
    c.reach (r.cost controls) < r.price controls (r.rank b + 1) := by
  have hm : ∀ s ∈ t.walked, r.cost controls s.kind ≤ r.price controls (r.rank b) := by
    refine fun s hs => cost_le fun name b' hname hbinding => ?_
    exact rank_lt_of_uses hacyclic (DistinctIds.uses_of_mem_walked htemplate ht hs hname hbinding)
  have hsize : template.size < r.base controls := by
    have hle := size_le_templateSize hb htemplate
    rw [base]
    omega
  calc c.reach (r.cost controls) ≤ template.size * r.price controls (r.rank b) :=
        reach_child_le ht hm hc
    _ < r.base controls * r.price controls (r.rank b) :=
        Nat.mul_lt_mul_of_pos_right hsize (price_pos r controls _)
    _ = r.price controls (r.rank b + 1) := base_mul_price r controls _

/-- **The bound of a walk is enough for every branch of the controls document.** -/
theorem reach_child_controls_le (r : ComponentRegistry) (ht : controls.HasTree t)
    (hc : c ∈ t.children) : c.reach (r.cost controls) ≤ walkBound controls r := by
  have hm : ∀ s ∈ t.walked, r.cost controls s.kind ≤
      r.price controls (r.bindings.length + 1) := by
    refine fun s _ => cost_le fun name b _ _ => ?_
    exact Nat.succ_le_succ (rank_le_length r b)
  have hsize : controls.size ≤ r.base controls := by
    rw [base]
    omega
  calc c.reach (r.cost controls)
      ≤ controls.size * r.price controls (r.bindings.length + 1) := reach_child_le ht hm hc
    _ ≤ r.base controls * r.price controls (r.bindings.length + 1) := Nat.mul_le_mul_right _ hsize
    _ = r.price controls (r.bindings.length + 2) := base_mul_price r controls _
    _ ≤ r.price controls (r.bindings.length + 3) := price_le_price r controls (Nat.le_succ _)
    _ = walkBound controls r := rfl

end ComponentRegistry

end FormEngine
