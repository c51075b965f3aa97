import FormEngine.Proofs.Component.Links
import FormEngine.Proofs.Control.Nesting
/-!
# Where the walk over the controls comes

A control is found under its prefixed id from the time that it is met, whatever comes after it. The
walk begins under the root of the controls document and goes on under the roots of shadow trees, so
it never is at a root: each control stands properly below the root of its document.
-/

namespace FormEngine

/-! ## Ids that lead to a control -/

namespace ControlTree

/-- The controls are found under their prefixed ids, the newest first. -/
def Keyed (t : ControlTree) : Prop :=
  t.byPrefixedId.map Prod.fst = (t.places.map Place.prefixedId).reverse

variable {t : ControlTree}

theorem Keyed.contains (h : t.Keyed) {p : Place} (hp : p ∈ t.places) :
    t.contains p.prefixedId = true := by
  have hkey : p.prefixedId ∈ t.byPrefixedId.map Prod.fst := by
    rw [h, List.mem_reverse]
    exact List.mem_map_of_mem hp
  obtain ⟨e, he, heq⟩ := List.mem_map.1 hkey
  rw [ControlTree.contains, id?, List.lookup_isSome_iff]
  exact ⟨e, he, beq_iff_eq.2 heq.symm⟩

end ControlTree

namespace TreeBuilder

variable {f : Form} {P : ControlTree → Prop}

theorem byPrefixedId_indexKind (t : ControlTree) (c : Control) :
    (indexKind t c).byPrefixedId = t.byPrefixedId := by
  unfold indexKind
  split
  · unfold indexRepeat
    cases c.ancestorRepeat.bind t.get? <;> rfl
  · rfl
  · rfl

theorem keyed_addControl {t : ControlTree} (h : t.Keyed) (c : Control) :
    (addControl t c).Keyed := by
  have hkeys : (addControl t c).byPrefixedId = (c.prefixedId, c.id) :: t.byPrefixedId :=
    congrArg ((c.prefixedId, c.id) :: ·) (byPrefixedId_indexKind t c)
  rw [ControlTree.Keyed, hkeys, places_addControl, List.map_cons, h, List.map_append,
    List.reverse_append]
  rfl

theorem keyed_modify {t : ControlTree} (h : t.Keyed) (i : ControlId) (s : Support) :
    (t.modify i fun c => c.setSupport s).Keyed := by
  rw [ControlTree.Keyed, places_modify_setSupport]
  exact h

/-- A new control has the next number. -/
theorem id_controlOf {b : TreeBuilder} {e : ElementRef} {k : ElementClass} {c : Control}
    (h : b.controlOf f e k = .ok c) : c.id = b.tree.size := by
  unfold controlOf at h
  cases hid : f.staticId? e with
  | none =>
    rw [hid] at h
    contradiction
  | some staticId =>
    rw [hid] at h
    obtain ⟨kind, -, h⟩ := ok_of_bind h
    obtain rfl := Except.ok.inj h
    split
    · rfl
    · exact congrArg Standing.id (foldl_setSupport _ _).1

section Keeps

variable (hadd : ∀ t c, c.id = t.size → P t → P (addControl t c))
  (hsupport : ∀ t i s, P t → P (t.modify i fun c => c.setSupport s))

include hadd hsupport

theorem step_keeps {b b' : TreeBuilder} {v : Visit} (h : step f b v = .ok b') (hb : P b.tree) :
    P b'.tree := by
  have hstart : ∀ {e k b₁}, b.start f e k = .ok b₁ → P b₁.tree := by
    intro e k b₁ hb₁
    obtain ⟨c, hc, htree⟩ := tree_start hb₁
    rw [htree]
    exact hadd _ c (id_controlOf hc) hb
  cases v with
  | enter e k =>
    obtain ⟨b₁, hb₁, h⟩ := ok_of_bind h
    obtain rfl := Except.ok.inj h
    show P b₁.tree
    exact hstart hb₁
  | leave =>
    obtain rfl := Except.ok.inj h
    exact hb
  | leaf e k => exact hstart h
  | support e => exact (step_support_keeps hsupport h hb).1

/-- **A control tree has what new controls and support elements keep.** -/
theorem buildControlTree_keeps (hempty : P {}) {tree : ControlTree} {warnings : List Warning}
    (h : buildControlTree f = .ok (tree, warnings)) : P tree := by
  obtain ⟨visits, b, -, hb, hsettled⟩ := exists_run h
  have hrun : P b.tree := foldlM_invariant (P := fun b => P b.tree) hb hempty
    fun v _ b b' hb hstep => step_keeps hadd hsupport hstep hb
  exact settled_keeps hsupport hsettled hrun

end Keeps

end TreeBuilder

/-- **Every control of a form is found under its prefixed id.** -/
theorem keyed_buildControlTree {f : Form} {tree : ControlTree} {warnings : List Warning}
    (h : buildControlTree f = .ok (tree, warnings)) : tree.Keyed :=
  TreeBuilder.buildControlTree_keeps (P := ControlTree.Keyed)
    (fun _ c _ ht => TreeBuilder.keyed_addControl ht c)
    (fun _ i s ht => TreeBuilder.keyed_modify ht i s) rfl h

/-! ## Elements below a root -/

namespace Form

variable {f : Form} {e : ElementRef}

/-- The element stands below the root of its document. -/
def Below (f : Form) (e : ElementRef) : Prop :=
  (f.document e.tree).root ∈ (f.document e.tree).ancestors e.node

/-- The element is the root of its document or stands below it. -/
def Hangs (f : Form) (e : ElementRef) : Prop :=
  e.node = (f.document e.tree).root ∨ f.Below e

theorem Below.ne_root (h : f.Below e) (hforest : (f.document e.tree).IsForest) :
    e.node ≠ (f.document e.tree).root := by
  intro heq
  rw [Below, heq, Document.ancestors] at h
  cases hsize : (f.document e.tree).size with
  | zero => simp [hsize, Document.ancestorsWithin] at h
  | succ size => simp [hsize, Document.ancestorsWithin, hforest.root_parent] at h

theorem Hangs.child (h : f.Hangs e) (hforest : (f.document e.tree).IsForest) {c : ElementRef}
    (hc : c ∈ f.childElements e) : f.Below c := by
  obtain ⟨n, hn, rfl⟩ := List.mem_map.1 hc
  have hchild : n ∈ (f.document e.tree).children e.node := List.mem_of_mem_filter hn
  have hparent := (hforest.linked e.node (Document.lt_size_of_mem_children hchild)).back n hchild
  rw [Below, hforest.ancestors_of_parent? hparent, List.mem_cons]
  exact h.imp Eq.symm id

/-- The root of a shadow tree is one. -/
theorem hangs_of_expansion? {root : ElementRef} (h : f.expansion? e = some root) :
    f.Hangs root := by
  obtain ⟨i, -, rfl⟩ := Option.map_eq_some_iff.1 h
  exact .inl rfl

theorem below_of_visitsAt {under : ElementRef → Bool → Except Stop (List Visit)}
    (hunder : ∀ e inComponent vs, f.Hangs e → under e inComponent = .ok vs →
      ∀ v ∈ vs, ∀ e', v.control? = some e' → f.Below e')
    {inComponent : Bool} {vs : List Visit} (he : f.Below e)
    (h : f.visitsAt under inComponent e = .ok vs) :
    ∀ v ∈ vs, ∀ e', v.control? = some e' → f.Below e' := by
  have hown : ∀ {v : Visit}, v.control? = some e → ∀ e', v.control? = some e' → f.Below e' := by
    intro v hv e' he'
    obtain rfl := Option.some.inj (hv.symm.trans he')
    exact he
  have haround : ∀ {k : ElementClass} {ws : List Visit},
      (∀ w ∈ ws, ∀ e', w.control? = some e' → f.Below e') →
      ∀ w ∈ .enter e k :: ws ++ [.leave], ∀ e', w.control? = some e' → f.Below e' := by
    intro k ws hws w hw
    rw [List.mem_append, List.mem_cons, List.mem_singleton] at hw
    rcases hw with (rfl | hw) | rfl
    · exact hown rfl
    · exact hws w hw
    · exact fun e' he' => by contradiction
  cases walks_of_visitsAt h with
  | text hname => exact List.forall_mem_nil _
  | container hname hclass hws => exact haround (hunder e false _ (.inr he) hws)
  | bare hname hclass hroot => exact haround (List.forall_mem_nil _)
  | component hname hclass hroot hws =>
    exact haround (hunder _ true _ (hangs_of_expansion? hroot) hws)
  | leaf hname hclass hk => exact List.forall_mem_singleton.2 (hown rfl)
  | support hname hclass =>
    split
    · exact List.forall_mem_nil _
    · exact List.forall_mem_singleton.2 fun e' he' => by contradiction
  | closed hname hclass hclosed => exact List.forall_mem_nil _
  | transparent hname hclass hopen hws => exact hunder e inComponent vs (.inr he) hws

theorem below_of_visitsUnder (hforest : ∀ tree, (f.document tree).IsForest) {fuel : Nat}
    {inComponent : Bool} {vs : List Visit} (he : f.Hangs e)
    (h : f.visitsUnder fuel e inComponent = .ok vs) :
    ∀ v ∈ vs, ∀ e', v.control? = some e' → f.Below e' := by
  induction fuel generalizing e inComponent vs with
  | zero => contradiction
  | succ fuel ih =>
    rw [visitsUnder] at h
    obtain ⟨parts, hparts, h⟩ := ok_of_bind h
    obtain rfl := Except.ok.inj h
    intro v hv
    obtain ⟨part, hpart, hv⟩ := List.mem_flatten.1 hv
    obtain ⟨c, hc, hwalk⟩ := exists_mem_of_mapM hparts hpart
    have hbelow := he.child (hforest e.tree) hc
    exact below_of_visitsAt (fun _ _ _ he hunder => ih he hunder) hbelow hwalk v hv

end Form

/-- **Every control stands below the root of its document.** -/
theorem below_of_mem_places {f : Form} (hforest : ∀ tree, (f.document tree).IsForest)
    {tree : ControlTree} {warnings : List Warning}
    (h : buildControlTree f = .ok (tree, warnings)) {p : Place} (hp : p ∈ tree.places) :
    f.Below p.element := by
  obtain ⟨visits, hvisits, hplaces, -⟩ := places_buildControlTree h
  have hmem := List.mem_map_of_mem (f := Place.element) hp
  rw [hplaces, List.mem_filterMap] at hmem
  obtain ⟨v, hv, hcontrol⟩ := hmem
  exact Form.below_of_visitsUnder hforest (.inl rfl) hvisits v hv p.element hcontrol

end FormEngine
