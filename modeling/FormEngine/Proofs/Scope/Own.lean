import FormEngine.Proofs.Control.Reach
import FormEngine.Proofs.Scope.Home
import FormEngine.Proofs.Scope.InStep
import FormEngine.Proofs.Scope.Template
/-!
# The own elements of a document

An element of the controls document, or of a shadow tree that has it from its template, is an own
element of its document; the others came in as content. In a form with separate ids the shadow trees
and the scopes are numbered alike, so where an own element was written says where it stands: the
scope that it was written for gives the document, and the address is the same. Own elements of a
shadow tree have the prefix of its instance, and what has no prefix was written in the controls
document.
-/

namespace FormEngine

/-- The document whose own elements resolve in a scope. -/
def TreeRef.ofScope : ScopeId → TreeRef
  | 0 => .controls
  | j + 1 => .shadow j

/-- The element did not come in as content. -/
structure Form.Owns (f : Form) (e : ElementRef) : Prop where
  tree : e.tree ∈ f.trees
  inner : ((f.shadow? e.tree).any fun s => s.isOuter e.node) = false

/-- A form with separate ids after its scopes have been resolved, with the ledger of the walk. -/
structure Form.Settled (f : Form) (r : ComponentRegistry) (l : Ledger) (tree : Tree) : Prop where
  ids : SeparateIds f.controls r
  hasTree : f.controls.HasTree tree
  tracks : l.Tracks r f.scopes
  recalls : Ledger.Recalls r (f.scopes, l)
  inStep : f.scopes.InStep (tree.children.flatMap Tree.staticIds)

/-- The walk over a form with separate ids settles it. -/
theorem settled_traceScopes {controls : Document} {r : ComponentRegistry} {t : ScopeTree}
    {l : Ledger} (hform : SeparateIds controls r) (h : traceScopes controls r = .ok (t, l)) :
    ∃ tree, Form.Settled ⟨controls, t⟩ r l tree := by
  have hcontrols := hform.isForest List.mem_cons_self
  have htemplates : ∀ name template, r.template? name = some template → template.IsForest :=
    fun name template htemplate => (hform.single name template htemplate).1
  have hresolve : resolveScopes controls r = .ok t := by
    rw [← traceScopes_map_fst, h]
    rfl
  obtain ⟨tree, htree, -⟩ := hcontrols.exists_hasTree
  refine ⟨tree, hform, htree, ?_, ?_, inStep_resolveScopes hform hresolve htree⟩
  · exact tracks_traceScopes hcontrols.grounded
      (fun name template htemplate => (htemplates name template htemplate).grounded) h
  · exact recalls_traceScopes hcontrols htemplates h

namespace Form.Settled

variable {f : Form} {r : ComponentRegistry} {l : Ledger} {tree : Tree} {e : ElementRef} {j : Nat}
  {key : String} {s : ShadowTree}

theorem template_isForest (h : f.Settled r l tree) {template : Document}
    (hs : s.InstanceOf r template) : template.IsForest := by
  obtain ⟨name, htemplate⟩ := hs.template?
  exact (h.ids.single name template htemplate).1

/-- **A shadow tree has its own elements from one template**, at their addresses there. -/
theorem exists_template (h : f.Settled r l tree)
    (hs : f.scopes.shadowTrees[j]? = some (key, s)) :
    ∃ template, s.InstanceOf r template ∧ ∀ n, s.isOuter n = false →
      l.originAt f.controls ⟨.shadow j, n⟩ =
        { document := template, node := n, home := j + 1, handedOn := false } := by
  have hinner : s.innerScope = j + 1 := (h.inStep.scopes j _ hs).1
  rcases getElem?_of_forall₂ h.recalls.shadows j with ⟨hnone, -⟩ | ⟨a, b, ha, hb, -, hrecalls⟩
  · rw [hs] at hnone
    contradiction
  · obtain rfl := Option.some.inj (hs.symm.trans ha)
    obtain ⟨template, hinstance, horigins⟩ := hrecalls
    refine ⟨template, hinstance, fun n hn => ?_⟩
    change l.origins[j]? = some b at hb
    simp only [Ledger.originAt]
    rw [hb, Option.map_some, Option.getD_some, horigins n hn, hinner]

/-- The documents of the form are sound. -/
theorem isForest (h : f.Settled r l tree) (ref : TreeRef) : (f.document ref).IsForest := by
  cases ref with
  | controls => exact h.ids.isForest List.mem_cons_self
  | shadow j =>
    rw [Form.document, Form.shadow?, ScopeTree.shadowTreeAt?]
    cases hs : f.scopes.shadowTrees[j]? with
    | none => exact h.ids.isForest List.mem_cons_self
    | some entry =>
      obtain ⟨template, hinstance, -⟩ := h.exists_template hs
      exact (hinstance.links (h.template_isForest hinstance)).forest

/-- **Where an own element was written says where it stands.** -/
theorem eq_of_owns (h : f.Settled r l tree) (he : f.Owns e) :
    e = ⟨TreeRef.ofScope (l.originAt f.controls e).home, (l.originAt f.controls e).node⟩ := by
  obtain ⟨ref, n⟩ := e
  cases ref with
  | controls => rfl
  | shadow j =>
    -- the position is one of a shadow tree
    obtain ⟨i, hi, hij⟩ : ∃ i ∈ List.range f.scopes.shadowTrees.length,
        TreeRef.shadow i = .shadow j := by
      rcases List.mem_cons.1 he.tree with hcontrols | hmem
      · contradiction
      · exact List.mem_map.1 hmem
    obtain rfl := TreeRef.shadow.inj hij
    obtain ⟨⟨key, s⟩, hs⟩ : ∃ entry, f.scopes.shadowTrees[i]? = some entry :=
      ⟨_, List.getElem?_eq_getElem (List.mem_range.1 hi)⟩
    have hn : s.isOuter n = false := by
      have hinner := he.inner
      rw [Form.shadow?, ScopeTree.shadowTreeAt?, hs, Option.map_some, Option.any_some] at hinner
      exact hinner
    obtain ⟨template, -, horigins⟩ := h.exists_template hs
    rw [horigins n hn]
    rfl

theorem prefixOf_controls (h : f.Settled r l tree) (n : NodeId) :
    f.prefixOf ⟨.controls, n⟩ = "" := by
  have hscope : f.scopeOf ⟨.controls, n⟩ = 0 := rfl
  rw [Form.prefixOf, hscope, h.inStep.top]
  rfl

/-- An own element of a shadow tree has the prefix of the instance. -/
theorem prefixOf_own (h : f.Settled r l tree) (hs : f.scopes.shadowTrees[j]? = some (key, s))
    {scope : Scope} (hscope : f.scopes.scope? (j + 1) = some scope) {n : NodeId}
    (hn : s.isOuter n = false) : f.prefixOf ⟨.shadow j, n⟩ = scope.fullPrefix := by
  have hinner : s.innerScope = j + 1 := (h.inStep.scopes j _ hs).1
  have hof : f.scopeOf ⟨.shadow j, n⟩ = j + 1 := by
    rw [Form.scopeOf, Form.shadow?, ScopeTree.shadowTreeAt?, hs, Option.map_some, Option.map_some,
      Option.getD_some, ShadowTree.scopeOf_of_inner hn]
    exact hinner
  rw [Form.prefixOf, hof, hscope]
  rfl

/-! ## What has no prefix -/

/-- An element without a prefix resolves at top level. -/
theorem scopeOf_eq_zero (h : f.Settled r l tree) (hempty : f.prefixOf e = "") :
    f.scopeOf e = 0 := by
  cases hscope : f.scopeOf e with
  | zero => rfl
  | succ j =>
    have hlt : j < f.scopes.shadowTrees.length := by
      have hlt : f.scopeOf e < f.scopes.size := (h.tracks.resolves_originAt e).2
      rw [hscope, h.inStep.size] at hlt
      exact Nat.lt_of_succ_lt_succ hlt
    -- inside of an instance every prefix has a dollar sign
    obtain ⟨-, scope, hsc, -, hfull⟩ := h.inStep.scopes j _ (List.getElem?_eq_getElem hlt)
    rw [Form.prefixOf, hscope, hsc, Option.map_some, Option.getD_some, hfull] at hempty
    have hlength := congrArg String.length hempty
    rw [String.length_append] at hlength
    exact absurd hlength (Nat.succ_ne_zero _)

/-- **An element below a root that has no prefix has an id from below the root of the controls
document.** -/
theorem mem_ids_of_prefixOf (h : f.Settled r l tree) (he : f.Below e) (hempty : f.prefixOf e = "")
    {x : String} (hx : (f.document e.tree).staticId? e.node = some x) :
    x ∈ tree.children.flatMap Tree.staticIds := by
  have hforest := h.isForest e.tree
  have hreached : e.node ∈ (f.document e.tree).descendants (f.document e.tree).root :=
    hforest.mem_descendants_root.2 ⟨Document.isElement_of_staticId? hx, .inr he⟩
  have hne := he.ne_root hforest
  have hzero := h.scopeOf_eq_zero hempty
  have hcontrols : ∀ n ∈ f.controls.descendants f.controls.root, n ≠ f.controls.root →
      f.controls.staticId? n = some x → x ∈ tree.children.flatMap Tree.staticIds :=
    fun n hn hne hx => h.hasTree.mem_staticIds_of_ne_root hn hne hx
  obtain ⟨ref, n⟩ := e
  cases ref with
  | controls => exact hcontrols n hreached hne hx
  | shadow j =>
    rw [Form.document, Form.shadow?, ScopeTree.shadowTreeAt?] at hreached hne hx
    rw [Form.scopeOf, Form.shadow?, ScopeTree.shadowTreeAt?] at hzero
    cases hs : f.scopes.shadowTrees[j]? with
    | none =>
      rw [hs] at hreached hne hx
      exact hcontrols n hreached hne hx
    | some entry =>
      rw [hs] at hreached hx hzero
      have hinner : entry.2.innerScope = j + 1 := (h.inStep.scopes j _ hs).1
      cases houter : entry.2.isOuter n with
      | true =>
        have hout : entry.2.outerScope = 0 := by
          rw [← ShadowTree.scopeOf_of_outer houter]
          exact hzero
        exact h.inStep.content entry (List.mem_of_getElem? hs) hout n hreached houter x hx
      | false =>
        have hin : entry.2.innerScope = 0 := by
          rw [← ShadowTree.scopeOf_of_inner houter]
          exact hzero
        rw [hin] at hinner
        contradiction

/-- No element without a prefix has the id of the root of the controls document. -/
theorem staticId?_root_ne (h : f.Settled r l tree) (he : f.Below e) (hempty : f.prefixOf e = "")
    {x : String} (hx : (f.document e.tree).staticId? e.node = some x) :
    f.controls.staticId? f.controls.root ≠ some x := by
  intro hroot
  have hnodup := h.ids.nodup_staticIds List.mem_cons_self h.hasTree
  rw [← h.hasTree.root, h.hasTree.holds.staticId?] at hroot
  rw [tree.staticIds_eq, hroot] at hnodup
  exact (List.nodup_append.1 hnodup).2.2 x (List.mem_singleton.2 rfl) x
    (h.mem_ids_of_prefixOf he hempty hx) rfl

end Form.Settled

end FormEngine
