import FormEngine.Control.Element
import FormEngine.Proofs.Scope.Reading
/-!
# Forms without bindings

Without bindings no element is a component instance. The resolver then makes no scope and no shadow
tree, so the controls document is the only document of the form, and prefixed ids are ids.
-/

namespace FormEngine

/-- The form has its top-level scope and its controls document, and nothing is bound. -/
structure ScopeTree.Flat (t : ScopeTree) : Prop where
  components : t.components.bindings = []
  shadowTrees : t.shadowTrees = []
  scopes : t.scopes = [Scope.top]

theorem ComponentRegistry.isComponent_of_unbound {r : ComponentRegistry} (h : r.bindings = [])
    (name : QName) : r.isComponent name = false := by
  rw [isComponent, binding?, h]
  rfl

/-- **A form without bindings stays flat.** -/
theorem flat_resolveScopes {controls : Document} {r : ComponentRegistry} {t : ScopeTree}
    (hr : r.bindings = []) (h : resolveScopes controls r = .ok t) : t.Flat := by
  refine keeps_resolveScopes h ⟨hr, rfl, rfl⟩ (fun t s ids ht => ?_) fun v d id shadow henters hv => ?_
  · rw [ScopeTree.indexAll_eq]
    exact ⟨ht.components, ht.shadowTrees, ht.scopes⟩
  · -- nothing is entered
    obtain ⟨name, -, -, -, hcomponent⟩ := henters.component
    rw [ComponentRegistry.isComponent_of_unbound hv.components] at hcomponent
    contradiction

namespace ScopeTree.Flat

variable {t : ScopeTree} {c : Document}

/-- There are no templates to drop. -/
theorem freeTemplates (h : t.Flat) : t.freeTemplates = t := by
  obtain ⟨scopes, resolution, shadowTrees, ⟨bindings⟩⟩ := t
  obtain rfl : bindings = [] := h.components
  rfl

theorem trees (h : t.Flat) : Form.trees ⟨c, t⟩ = [.controls] := by
  rw [Form.trees, h.shadowTrees]
  rfl

theorem prefixOf (h : t.Flat) (n : NodeId) : Form.prefixOf ⟨c, t⟩ ⟨.controls, n⟩ = "" := by
  rw [Form.prefixOf, ScopeTree.scope?, h.scopes]
  rfl

theorem prefixedId? (h : t.Flat) (n : NodeId) :
    Form.prefixedId? ⟨c, t⟩ ⟨.controls, n⟩ = c.staticId? n := by
  rw [Form.prefixedId?, h.prefixOf]
  have hid : Form.staticId? ⟨c, t⟩ ⟨.controls, n⟩ = c.staticId? n := rfl
  rw [hid]
  cases c.staticId? n with
  | none => rfl
  | some id => exact congrArg some String.empty_append

end ScopeTree.Flat

end FormEngine
