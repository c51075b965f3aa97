import FormEngine.Proofs.Control.Place
import FormEngine.Proofs.Scope.Distinct
import FormEngine.Proofs.Scope.Survey
/-!
# The walk over the controls follows the resolver

The controls are found by a walk of their own, over the finished form. It comes to no element that
the resolver has not come to, and in the same order: at a component instance it goes on in the
shadow tree that the resolver has walked, and elsewhere it leaves out more. So the ids of the
controls stand in the survey of the resolver's walk, in order.
-/

namespace FormEngine

/-- The static id, the prefixed id and the scope of an element. -/
def Form.ids? (f : Form) (e : ElementRef) : Option (String × String × ScopeId) :=
  (f.staticId? e).map fun id => (id, f.prefixOf e ++ id, f.scopeOf e)

/-- The ids of the controls that visits begin. -/
def Form.controlIds (f : Form) (visits : List Visit) : List (String × String × ScopeId) :=
  (visits.filterMap Visit.control?).filterMap f.ids?

def Met.ids (m : Met) : String × String × ScopeId := (m.staticId, m.prefixedId, m.scope)

/-- The ids of the elements and instances of a survey. -/
def elementIds (L : List Met) : List (String × String × ScopeId) :=
  (L.filter fun m => !m.isHandler).map Met.ids

theorem controlIds_cons (f : Form) {v : Visit} {e : ElementRef} (h : v.control? = some e)
    (vs : List Visit) : f.controlIds (v :: vs) = (f.ids? e).toList ++ f.controlIds vs := by
  rw [Form.controlIds, List.filterMap_cons_some h, List.filterMap_cons]
  cases f.ids? e <;> rfl

theorem controlIds_append (f : Form) (vs ws : List Visit) :
    f.controlIds (vs ++ ws) = f.controlIds vs ++ f.controlIds ws := by
  rw [Form.controlIds, List.filterMap_append, List.filterMap_append]
  rfl

theorem elementIds_append (L M : List Met) : elementIds (L ++ M) = elementIds L ++ elementIds M := by
  rw [elementIds, List.filter_append, List.map_append]
  rfl

/-! ## Names that bindings take -/

/-- The bindings take no name that the walks treat in a way of their own. -/
def ComponentRegistry.Respectful (r : ComponentRegistry) : Prop :=
  ∀ b ∈ r.bindings, b.element.isBuiltinControl = false ∧
    b.element.is Namespace.xforms "instance" = false ∧ b.element.uri ≠ Namespace.xbl

namespace ScopeTree

variable {t : ScopeTree} {name : QName}

theorem isBuiltinControl_of_same {m n : QName} (h : m.same n = true) :
    m.isBuiltinControl = n.isBuiltinControl := by
  obtain ⟨huri, hlocal⟩ := QName.same_iff.1 h
  simp only [QName.isBuiltinControl, QName.isContainerControl, QName.isCoreControl,
    QName.isValueControl, QName.is, huri, hlocal]

/-- A bound name is respectful itself. -/
theorem respectful_of_isComponent (hr : t.components.Respectful)
    (h : t.components.isComponent name = true) : name.isBuiltinControl = false ∧
      name.is Namespace.xforms "instance" = false ∧ name.uri ≠ Namespace.xbl := by
  obtain ⟨b, hb⟩ := Option.isSome_iff_exists.1 h
  obtain ⟨hbuiltin, hdata, hxbl⟩ := hr b (ComponentRegistry.mem_of_binding? hb)
  have hsame : b.element.same name = true := by
    have hfound := List.find?_some hb
    exact hfound
  obtain ⟨huri, hlocal⟩ := QName.same_iff.1 hsame
  refine ⟨?_, ?_, ?_⟩
  · rw [← isBuiltinControl_of_same hsame]
    exact hbuiltin
  · rw [QName.is, ← huri, ← hlocal]
    exact hdata
  · rw [← huri]
    exact hxbl

theorem classify_of_isComponent (hr : t.components.Respectful)
    (h : t.components.isComponent name = true) : t.classify name = some .component := by
  obtain ⟨hbuiltin, -, -⟩ := respectful_of_isComponent hr h
  rw [QName.isBuiltinControl, Bool.or_eq_false_iff] at hbuiltin
  unfold classify
  simp [hbuiltin.1, hbuiltin.2, h]

theorem isComponent_of_classify (h : t.classify name = some .component) :
    t.components.isComponent name = true := by
  unfold classify at h
  split at h
  · contradiction
  split at h
  · contradiction
  split at h
  · assumption
  · split at h
    · contradiction
    · split at h <;> contradiction

/-- What the resolver does not enter is no control unless a binding makes it an instance. -/
theorem classify_of_not_entered
    (h : name.uri = Namespace.xbl ∨ name.is Namespace.xforms "instance" = true) :
    t.classify name = if t.components.isComponent name then some .component else none := by
  unfold classify
  rcases h with h | h
  · simp [QName.isContainerControl, QName.isCoreControl, QName.isValueControl, QName.isVariable,
      QName.supportKind?, QName.is, h, Namespace.xbl, Namespace.xforms, Namespace.xxforms]
  · rw [QName.is_iff] at h
    simp [QName.isContainerControl, QName.isCoreControl, QName.isValueControl, QName.isVariable,
      QName.supportKind?, QName.is, h.1, h.2, Namespace.xforms, Namespace.xxforms,
      SupportKind.ofName?, SupportKind.all, SupportKind.name]

theorem classify_eq_none (hr : t.components.Respectful)
    (h : name.uri = Namespace.xbl ∨ name.is Namespace.xforms "instance" = true) :
    t.classify name = none := by
  rw [classify_of_not_entered h, if_neg]
  intro hbound
  obtain ⟨-, hdata, hxbl⟩ := respectful_of_isComponent hr hbound
  rcases h with h | h
  · exact hxbl h
  · rw [hdata] at h
    contradiction

/-! ## Sources and the documents of a form -/

/-- The position of a shadow tree leads to it. -/
theorem shadowTreeAt?_of_shadowTree? {key : String} {s : ShadowTree}
    (h : t.shadowTree? key = some s) :
    ∃ i, t.shadowTreeIndex? key = some i ∧ t.shadowTreeAt? i = some s := by
  unfold shadowTree? at h
  unfold shadowTreeIndex? shadowTreeAt?
  -- the lookup and the position come from the same pass over the entries
  generalize t.shadowTrees = entries at h
  induction entries with
  | nil => simp at h
  | cons e entries ih =>
    rw [List.lookup_cons] at h
    rw [List.findIdx?_cons]
    by_cases hkey : e.1 = key
    · rw [hkey, beq_self_eq_true] at h
      obtain rfl := Option.some.inj h
      exact ⟨0, by rw [if_pos (beq_iff_eq.2 hkey)], rfl⟩
    · rw [beq_eq_false_iff_ne.2 (Ne.symm hkey)] at h
      obtain ⟨i, hi, hat⟩ := ih h
      refine ⟨i + 1, ?_, hat⟩
      rw [beq_eq_false_iff_ne.2 hkey, hi]
      rfl

end ScopeTree

/-- The document of a form that a source is. -/
def Form.Reads (f : Form) : Source → TreeRef → Prop
  | .controls, tree => tree = .controls
  | .shadow key, tree => ∃ i, f.scopes.shadowTreeIndex? key = some i ∧ tree = .shadow i

namespace Form.Reads

variable {controls d : Document} {t : ScopeTree} {source : Source} {tree : TreeRef}

theorem shadow? {key : String} (h : Form.Reads ⟨controls, t⟩ (.shadow key) tree) {s : ShadowTree}
    (hs : t.shadowTree? key = some s) : Form.shadow? ⟨controls, t⟩ tree = some s := by
  obtain ⟨i, hi, rfl⟩ := h
  obtain ⟨j, hj, hat⟩ := ScopeTree.shadowTreeAt?_of_shadowTree? hs
  obtain rfl : i = j := Option.some.inj (hi.symm.trans hj)
  exact hat

theorem of_index {key : String} {i : Nat} (h : t.shadowTreeIndex? key = some i) :
    Form.Reads ⟨controls, t⟩ (.shadow key) (.shadow i) := ⟨i, h, rfl⟩

theorem exists_of_document? (hd : t.document? controls source = some d) :
    ∃ tree, Form.Reads ⟨controls, t⟩ source tree := by
  cases source with
  | controls => exact ⟨.controls, rfl⟩
  | shadow key =>
    rw [ScopeTree.document?, Option.map_eq_some_iff] at hd
    obtain ⟨s, hs, -⟩ := hd
    obtain ⟨i, hi, -⟩ := ScopeTree.shadowTreeAt?_of_shadowTree? hs
    exact ⟨.shadow i, of_index hi⟩

theorem document (h : Form.Reads ⟨controls, t⟩ source tree)
    (hd : t.document? controls source = some d) : Form.document ⟨controls, t⟩ tree = d := by
  cases source with
  | controls =>
    obtain rfl : tree = .controls := h
    exact Option.some.inj hd
  | shadow key =>
    rw [ScopeTree.document?, Option.map_eq_some_iff] at hd
    obtain ⟨s, hs, rfl⟩ := hd
    rw [Form.document, h.shadow? hs]
    rfl

theorem scopeOf (h : Form.Reads ⟨controls, t⟩ source tree) {n : NodeId} {scope : ScopeId}
    (hscope : t.scopeOfChild? 0 n source = some scope) :
    Form.scopeOf ⟨controls, t⟩ ⟨tree, n⟩ = scope := by
  cases source with
  | controls =>
    obtain rfl : tree = .controls := h
    exact Option.some.inj hscope
  | shadow key =>
    rw [ScopeTree.scopeOfChild?, Option.map_eq_some_iff] at hscope
    obtain ⟨s, hs, rfl⟩ := hscope
    rw [Form.scopeOf, h.shadow? hs]
    rfl

theorem prefixOf_append (h : Form.Reads ⟨controls, t⟩ source tree) {n : NodeId} {scope : ScopeId}
    (hscope : t.scopeOfChild? 0 n source = some scope) (id : String) :
    Form.prefixOf ⟨controls, t⟩ ⟨tree, n⟩ ++ id = t.prefixedId scope id := by
  rw [Form.prefixOf, h.scopeOf hscope, ScopeTree.prefixedId]
  show ((t.scope? scope).map (·.fullPrefix)).getD "" ++ id = _
  cases t.scope? scope with
  | none => exact String.empty_append
  | some sc => rfl

/-- The ids of an element are those under which the resolver has met it. -/
theorem ids? (h : Form.Reads ⟨controls, t⟩ source tree)
    (hd : t.document? controls source = some d) {n : NodeId} {scope : ScopeId}
    (hscope : t.scopeOfChild? 0 n source = some scope) (role : Role) :
    Form.ids? ⟨controls, t⟩ ⟨tree, n⟩ =
      (d.staticId? n).map fun id => (t.met source n scope role id).ids := by
  have hid : Form.staticId? ⟨controls, t⟩ ⟨tree, n⟩ = d.staticId? n := by
    rw [Form.staticId?, Form.attr?, h.document hd]
    rfl
  rw [Form.ids?, hid, h.scopeOf hscope]
  cases d.staticId? n with
  | none => rfl
  | some id =>
    rw [Option.map_some, Option.map_some, h.prefixOf_append hscope]
    rfl

end Form.Reads

/-! ## One step of the walk over the controls -/

section Step

variable {f : Form} {under : ElementRef → Bool → Except Stop (List Visit)} {e : ElementRef}
  {name : QName} {inComponent : Bool} {vs : List Visit} {inner : List (String × String × ScopeId)}

/-- A container or an instance is visited around what is under it. -/
theorem controlIds_enter (f : Form) (e : ElementRef) (k : ElementClass) (ws : List Visit) :
    f.controlIds (.enter e k :: ws ++ [.leave]) = (f.ids? e).toList ++ f.controlIds ws := by
  rw [List.cons_append, controlIds_cons f rfl, controlIds_append]
  show _ ++ (f.controlIds ws ++ []) = _
  rw [List.append_nil]

/-- What the resolver does not enter is not walked. -/
theorem visits_of_not_entered (hr : f.scopes.components.Respectful) (hname : f.name? e = some name)
    (hcase : name.uri = Namespace.xbl ∨ name.is Namespace.xforms "instance" = true)
    (h : f.visitsAt under inComponent e = .ok vs) : vs = [] := by
  have hclass := ScopeTree.classify_eq_none hr hcase
  have hopaque : f.isOpaque e name = true := by
    unfold Form.isOpaque
    rcases hcase with hxbl | hdata
    · simp [hxbl]
    · simp [hdata]
  unfold Form.visitsAt at h
  simp only [hname, hclass, hopaque, if_true] at h
  exact (Except.ok.inj h).symm

/-- At an instance the walk goes on under the root of the shadow tree. -/
theorem controlIds_of_component (hr : f.scopes.components.Respectful)
    (hname : f.name? e = some name) (hcomponent : f.scopes.components.isComponent name = true)
    {root : ElementRef} (hroot : f.expansion? e = some root)
    (hunder : ∀ ws, under root true = .ok ws → (f.controlIds ws).Sublist inner)
    (h : f.visitsAt under inComponent e = .ok vs) :
    (f.controlIds vs).Sublist ((f.ids? e).toList ++ inner) := by
  unfold Form.visitsAt at h
  simp only [hname, ScopeTree.classify_of_isComponent hr hcomponent, hroot] at h
  obtain ⟨ws, hws, h⟩ := ok_of_bind h
  obtain rfl := Except.ok.inj h
  rw [controlIds_enter]
  exact (List.Sublist.refl _).append (hunder ws hws)

/-- At any other element it goes on under the element at most. -/
theorem controlIds_of_not_component (hname : f.name? e = some name)
    (hcomponent : f.scopes.components.isComponent name = false)
    (hunder : ∀ inComponent ws, under e inComponent = .ok ws → (f.controlIds ws).Sublist inner)
    (h : f.visitsAt under inComponent e = .ok vs) :
    (f.controlIds vs).Sublist ((f.ids? e).toList ++ inner) := by
  have hleaf : ∀ k, (f.controlIds [.leaf e k]).Sublist ((f.ids? e).toList ++ inner) := by
    intro k
    rw [controlIds_cons f rfl]
    exact (List.Sublist.refl _).append (List.nil_sublist _)
  unfold Form.visitsAt at h
  simp only [hname] at h
  cases hclass : f.scopes.classify name with
  | none =>
    simp only [hclass] at h
    split at h
    · obtain rfl := Except.ok.inj h
      exact List.nil_sublist _
    · exact (hunder inComponent vs h).trans (List.sublist_append_right _ _)
  | some k =>
    cases k <;> simp only [hclass] at h
    · -- a container
      obtain ⟨ws, hws, h⟩ := ok_of_bind h
      obtain rfl := Except.ok.inj h
      rw [controlIds_enter]
      exact (List.Sublist.refl _).append (hunder false ws hws)
    · -- a control without children
      obtain rfl := Except.ok.inj h
      exact hleaf .leaf
    · -- a component instance, which it is not
      rw [ScopeTree.isComponent_of_classify hclass] at hcomponent
      contradiction
    · -- a variable
      obtain rfl := Except.ok.inj h
      exact hleaf .variable
    · -- a support element
      obtain rfl := Except.ok.inj h
      split <;> exact List.nil_sublist _

end Step

/-! ## The two walks -/

section Walks

variable {controls d : Document} {t : ScopeTree} {source : Source} {tree : TreeRef} {n : NodeId}
  {scope : ScopeId}

/-- The walk under an element follows the surveys of its children, given that the walk at each child
does and that following goes from child to child. -/
theorem follows_visitsUnder {P : List Visit → List Met → Prop} (hnil : P [] [])
    (happend : ∀ vs ws L M, P vs L → P ws M → P (vs ++ ws) (L ++ M))
    {R : Source → NodeId → ScopeId → List Met → Prop}
    (hstep : ∀ c s L bound inComponent vs, R source c s L → t.scopeOfChild? 0 c source = some s →
      Form.visitsAt ⟨controls, t⟩ (Form.visitsUnder ⟨controls, t⟩ bound) inComponent ⟨tree, c⟩ =
        .ok vs → P vs L)
    (hsame : ∀ c, t.scopeOfChild? scope c source = t.scopeOfChild? 0 c source)
    (hd : Form.document ⟨controls, t⟩ tree = d) {Ls : List (List Met)}
    (hLs : List.Forall₂ (t.SurveysChild R source scope) (d.childElements n) Ls) {bound : Nat}
    {inComponent : Bool} {vs : List Visit}
    (h : Form.visitsUnder ⟨controls, t⟩ bound ⟨tree, n⟩ inComponent = .ok vs) : P vs Ls.flatten := by
  cases bound with
  | zero => contradiction
  | succ bound =>
    -- child by child, the visits of a child follow its survey
    have hall : ∀ (cs : List NodeId) (Ls : List (List Met)) (parts : List (List Visit)),
        List.Forall₂ (t.SurveysChild R source scope) cs Ls →
        List.Forall₂ (fun c vs => Form.visitsAt ⟨controls, t⟩ (Form.visitsUnder ⟨controls, t⟩ bound)
          inComponent ⟨tree, c⟩ = .ok vs) cs parts → P parts.flatten Ls.flatten := by
      intro cs Ls parts hLs hparts
      induction hLs generalizing parts with
      | nil =>
        cases hparts
        exact hnil
      | @cons c L cs Ls hc _ ih =>
        obtain ⟨s, hs, -, hL⟩ := hc
        cases hparts with
        | @cons _ vs _ parts hvs hparts =>
          rw [hsame] at hs
          exact happend _ _ _ _ (hstep c s L bound inComponent vs hL hs hvs) (ih parts hparts)
    rw [Form.visitsUnder, Form.childElements, hd] at h
    obtain ⟨parts, hparts, h⟩ := ok_of_bind h
    obtain rfl := Except.ok.inj h
    exact hall _ Ls parts hLs (List.forall₂_map_left_iff.1 (forall₂_of_mapM hparts))

theorem controlIds_visitsUnder {R : Source → NodeId → ScopeId → List Met → Prop}
    (hstep : ∀ c s L bound inComponent vs, R source c s L → t.scopeOfChild? 0 c source = some s →
      Form.visitsAt ⟨controls, t⟩ (Form.visitsUnder ⟨controls, t⟩ bound) inComponent ⟨tree, c⟩ =
        .ok vs → (Form.controlIds ⟨controls, t⟩ vs).Sublist (elementIds L))
    (hsame : ∀ c, t.scopeOfChild? scope c source = t.scopeOfChild? 0 c source)
    (hd : Form.document ⟨controls, t⟩ tree = d) {Ls : List (List Met)}
    (hLs : List.Forall₂ (t.SurveysChild R source scope) (d.childElements n) Ls) {bound : Nat}
    {inComponent : Bool} {vs : List Visit}
    (h : Form.visitsUnder ⟨controls, t⟩ bound ⟨tree, n⟩ inComponent = .ok vs) :
    (Form.controlIds ⟨controls, t⟩ vs).Sublist (elementIds Ls.flatten) := by
  refine follows_visitsUnder (P := fun vs L => (Form.controlIds ⟨controls, t⟩ vs).Sublist
    (elementIds L)) (List.Sublist.refl _) (fun vs ws L M hv hw => ?_) hstep hsame hd hLs h
  rw [controlIds_append, elementIds_append]
  exact hv.append hw

/-- The ids of a survey at an element that is no handler start with those of the element. -/
theorem elementIds_own (hreads : Form.Reads ⟨controls, t⟩ source tree)
    (hd : t.document? controls source = some d) (hscope : t.scopeOfChild? 0 n source = some scope) :
    elementIds ((d.staticId? n).toList.map (t.met source n scope .element)) =
      (Form.ids? ⟨controls, t⟩ ⟨tree, n⟩).toList := by
  rw [hreads.ids? hd hscope .element]
  cases d.staticId? n <;> rfl

/-- The expansion of an instance is the shadow tree that the resolver has walked. -/
theorem expansion?_eq (hreads : Form.Reads ⟨controls, t⟩ source tree)
    (hd : t.document? controls source = some d) (hscope : t.scopeOfChild? 0 n source = some scope)
    {id : String} (hid : d.staticId? n = some id) {shadow : ShadowTree} {i : Nat}
    (hi : t.shadowTreeIndex? (t.prefixedId scope id) = some i)
    (hat : t.shadowTreeAt? i = some shadow) :
    Form.expansion? ⟨controls, t⟩ ⟨tree, n⟩ = some ⟨.shadow i, shadow.document.root⟩ := by
  have hstatic : Form.staticId? ⟨controls, t⟩ ⟨tree, n⟩ = some id := by
    rw [Form.staticId?, Form.attr?, hreads.document hd]
    exact hid
  rw [Form.expansion?, Form.prefixedId?, hstatic, Option.map_some, hreads.prefixOf_append hscope,
    Option.bind_some, hi, Option.map_some, Form.document, Form.shadow?, hat]
  rfl

/-- **The walk over the controls follows the resolver**, by induction on the depth of the survey. -/
theorem controlIds_visitsAt (hr : t.components.Respectful) {fuel : Nat} {L : List Met}
    (hL : Surveys controls t fuel source n scope L)
    (hreads : Form.Reads ⟨controls, t⟩ source tree)
    (hscope : t.scopeOfChild? 0 n source = some scope) {bound : Nat} {inComponent : Bool}
    {vs : List Visit}
    (h : Form.visitsAt ⟨controls, t⟩ (Form.visitsUnder ⟨controls, t⟩ bound) inComponent
      ⟨tree, n⟩ = .ok vs) :
    (Form.controlIds ⟨controls, t⟩ vs).Sublist (elementIds L) := by
  induction fuel generalizing source tree n scope L bound inComponent vs with
  | zero => exact hL.elim
  | succ fuel ih =>
    have hname : ∀ {d}, t.document? controls source = some d →
        Form.name? ⟨controls, t⟩ ⟨tree, n⟩ = d.name? n := by
      intro d hd
      rw [Form.name?, hreads.document hd]
    cases hL with
    | @passed d hd hpassed =>
      cases hn : d.name? n with
      | none =>
        unfold Form.visitsAt at h
        simp only [hname hd, hn] at h
        obtain rfl := Except.ok.inj h
        exact List.nil_sublist _
      | some name =>
        obtain rfl := visits_of_not_entered hr ((hname hd).trans hn) (.inl (hpassed name hn)) h
        exact List.nil_sublist _
    | @data d name hd hn hdata =>
      obtain rfl := visits_of_not_entered hr ((hname hd).trans hn) (.inr hdata) h
      exact List.nil_sublist _
    | @component d name id shadow Ls hd hn hxbl hdata hcomponent hid hshadow hinner =>
      -- both walks go on under the root of the shadow tree, one by its position, one by its key
      obtain ⟨i, hi, hat⟩ := ScopeTree.shadowTreeAt?_of_shadowTree? hshadow
      have hids := hreads.ids? hd hscope .component
      rw [hid, Option.map_some] at hids
      have hdocument : Form.document ⟨controls, t⟩ (.shadow i) = shadow.document := by
        rw [Form.document, Form.shadow?, hat]
        rfl
      -- the handlers stand between the instance and its shadow tree, and are no controls
      have hsublist : (elementIds Ls.flatten).Sublist
          (elementIds ((d.handlerIds n).map (t.met source n scope .handler) ++ Ls.flatten)) := by
        rw [elementIds_append]
        exact List.sublist_append_right _ _
      have hvisits := controlIds_of_component hr ((hname hd).trans hn) hcomponent
        (expansion?_eq hreads hd hscope hid hi hat)
        (fun ws hws => controlIds_visitsUnder
          (fun c s L bound inComponent vs hL hs hvs => ih hL (Form.Reads.of_index hi) hs hvs)
          (t.scopeOfChild?_shadow scope _) hdocument hinner hws) h
      rw [hids] at hvisits
      exact hvisits.trans (List.Sublist.cons_cons _ hsublist)
    | @plain d name Ls hd hn hxbl hdata hcomponent hbelow =>
      rw [elementIds_append, elementIds_own hreads hd hscope]
      exact controlIds_of_not_component ((hname hd).trans hn) hcomponent
        (fun inComponent ws hws => controlIds_visitsUnder
          (fun c s L bound inComponent vs hL hs hvs => ih hL hreads hs hvs)
          (ScopeTree.scopeOfChild?_of_walked hscope t) (hreads.document hd) hbelow hws) h

end Walks

theorem controlIds_visits {controls : Document} {t : ScopeTree} (hr : t.components.Respectful)
    {fuel : Nat} {Ls : List (List Met)}
    (hLs : List.Forall₂ (t.SurveysChild (Surveys controls t fuel) .controls 0)
      (controls.childElements controls.root) Ls)
    {vs : List Visit} (h : Form.visits ⟨controls, t⟩ = .ok vs) :
    (Form.controlIds ⟨controls, t⟩ vs).Sublist (elementIds Ls.flatten) := by
  have hreads : Form.Reads ⟨controls, t⟩ .controls .controls := rfl
  exact controlIds_visitsUnder
    (fun _ _ _ _ _ _ hL hs hvs => controlIds_visitsAt hr hL hreads hs hvs) (fun _ => rfl) rfl hLs h

/-- The ids of the controls of a form are among those of the elements that the resolver has met. -/
theorem ids_controls_sublist {controls : Document} {t : ScopeTree} (hr : t.components.Respectful)
    {fuel : Nat} {Ls : List (List Met)}
    (hLs : List.Forall₂ (t.SurveysChild (Surveys controls t fuel) .controls 0)
      (controls.childElements controls.root) Ls)
    {tree : ControlTree} {warnings : List Warning}
    (h : buildControlTree ⟨controls, t⟩ = .ok (tree, warnings)) :
    (tree.controls.toList.map fun c => (c.staticId, c.prefixedId, c.scope)).Sublist
      (elementIds Ls.flatten) := by
  obtain ⟨visits, hvisits, hplaces, hin⟩ := places_buildControlTree h
  have hids : (tree.places.map Place.element).filterMap (Form.ids? ⟨controls, t⟩) =
      tree.places.map fun p => (p.staticId, p.prefixedId, p.scope) := by
    rw [List.filterMap_map, ← List.filterMap_eq_map]
    refine List.filterMap_congr fun p hp => ?_
    obtain ⟨hstatic, hprefixed, hscope⟩ := hin p hp
    show Form.ids? ⟨controls, t⟩ p.element = _
    rw [Form.ids?, hstatic, Option.map_some, ← hprefixed, ← hscope]
    rfl
  rw [hplaces, ControlTree.places, List.map_map] at hids
  have hsublist := controlIds_visits hr hLs hvisits
  rw [Form.controlIds, hids] at hsublist
  exact hsublist

end FormEngine
