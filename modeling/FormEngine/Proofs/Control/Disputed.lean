import FormEngine.Proofs.Control.Nesting
import FormEngine.Proofs.Control.Walk
import FormEngine.Proofs.Scope.Once
/-!
# Names on which the walks differ

The resolver and the walk over the controls both go on in the shadow tree of a component instance,
and each decides for itself which elements are instances. The resolver asks for XBL and for instances
of data first and for bindings next; the walk asks for the controls of the language first, and for
bindings before it looks at what it does not enter. So the two differ on the names that a binding
takes over from the language, and on no others. At a control of such a name one of them sees an
instance and the other does not; where no control has such a name, the walk follows the resolver all
the way.
-/

namespace FormEngine

/-! ## Disputed names -/

/-- A binding takes the name over from the language. -/
def ComponentRegistry.Disputes (r : ComponentRegistry) (name : QName) : Prop :=
  r.isComponent name = true ∧ (name.isBuiltinControl = true ∨
    name.is Namespace.xforms "instance" = true ∨ name.uri = Namespace.xbl)

namespace ScopeTree

variable {t : ScopeTree} {name : QName}

theorem isBuiltinControl_of_classify {k : ElementClass} (h : t.classify name = some k)
    (hk : k = .container ∨ k = .leaf) : name.isBuiltinControl = true := by
  unfold classify at h
  rw [QName.isBuiltinControl, Bool.or_eq_true]
  split at h
  · exact .inl ‹_›
  split at h
  · exact .inr ‹_›
  split at h
  · obtain rfl := Option.some.inj h
    simp at hk
  split at h
  · obtain rfl := Option.some.inj h
    simp at hk
  split at h
  · obtain rfl := Option.some.inj h
    simp at hk
  · contradiction

theorem not_isBuiltinControl_of_classify (h : t.classify name = some .component) :
    name.isBuiltinControl = false := by
  unfold classify at h
  rw [QName.isBuiltinControl, Bool.or_eq_false_iff]
  split at h
  · contradiction
  split at h
  · contradiction
  · exact ⟨Bool.eq_false_iff.2 ‹_›, Bool.eq_false_iff.2 ‹_›⟩

/-- A bound name is that of a container, a control without children or an instance. -/
theorem classify_of_bound (h : t.components.isComponent name = true) :
    ∃ k, t.classify name = some k ∧ (k = .container ∨ k = .leaf ∨ k = .component) := by
  unfold classify
  split
  · exact ⟨_, rfl, .inl rfl⟩
  split
  · exact ⟨_, rfl, .inr (.inl rfl)⟩
  · exact ⟨_, rfl, .inr (.inr rfl)⟩

end ScopeTree

/-! ## Following the resolver -/

/-- A control that begins at an element, with its class. -/
abbrev Begun := ElementRef × ElementClass

/-- The controls that visits begin. -/
def begins (vs : List Visit) : List Begun := vs.filterMap Visit.begins?

section Follows

variable {f : Form} {L M : List Met} {B C : List Begun} {v : Begun}

/-- The resolver has met the control, and it was an instance to it exactly if it is one to the walk. -/
structure Begun.Agrees (f : Form) (L : List Met) (v : Begun) : Prop where
  undisputed : ∀ name, f.name? v.1 = some name → ¬f.scopes.components.Disputes name
  met : ∀ ids, f.ids? v.1 = some ids → ∃ m ∈ L, m.isHandler = false ∧ m.ids = ids ∧
    m.isComponent = (v.2 == .component)

/-- The name of the control is disputed: the resolver has passed it by, or has met it as what it is
not to the walk. -/
def Begun.Clashes (f : Form) (L : List Met) (v : Begun) : Prop :=
  ∃ name, f.name? v.1 = some name ∧ f.scopes.components.Disputes name ∧
    (v.2 = .component ∧ name.uri = Namespace.xbl ∨ ∀ ids, f.ids? v.1 = some ids →
      ∃ m ∈ L, m.isHandler = false ∧ m.ids = ids ∧ m.isComponent = !(v.2 == .component))

/-- Some control clashes with what the resolver has met, or all agree with it. -/
def Follows (f : Form) (B : List Begun) (L : List Met) : Prop :=
  (∃ v ∈ B, v.Clashes f L) ∨ ∀ v ∈ B, v.Agrees f L

theorem Begun.Agrees.mono (h : v.Agrees f L) (hsub : L ⊆ M) : v.Agrees f M where
  undisputed := h.undisputed
  met ids hids := by
    obtain ⟨m, hm, hmet⟩ := h.met ids hids
    exact ⟨m, hsub hm, hmet⟩

theorem Begun.Clashes.mono (h : v.Clashes f L) (hsub : L ⊆ M) : v.Clashes f M := by
  obtain ⟨name, hname, hdisputed, hcase⟩ := h
  refine ⟨name, hname, hdisputed, hcase.imp_right fun hmet ids hids => ?_⟩
  obtain ⟨m, hm, hrest⟩ := hmet ids hids
  exact ⟨m, hsub hm, hrest⟩

theorem Follows.nil (f : Form) (L : List Met) : Follows f [] L := .inr (List.forall_mem_nil _)

theorem Follows.mono (h : Follows f B L) (hsub : L ⊆ M) : Follows f B M := by
  rcases h with ⟨v, hv, hclash⟩ | hagree
  · exact .inl ⟨v, hv, hclash.mono hsub⟩
  · exact .inr fun v hv => (hagree v hv).mono hsub

theorem Follows.append (h : Follows f B L) (h' : Follows f C M) : Follows f (B ++ C) (L ++ M) := by
  have hL := List.subset_append_left L M
  have hM := List.subset_append_right L M
  rcases h with ⟨v, hv, hclash⟩ | hagree
  · exact .inl ⟨v, List.mem_append_left _ hv, hclash.mono hL⟩
  rcases h' with ⟨v, hv, hclash⟩ | hagree'
  · exact .inl ⟨v, List.mem_append_right _ hv, hclash.mono hM⟩
  · exact .inr (List.forall_mem_append.2
      ⟨fun v hv => (hagree v hv).mono hL, fun v hv => (hagree' v hv).mono hM⟩)

theorem Follows.cons (hv : v.Agrees f L) (h : Follows f B L) : Follows f (v :: B) L := by
  rcases h with ⟨w, hw, hclash⟩ | hagree
  · exact .inl ⟨w, List.mem_cons_of_mem v hw, hclash⟩
  · exact .inr (List.forall_mem_cons.2 ⟨hv, hagree⟩)

theorem Follows.clash (hv : v.Clashes f L) (B : List Begun) : Follows f (v :: B) L :=
  .inl ⟨v, List.mem_cons_self, hv⟩

theorem begins_append (vs ws : List Visit) : begins (vs ++ ws) = begins vs ++ begins ws :=
  List.filterMap_append

theorem begins_enter (e : ElementRef) (k : ElementClass) (ws : List Visit) :
    begins (.enter e k :: ws ++ [.leave]) = (e, k) :: begins ws := by
  show (e, k) :: begins (ws ++ [.leave]) = _
  rw [begins_append]
  exact congrArg _ (List.append_nil _)

end Follows

/-! ## One step of the walk -/

section Step

variable {f : Form} {under : ElementRef → Bool → Except Stop (List Visit)} {e : ElementRef}
  {name : QName} {inComponent : Bool} {vs : List Visit} {L : List Met}

/-- What the resolver does not enter is an instance at most, and then its name is disputed. -/
theorem follows_of_not_entered (hname : f.name? e = some name)
    (hcase : name.uri = Namespace.xbl ∨ name.is Namespace.xforms "instance" = true)
    (hmet : name.uri = Namespace.xbl ∨ ∀ ids, f.ids? e = some ids →
      ∃ m ∈ L, m.isHandler = false ∧ m.ids = ids ∧ m.isComponent = false)
    (h : f.Walks under inComponent e vs) : Follows f (begins vs) L := by
  have hclash : f.scopes.classify name = some .component →
      Begun.Clashes f L (e, .component) := fun hclass =>
    ⟨name, hname, ⟨ScopeTree.isComponent_of_classify hclass, .inr hcase.symm⟩,
      hmet.imp (fun hxbl => ⟨rfl, hxbl⟩) id⟩
  have hentered : ∀ {k}, f.scopes.classify name = some k → k = .component := by
    intro k hk
    rw [ScopeTree.classify_of_not_entered hcase] at hk
    split at hk
    · exact (Option.some.inj hk).symm
    · contradiction
  have hsame : ∀ {name'}, f.name? e = some name' → name' = name := fun hname' =>
    Option.some.inj (hname'.symm.trans hname)
  cases h with
  | text hnone => exact .nil f L
  | container hname' hclass _ =>
    obtain rfl := hsame hname'
    have hk := hentered hclass
    contradiction
  | bare hname' hclass hroot =>
    obtain rfl := hsame hname'
    rw [begins_enter]
    exact .clash (hclash hclass) _
  | component hname' hclass hroot _ =>
    obtain rfl := hsame hname'
    rw [begins_enter]
    exact .clash (hclash hclass) _
  | leaf hname' hclass hk =>
    obtain rfl := hsame hname'
    obtain rfl := hentered hclass
    simp at hk
  | support hname' hclass => split <;> exact .nil f L
  | closed hname' hclass hclosed => exact .nil f L
  | transparent hname' hclass hopen hunder =>
    obtain rfl := hsame hname'
    unfold Form.isOpaque at hopen
    rcases hcase with hxbl | hdata
    · simp [hxbl] at hopen
    · simp [hdata] at hopen

/-- At an instance the walk sees a control of the language, or it goes on in the shadow tree. -/
theorem follows_of_component (hname : f.name? e = some name)
    (hxbl : name.uri ≠ Namespace.xbl) (hdata : name.is Namespace.xforms "instance" = false)
    (hcomponent : f.scopes.components.isComponent name = true) {root : ElementRef}
    (hroot : f.expansion? e = some root)
    (hmet : ∀ ids, f.ids? e = some ids →
      ∃ m ∈ L, m.isHandler = false ∧ m.ids = ids ∧ m.isComponent = true)
    (hunder : ∀ ws, under root true = .ok ws → Follows f (begins ws) L)
    (h : f.Walks under inComponent e vs) : Follows f (begins vs) L := by
  have hsame : ∀ {name'}, f.name? e = some name' → name' = name := fun hname' =>
    Option.some.inj (hname'.symm.trans hname)
  have hclash : ∀ {k}, f.scopes.classify name = some k → k = .container ∨ k = .leaf →
      Begun.Clashes f L (e, k) := by
    intro k hclass hk
    have hbuiltin := ScopeTree.isBuiltinControl_of_classify hclass hk
    refine ⟨name, hname, ⟨hcomponent, .inl hbuiltin⟩, .inr fun ids hids => ?_⟩
    obtain ⟨m, hm, hhandler, hmids, hmcomponent⟩ := hmet ids hids
    refine ⟨m, hm, hhandler, hmids, hmcomponent.trans ?_⟩
    rcases hk with rfl | rfl <;> rfl
  have hagrees : f.scopes.classify name = some .component → Begun.Agrees f L (e, .component) := by
    intro hclass
    refine ⟨?_, hmet⟩
    rintro name' hname' ⟨-, hdisputed⟩
    obtain rfl := hsame hname'
    rw [ScopeTree.not_isBuiltinControl_of_classify hclass, hdata] at hdisputed
    simp [hxbl] at hdisputed
  obtain ⟨k₀, hk₀, hkind⟩ := ScopeTree.classify_of_bound hcomponent
  cases h with
  | text hnone => exact .nil f L
  | container hname' hclass _ =>
    obtain rfl := hsame hname'
    rw [begins_enter]
    exact .clash (hclash hclass (.inl rfl)) _
  | bare hname' hclass hnone =>
    rw [hnone] at hroot
    contradiction
  | component hname' hclass hroot' hws =>
    obtain rfl := hsame hname'
    obtain rfl := Option.some.inj (hroot.symm.trans hroot')
    rw [begins_enter]
    exact .cons (hagrees hclass) (hunder _ hws)
  | leaf hname' hclass hk =>
    obtain rfl := hsame hname'
    obtain rfl := Option.some.inj (hk₀.symm.trans hclass)
    rcases hk with rfl | rfl
    · exact .clash (hclash hclass (.inr rfl)) _
    · simp at hkind
  | support hname' hclass => split <;> exact .nil f L
  | closed hname' hclass _ => exact .nil f L
  | transparent hname' hclass _ _ =>
    obtain rfl := hsame hname'
    rw [hclass] at hk₀
    contradiction

/-- At any other element it sees no instance, and it goes on under the element at most. -/
theorem follows_of_not_component (hname : f.name? e = some name)
    (hcomponent : f.scopes.components.isComponent name = false)
    (hmet : ∀ ids, f.ids? e = some ids →
      ∃ m ∈ L, m.isHandler = false ∧ m.ids = ids ∧ m.isComponent = false)
    (hunder : ∀ inComponent ws, under e inComponent = .ok ws → Follows f (begins ws) L)
    (h : f.Walks under inComponent e vs) : Follows f (begins vs) L := by
  have hsame : ∀ {name'}, f.name? e = some name' → name' = name := fun hname' =>
    Option.some.inj (hname'.symm.trans hname)
  have hagrees : ∀ {k}, k ≠ .component → Begun.Agrees f L (e, k) := by
    intro k hk
    refine ⟨?_, ?_⟩
    · rintro name' hname' ⟨hbound, -⟩
      obtain rfl := hsame hname'
      rw [hcomponent] at hbound
      contradiction
    · intro ids hids
      rw [beq_eq_false_iff_ne.2 hk]
      exact hmet ids hids
  have hunbound : f.scopes.classify name ≠ some .component := by
    intro hclass
    rw [ScopeTree.isComponent_of_classify hclass] at hcomponent
    contradiction
  cases h with
  | text hnone => exact .nil f L
  | container hname' hclass hws =>
    rw [begins_enter]
    exact .cons (hagrees (by decide)) (hunder false _ hws)
  | bare hname' hclass _ =>
    obtain rfl := hsame hname'
    exact absurd hclass hunbound
  | component hname' hclass _ _ =>
    obtain rfl := hsame hname'
    exact absurd hclass hunbound
  | leaf hname' hclass hk =>
    refine .cons (hagrees ?_) (.nil f L)
    rcases hk with rfl | rfl <;> decide
  | support hname' hclass => split <;> exact .nil f L
  | closed hname' hclass _ => exact .nil f L
  | transparent hname' hclass _ hws => exact hunder inComponent vs hws

end Step

/-! ## The whole walk -/

section Walks

variable {controls : Document} {t : ScopeTree} {source : Source} {tree : TreeRef} {n : NodeId}
  {scope : ScopeId}

theorem Form.Reads.name? (hreads : Form.Reads ⟨controls, t⟩ source tree) {d : Document}
    (hd : t.document? controls source = some d) :
    Form.name? ⟨controls, t⟩ ⟨tree, n⟩ = d.name? n := by
  rw [Form.name?, hreads.document hd]

/-- The ids of an element are those under which the resolver has met it. -/
theorem Form.Reads.exists_met (hreads : Form.Reads ⟨controls, t⟩ source tree) {d : Document}
    (hd : t.document? controls source = some d) (hscope : t.scopeOfChild? 0 n source = some scope)
    {role : Role} (hrole : role ≠ .handler) {ids : String × String × ScopeId}
    (hids : Form.ids? ⟨controls, t⟩ ⟨tree, n⟩ = some ids) :
    ∃ id, d.staticId? n = some id ∧ (t.met source n scope role id).isHandler = false ∧
      (t.met source n scope role id).ids = ids := by
  rw [hreads.ids? hd hscope role, Option.map_eq_some_iff] at hids
  obtain ⟨id, hid, hmet⟩ := hids
  exact ⟨id, hid, beq_eq_false_iff_ne.2 hrole, hmet⟩

/-- The walk under an element follows the surveys of its children when it does so at each child. -/
theorem follows_under {d : Document} {R : Source → NodeId → ScopeId → List Met → Prop}
    (hstep : ∀ c s L bound inComponent vs, R source c s L → t.scopeOfChild? 0 c source = some s →
      Form.visitsAt ⟨controls, t⟩ (Form.visitsUnder ⟨controls, t⟩ bound) inComponent ⟨tree, c⟩ =
        .ok vs → Follows ⟨controls, t⟩ (begins vs) L)
    (hsame : ∀ c, t.scopeOfChild? scope c source = t.scopeOfChild? 0 c source)
    (hd : Form.document ⟨controls, t⟩ tree = d) {Ls : List (List Met)}
    (hLs : List.Forall₂ (t.SurveysChild R source scope) (d.childElements n) Ls) {bound : Nat}
    {inComponent : Bool} {ws : List Visit}
    (h : Form.visitsUnder ⟨controls, t⟩ bound ⟨tree, n⟩ inComponent = .ok ws) :
    Follows ⟨controls, t⟩ (begins ws) Ls.flatten := by
  refine follows_visitsUnder (P := fun vs L => Follows ⟨controls, t⟩ (begins vs) L) (.nil _ _)
    (fun vs ws L M hv hw => ?_) hstep hsame hd hLs h
  rw [begins_append]
  exact hv.append hw

/-- **The walk follows the resolver up to disputed names**, by induction on the depth of the survey. -/
theorem follows_visitsAt {fuel : Nat} {L : List Met} (hL : Surveys controls t fuel source n scope L)
    (hreads : Form.Reads ⟨controls, t⟩ source tree)
    (hscope : t.scopeOfChild? 0 n source = some scope) {bound : Nat} {inComponent : Bool}
    {vs : List Visit}
    (h : Form.visitsAt ⟨controls, t⟩ (Form.visitsUnder ⟨controls, t⟩ bound) inComponent
      ⟨tree, n⟩ = .ok vs) : Follows ⟨controls, t⟩ (begins vs) L := by
  induction fuel generalizing source tree n scope L bound inComponent vs with
  | zero => exact hL.elim
  | succ fuel ih =>
    have hwalks := walks_of_visitsAt h
    cases hL with
    | @passed d hd hpassed =>
      cases hn : d.name? n with
      | none =>
        unfold Form.visitsAt at h
        simp only [hreads.name? hd, hn] at h
        obtain rfl := Except.ok.inj h
        exact .nil _ _
      | some name =>
        exact follows_of_not_entered ((hreads.name? hd).trans hn) (.inl (hpassed name hn))
          (.inl (hpassed name hn)) hwalks
    | @data d name hd hn hdata =>
      refine follows_of_not_entered ((hreads.name? hd).trans hn) (.inr hdata) (.inr fun ids hids => ?_) hwalks
      have helement : Role.element ≠ .handler := by decide
      obtain ⟨id, hid, hhandler, hids⟩ := hreads.exists_met hd hscope helement hids
      exact ⟨_, List.mem_map.2 ⟨id, Option.mem_toList.2 hid, rfl⟩, hhandler, hids, rfl⟩
    | @component d name id shadow Ls hd hn hxbl hdata hcomponent hid hshadow hinner =>
      -- both walks go on under the root of the shadow tree, one by its position, one by its key
      obtain ⟨i, hi, hat⟩ := ScopeTree.shadowTreeAt?_of_shadowTree? hshadow
      have hdocument : Form.document ⟨controls, t⟩ (.shadow i) = shadow.document := by
        rw [Form.document, Form.shadow?, hat]
        rfl
      refine follows_of_component ((hreads.name? hd).trans hn) hxbl hdata hcomponent
        (expansion?_eq hreads hd hscope hid hi hat) (fun ids hids => ?_) (fun ws hws => ?_) hwalks
      · have hinstance : Role.component ≠ .handler := by decide
        obtain ⟨id', hid', hhandler, hids⟩ := hreads.exists_met hd hscope hinstance hids
        obtain rfl := Option.some.inj (hid.symm.trans hid')
        exact ⟨_, List.mem_cons_self, hhandler, hids, rfl⟩
      · have hbelow := follows_under (fun c s L bound inComponent vs hL hs hvs =>
          ih hL (Form.Reads.of_index hi) hs hvs) (t.scopeOfChild?_shadow scope _) hdocument hinner hws
        exact hbelow.mono fun m hm => List.mem_cons_of_mem _ (List.mem_append_right _ hm)
    | @plain d name Ls hd hn hxbl hdata hcomponent hbelow =>
      refine follows_of_not_component ((hreads.name? hd).trans hn) hcomponent (fun ids hids => ?_)
        (fun inComponent ws hws => ?_) hwalks
      · have helement : Role.element ≠ .handler := by decide
        obtain ⟨id, hid, hhandler, hids⟩ := hreads.exists_met hd hscope helement hids
        exact ⟨_, List.mem_append_left _ (List.mem_map.2 ⟨id, Option.mem_toList.2 hid, rfl⟩),
          hhandler, hids, rfl⟩
      · have hfollows := follows_under (fun c s L bound inComponent vs hL hs hvs =>
          ih hL hreads hs hvs) (ScopeTree.scopeOfChild?_of_walked hscope t) (hreads.document hd)
            hbelow hws
        exact hfollows.mono (List.subset_append_right _ _)

end Walks

/-! ## Instances on both sides -/

/-- The controls of a tree are those that a walk begins, under the names and ids of their elements. -/
structure ControlsOf (f : Form) (B : List Begun) (tree : ControlTree) : Prop where
  name? : ∀ c ∈ tree.controls, f.name? c.element = some c.name
  ids? : ∀ c ∈ tree.controls, f.ids? c.element = some (c.staticId, c.prefixedId, c.scope)
  begun : ∀ c ∈ tree.controls, ∃ v ∈ B, v.1 = c.element ∧ (v.2 == .component) = c.isComponent
  listed : ∀ v ∈ B, ∃ c ∈ tree.controls, c.element = v.1 ∧ c.isComponent = (v.2 == .component)

theorem exists_controlsOf {f : Form} {tree : ControlTree} {warnings : List Warning}
    (h : buildControlTree f = .ok (tree, warnings)) :
    ∃ visits, f.visits = .ok visits ∧ ControlsOf f (begins visits) tree := by
  obtain ⟨visits, hvisits, -, hbegun, hnamed⟩ := nests_buildControlTree h
  obtain ⟨-, -, -, hin⟩ := places_buildControlTree h
  have hpairs : (tree.controls.toList.map fun c => (c.element, c.isComponent)) =
      (begins visits).map fun v => (v.1, v.2 == .component) := by
    rw [ControlTree.standings, List.map_map] at hbegun
    exact hbegun
  refine ⟨visits, hvisits, fun c hc => ?_, fun c hc => ?_, fun c hc => ?_, fun v hv => ?_⟩
  · exact hnamed c.standing (List.mem_map_of_mem (Array.mem_toList_iff.2 hc))
  · obtain ⟨hstatic, hprefixed, hscope⟩ :=
      hin c.place (List.mem_map_of_mem (Array.mem_toList_iff.2 hc))
    change f.staticId? c.element = some c.staticId at hstatic
    change c.prefixedId = f.prefixOf c.element ++ c.staticId at hprefixed
    change c.scope = f.scopeOf c.element at hscope
    rw [Form.ids?, hstatic, Option.map_some, ← hprefixed, ← hscope]
  · have hmem := List.mem_map_of_mem (f := fun c : Control => (c.element, c.isComponent))
      (Array.mem_toList_iff.2 hc)
    rw [hpairs, List.mem_map] at hmem
    obtain ⟨v, hv, heq⟩ := hmem
    exact ⟨v, hv, congrArg Prod.fst heq, congrArg Prod.snd heq⟩
  · have hmem := List.mem_map_of_mem (f := fun v : Begun => (v.1, v.2 == .component)) hv
    rw [← hpairs, List.mem_map] at hmem
    obtain ⟨c, hc, heq⟩ := hmem
    exact ⟨c, Array.mem_toList_iff.1 hc, congrArg Prod.fst heq, congrArg Prod.snd heq⟩

namespace ControlsOf

variable {f : Form} {B : List Begun} {tree : ControlTree} {L : List Met}

/-- Where no name is disputed the resolver has met every control as what it is. -/
theorem met_of_undisputed (h : ControlsOf f B tree) (hfollows : Follows f B L)
    (hundisputed : ∀ c ∈ tree.controls, ¬f.scopes.components.Disputes c.name) {c : Control}
    (hc : c ∈ tree.controls) : ∃ m ∈ L, m.ids = (c.staticId, c.prefixedId, c.scope) ∧
      m.isComponent = c.isComponent := by
  rcases hfollows with ⟨v, hv, name, hname, hdisputed, -⟩ | hagree
  · obtain ⟨c', hc', helement, -⟩ := h.listed v hv
    rw [← helement, h.name? c' hc'] at hname
    rw [← Option.some.inj hname] at hdisputed
    exact absurd hdisputed (hundisputed c' hc')
  · obtain ⟨v, hv, helement, hkind⟩ := h.begun c hc
    obtain ⟨m, hm, -, hids, hmcomponent⟩ := (hagree v hv).met _ (helement ▸ h.ids? c hc)
    exact ⟨m, hm, hids, hmcomponent.trans hkind⟩

/-- A control that clashes is of an XBL name and an instance to the walk alone, or it is an instance
to just one of the resolver and the walk. -/
theorem exists_of_clash (h : ControlsOf f B tree) {v : Begun} (hv : v ∈ B) (hclash : v.Clashes f L) :
    ∃ c ∈ tree.controls, c.name.uri = Namespace.xbl ∧ c.isComponent = true ∨
      ∃ m ∈ L, m.prefixedId = c.prefixedId ∧ m.isComponent = !c.isComponent := by
  obtain ⟨name, hname, -, hcase⟩ := hclash
  obtain ⟨c, hc, helement, hkind⟩ := h.listed v hv
  rw [← helement, h.name? c hc] at hname
  obtain rfl := Option.some.inj hname
  refine ⟨c, hc, ?_⟩
  rcases hcase with ⟨hcomponent, hname⟩ | hmet
  · refine .inl ⟨hname, ?_⟩
    rw [hkind, hcomponent]
    rfl
  · obtain ⟨m, hm, -, hids, hmcomponent⟩ := hmet _ (helement ▸ h.ids? c hc)
    exact .inr ⟨m, hm, congrArg (fun ids : String × String × ScopeId => ids.2.1) hids,
      hmcomponent.trans (congrArg _ hkind.symm)⟩

end ControlsOf

namespace ScopeTree

variable {t : ScopeTree} {r : ComponentRegistry} {L : List Met} {key : String}

/-- What is indexed once is bound if it was indexed for an instance. -/
theorem Adds.hasBinding_eq (h : (ofComponents r).Adds t L) (honce : t.keys.Nodup) {m : Met}
    (hm : m ∈ L) : t.hasBinding m.prefixedId = m.isComponent := by
  have hkeys : (L.map (·.prefixedId)).Nodup := by
    rw [h.keys_eq] at honce
    exact List.nodup_reverse.1 (List.nodup_append.1 honce).1
  cases hcomponent : m.isComponent with
  | true => exact h.filled m hm hcomponent
  | false =>
    have hnone := h.kept m.prefixedId fun m' hm' hcomponent' heq => by
      obtain rfl := List.inj_on_of_nodup_map hkeys hm' hm heq
      rw [hcomponent] at hcomponent'
      contradiction
    show (t.shadowTree? m.prefixedId).isSome = false
    rw [hnone]
    rfl

theorem Adds.hasBinding_of_notMem (h : (ofComponents r).Adds t L) (hkey : key ∉ t.keys) :
    t.hasBinding key = false := by
  have hnone := h.kept key fun m hm _ heq => hkey (heq ▸ h.prefixedId_mem_keys hm)
  show (t.shadowTree? key).isSome = false
  rw [hnone]
  rfl

end ScopeTree

/-- **The resolver and the walk agree on what an instance is** exactly if no control has a disputed
name, and then every control is indexed in its scope. The form has to index nothing twice, and no
control of an XBL name shares its prefixed id with what is indexed. -/
theorem hasBinding_iff_component {controls : Document} {r : ComponentRegistry} {t : ScopeTree}
    {tree : ControlTree} {warnings : List Warning} (h : resolveScopes controls r = .ok t)
    (htree : buildControlTree ⟨controls, t⟩ = .ok (tree, warnings)) (honce : t.keys.Nodup)
    (hxbl : ∀ c ∈ tree.controls, c.name.uri = Namespace.xbl → c.prefixedId ∉ t.keys) :
    ((∀ c ∈ tree.controls, t.hasBinding c.prefixedId = true ↔ c.kind = .component) ↔
        ∀ c ∈ tree.controls, ¬r.Disputes c.name) ∧
      ((∀ c ∈ tree.controls, ¬r.Disputes c.name) →
        ∀ c ∈ tree.controls, (c.prefixedId, c.scope) ∈ t.resolution) := by
  obtain ⟨Ls, hLs, hadds⟩ := exists_surveys_of_nodup h honce
  obtain ⟨visits, hvisits, hcontrols⟩ := exists_controlsOf htree
  obtain rfl : t.components = r := hadds.continues.components
  have hreads : Form.Reads ⟨controls, t⟩ .controls .controls := rfl
  have hfollows : Follows ⟨controls, t⟩ (begins visits) Ls.flatten :=
    follows_under (fun c s L bound inComponent vs hL hs hvs => follows_visitsAt hL hreads hs hvs)
      (fun _ => rfl) rfl hLs hvisits
  refine ⟨⟨fun hall => ?_, fun hundisputed c hc => ?_⟩, fun hundisputed c hc => ?_⟩
  · have hsides : ∀ c ∈ tree.controls, t.hasBinding c.prefixedId = c.isComponent := by
      intro c hc
      rw [Bool.eq_iff_iff, hall c hc, Control.isComponent, beq_iff_eq]
    rcases hfollows with ⟨v, hv, hclash⟩ | hagree
    · -- at a control that clashes the two sides differ
      obtain ⟨c, hc, ⟨hname, hcomponent⟩ | ⟨m, hm, hprefixed, hmcomponent⟩⟩ :=
        hcontrols.exists_of_clash hv hclash
      · have hunbound := hadds.hasBinding_of_notMem (hxbl c hc hname)
        rw [hsides c hc, hcomponent] at hunbound
        contradiction
      · have hbound := hadds.hasBinding_eq honce hm
        rw [hprefixed, hsides c hc, hmcomponent] at hbound
        cases hcomponent : c.isComponent <;> simp [hcomponent] at hbound
    · intro c hc hdisputed
      obtain ⟨v, hv, helement, -⟩ := hcontrols.begun c hc
      exact (hagree v hv).undisputed c.name (helement ▸ hcontrols.name? c hc) hdisputed
  · obtain ⟨m, hm, hids, hmcomponent⟩ := hcontrols.met_of_undisputed hfollows hundisputed hc
    have hprefixed : m.prefixedId = c.prefixedId :=
      congrArg (fun ids : String × String × ScopeId => ids.2.1) hids
    rw [← hprefixed, hadds.hasBinding_eq honce hm, hmcomponent, Control.isComponent, beq_iff_eq]
  · obtain ⟨m, hm, hids, -⟩ := hcontrols.met_of_undisputed hfollows hundisputed hc
    have hentry : m.entry = (c.prefixedId, c.scope) :=
      congrArg (fun ids : String × String × ScopeId => ids.2) hids
    rw [hadds.resolution, ← hentry]
    exact List.mem_append_left _ (List.mem_reverse.2 (List.mem_map_of_mem hm))

/-- A component, and a binding that takes over groups. -/
def groupComponents : ComponentRegistry :=
  { bindings :=
      [{ bindingId := none, element := { nsPrefix := "fr", uri := "fr", localName := "b" }
         template := some emptyTemplate },
       { bindingId := none
         element := { nsPrefix := "xf", uri := Namespace.xforms, localName := "group" }
         template := some emptyTemplate }] }

/-- A group with an instance of the component in it. -/
def groupControls : Document :=
  { nodes :=
      #[{ kind := .element (.plain "controls") [], children := [1] },
        { kind := .element { nsPrefix := "xf", uri := Namespace.xforms, localName := "group" }
            [⟨.plain "id", "g"⟩]
          parent := some 0, children := [2] },
        { kind := .element { nsPrefix := "fr", uri := "fr", localName := "b" }
            [⟨.plain "id", "b"⟩]
          parent := some 1 }]
    root := 0 }

/-- What the two walks say of the controls of `groupControls`, with the ids that are indexed. -/
theorem controls_group :
    ((resolveScopes groupControls groupComponents).toOption.bind fun t =>
      (buildControlTree ⟨groupControls, t⟩).toOption.map fun p =>
        (p.1.controls.toList.map fun c => (c.prefixedId, t.hasBinding c.prefixedId, c.isComponent),
          t.keys, p.1.controls.toList.map fun c => c.name.uri == Namespace.xbl)) =
      some ([("g", true, false), ("b", false, true)], ["g"], [false, false]) := by
  decide +kernel

theorem exists_group : ∃ t tree warnings, resolveScopes groupControls groupComponents = .ok t ∧
    buildControlTree ⟨groupControls, t⟩ = .ok (tree, warnings) ∧
    (tree.controls.toList.map fun c => (c.prefixedId, t.hasBinding c.prefixedId, c.isComponent)) =
      [("g", true, false), ("b", false, true)] ∧ t.keys = ["g"] ∧
    (tree.controls.toList.map fun c => c.name.uri == Namespace.xbl) = [false, false] := by
  obtain ⟨t, ht, hrun⟩ := ok_of_toOption_bind controls_group
  obtain ⟨⟨tree, warnings⟩, htree, hrun⟩ := ok_of_toOption_map hrun
  simp only [Prod.mk.injEq] at hrun
  exact ⟨t, tree, warnings, ht, htree, hrun⟩

/-- **The two walks need not agree.** The group of `groupControls` has a shadow tree and is a container
to the walk, and the instance in it has none. -/
theorem not_hasBinding_iff_component :
    ¬∀ (controls : Document) (r : ComponentRegistry) (t : ScopeTree) (tree : ControlTree)
      (warnings : List Warning), resolveScopes controls r = .ok t →
      buildControlTree ⟨controls, t⟩ = .ok (tree, warnings) →
      (tree.controls.toList.map (·.prefixedId)).Nodup →
      ∀ c ∈ tree.controls, t.hasBinding c.prefixedId = true ↔ c.kind = .component := by
  intro hall
  obtain ⟨t, tree, warnings, ht, htree, hcontrols, -, -⟩ := exists_group
  have hids : tree.controls.toList.map (·.prefixedId) = ["g", "b"] := by
    have hids := congrArg (List.map Prod.fst) hcontrols
    rw [List.map_map] at hids
    exact hids
  have hnodup : (tree.controls.toList.map (·.prefixedId)).Nodup := by
    rw [hids]
    decide
  have hmem : ("g", true, false) ∈ tree.controls.toList.map fun c =>
      (c.prefixedId, t.hasBinding c.prefixedId, c.isComponent) := by
    rw [hcontrols]
    exact List.mem_cons_self
  obtain ⟨c, hc, heq⟩ := List.mem_map.1 hmem
  simp only [Prod.mk.injEq] at heq
  have hkind := (hall _ _ t tree warnings ht htree hnodup c (Array.mem_toList_iff.1 hc)).1 heq.2.1
  have hnone := heq.2.2
  rw [Control.isComponent, hkind] at hnone
  contradiction

/-- The law at `groupControls`, where one name is disputed. -/
theorem hasBinding_iff_component_group : ∃ t tree warnings,
    resolveScopes groupControls groupComponents = .ok t ∧
    buildControlTree ⟨groupControls, t⟩ = .ok (tree, warnings) ∧ t.keys.Nodup ∧
    (∀ c ∈ tree.controls, c.name.uri = Namespace.xbl → c.prefixedId ∉ t.keys) ∧
    ((∀ c ∈ tree.controls, t.hasBinding c.prefixedId = true ↔ c.kind = .component) ↔
      ∀ c ∈ tree.controls, ¬groupComponents.Disputes c.name) := by
  obtain ⟨t, tree, warnings, ht, htree, -, hkeys, hxbl⟩ := exists_group
  have honce : t.keys.Nodup := by
    rw [hkeys]
    decide
  have hnone : ∀ c ∈ tree.controls, c.name.uri = Namespace.xbl → c.prefixedId ∉ t.keys := by
    intro c hc huri
    have hmem := List.mem_map_of_mem (f := fun c : Control => c.name.uri == Namespace.xbl)
      (Array.mem_toList_iff.2 hc)
    rw [hxbl] at hmem
    simp [huri] at hmem
  exact ⟨t, tree, warnings, ht, htree, honce, hnone,
    (hasBinding_iff_component ht htree honce hnone).1⟩

end FormEngine
