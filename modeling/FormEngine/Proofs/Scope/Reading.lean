import FormEngine.Proofs.Scope.Depth
import FormEngine.Proofs.Scope.Inside
/-!
# What a walk reads

A walk takes the addresses that it goes over from one document, and reads each of them, when its
turn has come, in the document that the scope tree has for the source by then. The two are the same
unless an instance inside of a shadow tree has taken the place of that shadow tree, which it does
when it gets the prefixed id of an instance around it. As long as every address is read in the
document that it was taken from, a walk under bindings of which none reaches itself comes to an end;
once one is not, nothing is said about what the walk then goes over.
-/

namespace FormEngine

/-! ## The visits of a walk -/

/-- Where a walk is: in the document of `source`, inside of the instances `around`, the innermost
one first, over addresses that were taken from `origin`. -/
structure WalkState where
  fuel : Nat
  source : Source
  around : List String
  origin : Document
  scope : ScopeId
  tree : ScopeTree

/-- A walk over elements one after the other, as it begins. -/
structure Loop extends WalkState where
  elements : List NodeId

/-- A walk at an element, as it begins. -/
structure Reading extends WalkState where
  node : NodeId

/-- The addresses are read in the document that they were taken from. -/
def WalkState.Own (controls : Document) (s : WalkState) : Prop :=
  s.tree.document? controls s.source = some s.origin

namespace Loop

/-- What comes of going over the elements. -/
def outcome (controls : Document) (l : Loop) : Except Stop ScopeTree :=
  resolveAll controls l.fuel l.source l.scope l.elements l.tree

/-- The walk over the controls document. -/
def top (controls : Document) (r : ComponentRegistry) : Loop where
  fuel := walkBound controls r
  source := .controls
  around := []
  origin := controls
  scope := 0
  tree := .ofComponents r
  elements := controls.childElements controls.root

/-- The turn of an element has come: those before it have been walked. -/
inductive Turn (controls : Document) (l : Loop) : Reading → Prop
  | intro {before after : List NodeId} {c : NodeId} {t : ScopeTree} {s : ScopeId}
      (hsplit : l.elements = before ++ c :: after)
      (hbefore : resolveAll controls l.fuel l.source l.scope before l.tree = .ok t)
      (hscope : t.scopeOfChild? l.scope c l.source = some s) :
      Turn controls l { l.toWalkState with scope := s, tree := t, node := c }

end Loop

namespace Reading

/-- What comes of the walk from the element. -/
def outcome (controls : Document) (v : Reading) : Except Stop ScopeTree :=
  resolveElement controls v.fuel v.source v.node v.scope v.tree

/-- The prefixed id that the element has with an id. -/
def key (v : Reading) (id : String) : String := v.tree.prefixedId v.scope id

/-- The element is a component instance and gets a shadow tree. -/
structure Enters (controls : Document) (v : Reading) (d : Document) (id : String)
    (shadow : ShadowTree) : Prop where
  document : v.tree.document? controls v.source = some d
  component : ∃ name, d.name? v.node = some name ∧ name.uri ≠ Namespace.xbl ∧
    name.is Namespace.xforms "instance" = false ∧ v.tree.components.isComponent name = true
  staticId : d.staticId? v.node = some id
  shadow : v.tree.components.instantiate d v.node (v.key id) v.scope v.tree.size = .ok shadow

/-- The element is walked through. -/
structure Passes (controls : Document) (v : Reading) (d : Document) : Prop where
  document : v.tree.document? controls v.source = some d
  plain : ∃ name, d.name? v.node = some name ∧ name.uri ≠ Namespace.xbl ∧
    name.is Namespace.xforms "instance" = false ∧ v.tree.components.isComponent name = false

/-- What the walk from an element goes over next. -/
inductive Opens (controls : Document) (v : Reading) : Loop → Prop
  | inside {fuel : Nat} {d : Document} {id : String} {shadow : ShadowTree}
      (hfuel : v.fuel = fuel + 1) (h : v.Enters controls d id shadow) :
      Opens controls v
        { fuel, source := .shadow (v.key id), around := v.key id :: v.around
          origin := shadow.document, scope := v.scope
          tree := (v.tree.indexAll v.scope [id]).enter d v.node v.scope (v.key id) shadow
          elements := shadow.document.childElements shadow.document.root }
  | below {fuel : Nat} {d : Document} (hfuel : v.fuel = fuel + 1) (h : v.Passes controls d) :
      Opens controls v
        { fuel, source := v.source, around := v.around, origin := d, scope := v.scope
          tree := v.tree.indexAll v.scope (d.staticId? v.node).toList
          elements := d.childElements v.node }

/-- The element is an instance that gets the prefixed id of an instance around it. -/
def InItself (controls : Document) (v : Reading) : Prop :=
  ∃ d id shadow, v.Enters controls d id shadow ∧ v.key id ∈ v.around

end Reading

/-- The walk over the form comes to this visit, whatever becomes of it later. -/
inductive Read (controls : Document) (r : ComponentRegistry) : Reading → Prop
  | top {v : Reading} (h : (Loop.top controls r).Turn controls v) : Read controls r v
  | next {v w : Reading} {l : Loop} (h : Read controls r v) (hopens : v.Opens controls l)
      (hturn : l.Turn controls w) : Read controls r w

variable {controls : Document} {r : ComponentRegistry} {v w : Reading} {l : Loop} {e : Stop}
  {t t' : ScopeTree}

/-! ## One step -/

/-- **What can come of a visit**: it asks for a node that is not there, it stops with a finding, it
goes over nothing, or it goes over what it opens. -/
theorem Reading.outcome_cases {fuel : Nat} (controls : Document) (hfuel : v.fuel = fuel + 1) :
    (v.outcome controls = .error .strayNode ∧
      ∀ d, v.tree.document? controls v.source = some d → d.size ≤ v.node) ∨
    (∃ e, v.outcome controls = .error (.finding e)) ∨
    (∃ ids, v.outcome controls = .ok (v.tree.indexAll v.scope ids)) ∨
    ∃ l, v.Opens controls l ∧ v.outcome controls = l.outcome controls := by
  rw [outcome, hfuel, resolveElement_succ]
  cases hd : v.tree.document? controls v.source with
  | none => exact .inl ⟨rfl, fun d hd => by contradiction⟩
  | some d =>
    simp only
    split
    · rename_i hsize
      refine .inl ⟨rfl, fun d' hd' => ?_⟩
      obtain rfl := Option.some.inj hd'
      exact hsize
    cases hname : d.name? v.node with
    | none => exact .inr (.inr (.inl ⟨[], rfl⟩))
    | some name =>
      simp only
      split
      · exact .inr (.inr (.inl ⟨[], rfl⟩))
      rename_i hxbl
      split
      · exact .inr (.inr (.inl ⟨_, rfl⟩))
      rename_i hdata
      rw [Bool.not_eq_true] at hdata
      -- indexing an id changes neither the components nor the scopes
      have hcomponents :
          (v.tree.indexAll v.scope (d.staticId? v.node).toList).components = v.tree.components := by
        rw [ScopeTree.indexAll_eq]
      rw [hcomponents]
      split
      · rename_i hcomponent
        cases hid : d.staticId? v.node with
        | none => exact .inr (.inl ⟨_, rfl⟩)
        | some id =>
          have hkey : (v.tree.indexAll v.scope [id]).prefixedId v.scope id = v.key id := by
            rw [ScopeTree.indexAll_eq]
            rfl
          have hsize : (v.tree.indexAll v.scope [id]).size = v.tree.size := by
            rw [ScopeTree.indexAll_eq]
            rfl
          simp only [Option.toList_some, hkey, hsize]
          cases hshadow : v.tree.components.instantiate d v.node (v.key id) v.scope v.tree.size with
          | error e => exact .inr (.inl ⟨_, rfl⟩)
          | ok shadow =>
            have henters : v.Enters controls d id shadow :=
              ⟨hd, ⟨name, hname, hxbl, hdata, hcomponent⟩, hid, hshadow⟩
            exact .inr (.inr (.inr ⟨_, .inside hfuel henters, rfl⟩))
      · rename_i hcomponent
        rw [Bool.not_eq_true] at hcomponent
        split
        · exact .inr (.inl ⟨_, rfl⟩)
        · have hpasses : v.Passes controls d := ⟨hd, name, hname, hxbl, hdata, hcomponent⟩
          exact .inr (.inr (.inr ⟨_, .below hfuel hpasses, rfl⟩))

namespace Loop

theorem Turn.fuel (h : l.Turn controls w) : w.fuel = l.fuel := by
  cases h
  rfl

theorem Turn.around (h : l.Turn controls w) : w.around = l.around := by
  cases h
  rfl

/-- Going over the elements keeps what each turn keeps. -/
theorem keeps_of_turns {P : ScopeTree → Prop} (h : l.outcome controls = .ok t') (hl : P l.tree)
    (hturn : ∀ w, l.Turn controls w → P w.tree → ∀ t, w.outcome controls = .ok t → P t) : P t' := by
  refine foldlM_invariant_of_prefix h hl fun before c after t₁ t₂ hsplit hbefore ht₁ hc => ?_
  cases hscope : t₁.scopeOfChild? l.scope c l.source with
  | none =>
    rw [hscope] at hc
    contradiction
  | some s =>
    rw [hscope] at hc
    exact hturn _ (.intro hsplit hbefore hscope) ht₁ t₂ hc

/-- So it holds when the turn of an element has come. -/
theorem Turn.keeps {P : ScopeTree → Prop} (h : l.Turn controls w) (hl : P l.tree)
    (hturn : ∀ w, l.Turn controls w → P w.tree → ∀ t, w.outcome controls = .ok t → P t) :
    P w.tree := by
  obtain @⟨before, after, c, t, s, hsplit, hbefore, hscope⟩ := h
  refine keeps_of_turns (l := { l with elements := before }) hbefore hl fun w' hw' => hturn w' ?_
  obtain @⟨before', after', c', t', s', hsplit', hbefore', hscope'⟩ := hw'
  have hlonger : l.elements = before' ++ c' :: (after' ++ c :: after) := by
    rw [hsplit, show before = before' ++ c' :: after' from hsplit', List.append_assoc,
      List.cons_append]
  exact .intro hlonger hbefore' hscope'

end Loop

/-- **A walk keeps what indexing and entering keep** at the visits that it comes to. -/
theorem Reading.keeps {P : ScopeTree → Prop} {R : Reading → Prop}
    (hnext : ∀ v l w, R v → v.Opens controls l → l.Turn controls w → P w.tree → R w)
    (hindex : ∀ v ids, R v → P v.tree → P (v.tree.indexAll v.scope ids))
    (henter : ∀ v d id shadow, R v → v.Enters controls d id shadow → P v.tree →
      P ((v.tree.indexAll v.scope [id]).enter d v.node v.scope (v.key id) shadow))
    (hv : R v) (hP : P v.tree) (h : v.outcome controls = .ok t') : P t' := by
  generalize hfuel : v.fuel = fuel
  induction fuel generalizing v t' with
  | zero =>
    rw [outcome, hfuel] at h
    contradiction
  | succ fuel ih =>
    rcases v.outcome_cases controls hfuel with ⟨hstray, -⟩ | ⟨e, he⟩ | ⟨ids, hids⟩ | ⟨l, hl, hloop⟩
    · rw [hstray] at h
      contradiction
    · rw [he] at h
      contradiction
    · rw [hids] at h
      obtain rfl := Except.ok.inj h
      exact hindex v ids hv hP
    · rw [hloop] at h
      have hstart : P l.tree ∧ l.fuel = fuel := by
        cases hl with
        | inside hfuel' henters =>
          exact ⟨henter v _ _ _ hv henters hP, Nat.succ.inj (hfuel'.symm.trans hfuel)⟩
        | below hfuel' hpasses => exact ⟨hindex v _ hv hP, Nat.succ.inj (hfuel'.symm.trans hfuel)⟩
      refine Loop.keeps_of_turns h hstart.1 fun w hw hPw t ht => ?_
      exact ih (hnext v l w hv hl hw hPw) hPw ht (hw.fuel.trans hstart.2)

/-- **What holds of a finished scope tree**: whatever indexing and entering keep at the visits that the
walk comes to. -/
theorem keeps_resolveScopes_of_visits {P : ScopeTree → Prop} {R : Reading → Prop}
    (h : resolveScopes controls r = .ok t) (htop : P (.ofComponents r))
    (hstart : ∀ w, (Loop.top controls r).Turn controls w → P w.tree → R w)
    (hnext : ∀ v l w, R v → v.Opens controls l → l.Turn controls w → P w.tree → R w)
    (hindex : ∀ v ids, R v → P v.tree → P (v.tree.indexAll v.scope ids))
    (henter : ∀ v d id shadow, R v → v.Enters controls d id shadow → P v.tree →
      P ((v.tree.indexAll v.scope [id]).enter d v.node v.scope (v.key id) shadow)) : P t :=
  Loop.keeps_of_turns (l := Loop.top controls r) h htop fun w hw hP _ ht =>
    Reading.keeps hnext hindex henter (hstart w hw hP) hP ht

/-- So does whatever they keep at any visit. -/
theorem keeps_resolveScopes {P : ScopeTree → Prop} (h : resolveScopes controls r = .ok t)
    (htop : P (.ofComponents r)) (hindex : ∀ t scope ids, P t → P (t.indexAll scope ids))
    (henter : ∀ v d id shadow, Reading.Enters controls v d id shadow → P v.tree →
      P ((v.tree.indexAll v.scope [id]).enter d v.node v.scope (v.key id) shadow)) : P t :=
  keeps_resolveScopes_of_visits (R := fun _ => True) h htop (fun _ _ _ => trivial)
    (fun _ _ _ _ _ _ _ => trivial) (fun v ids _ hv => hindex v.tree v.scope ids hv)
    (fun v d id shadow _ henters hv => henter v d id shadow henters hv)

/-! ## Documents stay sound -/

/-- The components are those of the form, and the shadow trees are sound arenas. -/
structure ScopeTree.Founded (r : ComponentRegistry) (t : ScopeTree) : Prop where
  components : t.components = r
  grounded : ∀ key s, t.shadowTree? key = some s → s.document.Grounded

/-- The documents of the form are sound arenas. -/
structure Arenas (controls : Document) (r : ComponentRegistry) : Prop where
  controls : controls.Grounded
  templates : ∀ name template, r.template? name = some template → template.Grounded

theorem arenas_of_checked (hchecked : ∀ d ∈ r.documents controls, d.check = .ok ()) :
    Arenas controls r where
  controls := (Document.check_eq_ok_iff.1 (hchecked controls List.mem_cons_self)).grounded
  templates _ _ htemplate := (ComponentRegistry.isForest_of_template? hchecked htemplate).grounded

namespace ScopeTree

variable {source : Source} {d : Document}

theorem Founded.document (h : t.Founded r) (harenas : Arenas controls r)
    (hd : t.document? controls source = some d) : d.Grounded := by
  cases source with
  | controls =>
    obtain rfl : controls = d := Option.some.inj hd
    exact harenas.controls
  | shadow key =>
    obtain ⟨s, hs, rfl⟩ := Option.map_eq_some_iff.1 hd
    exact h.grounded key s hs

theorem Founded.indexAll (h : t.Founded r) (scope : ScopeId) (ids : List String) :
    (t.indexAll scope ids).Founded r := by
  rw [indexAll_eq]
  exact ⟨h.components, h.grounded⟩

theorem document?_indexAll (t : ScopeTree) (scope : ScopeId) (ids : List String) :
    (t.indexAll scope ids).document? controls source = t.document? controls source := by
  rw [indexAll_eq]
  rfl

theorem components_enter (t : ScopeTree) (d : Document) (n : NodeId) (scope : ScopeId)
    (ids : List String) (key : String) (shadow : ShadowTree) :
    ((t.indexAll scope ids).enter d n scope key shadow).components = t.components := by
  rw [enter_eq, indexAll_eq]

theorem shadowTree?_enter (t : ScopeTree) (d : Document) (n : NodeId) (scope : ScopeId)
    (ids : List String) (key : String) (shadow : ShadowTree) (key' : String) :
    ((t.indexAll scope ids).enter d n scope key shadow).shadowTree? key' =
      if key' = key then some shadow else t.shadowTree? key' := by
  rw [enter_eq, indexAll_eq]
  exact lookup_assign key'

end ScopeTree

theorem Reading.Enters.founded {d : Document} {id : String} {shadow : ShadowTree}
    (h : v.Enters controls d id shadow) (hv : v.tree.Founded r) (harenas : Arenas controls r) :
    shadow.document.Grounded ∧
      ((v.tree.indexAll v.scope [id]).enter d v.node v.scope (v.key id) shadow).Founded r := by
  have hshadow : shadow.document.Grounded := by
    obtain ⟨name, template, hname, htemplate, -⟩ := ComponentRegistry.instantiate_spec h.shadow
    refine (ComponentRegistry.expands_of_instantiate h.shadow hname htemplate
      (hv.document harenas h.document) ?_).grounded
    exact harenas.templates name template (hv.components ▸ htemplate)
  refine ⟨hshadow, ?_, fun key s hs => ?_⟩
  · rw [ScopeTree.components_enter, hv.components]
  · rw [ScopeTree.shadowTree?_enter] at hs
    split at hs
    · obtain rfl := Option.some.inj hs
      exact hshadow
    · exact hv.grounded key s hs

theorem Reading.founded (harenas : Arenas controls r) (hv : v.tree.Founded r)
    (h : v.outcome controls = .ok t') : t'.Founded r :=
  Reading.keeps (R := fun _ => True) (fun _ _ _ _ _ _ _ => trivial)
    (fun v ids _ hv => hv.indexAll v.scope ids)
    (fun _ _ _ _ _ henters hv => (henters.founded hv harenas).2) trivial hv h

/-- A source that has a document keeps having one. -/
theorem Reading.stands {source : Source} (hv : (v.tree.document? controls source).isSome = true)
    (h : v.outcome controls = .ok t') : (t'.document? controls source).isSome = true := by
  refine Reading.keeps (P := fun t => (t.document? controls source).isSome = true)
    (R := fun _ => True) (fun _ _ _ _ _ _ _ => trivial) ?_ ?_ trivial hv h
  · intro v ids _ hv
    rw [ScopeTree.document?_indexAll]
    exact hv
  · intro v d id shadow _ _ hv
    cases source with
    | controls => rfl
    | shadow key =>
      rw [ScopeTree.document?, Option.isSome_map, ScopeTree.shadowTree?_enter]
      split
      · rfl
      · rwa [ScopeTree.document?, Option.isSome_map] at hv

/-- A walk whose source has a document, in a scope tree of sound arenas. -/
structure WalkState.Sound (controls : Document) (r : ComponentRegistry) (s : WalkState) : Prop where
  founded : s.tree.Founded r
  origin : s.origin.Grounded
  stands : (s.tree.document? controls s.source).isSome = true
  around : ∀ key, s.source = .shadow key → key ∈ s.around

theorem Loop.Turn.sound (h : l.Turn controls w) (harenas : Arenas controls r)
    (hl : l.Sound controls r) : w.Sound controls r := by
  have hfounded : w.tree.Founded r :=
    h.keeps hl.founded fun w _ hw t ht => w.founded harenas hw ht
  have hstands : (w.tree.document? controls l.source).isSome = true :=
    h.keeps (P := fun t => (t.document? controls l.source).isSome = true) hl.stands
      fun w _ hw t ht => w.stands hw ht
  cases h
  exact ⟨hfounded, hl.origin, hstands, hl.around⟩

theorem Reading.Opens.sound (h : v.Opens controls l) (harenas : Arenas controls r)
    (hv : v.Sound controls r) : l.Sound controls r := by
  cases h with
  | inside hfuel henters =>
    obtain ⟨hshadow, hfounded⟩ := henters.founded hv.founded harenas
    refine ⟨hfounded, hshadow, ?_, fun key hkey => ?_⟩
    · show (Option.map _ (ScopeTree.shadowTree? _ _)).isSome = true
      rw [Option.isSome_map, ScopeTree.shadowTree?_enter, if_pos rfl]
      rfl
    · obtain rfl := Source.shadow.inj hkey
      exact List.mem_cons_self
  | below hfuel hpasses =>
    refine ⟨hv.founded.indexAll _ _, hv.founded.document harenas hpasses.document, ?_, hv.around⟩
    show (ScopeTree.document? _ controls v.source).isSome = true
    rw [ScopeTree.document?_indexAll]
    exact hv.stands

theorem Loop.sound_top (harenas : Arenas controls r) : (Loop.top controls r).Sound controls r :=
  ⟨⟨rfl, fun key s hs => by contradiction⟩, harenas.controls, rfl, fun key hkey => by contradiction⟩

theorem Read.sound (h : Read controls r v) (harenas : Arenas controls r) :
    v.Sound controls r := by
  induction h with
  | top hturn => exact hturn.sound harenas (Loop.sound_top harenas)
  | next _ hopens hturn ih => exact hturn.sound harenas (hopens.sound harenas ih)

/-- **The walk asks for nodes of the document that it took their addresses from.** -/
theorem Read.node_lt (h : Read controls r v) (harenas : Arenas controls r) :
    v.node < v.origin.size := by
  have hrange : ∀ {d : Document} {n c : NodeId}, d.Grounded → c ∈ d.childElements n → c < d.size :=
    fun hd hc => hd.children_lt (List.mem_of_mem_filter hc)
  have hmem : ∀ {l : Loop} {w : Reading}, l.Turn controls w → w.node ∈ l.elements ∧
      w.origin = l.origin := by
    intro l w hturn
    cases hturn with
    | intro hsplit hbefore hscope =>
      rw [hsplit]
      exact ⟨List.mem_append_right _ List.mem_cons_self, rfl⟩
  cases h with
  | top hturn =>
    rw [(hmem hturn).2]
    exact hrange harenas.controls (hmem hturn).1
  | next hv hopens hturn =>
    have horigin := (hopens.sound harenas (hv.sound harenas)).origin
    rw [(hmem hturn).2]
    cases hopens with
    | inside hfuel henters => exact hrange horigin (hmem hturn).1
    | below hfuel hpasses => exact hrange horigin (hmem hturn).1

/-! ## Shadow trees that stay in place -/

section Apart

variable (hapart : ∀ v, Read controls r v → ¬v.InItself controls)

include hapart

/-- A visit replaces no shadow tree that it is inside of. -/
theorem Read.document?_eq (h : Read controls r v) {source : Source}
    (haround : ∀ key, source = .shadow key → key ∈ v.around) (ht : v.outcome controls = .ok t') :
    t'.document? controls source = v.tree.document? controls source := by
  refine Reading.keeps
    (P := fun t => t.document? controls source = v.tree.document? controls source)
    (R := fun w => Read controls r w ∧ ∀ key, source = .shadow key → key ∈ w.around)
    ?_ ?_ ?_ ⟨h, haround⟩ rfl ht
  · rintro v l w ⟨hv, hmem⟩ hopens hturn -
    refine ⟨.next hv hopens hturn, fun key hkey => ?_⟩
    rw [hturn.around]
    cases hopens with
    | inside hfuel henters => exact List.mem_cons_of_mem _ (hmem key hkey)
    | below hfuel hpasses => exact hmem key hkey
  · intro v ids _ hv
    rw [ScopeTree.document?_indexAll]
    exact hv
  · rintro w d id shadow ⟨hw, hmem⟩ henters hsame
    cases source with
    | controls => rfl
    | shadow key =>
      have hne : key ≠ w.key id := by
        rintro rfl
        exact hapart w hw ⟨d, id, shadow, henters, hmem _ rfl⟩
      rw [← hsame, ScopeTree.document?, ScopeTree.document?, ScopeTree.shadowTree?_enter, if_neg hne]

/-- **Without an instance inside of itself, every address is read in the document that it was taken
from.** -/
theorem Read.own (h : Read controls r v) (harenas : Arenas controls r) : v.Own controls := by
  have hturns : ∀ {l : Loop} {w : Reading}, l.Own controls → (∀ w, l.Turn controls w →
      Read controls r w) → (∀ key, l.source = .shadow key → key ∈ l.around) →
      l.Turn controls w → w.Own controls := by
    intro l w hl hread haround hturn
    have hown : w.tree.document? controls l.source = some l.origin := by
      refine hturn.keeps (P := fun t => t.document? controls l.source = some l.origin) hl ?_
      intro w hw hsame t ht
      have hsame' := (hread w hw).document?_eq hapart (hw.around ▸ haround) ht
      exact hsame'.trans hsame
    cases hturn
    exact hown
  cases h with
  | top hturn =>
    exact hturns (l := Loop.top controls r) rfl (fun w hw => .top hw)
      (Loop.sound_top harenas).around hturn
  | next hv hopens hturn =>
    have hsound := hopens.sound harenas (hv.sound harenas)
    refine hturns ?_ (fun w hw => .next hv hopens hw) hsound.around hturn
    -- the loop begins with the document that its addresses are from
    cases hopens with
    | inside hfuel henters =>
      show Option.map _ (ScopeTree.shadowTree? _ _) = _
      rw [ScopeTree.shadowTree?_enter, if_pos rfl]
      rfl
    | below hfuel hpasses =>
      rw [WalkState.Own, ScopeTree.document?_indexAll]
      exact hpasses.document

end Apart

end FormEngine
