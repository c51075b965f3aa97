import FormEngine.Proofs.Scope.Written
/-!
# What a walk leaves behind

A walk over an element turns one scope tree into another. The survey of the element lists, against
the scope tree after the walk, everything that the walk indexed: the elements with an id in the
order in which it came to them, and at each component instance the ids in its handlers. A survey
stays right when the walk goes on, as long as no shadow tree that it has looked at is replaced.
-/

namespace FormEngine

/-- Why an id was indexed: for an element, for a component instance, or for something in a handler
on an instance. -/
inductive Role where
  | element
  | component
  | handler
  deriving DecidableEq

/-- An id that the walk indexed. For a handler the node is that of the instance. -/
structure Met where
  source : Source
  node : NodeId
  scope : ScopeId
  staticId : String
  prefixedId : String
  role : Role

namespace Met

/-- What the index records. -/
def entry (m : Met) : String × ScopeId := (m.prefixedId, m.scope)

def isComponent (m : Met) : Bool := m.role == .component

def isHandler (m : Met) : Bool := m.role == .handler

end Met

/-- The walk over elements one after the other. -/
def resolveAll (controls : Document) (fuel : Nat) (source : Source) (scope : ScopeId)
    (ns : List NodeId) (t : ScopeTree) : Except Stop ScopeTree :=
  ns.foldlM
    (fun t child =>
      match t.scopeOfChild? scope child source with
      | none => .error .strayNode
      | some s => resolveElement controls fuel source child s t)
    t

/-! ## What one step can do -/

/-- What the walk does at an element. -/
inductive Resolves (controls : Document) (fuel : Nat) (source : Source) (n : NodeId)
    (scope : ScopeId) (t : ScopeTree) : ScopeTree → Prop
  /-- Text and XBL definitions are passed over. -/
  | passed {d : Document} (hd : t.document? controls source = some d)
      (hpassed : ∀ name, d.name? n = some name → name.uri = Namespace.xbl) :
      Resolves controls fuel source n scope t t
  /-- An instance of data is not entered. -/
  | data {d : Document} {name : QName} (hd : t.document? controls source = some d)
      (hname : d.name? n = some name) (hdata : name.is Namespace.xforms "instance" = true) :
      Resolves controls fuel source n scope t (t.indexAll scope (d.staticId? n).toList)
  /-- A component instance gets a shadow tree, which is walked next. -/
  | component {d : Document} {name : QName} {id : String} {shadow : ShadowTree} {t' : ScopeTree}
      (hd : t.document? controls source = some d) (hname : d.name? n = some name)
      (hxbl : name.uri ≠ Namespace.xbl) (hdata : name.is Namespace.xforms "instance" = false)
      (hcomponent : t.components.isComponent name = true) (hid : d.staticId? n = some id)
      (hshadow : t.components.instantiate d n (t.prefixedId scope id) scope t.size = .ok shadow)
      (hinner : resolveAll controls fuel (.shadow (t.prefixedId scope id)) scope
        (shadow.document.childElements shadow.document.root)
        ((t.indexAll scope [id]).enter d n scope (t.prefixedId scope id) shadow) = .ok t') :
      Resolves controls fuel source n scope t t'
  /-- Any other element is walked through. -/
  | plain {d : Document} {name : QName} {t' : ScopeTree}
      (hd : t.document? controls source = some d) (hname : d.name? n = some name)
      (hxbl : name.uri ≠ Namespace.xbl) (hdata : name.is Namespace.xforms "instance" = false)
      (hcomponent : t.components.isComponent name = false)
      (hbelow : resolveAll controls fuel source scope (d.childElements n)
        (t.indexAll scope (d.staticId? n).toList) = .ok t') :
      Resolves controls fuel source n scope t t'

/-- **A walk that goes on without an error does one of these.** -/
theorem resolves_of_resolveElement {controls : Document} {fuel : Nat} {source : Source} {n : NodeId}
    {scope : ScopeId} {t t' : ScopeTree}
    (h : resolveElement controls (fuel + 1) source n scope t = .ok t') :
    Resolves controls fuel source n scope t t' := by
  rw [resolveElement_succ] at h
  cases hd : t.document? controls source with
  | none =>
    rw [hd] at h
    contradiction
  | some d =>
    rw [hd] at h
    simp only at h
    split at h
    · contradiction
    cases hname : d.name? n with
    | none =>
      rw [hname] at h
      obtain rfl := Except.ok.inj h
      exact .passed hd fun name hn => by simp [hname] at hn
    | some name =>
      rw [hname] at h
      simp only at h
      split at h
      · rename_i hxbl
        obtain rfl := Except.ok.inj h
        refine .passed hd fun name' hn => ?_
        obtain rfl : name = name' := Option.some.inj (hname ▸ hn)
        exact hxbl
      rename_i hxbl
      split at h
      · rename_i hdata
        obtain rfl := Except.ok.inj h
        exact .data hd hname hdata
      rename_i hdata
      rw [Bool.not_eq_true] at hdata
      -- indexing an id changes neither the components nor the scopes
      have hcomponents : (t.indexAll scope (d.staticId? n).toList).components = t.components := by
        rw [ScopeTree.indexAll_eq]
      rw [hcomponents] at h
      split at h
      · rename_i hcomponent
        cases hid : d.staticId? n with
        | none =>
          rw [hid] at h
          contradiction
        | some id =>
          rw [hid] at h
          simp only at h
          have hsame : (t.indexAll scope [id]).prefixedId scope id = t.prefixedId scope id := by
            rw [ScopeTree.indexAll_eq]
            rfl
          have hsize : (t.indexAll scope [id]).size = t.size := by
            rw [ScopeTree.indexAll_eq]
            rfl
          rw [Option.toList_some, hsame, hsize] at h
          cases hshadow : t.components.instantiate d n (t.prefixedId scope id) scope t.size with
          | error e =>
            rw [hshadow] at h
            contradiction
          | ok shadow =>
            rw [hshadow] at h
            exact .component hd hname hxbl hdata hcomponent hid hshadow h
      · rename_i hcomponent
        rw [Bool.not_eq_true] at hcomponent
        split at h
        · contradiction
        · exact .plain hd hname hxbl hdata hcomponent h

/-! ## Surveys -/

/-- An id of an element in a scope. -/
def ScopeTree.met (t : ScopeTree) (source : Source) (n : NodeId) (scope : ScopeId) (role : Role)
    (id : String) : Met :=
  { source, node := n, scope, staticId := id, prefixedId := t.prefixedId scope id, role }

/-- The survey of a child, in the scope that its source has for it. -/
def ScopeTree.SurveysChild (t : ScopeTree) (R : Source → NodeId → ScopeId → List Met → Prop)
    (source : Source) (scope : ScopeId) (c : NodeId) (L : List Met) : Prop :=
  ∃ s, t.scopeOfChild? scope c source = some s ∧ s < t.size ∧ R source c s L

/-- The survey of an element, where `R` gives the surveys of the elements that are walked from it. -/
inductive SurveysWith (controls : Document) (t : ScopeTree)
    (R : Source → NodeId → ScopeId → List Met → Prop) (source : Source) (n : NodeId)
    (scope : ScopeId) : List Met → Prop
  | passed {d : Document} (hd : t.document? controls source = some d)
      (hpassed : ∀ name, d.name? n = some name → name.uri = Namespace.xbl) :
      SurveysWith controls t R source n scope []
  | data {d : Document} {name : QName} (hd : t.document? controls source = some d)
      (hname : d.name? n = some name) (hdata : name.is Namespace.xforms "instance" = true) :
      SurveysWith controls t R source n scope
        ((d.staticId? n).toList.map (t.met source n scope .element))
  | component {d : Document} {name : QName} {id : String} {shadow : ShadowTree}
      {Ls : List (List Met)}
      (hd : t.document? controls source = some d) (hname : d.name? n = some name)
      (hxbl : name.uri ≠ Namespace.xbl) (hdata : name.is Namespace.xforms "instance" = false)
      (hcomponent : t.components.isComponent name = true) (hid : d.staticId? n = some id)
      (hshadow : t.shadowTree? (t.prefixedId scope id) = some shadow)
      (hinner : List.Forall₂ (t.SurveysChild R (.shadow (t.prefixedId scope id)) scope)
        (shadow.document.childElements shadow.document.root) Ls) :
      SurveysWith controls t R source n scope
        (t.met source n scope .component id ::
          ((d.handlerIds n).map (t.met source n scope .handler) ++ Ls.flatten))
  | plain {d : Document} {name : QName} {Ls : List (List Met)}
      (hd : t.document? controls source = some d) (hname : d.name? n = some name)
      (hxbl : name.uri ≠ Namespace.xbl) (hdata : name.is Namespace.xforms "instance" = false)
      (hcomponent : t.components.isComponent name = false)
      (hbelow : List.Forall₂ (t.SurveysChild R source scope) (d.childElements n) Ls) :
      SurveysWith controls t R source n scope
        ((d.staticId? n).toList.map (t.met source n scope .element) ++ Ls.flatten)

/-- The walk over an element, at most `fuel` levels deep, indexes this. -/
def Surveys (controls : Document) (t : ScopeTree) :
    Nat → Source → NodeId → ScopeId → List Met → Prop
  | 0 => fun _ _ _ _ => False
  | fuel + 1 => SurveysWith controls t (Surveys controls t fuel)

/-! ## A survey while the walk goes on -/

/-- The scope tree has grown, under the same components. -/
structure ScopeTree.Continues (t t' : ScopeTree) : Prop where
  grows : t.Grows t'
  components : t'.components = t.components

namespace ScopeTree

variable {t t' : ScopeTree} {controls : Document} {source : Source} {scope : ScopeId}

theorem prefixedId_of_grows (h : t.Grows t') (hlt : scope < t.size) (id : String) :
    t'.prefixedId scope id = t.prefixedId scope id := by
  obtain ⟨sc, hsc⟩ := scope?_of_lt hlt
  rw [prefixedId_of_scope? hsc, prefixedId_of_scope? (h.scope? hsc)]

/-- The two scope trees have the same shadow tree for a source. -/
def SameAt (t t' : ScopeTree) (source : Source) : Prop :=
  ∀ key, source = .shadow key → t'.shadowTree? key = t.shadowTree? key

theorem SameAt.document? (h : t.SameAt t' source) :
    t'.document? controls source = t.document? controls source := by
  cases source with
  | controls => rfl
  | shadow key => rw [ScopeTree.document?, ScopeTree.document?, h key rfl]

theorem SameAt.scopeOfChild? (h : t.SameAt t' source) (c : NodeId) :
    t'.scopeOfChild? scope c source = t.scopeOfChild? scope c source := by
  cases source with
  | controls => rfl
  | shadow key => rw [ScopeTree.scopeOfChild?, ScopeTree.scopeOfChild?, h key rfl]

theorem met_of_grows (h : t.Grows t') (hlt : scope < t.size) (n : NodeId) (role : Role) :
    t'.met source n scope role = t.met source n scope role := by
  funext id
  rw [met, met, prefixedId_of_grows h hlt]

end ScopeTree

/-- **A survey stays right** when no shadow tree that it has looked at is replaced. -/
theorem Surveys.mono {controls : Document} {t t' : ScopeTree} {fuel : Nat} {source : Source}
    {n : NodeId} {scope : ScopeId} {L : List Met} (h : Surveys controls t fuel source n scope L)
    (hcontinues : t.Continues t') (hlt : scope < t.size) (hsource : t.SameAt t' source)
    (hkeys : ∀ m ∈ L, m.isComponent = true → t'.shadowTree? m.prefixedId = t.shadowTree? m.prefixedId) :
    Surveys controls t' fuel source n scope L := by
  induction fuel generalizing source n scope L with
  | zero => exact h.elim
  | succ fuel ih =>
    have hgrows := hcontinues.grows
    have hchildren : ∀ (source' : Source) (cs : List NodeId) (Ls : List (List Met)),
        t.SameAt t' source' →
        (∀ m ∈ Ls.flatten, m.isComponent = true →
          t'.shadowTree? m.prefixedId = t.shadowTree? m.prefixedId) →
        List.Forall₂ (t.SurveysChild (Surveys controls t fuel) source' scope) cs Ls →
        List.Forall₂ (t'.SurveysChild (Surveys controls t' fuel) source' scope) cs Ls := by
      intro source' cs Ls hsame hkeys hall
      induction hall with
      | nil => exact .nil
      | @cons c L cs Ls hc _ ih' =>
        rw [List.flatten_cons, List.forall_mem_append] at hkeys
        obtain ⟨s, hs, hlt, hL⟩ := hc
        refine .cons ⟨s, ?_, Nat.lt_of_lt_of_le hlt hgrows.size_le, ?_⟩ (ih' hkeys.2)
        · rw [hsame.scopeOfChild?]
          exact hs
        · exact ih hL hlt hsame hkeys.1
    cases h with
    | @passed d hd hpassed => exact .passed (hsource.document?.trans hd) hpassed
    | @data d name hd hname hdata =>
      rw [← ScopeTree.met_of_grows hgrows hlt]
      exact .data (hsource.document?.trans hd) hname hdata
    | @component d name id shadow Ls hd hname hxbl hdata hcomponent hid hshadow hinner =>
      -- the instance is in the survey itself, so the shadow tree under its key has been kept
      have hown := hkeys (t.met source n scope .component id) List.mem_cons_self rfl
      have hsame : t.SameAt t' (.shadow (t.prefixedId scope id)) := by
        intro key hkey
        obtain rfl := Source.shadow.inj hkey
        exact hown
      have hinner' := hchildren _ _ Ls hsame (fun m hm => hkeys m (by simp [hm])) hinner
      have hshadow' : t'.shadowTree? (t'.prefixedId scope id) = some shadow := by
        rw [ScopeTree.prefixedId_of_grows hgrows hlt]
        exact hown.trans hshadow
      rw [← ScopeTree.met_of_grows hgrows hlt, ← ScopeTree.met_of_grows hgrows hlt]
      refine .component (hsource.document?.trans hd) hname hxbl hdata ?_ hid hshadow' ?_
      · rw [hcontinues.components]
        exact hcomponent
      · rw [ScopeTree.prefixedId_of_grows hgrows hlt]
        exact hinner'
    | @plain d name Ls hd hname hxbl hdata hcomponent hbelow =>
      rw [← ScopeTree.met_of_grows hgrows hlt]
      refine .plain (hsource.document?.trans hd) hname hxbl hdata ?_ ?_
      · rw [hcontinues.components]
        exact hcomponent
      · exact hchildren _ _ Ls hsource (fun m hm => hkeys m (List.mem_append_right _ hm)) hbelow

/-! ## The members of a survey -/

/-- The place of a member of a survey in the form. -/
structure Met.In (controls : Document) (t : ScopeTree) (m : Met) : Prop where
  prefixedId : m.prefixedId = t.prefixedId m.scope m.staticId
  scope : t.scopeOfChild? 0 m.node m.source = some m.scope
  lt : m.scope < t.size
  /-- An id in a handler belongs to an instance. -/
  handler : m.isHandler = true → ∃ d name, t.document? controls m.source = some d ∧
    d.name? m.node = some name ∧ t.components.isComponent name = true ∧
    m.staticId ∈ d.handlerIds m.node

theorem forall_in_flatten {controls : Document} {t : ScopeTree}
    {R : Source → NodeId → ScopeId → List Met → Prop} {source : Source} {scope : ScopeId}
    (hstep : ∀ c s L, R source c s L → s < t.size → t.scopeOfChild? 0 c source = some s →
      ∀ m ∈ L, m.In controls t)
    (hsame : ∀ c, t.scopeOfChild? scope c source = t.scopeOfChild? 0 c source) {cs : List NodeId}
    {Ls : List (List Met)} (h : List.Forall₂ (t.SurveysChild R source scope) cs Ls) :
    ∀ m ∈ Ls.flatten, m.In controls t := by
  induction h with
  | nil => intro m hm; simp at hm
  | @cons c L cs Ls hc _ ih =>
    obtain ⟨s, hs, hlt, hL⟩ := hc
    rw [hsame] at hs
    rw [List.flatten_cons, List.forall_mem_append]
    exact ⟨hstep c s L hL hlt hs, ih⟩

theorem Surveys.forall_in {controls : Document} {t : ScopeTree} {fuel : Nat} {source : Source}
    {n : NodeId} {scope : ScopeId} {L : List Met} (h : Surveys controls t fuel source n scope L)
    (hlt : scope < t.size) (hscope : t.scopeOfChild? 0 n source = some scope) :
    ∀ m ∈ L, m.In controls t := by
  induction fuel generalizing source n scope L with
  | zero => exact h.elim
  | succ fuel ih =>
    have hown : ∀ (role : Role) (id : String), role ≠ .handler →
        (t.met source n scope role id).In controls t := by
      intro role id hrole
      refine ⟨rfl, hscope, hlt, fun hhandler => absurd (beq_iff_eq.1 hhandler) hrole⟩
    cases h with
    | passed hd hpassed => intro m hm; simp at hm
    | data hd hname hdata =>
      intro m hm
      obtain ⟨id, -, rfl⟩ := List.mem_map.1 hm
      exact hown .element id (by decide)
    | @component d name id shadow Ls hd hname hxbl hdata hcomponent hid hshadow hinner =>
      rw [List.forall_mem_cons, List.forall_mem_append]
      refine ⟨hown .component id (by decide), ?_,
        forall_in_flatten (fun c s L hL hlt hs => ih hL hlt hs)
          (t.scopeOfChild?_shadow scope _) hinner⟩
      intro m hm
      obtain ⟨h, hh, rfl⟩ := List.mem_map.1 hm
      exact ⟨rfl, hscope, hlt, fun _ => ⟨d, name, hd, hname, hcomponent, hh⟩⟩
    | @plain d name Ls hd hname hxbl hdata hcomponent hbelow =>
      rw [List.forall_mem_append]
      constructor
      · intro m hm
        obtain ⟨id, -, rfl⟩ := List.mem_map.1 hm
        exact hown .element id (by decide)
      · exact forall_in_flatten (fun c s L hL hlt hs => ih hL hlt hs)
          (ScopeTree.scopeOfChild?_of_walked hscope t) hbelow

end FormEngine
