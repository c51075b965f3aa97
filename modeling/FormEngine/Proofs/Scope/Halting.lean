import FormEngine.Proofs.Scope.Ending
/-!
# Walks that halt

The walk over a form is cut off at a depth that is computed from the form. Here the depth is left
open: a walk halts when it comes to an answer about the form at some depth and gives the same answer
at every greater one. It does so under bindings of which none reaches itself, when no two component
instances get the same prefixed id, however deep instances are nested in the content of each other
and however often that content is copied. Two instances of one prefixed id are what could go wrong:
when one of them is inside of the other, it takes away the shadow tree that the walk is in.
-/

namespace FormEngine

variable {controls : Document} {r : ComponentRegistry} {v w : Reading} {l : Loop} {t t' : ScopeTree}

/-! ## Depth -/

/-- The walk over a form, cut off at a depth. -/
def resolveWithin (controls : Document) (r : ComponentRegistry) (depth : Nat) :
    Except Stop ScopeTree :=
  resolveAll controls depth .controls 0 (controls.childElements controls.root) (.ofComponents r)

/-- A walk from an element that is not cut off goes the same way at the next depth. -/
theorem resolveElement_succ_eq {fuel : Nat} {source : Source} {n : NodeId} {scope : ScopeId}
    (h : resolveElement controls fuel source n scope t ≠ .error .endless) :
    resolveElement controls (fuel + 1) source n scope t =
      resolveElement controls fuel source n scope t := by
  induction fuel generalizing source n scope t with
  | zero => exact absurd rfl h
  | succ fuel ih =>
    -- the two walks take the same branch and differ only in how deep they go on from there
    have hall : ∀ {source scope ns t}, resolveAll controls fuel source scope ns t ≠ .error .endless →
        resolveAll controls (fuel + 1) source scope ns t =
          resolveAll controls fuel source scope ns t := by
      intro source scope ns t hns
      refine foldlM_congr_of_ne (fun t c hc => ?_) hns
      cases hscope : t.scopeOfChild? scope c source with
      | none => rfl
      | some s =>
        rw [hscope] at hc
        exact ih hc
    rw [resolveElement_succ] at h
    rw [resolveElement_succ, resolveElement_succ]
    cases hd : t.document? controls source with
    | none => rfl
    | some d =>
      simp only [hd] at h ⊢
      split
      · rfl
      rename_i hsize
      rw [if_neg hsize] at h
      cases hname : d.name? n with
      | none => rfl
      | some name =>
        simp only [hname] at h ⊢
        split
        · rfl
        rename_i hxbl
        rw [if_neg hxbl] at h
        split
        · rfl
        rename_i hdata
        rw [if_neg hdata] at h
        split
        · rename_i hcomponent
          rw [if_pos hcomponent] at h
          cases hid : d.staticId? n with
          | none => rfl
          | some id =>
            simp only [hid] at h ⊢
            split
            · rfl
            · rename_i hshadow
              rw [hshadow] at h
              exact hall h
        · rename_i hcomponent
          rw [if_neg hcomponent] at h
          split
          · rfl
          · rename_i hbound
            rw [if_neg hbound] at h
            exact hall h

theorem resolveWithin_eq {depth depth' : Nat} (hle : depth ≤ depth')
    (h : resolveWithin controls r depth ≠ .error .endless) :
    resolveWithin controls r depth' = resolveWithin controls r depth := by
  induction hle with
  | refl => rfl
  | @step depth' _ ih =>
    rw [← ih]
    rw [← ih] at h
    refine foldlM_congr_of_ne (fun t c hc => ?_) h
    exact resolveElement_succ_eq hc

/-! ## Instances apart -/

/-- No two component instances get the same prefixed id. Each instance that the walk comes to makes
a scope, and the number of that scope tells it from all others. -/
def InstancesApart (controls : Document) (r : ComponentRegistry) : Prop :=
  ∀ v w d d' id id' shadow shadow', Read controls r v → Read controls r w →
    v.Enters controls d id shadow → w.Enters controls d' id' shadow' → v.key id = w.key id' →
    v.tree.size = w.tree.size

/-- Scopes are added and never taken away. -/
theorem Reading.scopes_prefix (h : v.outcome controls = .ok t') : v.tree.scopes <+: t'.scopes := by
  refine Reading.keeps (P := fun t => v.tree.scopes <+: t.scopes) (R := fun _ => True)
    (fun _ _ _ _ _ _ _ => trivial) ?_ ?_ trivial List.prefix_rfl h
  · intro w ids _ hw
    exact hw.trans (ScopeTree.Grows.indexAll w.tree w.scope ids).scopes
  · intro w d id shadow _ _ hw
    exact hw.trans ((ScopeTree.Grows.indexAll w.tree w.scope [id]).scopes.trans
      (ScopeTree.Grows.enter _ d w.node w.scope (w.key id) shadow).scopes)

theorem Loop.Turn.scopes_prefix (h : l.Turn controls w) : l.tree.scopes <+: w.tree.scopes :=
  h.keeps (P := fun t => l.tree.scopes <+: t.scopes) List.prefix_rfl
    fun _ _ hw _ ht => hw.trans (Reading.scopes_prefix ht)

/-- The scope that an instance makes. -/
def Reading.scopeOf (v : Reading) (key : String) : Scope :=
  ⟨v.tree.size, key, key ++ "$", some v.scope⟩

theorem Reading.scopes_enter (v : Reading) (d : Document) (id : String) (shadow : ShadowTree) :
    ((v.tree.indexAll v.scope [id]).enter d v.node v.scope (v.key id) shadow).scopes =
      v.tree.scopes ++ [v.scopeOf (v.key id)] := by
  rw [ScopeTree.enter_eq, ScopeTree.indexAll_eq]
  rfl

/-- An instance that the walk is inside of has been entered, before its scope had followers. -/
theorem Read.exists_entered (h : Read controls r v) {key : String} (hkey : key ∈ v.around) :
    ∃ w d id shadow, Read controls r w ∧ w.Enters controls d id shadow ∧ w.key id = key ∧
      w.tree.size < v.tree.size := by
  induction h with
  | top hturn =>
    rw [hturn.around] at hkey
    contradiction
  | @next v w l hv hopens hturn ih =>
    rw [hturn.around] at hkey
    have hle := hturn.scopes_prefix.length_le
    cases hopens with
    | @inside fuel d id shadow hfuel henters =>
      have hlt : v.tree.size < w.tree.size := by
        refine Nat.lt_of_lt_of_le ?_ hle
        show v.tree.size < List.length _
        rw [Reading.scopes_enter, List.length_append, List.length_singleton]
        exact Nat.lt_succ_self _
      rcases List.mem_cons.1 hkey with rfl | hkey
      · exact ⟨v, d, id, shadow, hv, henters, rfl, hlt⟩
      · obtain ⟨u, d, id, shadow, hu, hu', hid, hult⟩ := ih hkey
        exact ⟨u, d, id, shadow, hu, hu', hid, Nat.lt_trans hult hlt⟩
    | @below fuel d hfuel hpasses =>
      obtain ⟨u, d', id, shadow, hu, hu', hid, hult⟩ := ih hkey
      refine ⟨u, d', id, shadow, hu, hu', hid, Nat.lt_of_lt_of_le hult ?_⟩
      exact Nat.le_trans (ScopeTree.Grows.indexAll v.tree v.scope _).size_le hle

/-- Instances apart from each other are not inside of themselves. -/
theorem InstancesApart.not_inItself (h : InstancesApart controls r) (hv : Read controls r v) :
    ¬v.InItself controls := by
  rintro ⟨d, id, shadow, henters, haround⟩
  obtain ⟨w, d', id', shadow', hw, henters', hkey, hlt⟩ := hv.exists_entered haround
  have hsame := h w v d' d id' id shadow' shadow hw hv henters' henters hkey
  exact Nat.ne_of_lt hlt hsame

/-! ## How to see that instances are apart -/

/-- What a visit opens is what comes of it, unless it stops with a finding. -/
theorem Reading.Opens.outcome_eq (h : v.Opens controls l) {t : ScopeTree}
    (hv : v.outcome controls = .ok t) : l.outcome controls = .ok t := by
  have hlt : ∀ {d : Document} {name : QName}, d.name? v.node = some name → ¬d.size ≤ v.node := by
    intro d name hname hle
    rw [Document.name?, Document.node?_of_size_le hle] at hname
    contradiction
  have hcomponents : ∀ ids, (v.tree.indexAll v.scope ids).components = v.tree.components := by
    intro ids
    rw [ScopeTree.indexAll_eq]
  rw [Reading.outcome] at hv
  cases h with
  | @inside fuel d id shadow hfuel henters =>
    obtain ⟨name, hname, hxbl, hdata, hcomponent⟩ := henters.component
    have hkey : (v.tree.indexAll v.scope [id]).prefixedId v.scope id = v.key id := by
      rw [ScopeTree.indexAll_eq]
      rfl
    have hsize : (v.tree.indexAll v.scope [id]).size = v.tree.size := by
      rw [ScopeTree.indexAll_eq]
      rfl
    rw [hfuel, resolveElement_succ, henters.document] at hv
    simp only [hlt hname, hname, hxbl, hdata, henters.staticId, Option.toList_some, hcomponents,
      hcomponent, hkey, hsize, henters.shadow, if_false, if_true, Bool.false_eq_true] at hv
    exact hv
  | @below fuel d hfuel hpasses =>
    obtain ⟨name, hname, hxbl, hdata, hcomponent⟩ := hpasses.plain
    rw [hfuel, resolveElement_succ, hpasses.document] at hv
    simp only [hlt hname, hname, hxbl, hdata, hcomponents, hcomponent, if_false,
      Bool.false_eq_true] at hv
    split at hv
    · contradiction
    · exact hv

/-- The walk over the elements ends, and what is in its scope tree then stays in the tree `t`. -/
def Loop.EndsIn (controls : Document) (t : ScopeTree) (l : Loop) : Prop :=
  ∃ t', l.outcome controls = .ok t' ∧ t'.scopes <+: t.scopes

/-- The walk from the element ends, and what is in its scope tree then stays in the tree `t`. -/
def Reading.EndsIn (controls : Document) (t : ScopeTree) (v : Reading) : Prop :=
  ∃ t', v.outcome controls = .ok t' ∧ t'.scopes <+: t.scopes

/-- In a walk that ends every turn does. -/
theorem Loop.Turn.endsIn (h : l.Turn controls w) (hl : l.EndsIn controls t) :
    w.EndsIn controls t := by
  obtain ⟨t', hl, hprefix⟩ := hl
  cases h with
  | @intro before after c t₀ s hsplit hbefore hscope =>
    rw [Loop.outcome, hsplit, resolveAll, List.foldlM_append] at hl
    obtain ⟨t₁, hbefore', hl⟩ := ok_of_bind hl
    obtain rfl : t₀ = t₁ := Except.ok.inj (hbefore.symm.trans hbefore')
    rw [List.foldlM_cons, hscope] at hl
    obtain ⟨t₂, hw, hafter⟩ := ok_of_bind hl
    refine ⟨t₂, hw, List.IsPrefix.trans ?_ hprefix⟩
    exact Loop.keeps_of_turns (l := { l with elements := after, tree := t₂ })
      (P := fun t => t₂.scopes <+: t.scopes) hafter List.prefix_rfl
      fun _ _ hu _ ht => hu.trans (Reading.scopes_prefix ht)

theorem Read.endsIn (h : Read controls r v) (hrun : resolveScopes controls r = .ok t) :
    v.EndsIn controls t := by
  induction h with
  | top hturn => exact hturn.endsIn ⟨t, hrun, List.prefix_rfl⟩
  | next _ hopens hturn ih =>
    obtain ⟨t', hv, hprefix⟩ := ih
    exact hturn.endsIn ⟨t', hopens.outcome_eq hv, hprefix⟩

/-- The scope that an instance makes is there when the walk has ended. -/
theorem Reading.Enters.scope_eq {d : Document} {id : String} {shadow : ShadowTree}
    (h : v.Enters controls d id shadow) (hv : Read controls r v)
    (hrun : resolveScopes controls r = .ok t) :
    t.scopes[v.tree.size]? = some (v.scopeOf (v.key id)) := by
  obtain ⟨t', hout, hprefix⟩ := hv.endsIn hrun
  cases hfuel : v.fuel with
  | zero =>
    rw [Reading.outcome, hfuel] at hout
    contradiction
  | succ fuel =>
    have hloop := (Reading.Opens.inside hfuel h).outcome_eq hout
    have hstart : v.tree.scopes ++ [v.scopeOf (v.key id)] <+:
        ((v.tree.indexAll v.scope [id]).enter d v.node v.scope (v.key id) shadow).scopes :=
      v.scopes_enter d id shadow ▸ List.prefix_rfl
    have hgrown := Loop.keeps_of_turns
      (P := fun t => v.tree.scopes ++ [v.scopeOf (v.key id)] <+: t.scopes) hloop hstart
      fun _ _ hu _ ht => hu.trans (Reading.scopes_prefix ht)
    obtain ⟨more, hmore⟩ := hgrown.trans hprefix
    rw [← hmore, List.append_assoc, List.singleton_append, ScopeTree.size,
      List.getElem?_append_right (Nat.le_refl _), Nat.sub_self, List.getElem?_cons_zero]

/-- **Instances are apart when the scopes of the finished walk are for different prefixed ids.** -/
theorem instancesApart_of_nodup (hrun : resolveScopes controls r = .ok t)
    (hnodup : (t.scopes.map Scope.scopeId).Nodup) : InstancesApart controls r := by
  intro v w d d' id id' shadow shadow' hv hw henters henters' hkey
  have hscope := henters.scope_eq hv hrun
  have hscope' := henters'.scope_eq hw hrun
  have hids := congrArg (Option.map Scope.scopeId) hscope
  have hids' := congrArg (Option.map Scope.scopeId) hscope'
  rw [← List.getElem?_map] at hids hids'
  exact (List.getElem?_inj (List.getElem?_eq_some_iff.1 hids).1 hnodup).1
    (hids.trans ((congrArg some hkey).trans hids'.symm))

/-! ## The end of the walk -/

/-- **Every walk halts** under bindings of which none reaches itself, when no two component instances
get the same prefixed id. It comes to an answer about the form, a scope tree or a finding, and comes
to the same one at whatever depth beyond the bound it is cut off; no visit is as deep as the bound. -/
theorem halts_of_instancesApart (hchecked : ∀ d ∈ r.documents controls, d.check = .ok ())
    (hacyclic : ∀ b, ¬Relation.TransGen r.Uses b b) (hapart : InstancesApart controls r) :
    ∃ answer, resolveScopes controls r = answer ∧
      ((∃ t, answer = .ok t) ∨ ∃ f, answer = .error (.finding f)) ∧
      (∀ depth, walkBound controls r ≤ depth → resolveWithin controls r depth = answer) ∧
      ∀ v, Read controls r v → 0 < v.fuel := by
  have harenas := arenas_of_checked hchecked
  have hown : ∀ v, Read controls r v → v.Own controls := fun v hv =>
    hv.own (fun w hw => hapart.not_inItself hw) harenas
  have hanswer : (∃ t, resolveScopes controls r = .ok t) ∨
      ∃ f, resolveScopes controls r = .error (.finding f) := by
    cases h : resolveScopes controls r with
    | ok t => exact .inl ⟨t, rfl⟩
    | error e =>
      obtain ⟨w, hw, he⟩ := Loop.exists_turn_of_error (Loop.sound_top harenas) h
      obtain ⟨f, rfl⟩ := Read.finding_of_error (.top hw) hchecked hacyclic hown he
      exact .inr ⟨f, rfl⟩
  refine ⟨resolveScopes controls r, rfl, hanswer, fun depth hle => ?_, fun v hv => ?_⟩
  · refine resolveWithin_eq hle ?_
    show resolveScopes controls r ≠ _
    rcases hanswer with ⟨t, ht⟩ | ⟨f, hf⟩
    · rw [ht]
      exact fun h => by contradiction
    · rw [hf]
      exact fun h => Stop.noConfusion (Except.error.inj h)
  · exact hv.fuel_pos hchecked hacyclic hown

/-- An instance `a` with an instance `b` of the same binding for content, which has an instance `c`
of another one for content, so that `c` is handed on twice. -/
def nestedControls : Document :=
  { nodes :=
      #[{ kind := .element (.plain "controls") [], children := [1] },
        { kind := .element { nsPrefix := "fr", uri := "fr", localName := "fieldset" }
            [⟨.plain "id", "a"⟩]
          parent := some 0, children := [2] },
        { kind := .element { nsPrefix := "fr", uri := "fr", localName := "fieldset" }
            [⟨.plain "id", "b"⟩]
          parent := some 1, children := [3] },
        { kind := .element { nsPrefix := "fr", uri := "fr", localName := "blank" }
            [⟨.plain "id", "c"⟩]
          parent := some 2 }]
    root := 0 }

theorem check_nested : ∀ d ∈ fieldsetComponents.documents nestedControls, d.check = .ok () := by
  decide

theorem scopeIds_nested :
    (resolveScopes nestedControls fieldsetComponents).map (fun t => t.scopes.map Scope.scopeId) =
      .ok ["", "a", "b", "c"] := by
  decide +kernel

theorem instancesApart_nested : InstancesApart nestedControls fieldsetComponents := by
  have hids := scopeIds_nested
  cases hrun : resolveScopes nestedControls fieldsetComponents with
  | error e =>
    rw [hrun] at hids
    contradiction
  | ok t =>
    rw [hrun] at hids
    have hscopes : t.scopes.map Scope.scopeId = ["", "a", "b", "c"] := Except.ok.inj hids
    refine instancesApart_of_nodup hrun ?_
    rw [hscopes]
    decide

/-- The law at `nestedControls`, which ends with a scope tree. -/
theorem halts_of_instancesApart_nested :
    (∀ d ∈ fieldsetComponents.documents nestedControls, d.check = .ok ()) ∧
      (∀ b, ¬Relation.TransGen fieldsetComponents.Uses b b) ∧
      InstancesApart nestedControls fieldsetComponents ∧
      ∃ t, ∀ depth, walkBound nestedControls fieldsetComponents ≤ depth →
        resolveWithin nestedControls fieldsetComponents depth = .ok t := by
  obtain ⟨answer, hanswer, -, hdepth, -⟩ :=
    halts_of_instancesApart check_nested acyclic_fieldset instancesApart_nested
  have hids := scopeIds_nested
  rw [hanswer] at hids
  obtain _ | t := answer
  · contradiction
  · exact ⟨check_nested, acyclic_fieldset, instancesApart_nested, t, hdepth⟩

end FormEngine
