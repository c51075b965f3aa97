import FormEngine.Proofs.Scope.Chain
import FormEngine.Proofs.Scope.Halting
import FormEngine.Proofs.Scope.PrefixedIds
/-!
# Prefixed ids read back

A scope reads a prefixed id back by taking its own prefix away, whoever has prefixed the id. A prefix is
empty or ends in a dollar sign, so of a plain id under the prefix of another scope nothing but a part of
that prefix can be taken away. What is left is the path to the other scope, in front of the id. A scope
therefore gives an answer for the ids of all scopes inside of it, for ids that are not its own as well,
and the top level for the ids of every scope. With distinct ids it gives one for no others.
-/

namespace FormEngine

/-! ## Prefixes that can be taken away -/

/-- What ends in a separator, or is empty, does not reach into a part without a separator. -/
theorem prefix_of_prefix_append {α : Type} {sep : α} {p q x : List α}
    (hp : p = [] ∨ ∃ before, p = before ++ [sep]) (hx : sep ∉ x) (h : p <+: q ++ x) : p <+: q := by
  rcases hp with rfl | ⟨before, rfl⟩
  · exact List.nil_prefix
  · rcases Nat.lt_or_ge q.length (before ++ [sep]).length with hlt | hle
    · -- the separator at the end would stand in the part without one
      have hqp : q <+: before ++ [sep] :=
        List.prefix_of_prefix_length_le (List.prefix_append q x) h (Nat.le_of_lt hlt)
      obtain ⟨rest, hrest⟩ := hqp
      rw [← hrest, List.prefix_append_right_inj] at h
      rcases List.eq_nil_or_concat' rest with rfl | ⟨rest, c, rfl⟩
      · rw [List.append_nil] at hrest
        rw [hrest] at hlt
        exact absurd hlt (Nat.lt_irrefl _)
      · rw [← List.append_assoc] at hrest
        obtain ⟨-, hlast⟩ := List.append_inj' hrest rfl
        obtain rfl := List.singleton_inj.1 hlast
        exact absurd (h.subset (List.mem_append_right _ List.mem_cons_self)) hx
    · exact List.prefix_of_prefix_length_le h (List.prefix_append q x) hle

namespace Scope

variable {s u : Scope} {x y : String}

/-- The prefix is empty, or the sign that separates it from ids is at its end. -/
def Parted (s : Scope) : Prop := s.fullPrefix = "" ∨ ∃ key, s.fullPrefix = key ++ "$"

theorem Parted.toList (h : s.Parted) :
    s.fullPrefix.toList = [] ∨ ∃ before, s.fullPrefix.toList = before ++ ['$'] := by
  rcases h with h | ⟨key, h⟩
  · exact .inl (congrArg String.toList h)
  · refine .inr ⟨key.toList, ?_⟩
    rw [h, String.toList_append]
    rfl

theorem staticId?_eq_some_iff {k : String} : s.staticId? k = some y ↔ k = s.fullPrefix ++ y := by
  rw [staticId?]
  constructor
  · intro h
    split at h
    · rename_i hreach
      obtain ⟨rest, hrest⟩ := List.isPrefixOf_iff_prefix.1 hreach
      obtain rfl := Option.some.inj h
      rw [← String.toList_inj, String.toList_append, String.toList_ofList, ← hrest,
        List.drop_left]
    · contradiction
  · rintro rfl
    rw [String.toList_append, if_pos (List.isPrefixOf_iff_prefix.2 (List.prefix_append _ _)),
      List.drop_left, String.ofList_toList]

/-- **What a scope makes of an id that another scope has prefixed.** -/
theorem staticId?_prefixedId_iff (hs : s.Parted) (hx : IsPlain x) :
    s.staticId? (u.prefixedId x) = some y ↔
      ∃ rest, u.fullPrefix = s.fullPrefix ++ rest ∧ y = rest ++ x := by
  rw [staticId?_eq_some_iff, prefixedId]
  constructor
  · intro h
    have hlist := congrArg String.toList h
    rw [String.toList_append, String.toList_append] at hlist
    obtain ⟨rest, hrest⟩ := prefix_of_prefix_append hs.toList hx ⟨y.toList, hlist.symm⟩
    have hreach : u.fullPrefix = s.fullPrefix ++ String.ofList rest := by
      rw [← String.toList_inj, String.toList_append, String.toList_ofList, hrest]
    refine ⟨_, hreach, ?_⟩
    rwa [hreach, String.append_assoc, String.append_right_inj, eq_comm] at h
  · rintro ⟨rest, hrest, rfl⟩
    rw [hrest, String.append_assoc]

end Scope

/-! ## Scopes inside of each other -/

/-- The scope is that of the instance with the id `id` in the scope `outer`. -/
structure Scope.InstanceIn (s outer : Scope) (id : String) : Prop where
  parent : s.parent = some outer.id
  fullPrefix : s.fullPrefix = outer.fullPrefix ++ id ++ "$"

variable {controls : Document} {r : ComponentRegistry} {t : ScopeTree} {s u : Scope}

/-- Each scope but the first is that of an instance in an earlier one, and the scopes of shadow trees are
there. -/
structure ScopeTree.Nested (t : ScopeTree) : Prop extends t.Ordered where
  inside : ∀ (i : Nat) s, t.scope? (i + 1) = some s → ∃ outer ∈ t.scopes, ∃ id, s.InstanceIn outer id
  shadows : ∀ key shadow, t.shadowTree? key = some shadow →
    shadow.innerScope < t.size ∧ shadow.outerScope < t.size

/-- The walk is in a scope that is there, and over the controls document in that of the top level. -/
structure Reading.Placed (v : Reading) : Prop where
  controls : v.source = .controls → v.scope = 0
  lt : v.scope < v.tree.size

namespace ScopeTree.Nested

/-- The scope around one that is not the first has a smaller number. -/
theorem exists_outer (h : t.Nested) {i : Nat} (hs : t.scope? (i + 1) = some s) :
    ∃ p ≤ i, ∃ outer id, t.scope? p = some outer ∧ s.InstanceIn outer id := by
  obtain ⟨p, hp, hparent⟩ := h.earlier i s hs
  obtain ⟨outer, houter, id, hin⟩ := h.inside i s hs
  obtain rfl : p = outer.id := Option.some.inj (hparent.symm.trans hin.parent)
  exact ⟨outer.id, hp, outer, id, h.scope?_id houter, hin⟩

theorem indexAll (h : t.Nested) (scope : ScopeId) (ids : List String) :
    (t.indexAll scope ids).Nested := by
  rw [indexAll_eq]
  exact ⟨h.toOrdered.congr rfl, h.inside, h.shadows⟩

/-- An instance gets a scope inside of the one that the walk is in. -/
theorem enter {v : Reading} {d : Document} {id : String} {shadow : ShadowTree} (h : v.tree.Nested)
    (hlt : v.scope < v.tree.size) (henters : v.Enters controls d id shadow) :
    ((v.tree.indexAll v.scope [id]).enter d v.node v.scope (v.key id) shadow).Nested := by
  have hscopes := v.scopes_enter d id shadow
  have hshadows := v.tree.shadowTree?_enter d v.node v.scope [id] (v.key id) shadow
  obtain ⟨-, -, -, -, hinner, houter, -⟩ := ComponentRegistry.instantiate_spec henters.shadow
  generalize (v.tree.indexAll v.scope [id]).enter d v.node v.scope (v.key id) shadow = t' at *
  refine ⟨h.toOrdered.concat hscopes hlt, fun i s hs => ?_, fun key s hs => ?_⟩
  · have hold : v.tree.scopes ⊆ t'.scopes := by
      rw [hscopes]
      exact List.subset_append_left _ _
    rw [scope?, hscopes] at hs
    rcases getElem?_concat hs with hs | ⟨-, rfl⟩
    · obtain ⟨outer, houter, x, hin⟩ := h.inside i s hs
      exact ⟨outer, hold houter, x, hin⟩
    · obtain ⟨outer, houter⟩ := scope?_of_lt hlt
      refine ⟨outer, hold (List.mem_of_getElem? houter), id, ?_, ?_⟩
      · exact congrArg some (h.numbered _ _ houter).symm
      · exact congrArg (· ++ "$") (prefixedId_of_scope? houter id)
  · have hsize : t'.size = v.tree.size + 1 := by
      rw [size, hscopes, List.length_append]
      rfl
    rw [hshadows] at hs
    rw [hsize]
    split at hs
    · obtain rfl := Option.some.inj hs
      rw [hinner, houter]
      exact ⟨Nat.lt_succ_self _, Nat.lt_succ_of_lt hlt⟩
    · exact (h.shadows key s hs).imp Nat.lt_succ_of_lt Nat.lt_succ_of_lt

/-- The turn of an element comes in a scope that is there. -/
theorem placed {l : Loop} {w : Reading} (h : w.tree.Nested)
    (hl : l.source = .controls → l.scope = 0) (hturn : l.Turn controls w) : w.Placed := by
  obtain @⟨before, after, c, t, scope, hsplit, hbefore, hscope⟩ := hturn
  cases hsource : l.source with
  | controls =>
    rw [hsource] at hscope
    obtain rfl : l.scope = scope := Option.some.inj hscope
    exact ⟨hl, hl hsource ▸ h.size_pos⟩
  | shadow key =>
    rw [hsource] at hscope
    obtain ⟨shadow, hshadow, rfl⟩ := Option.map_eq_some_iff.1 hscope
    obtain ⟨hinner, houter⟩ := h.shadows key shadow hshadow
    refine ⟨fun hcontrols => ?_, ?_⟩
    · rw [show _ = l.source from rfl, hsource] at hcontrols
      contradiction
    · show shadow.scopeOf c < t.size
      rw [ShadowTree.scopeOf]
      split
      · exact houter
      · exact hinner

end ScopeTree.Nested

/-- **The scopes of a form are inside of each other.** -/
theorem nested_resolveScopes (h : resolveScopes controls r = .ok t) : t.Nested := by
  refine keeps_resolveScopes_of_visits (R := Reading.Placed) h ?_ ?_ ?_ ?_ ?_
  · exact ⟨ScopeTree.ordered_ofComponents r, fun i s hs => by contradiction,
      fun key s hs => by contradiction⟩
  · intro w hturn hw
    exact hw.placed (fun _ => rfl) hturn
  · intro v l w hv hopens hturn hw
    refine hw.placed ?_ hturn
    cases hopens with
    | inside hfuel henters => exact fun hcontrols => by contradiction
    | below hfuel hpasses => exact hv.controls
  · intro v ids _ hv
    exact hv.indexAll v.scope ids
  · intro v d id shadow hplaced henters hv
    exact hv.enter hplaced.lt henters

/-! ## The chain of a scope and its prefix -/

namespace ScopeTree.Nested

theorem parted (h : t.Nested) (hs : s ∈ t.scopes) : s.Parted := by
  obtain ⟨i, hi⟩ := List.mem_iff_getElem?.1 hs
  cases i with
  | zero =>
    obtain rfl : Scope.top = s := Option.some.inj (h.top.symm.trans hi)
    exact .inl rfl
  | succ i =>
    obtain ⟨outer, -, id, hin⟩ := h.inside i s hi
    exact .inr ⟨_, hin.fullPrefix⟩

/-- The prefixes of the scopes around a scope are where its own prefix starts. -/
theorem prefix_of_mem_chainWithin (h : t.Nested) {i fuel : Nat} (hu : t.scope? i = some u)
    (hs : s ∈ t.chainWithin fuel i) : s.fullPrefix.toList <+: u.fullPrefix.toList := by
  induction fuel generalizing i u with
  | zero => simp [chainWithin] at hs
  | succ fuel ih =>
    simp only [chainWithin, hu, List.mem_cons] at hs
    rcases hs with rfl | hs
    · exact List.prefix_rfl
    · cases i with
      | zero =>
        obtain rfl : Scope.top = u := Option.some.inj (h.top.symm.trans hu)
        simp [Scope.top] at hs
      | succ i =>
        obtain ⟨p, -, outer, id, houter, hin⟩ := h.exists_outer hu
        simp only [hin.parent, h.numbered p outer houter] at hs
        refine (ih houter hs).trans ?_
        rw [hin.fullPrefix, String.append_assoc, String.toList_append]
        exact List.prefix_append _ _

/-- **With plain ids for the instances and distinct prefixes no other scope has a prefix where that of
the scope starts.** -/
theorem mem_chainWithin_of_prefix (h : t.Nested) (hnodup : (t.scopes.map (·.fullPrefix)).Nodup)
    (hplain : ∀ s ∈ t.scopes, s = Scope.top ∨
      ∃ outer ∈ t.scopes, ∃ id, IsPlain id ∧ s.InstanceIn outer id)
    (hs : s ∈ t.scopes) {i fuel : Nat} (hi : i < fuel) (hu : t.scope? i = some u)
    (hreach : s.fullPrefix.toList <+: u.fullPrefix.toList) : s ∈ t.chainWithin fuel i := by
  induction fuel generalizing i u with
  | zero => contradiction
  | succ fuel ih =>
    have humem : u ∈ t.scopes := List.mem_of_getElem? hu
    simp only [chainWithin, hu, List.mem_cons]
    by_cases hsame : s.fullPrefix = u.fullPrefix
    · exact .inl (List.inj_on_of_nodup_map hnodup hs humem hsame)
    · right
      rcases hplain u humem with rfl | ⟨outer, houter, id, hid, hin⟩
      · -- nothing but the empty prefix is in front of that of the top level
        have hempty : s.fullPrefix.toList = [] := List.prefix_nil.1 hreach
        exact absurd (String.toList_inj.1 hempty) hsame
      · have hlt : outer.id < fuel := by
          cases i with
          | zero =>
            obtain rfl : Scope.top = u := Option.some.inj (h.top.symm.trans hu)
            exact absurd hin.parent (by simp [Scope.top])
          | succ i =>
            obtain ⟨p, hp, hparent⟩ := h.earlier i u hu
            obtain rfl : outer.id = p := Option.some.inj (hin.parent.symm.trans hparent)
            exact Nat.lt_of_le_of_lt hp (Nat.lt_of_succ_lt_succ hi)
        simp only [hin.parent]
        refine ih hlt (h.scope?_id houter) ?_
        -- what is taken away ends before the id of the instance
        have hstart : s.fullPrefix.toList <+: outer.fullPrefix.toList ++ id.toList := by
          rw [hin.fullPrefix, String.toList_append, String.toList_append] at hreach
          refine (List.prefix_concat_iff.1 hreach).resolve_left fun heq => hsame ?_
          rw [← String.toList_inj, hin.fullPrefix, String.toList_append, String.toList_append]
          exact heq
        exact prefix_of_prefix_append (h.parted hs).toList hid hstart

end ScopeTree.Nested

/-- In a form with distinct ids the instances have plain ids, and no two scopes have one prefix. -/
theorem DistinctIds.plain_instances (hform : DistinctIds controls r)
    (h : resolveScopes controls r = .ok t) (hnested : t.Nested) :
    (t.scopes.map (·.fullPrefix)).Nodup ∧ ∀ s ∈ t.scopes, s = Scope.top ∨
      ∃ outer ∈ t.scopes, ∃ id, IsPlain id ∧ s.InstanceIn outer id := by
  obtain ⟨tree, Ls, hLs, hyields⟩ := exists_surveys_resolveScopes hform h
  have hin := forall_in_flatten
    (fun c s L (hL : Surveys controls t _ .controls c s L) hlt hs => hL.forall_in hlt hs)
    (fun _ => rfl) hLs
  refine ⟨nodup_fullPrefix hyields, fun s hs => ?_⟩
  obtain ⟨new, hscopes, hnew⟩ := hyields.scopes
  rw [hscopes, List.mem_append] at hs
  rcases hs with hs | hs
  · exact .inl (List.mem_singleton.1 hs)
  · -- a scope that the walk adds is that of a member of the survey
    have hmem : (s.fullPrefix, s.parent) ∈ new.map fun s => (s.fullPrefix, s.parent) :=
      List.mem_map_of_mem hs
    rw [hnew] at hmem
    obtain ⟨m, hm, heq⟩ := List.mem_map.1 hmem
    obtain ⟨hreach, hparent⟩ := Prod.mk.inj heq
    obtain ⟨hm, hcomponent⟩ := List.mem_filter.1 hm
    obtain ⟨outer, houter⟩ := ScopeTree.scope?_of_lt (hin m hm).lt
    have hplain : IsPlain m.staticId :=
      of_decide_eq_true (hyields.isPlain_of_isComponent hm hcomponent)
    refine .inr ⟨outer, List.mem_of_getElem? houter, m.staticId, hplain, ?_, ?_⟩
    · rw [← hparent, hnested.numbered _ _ houter]
    · rw [← hreach, (hin m hm).prefixedId, ScopeTree.prefixedId_of_scope? houter]
      rfl

/-! ## What the scopes of a form read back -/

theorem Scope.isSome_staticId?_iff (hs : s.Parted) {x : String} (hx : IsPlain x) :
    (s.staticId? (u.prefixedId x)).isSome = true ↔ s.fullPrefix.toList <+: u.fullPrefix.toList := by
  rw [Option.isSome_iff_exists]
  constructor
  · rintro ⟨y, hy⟩
    obtain ⟨path, hpath, -⟩ := (staticId?_prefixedId_iff hs hx).1 hy
    exact ⟨path.toList, by rw [hpath, String.toList_append]⟩
  · rintro ⟨path, hpath⟩
    refine ⟨_, (staticId?_prefixedId_iff hs hx).2 ⟨String.ofList path, ?_, rfl⟩⟩
    rw [← String.toList_inj, String.toList_append, String.toList_ofList, hpath]

theorem Scope.staticId?_eq_self_iff {x : String} :
    s.staticId? (u.prefixedId x) = some x ↔ s.fullPrefix = u.fullPrefix := by
  rw [staticId?_eq_some_iff, prefixedId, String.append_left_inj, eq_comm]

/-- **What a scope of a form reads back.** From its own ids it reads what it has prefixed. From a plain id
that another scope has prefixed it reads the path to that scope in front of the id, if its prefix is
where the other one starts, and nothing otherwise. So it reads the ids of all scopes inside of it. In a
form with distinct ids it reads those of no others, and the id alone from no ids but its own. -/
theorem scopes_read_back (h : resolveScopes controls r = .ok t) (hs : s ∈ t.scopes)
    (hu : u ∈ t.scopes) {x : String} (hx : IsPlain x) :
    s.staticId? (s.prefixedId x) = some x ∧
      (∀ y, s.staticId? (u.prefixedId x) = some y ↔
        ∃ path, u.fullPrefix = s.fullPrefix ++ path ∧ y = path ++ x) ∧
      (s ∈ t.chain u.id → (s.staticId? (u.prefixedId x)).isSome = true) ∧
      (DistinctIds controls r →
        ((s.staticId? (u.prefixedId x)).isSome = true ↔ s ∈ t.chain u.id) ∧
        (s.staticId? (u.prefixedId x) = some x ↔ s = u)) := by
  have hnested := nested_resolveScopes h
  have hparted := hnested.parted hs
  have hscope := hnested.scope?_id hu
  have haround : s ∈ t.chain u.id → (s.staticId? (u.prefixedId x)).isSome = true := by
    intro hchain
    exact (Scope.isSome_staticId?_iff hparted hx).2 (hnested.prefix_of_mem_chainWithin hscope hchain)
  refine ⟨Scope.staticId?_eq_some_iff.2 rfl, fun y => Scope.staticId?_prefixedId_iff hparted hx,
    haround, fun hform => ?_⟩
  obtain ⟨hnodup, hplain⟩ := hform.plain_instances h hnested
  refine ⟨⟨fun hsome => ?_, haround⟩, ?_⟩
  · have hlt : u.id < t.size := (List.getElem?_eq_some_iff.1 hscope).1
    exact hnested.mem_chainWithin_of_prefix hnodup hplain hs hlt hscope
      ((Scope.isSome_staticId?_iff hparted hx).1 hsome)
  · rw [Scope.staticId?_eq_self_iff]
    exact ⟨List.inj_on_of_nodup_map hnodup hs hu, congrArg _⟩

/-- The scope inside the field `a` of `fieldControls`. -/
def fieldScope : Scope := ⟨1, "a", "a$", some 0⟩

theorem scopes_field :
    (resolveScopes fieldControls fieldComponents).toOption.map (·.scopes) =
      some [Scope.top, fieldScope, ⟨2, "c", "c$", some 0⟩] := by
  decide +kernel

theorem exists_scopes_field : ∃ t, resolveScopes fieldControls fieldComponents = .ok t ∧
    Scope.top ∈ t.scopes ∧ fieldScope ∈ t.scopes := by
  obtain ⟨t, ht, hscopes⟩ := ok_of_toOption_map scopes_field
  refine ⟨t, ht, ?_, ?_⟩
  · rw [hscopes]
    exact List.mem_cons_self
  · rw [hscopes]
    exact List.mem_cons_of_mem _ List.mem_cons_self

/-- The top level reads an id of the field with the path to it, and the field does not read those of the
top level. -/
theorem scopes_read_back_field : ∃ t, resolveScopes fieldControls fieldComponents = .ok t ∧
    Scope.top ∈ t.scopes ∧ fieldScope ∈ t.scopes ∧ IsPlain "x" ∧
    DistinctIds fieldControls fieldComponents ∧
    Scope.top.staticId? (fieldScope.prefixedId "x") = some ("a$" ++ "x") ∧
    Scope.top ∈ t.chain fieldScope.id ∧ fieldScope ∉ t.chain Scope.top.id := by
  obtain ⟨t, ht, htop, hfield⟩ := exists_scopes_field
  have hplain : IsPlain "x" := by decide
  obtain ⟨-, hanswer, -, hinside⟩ := scopes_read_back ht htop hfield hplain
  obtain ⟨-, -, -, houtside⟩ := scopes_read_back ht hfield htop hplain
  have hread := (hanswer ("a$" ++ "x")).2 ⟨"a$", by decide, rfl⟩
  refine ⟨t, ht, htop, hfield, hplain, distinctIds_field, hread, ?_, ?_⟩
  · exact (hinside distinctIds_field).1.1 (hread ▸ rfl)
  · intro hchain
    exact absurd ((houtside distinctIds_field).1.2 hchain) (by decide)

/-- **Not only the scope that has prefixed an id reads it back**: the top level reads the ids of a field. -/
theorem not_only_own_read_back :
    ¬∀ (controls : Document) (r : ComponentRegistry) (t : ScopeTree),
      resolveScopes controls r = .ok t → ∀ s ∈ t.scopes, ∀ u ∈ t.scopes, s ≠ u →
      ∀ x, IsPlain x → s.staticId? (u.prefixedId x) = none ∧
        s.staticId? (s.prefixedId x) = some x := by
  intro hall
  obtain ⟨t, ht, htop, hfield⟩ := exists_scopes_field
  have hnone := (hall _ _ t ht _ htop _ hfield (by decide) "x" (by decide)).1
  exact absurd hnone (by decide)

end FormEngine
