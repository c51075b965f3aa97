import FormEngine.Proofs.Control.Walk
import FormEngine.Proofs.Scope.Unique
/-!
# Prefixed ids are distinct

In a form with distinct ids the scopes have distinct prefixes and the controls have distinct
prefixed ids. A control resolves in the scope that its record names, with one exception: the index
also takes in the ids inside instances of data in the handlers on a component instance. Nothing else
of such an instance of data counts as part of the form, so its ids may look like paths, and one that
is met after the control takes the entry of the control.
-/

namespace FormEngine

/-- The index leads astray for a prefixed id: what holds for it is the entry of an id that looks like
a path, in a handler on the component instance `e`. -/
def Form.Astray (f : Form) (prefixedId : String) : Prop :=
  ∃ e name id, f.name? e = some name ∧ f.scopes.components.isComponent name = true ∧
    id ∈ (f.document e.tree).handlerIds e.node ∧ ¬IsPlain id ∧
    prefixedId = f.prefixOf e ++ id ∧ f.scopes.resolution.lookup prefixedId = some (f.scopeOf e)

namespace DistinctIds

variable {controls : Document} {r : ComponentRegistry} {t : ScopeTree}

theorem respectful (h : DistinctIds controls r) : r.Respectful := fun b hb =>
  ⟨(h.selectors b hb).1, (h.selectors b hb).2.2⟩

end DistinctIds

section Survey

variable {controls : Document} {r : ComponentRegistry} {t t' : ScopeTree} {S : Site}
  {ids : List String} {L : List Met}

/-- The prefixed ids of some plain members of a survey are distinct. -/
theorem nodup_of_isPlain (h : S.Yields t t' ids L) {P : Met → Bool}
    (hP : ∀ m ∈ L, P m = true → m.isPlain = true) :
    ((L.filter P).map (·.prefixedId)).Nodup := by
  have hfilter : L.filter P = (L.filter Met.isPlain).filter P := by
    rw [List.filter_filter]
    refine List.filter_congr fun m hm => ?_
    cases hPm : P m with
    | false => rfl
    | true => rw [hP m hm hPm, Bool.and_self]
  rw [hfilter]
  exact h.nodup.sublist (List.filter_sublist.map _)

/-- Two plain members of a survey with one prefixed id are the same. -/
theorem eq_of_prefixedId (h : S.Yields t t' ids L) {m m' : Met} (hm : m ∈ L) (hm' : m' ∈ L)
    (hplain : m.isPlain = true) (hplain' : m'.isPlain = true)
    (heq : m.prefixedId = m'.prefixedId) : m = m' :=
  List.inj_on_of_nodup_map h.nodup (List.mem_filter.2 ⟨hm, hplain⟩)
    (List.mem_filter.2 ⟨hm', hplain'⟩) heq

/-- The prefixes of the new scopes are distinct, and none is that of the top level. -/
theorem nodup_fullPrefix (h : S.Yields (ScopeTree.ofComponents r) t ids L) :
    (t.scopes.map (·.fullPrefix)).Nodup := by
  obtain ⟨new, hscopes, hnew⟩ := h.scopes
  have hkeys := nodup_of_isPlain h fun m hm hcomponent => h.isPlain_of_isComponent hm hcomponent
  have hmap : new.map (·.fullPrefix) =
      ((L.filter Met.isComponent).map (·.prefixedId)).map (· ++ "$") := by
    have hfirst := congrArg (List.map Prod.fst) hnew
    rw [List.map_map, List.map_map] at hfirst
    rw [List.map_map]
    exact hfirst
  have hinner : (new.map (·.fullPrefix)).Nodup := by
    rw [hmap]
    exact hkeys.map fun a b hab => (String.append_left_inj "$").1 hab
  -- every scope but the first has a prefix that ends in a dollar sign
  have htop : "" ∉ new.map (·.fullPrefix) := by
    rw [hmap]
    intro hmem
    obtain ⟨key, -, heq⟩ := List.mem_map.1 hmem
    have hlist := congrArg String.toList heq
    simp [String.toList_append] at hlist
  rw [hscopes, List.map_append]
  show ("" :: new.map (·.fullPrefix)).Nodup
  exact List.nodup_cons.2 ⟨htop, hinner⟩

/-- The index has the entries of the survey. -/
theorem entry_mem_resolution (h : S.Yields (ScopeTree.ofComponents r) t ids L)
    {e : String × ScopeId} : e ∈ t.resolution ↔ e ∈ L.map Met.entry := by
  have hresolution : t.resolution = (L.map Met.entry).reverse := by
    rw [h.resolution]
    exact List.append_nil _
  rw [hresolution, List.mem_reverse]

/-- What the index holds for the prefixed id of an element is the scope of the element, unless the
index leads astray. -/
theorem lookup_eq_or_astray (h : S.Yields (ScopeTree.ofComponents r) t ids L)
    (hin : ∀ m ∈ L, m.In controls t) {m : Met} (hm : m ∈ L) (hhandler : m.isHandler = false) :
    t.resolution.lookup m.prefixedId = some m.scope ∨
      Form.Astray ⟨controls, t⟩ m.prefixedId := by
  have hentry : m.entry ∈ t.resolution := (entry_mem_resolution h).2 (List.mem_map_of_mem hm)
  obtain ⟨s, hs⟩ : ∃ s, t.resolution.lookup m.prefixedId = some s := by
    rw [← Option.isSome_iff_exists, List.lookup_isSome_iff]
    exact ⟨_, hentry, beq_self_eq_true _⟩
  have hfound : (m.prefixedId, s) ∈ t.resolution := by
    obtain ⟨before, after, hsplit, -⟩ := List.lookup_eq_some_iff.1 hs
    rw [hsplit]
    simp
  obtain ⟨m', hm', heq⟩ := List.mem_map.1 ((entry_mem_resolution h).1 hfound)
  obtain ⟨hprefixed, hscope⟩ := Prod.mk.inj heq
  cases hplain : m'.isPlain with
  | true =>
    -- a plain member with this prefixed id is the element itself
    obtain rfl := eq_of_prefixedId h hm' hm hplain (h.plain m hm hhandler) hprefixed
    left
    rw [hs, ← hscope]
  | false =>
    have hhandler' : m'.isHandler = true := by
      rw [← Bool.not_eq_false]
      intro hnot
      rw [h.plain m' hm' hnot] at hplain
      contradiction
    have hplace := hin m' hm'
    obtain ⟨d, name, hd, hname, hcomponent, hid⟩ := hplace.handler hhandler'
    obtain ⟨tree, hreads⟩ := Form.Reads.exists_of_document? hd
    refine .inr ⟨⟨tree, m'.node⟩, name, m'.staticId, ?_, hcomponent, ?_, ?_, ?_, ?_⟩
    · rw [Form.name?, hreads.document hd]
      exact hname
    · rw [hreads.document hd]
      exact hid
    · exact of_decide_eq_false hplain
    · rw [hreads.prefixOf_append hplace.scope, ← hplace.prefixedId, hprefixed]
    · rw [hreads.scopeOf hplace.scope, hscope]
      exact hs

end Survey

/-- **Prefixed ids are distinct.** In a form with distinct ids no two scopes have the same prefix and
no two controls the same prefixed id, and a control resolves in the scope of its record exactly if
the index does not lead astray for it. -/
theorem distinct_prefixedIds {controls : Document} {r : ComponentRegistry}
    (hform : DistinctIds controls r) {t : ScopeTree} (h : resolveScopes controls r = .ok t)
    {tree : ControlTree} {warnings : List Warning}
    (hbuild : buildControlTree ⟨controls, t⟩ = .ok (tree, warnings)) :
    (t.scopes.map (·.fullPrefix)).Nodup ∧
      (tree.controls.toList.map (·.prefixedId)).Nodup ∧
      ∀ c ∈ tree.controls, (t.scope? c.scope).isSome = true ∧
        (c.prefixedId, c.scope) ∈ t.resolution ∧
        (t.resolutionScope? c.prefixedId = t.scope? c.scope ↔
          ¬Form.Astray ⟨controls, t⟩ c.prefixedId) := by
  obtain ⟨top, Ls, hLs, hyields⟩ := exists_surveys_resolveScopes hform h
  have hr : t.components.Respectful := by
    rw [hyields.components]
    exact hform.respectful
  have hsublist := ids_controls_sublist hr hLs hbuild
  have hplain : ∀ m ∈ Ls.flatten, (!m.isHandler) = true → m.isPlain = true := by
    intro m hm hnot
    exact hyields.plain m hm (Bool.not_eq_true' _ ▸ hnot)
  refine ⟨nodup_fullPrefix hyields, ?_, fun c hc => ?_⟩
  · have hkeys := nodup_of_isPlain hyields hplain
    have hmap := hsublist.map fun p => p.2.1
    rw [List.map_map, elementIds, List.map_map] at hmap
    exact hkeys.sublist hmap
  · have hmem : (c.staticId, c.prefixedId, c.scope) ∈ elementIds Ls.flatten :=
      hsublist.subset (List.mem_map_of_mem (Array.mem_toList_iff.2 hc))
    obtain ⟨m, hm, hids⟩ := List.mem_map.1 hmem
    obtain ⟨hm, hnot⟩ := List.mem_filter.1 hm
    obtain ⟨hstatic, hids⟩ := Prod.mk.inj hids
    obtain ⟨hprefixed, hscope⟩ := Prod.mk.inj hids
    have hin := forall_in_flatten
      (fun c s L (hL : Surveys controls t _ .controls c s L) hlt hs => hL.forall_in hlt hs)
      (fun _ => rfl) hLs
    obtain ⟨sc, hsc⟩ := ScopeTree.scope?_of_lt (hin m hm).lt
    have hkey : c.prefixedId = sc.fullPrefix ++ c.staticId := by
      rw [← hprefixed, (hin m hm).prefixedId, ScopeTree.prefixedId_of_scope? hsc, ← hstatic]
      rfl
    have hentry : (m.prefixedId, m.scope) ∈ t.resolution :=
      (entry_mem_resolution hyields).2 (List.mem_map_of_mem hm)
    rw [hprefixed] at hentry
    rw [← hscope, hsc]
    refine ⟨rfl, hentry, fun hright hastray => ?_, fun hnot' => ?_⟩
    · -- the entry that leads astray is for another id in the same scope
      obtain ⟨e, name, id, -, -, -, hid, hastray, hlookup⟩ := hastray
      rw [ScopeTree.resolutionScope?, hlookup, Option.bind_some] at hright
      have hprefixOf : Form.prefixOf ⟨controls, t⟩ e = sc.fullPrefix := by
        rw [Form.prefixOf]
        show ((t.scope? (Form.scopeOf ⟨controls, t⟩ e)).map (·.fullPrefix)).getD "" = _
        rw [hright]
        rfl
      rw [hkey, hprefixOf, String.append_right_inj] at hastray
      have hplain := of_decide_eq_true (hplain m hm hnot)
      rw [hstatic, hastray] at hplain
      exact hid hplain
    · -- whatever is found under the key is the entry of the control, or it leads astray
      have hfound := lookup_eq_or_astray hyields hin hm (Bool.not_eq_true' _ ▸ hnot)
      rw [hprefixed] at hfound
      rw [ScopeTree.resolutionScope?, hfound.resolve_right hnot', Option.bind_some, hsc]


/-! ## An id that leads astray -/

/-- A template with an input. -/
def fieldTemplate : Document :=
  { nodes :=
      #[{ kind := .element { nsPrefix := "xbl", uri := Namespace.xbl, localName := "template" } []
          children := [1] },
        { kind := .element { nsPrefix := "xf", uri := Namespace.xforms, localName := "input" }
            [⟨.plain "id", "x"⟩]
          parent := some 0 }]
    root := 0 }

def fieldComponents : ComponentRegistry :=
  { bindings :=
      [{ element := { nsPrefix := "fr", uri := "fr", localName := "field" }, bindingId := none
         template := some fieldTemplate },
       { element := { nsPrefix := "fr", uri := "fr", localName := "empty" }, bindingId := none
         template := some emptyTemplate }] }

/-- A field `a` and after it an instance with a handler that holds data with the id `a$x`. -/
def fieldControls : Document :=
  { nodes :=
      #[{ kind := .element (.plain "controls") [], children := [1, 2] },
        { kind := .element { nsPrefix := "fr", uri := "fr", localName := "field" }
            [⟨.plain "id", "a"⟩]
          parent := some 0 },
        { kind := .element { nsPrefix := "fr", uri := "fr", localName := "empty" }
            [⟨.plain "id", "c"⟩]
          parent := some 0, children := [3] },
        { kind := .element { nsPrefix := "xf", uri := Namespace.xforms, localName := "action" }
            [⟨{ nsPrefix := "ev", uri := Namespace.events, localName := "event" }, "DOMActivate"⟩]
          parent := some 2, children := [4] },
        { kind := .element { nsPrefix := "xf", uri := Namespace.xforms, localName := "instance" } []
          parent := some 3, children := [5] },
        { kind := .element (.plain "data") [⟨.plain "id", "a$x"⟩]
          parent := some 4 }]
    root := 0 }

theorem distinctIds_field : DistinctIds fieldControls fieldComponents where
  checked := by decide
  plain := by decide
  nodup := by decide
  points := by decide
  selectors := by decide
  acyclic := ComponentRegistry.acyclic_of_forall (by decide)

/-- What the index and the record of each control say. -/
theorem controls_field :
    ((resolveScopes fieldControls fieldComponents).toOption.bind fun t =>
      (buildControlTree ⟨fieldControls, t⟩).toOption.map fun p => p.1.controls.toList.map fun c =>
        (c.prefixedId, (t.resolutionScope? c.prefixedId).map (·.id),
          (t.scope? c.scope).map (·.id))) =
      some [("a", some 0, some 0), ("a$x", some 0, some 1), ("c", some 0, some 0)] := by
  decide +kernel

theorem exists_field : ∃ t tree warnings, resolveScopes fieldControls fieldComponents = .ok t ∧
    buildControlTree ⟨fieldControls, t⟩ = .ok (tree, warnings) ∧
    (tree.controls.toList.map fun c =>
      (c.prefixedId, (t.resolutionScope? c.prefixedId).map (·.id),
        (t.scope? c.scope).map (·.id))) =
      [("a", some 0, some 0), ("a$x", some 0, some 1), ("c", some 0, some 0)] := by
  obtain ⟨t, ht, hrun⟩ := ok_of_toOption_bind controls_field
  obtain ⟨⟨tree, warnings⟩, hbuild, hcontrols⟩ := ok_of_toOption_map hrun
  exact ⟨t, tree, warnings, ht, hbuild, hcontrols⟩

/-- **Not every control resolves in its scope.** The index holds the top-level scope for `a$x`, the
input in the field of `fieldControls`. -/
theorem not_all_controls_resolve :
    ¬∀ (controls : Document) (r : ComponentRegistry) (t : ScopeTree) (tree : ControlTree)
      (warnings : List Warning), DistinctIds controls r → resolveScopes controls r = .ok t →
      buildControlTree ⟨controls, t⟩ = .ok (tree, warnings) →
      (t.scopes.map (·.fullPrefix)).Nodup ∧ (tree.controls.toList.map (·.prefixedId)).Nodup ∧
        ∀ c ∈ tree.controls, t.resolutionScope? c.prefixedId = t.scope? c.scope := by
  intro hall
  obtain ⟨t, tree, warnings, ht, htree, hcontrols⟩ := exists_field
  obtain ⟨-, -, hresolve⟩ := hall _ _ t tree warnings distinctIds_field ht htree
  have hmem : ("a$x", some 0, some 1) ∈ tree.controls.toList.map fun c =>
      (c.prefixedId, (t.resolutionScope? c.prefixedId).map (·.id),
        (t.scope? c.scope).map (·.id)) := by
    rw [hcontrols]
    simp
  obtain ⟨c, hc, heq⟩ := List.mem_map.1 hmem
  simp only [Prod.mk.injEq] at heq
  have hscope := heq.2.1
  rw [hresolve c (Array.mem_toList_iff.1 hc), heq.2.2] at hscope
  contradiction

/-- The law at `fieldControls`, where the index leads astray for one control. -/
theorem distinct_prefixedIds_field :
    DistinctIds fieldControls fieldComponents ∧ ∃ t tree warnings,
      resolveScopes fieldControls fieldComponents = .ok t ∧
      buildControlTree ⟨fieldControls, t⟩ = .ok (tree, warnings) ∧
      (t.scopes.map (·.fullPrefix)).Nodup ∧ (tree.controls.toList.map (·.prefixedId)).Nodup ∧
      ∀ c ∈ tree.controls, (t.scope? c.scope).isSome = true ∧
        (c.prefixedId, c.scope) ∈ t.resolution ∧
        (t.resolutionScope? c.prefixedId = t.scope? c.scope ↔
          ¬Form.Astray ⟨fieldControls, t⟩ c.prefixedId) := by
  obtain ⟨t, tree, warnings, ht, htree, -⟩ := exists_field
  exact ⟨distinctIds_field, t, tree, warnings, ht, htree,
    distinct_prefixedIds distinctIds_field ht htree⟩

end FormEngine
