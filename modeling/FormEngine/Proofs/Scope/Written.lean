import FormEngine.Proofs.Document.StaticIds
import FormEngine.Proofs.Json.Assign
import FormEngine.Proofs.Scope.Origin
import Mathlib.Tactic.ByContra
/-!
# Elements resolve where they were written until they are handed on

The invariant is about one shadow tree at a time: an element that the template holds was written
for the inner scope; an element of the content was written for the outer scope, or was handed on
before and written for an older scope; and below content there is content only. An instance that
stands in the content takes over content, which keeps its scope. An instance that stands in the
template resolves in the inner scope, so what it takes over from the content moves from the outer
scope to the inner one and is handed on.
-/

namespace FormEngine

/-- What is handed on resolves in a newer scope than the one it was written for, all else in that
one. -/
def Origin.ResolvesIn (o : Origin) (s : ScopeId) : Prop :=
  if o.handedOn then o.home < s else o.home = s

theorem Origin.ResolvesIn.eq_home_iff {o : Origin} {s : ScopeId} (h : o.ResolvesIn s) :
    s = o.home ↔ o.handedOn = false := by
  unfold ResolvesIn at h
  split at h
  · rename_i hon
    rw [hon]
    exact ⟨fun heq => absurd heq (Nat.ne_of_gt h), fun hfalse => by contradiction⟩
  · rename_i hon
    rw [Bool.not_eq_true] at hon
    exact ⟨fun _ => hon, fun _ => h.symm⟩

theorem Origin.ResolvesIn.home_le {o : Origin} {s : ScopeId} (h : o.ResolvesIn s) : o.home ≤ s := by
  unfold ResolvesIn at h
  split at h
  · exact Nat.le_of_lt h
  · exact Nat.le_of_eq h

/-- The element was written, as it is, at its origin. -/
def Origin.Matches (o : Origin) (kind : Option NodeKind) : Prop :=
  o.document.kind? o.node = kind

/-! ## Shadow trees -/

/-- A shadow tree whose elements have the origins `f`. -/
structure ShadowTree.Traced (s : ShadowTree) (f : NodeId → Origin) : Prop where
  grounded : s.document.Grounded
  scopes : s.outerScope < s.innerScope
  /-- Elements below an element of the content are content. -/
  closed : ∀ n, s.isOuter n = true → ∀ c ∈ s.document.children n, s.document.isElement c = true →
    s.isOuter c = true
  /-- What the template holds has not been handed on. -/
  inner : ∀ n, s.isOuter n = false → (f n).handedOn = false
  resolves : ∀ n, (f n).ResolvesIn (s.scopeOf n)
  matching : ∀ n, s.document.isElement n = true → (f n).Matches (s.document.kind? n)

/-- Repeating a list more often does not change what a list of its rounds is paired with. -/
theorem zip_rounds {α β : Type} {as : List α} {bs : List β} {k : Nat}
    (h : as.length = k * bs.length) :
    as.zip (List.replicate as.length bs).flatten = as.zip (List.replicate k bs).flatten := by
  cases bs with
  | nil =>
    obtain rfl : as = [] := List.eq_nil_of_length_eq_zero h
    rfl
  | cons b bs =>
    have hle : k ≤ as.length := by
      rw [h]
      exact Nat.le_mul_of_pos_right k (Nat.succ_pos _)
    obtain ⟨j, hj⟩ := Nat.exists_eq_add_of_le hle
    have hlength : as.length = (List.replicate k (b :: bs)).flatten.length := by
      rw [List.length_flatten, List.map_replicate, List.sum_replicate_nat, h]
    rw [hj, List.replicate_add, List.flatten_append]
    conv_lhs => rw [← List.append_nil as]
    rw [List.zip_append hlength, List.zip_nil_left, List.append_nil]

/-- Outer nodes are paired with elements of the content of the same kind. -/
theorem kind?_of_mem_zip {d : Document} {outer : List NodeId} {content : List Origin} {k : Nat}
    (h : outer.map d.kind? =
      (List.replicate k (content.map fun o => o.document.kind? o.node)).flatten)
    {n : NodeId} {o : Origin}
    (hmem : (n, o) ∈ outer.zip (List.replicate outer.length content).flatten) :
    o.Matches (d.kind? n) := by
  have hlength : outer.length = k * content.length := by
    have hmap := congrArg List.length h
    rw [List.length_map, List.length_flatten, List.map_replicate, List.sum_replicate_nat,
      List.length_map] at hmap
    exact hmap
  rw [zip_rounds hlength] at hmem
  rw [← List.map_replicate, ← List.map_flatten] at h
  have hpairs := (List.forall₂_map_left_iff.1 (List.forall₂_map_right_iff.1
    (List.forall₂_eq_eq_eq ▸ h : List.Forall₂ (· = ·) _ _)))
  exact (List.forall₂_zip hpairs hmem).symm

namespace ShadowTree

variable {s : ShadowTree} {source template : Document} {originals : List NodeId}
  {content : List Origin}

theorem isOuter_iff {n : NodeId} : s.isOuter n = true ↔ n ∈ s.outerNodes := by
  rw [isOuter, List.contains_iff_mem]

theorem scopeOf_of_outer {n : NodeId} (h : s.isOuter n = true) : s.scopeOf n = s.outerScope := by
  rw [scopeOf, if_pos h]

theorem scopeOf_of_inner {n : NodeId} (h : s.isOuter n = false) : s.scopeOf n = s.innerScope := by
  rw [scopeOf, h]
  rfl

/-- What did not come in as content was written in the template. -/
theorem origins_of_inner {n : NodeId} (h : s.isOuter n = false) :
    s.origins template content n =
      { document := template, node := n, home := s.innerScope, handedOn := false } := by
  have hnone : (s.outerNodes.zip (List.replicate s.outerNodes.length content).flatten).lookup n =
      none := by
    refine List.lookup_eq_none_iff.2 fun p hp => ?_
    have hmem := (List.of_mem_zip (a := p.1) (b := p.2) hp).1
    rw [bne_iff_ne]
    rintro rfl
    rw [isOuter_iff.2 hmem] at h
    contradiction
  rw [origins, hnone]
  rfl

/-- What came in as content has the origin of an element of the content, of the same kind. -/
theorem origins_of_outer {k : Nat}
    (hrounds : s.outerNodes.map s.document.kind? =
      (List.replicate k (content.map fun o => o.document.kind? o.node)).flatten)
    {n : NodeId} (h : s.isOuter n = true) :
    s.origins template content n ∈ content ∧
      (s.origins template content n).Matches (s.document.kind? n) := by
  have hmem := isOuter_iff.1 h
  have hlength : s.outerNodes.length = k * content.length := by
    have hmap := congrArg List.length hrounds
    rwa [List.length_map, List.length_flatten, List.map_replicate, List.sum_replicate_nat,
      List.length_map] at hmap
  -- there are outer nodes, so the content is not empty and the rounds are long enough
  have hpos : 0 < content.length := by
    refine Nat.pos_of_ne_zero fun hzero => ?_
    rw [hzero, Nat.mul_zero] at hlength
    rw [List.eq_nil_of_length_eq_zero hlength] at hmem
    simp at hmem
  have hle : s.outerNodes.length ≤
      (List.replicate s.outerNodes.length content).flatten.length := by
    rw [List.length_flatten, List.map_replicate, List.sum_replicate_nat]
    exact Nat.le_mul_of_pos_right _ hpos
  obtain ⟨o, ho⟩ : ∃ o,
      (s.outerNodes.zip (List.replicate s.outerNodes.length content).flatten).lookup n = some o := by
    rw [← Option.isSome_iff_exists, List.lookup_isSome_iff]
    rw [← List.map_fst_zip hle, List.mem_map] at hmem
    obtain ⟨p, hp, rfl⟩ := hmem
    exact ⟨p, hp, beq_self_eq_true _⟩
  have hpair : (n, o) ∈ s.outerNodes.zip (List.replicate s.outerNodes.length content).flatten := by
    obtain ⟨before, after, hsplit, -⟩ := List.lookup_eq_some_iff.1 ho
    rw [hsplit]
    simp
  have heq : s.origins template content n = o := by rw [origins, ho, Option.getD_some]
  rw [heq]
  refine ⟨?_, kind?_of_mem_zip hrounds hpair⟩
  obtain ⟨bs, hbs, hob⟩ := List.mem_flatten.1 (List.of_mem_zip hpair).2
  rw [List.eq_of_mem_replicate hbs] at hob
  exact hob

/-- **A new shadow tree is traced** when every element of the content, as the instance takes it
over, resolves in the scope of the instance. -/
theorem traced_origins
    (h : Expansion.Expands source template originals ⟨s.document, s.outerNodes⟩)
    (hscopes : s.outerScope < s.innerScope)
    {taken : NodeId → Origin} (hresolves : ∀ n ∈ originals, (taken n).ResolvesIn s.outerScope)
    (hmatches : ∀ n ∈ originals, (taken n).Matches (source.kind? n)) :
    s.Traced (s.origins template (originals.map taken)) := by
  obtain ⟨k, hk⟩ := h.rounds
  have hrounds : s.outerNodes.map s.document.kind? =
      (List.replicate k ((originals.map taken).map fun o => o.document.kind? o.node)).flatten := by
    rw [hk, List.map_map]
    congr 2
    exact (List.map_congr_left fun n hn => hmatches n hn).symm
  have houter : ∀ n, s.isOuter n = true ↔
      template.size ≤ n ∧ s.document.isElement n = true := fun n =>
    isOuter_iff.trans (h.outer n)
  refine ⟨h.grounded, hscopes, ?_, ?_, ?_, ?_⟩
  · intro n hn c hc helement
    exact (houter c).2 ⟨h.below n ((houter n).1 hn).1 c hc, helement⟩
  · intro n hn
    rw [origins_of_inner hn]
  · intro n
    cases hn : s.isOuter n with
    | true =>
      rw [scopeOf_of_outer hn]
      obtain ⟨m, hm, heq⟩ := List.mem_map.1 (origins_of_outer hrounds hn).1
      rw [← heq]
      exact hresolves m hm
    | false =>
      rw [origins_of_inner hn, scopeOf_of_inner hn]
      rfl
  · intro n helement
    cases hn : s.isOuter n with
    | true => exact (origins_of_outer hrounds hn).2
    | false =>
      -- no copy, so a node of the template, which has kept its kind
      have hlt : n < template.size := by
        refine Nat.not_le.1 fun hge => ?_
        rw [(houter n).2 ⟨hge, helement⟩] at hn
        contradiction
      rw [origins_of_inner hn]
      exact (h.kinds n hlt).symm

end ShadowTree

/-! ## The state of the walk -/

/-- What has been met stays as it was met when the scope tree grows. -/
structure ScopeTree.Grows (t t' : ScopeTree) : Prop where
  scopes : t.scopes <+: t'.scopes
  resolution : t.resolution <:+ t'.resolution

/-- A sighting is right: the element is the one at its origin, it resolves in the scope that its
origin allows for, and its id is indexed in that scope. -/
structure Sighting.Sound (t : ScopeTree) (s : Sighting) : Prop where
  resolves : s.origin.ResolvesIn s.scope
  name : s.origin.document.name? s.origin.node = s.name
  staticId : s.origin.document.staticId? s.origin.node = s.staticId
  indexed : ∀ id, s.staticId = some id → ∃ scope, t.scope? s.scope = some scope ∧
    (scope.prefixedId id, s.scope) ∈ t.resolution

/-- The entry under which the element is indexed. -/
def Sighting.Entry (t : ScopeTree) (s : Sighting) (e : String × ScopeId) : Prop :=
  ∃ id scope, s.staticId = some id ∧ t.scope? s.scope = some scope ∧
    e = (scope.prefixedId id, s.scope)

/-- The ledger knows the origins of all shadow trees, all sightings are right, and no id is indexed
but that of an element that was met. -/
structure Ledger.Tracks (components : ComponentRegistry) (l : Ledger) (t : ScopeTree) : Prop where
  components : t.components = components
  size : 0 < t.size
  shadows : List.Forall₂
    (fun a b => a.1 = b.1 ∧ a.2.Traced b.2 ∧ a.2.innerScope < t.size) t.shadowTrees l.origins
  sightings : ∀ s ∈ l.sightings, s.Sound t
  entries : ∀ e ∈ t.resolution, ∃ s ∈ l.sightings, s.Entry t e

namespace ScopeTree

theorem indexAll_eq (t : ScopeTree) (scope : ScopeId) (ids : List String) :
    t.indexAll scope ids = { t with
      resolution := (ids.map fun id => (t.prefixedId scope id, scope)).reverse ++ t.resolution } := by
  unfold indexAll
  induction ids generalizing t with
  | nil => rfl
  | cons id ids ih =>
    rw [List.foldl_cons, ih, List.map_cons, List.reverse_cons, List.append_assoc]
    rfl

theorem enter_eq (t : ScopeTree) (d : Document) (n : NodeId) (scope : ScopeId) (key : String)
    (shadow : ShadowTree) :
    t.enter d n scope key shadow = { t with
      scopes := t.scopes ++ [⟨t.size, key, key ++ "$", some scope⟩]
      resolution :=
        ((d.handlerIds n).map fun id =>
          ((t.createScope scope key).prefixedId scope id, scope)).reverse ++ t.resolution
      shadowTrees := Json.assign key shadow t.shadowTrees } := by
  rw [enter, indexAll_eq]
  rfl

theorem scope?_of_lt {t : ScopeTree} {s : ScopeId} (h : s < t.size) :
    ∃ scope, t.scope? s = some scope :=
  ⟨t.scopes[s], List.getElem?_eq_getElem h⟩

theorem prefixedId_of_scope? {t : ScopeTree} {s : ScopeId} {scope : Scope}
    (h : t.scope? s = some scope) (id : String) : t.prefixedId s id = scope.prefixedId id := by
  rw [prefixedId, h, Option.map_some, Option.getD_some]

theorem scopeOfChild?_shadow (t : ScopeTree) (scope : ScopeId) (key : String) (c : NodeId) :
    t.scopeOfChild? scope c (.shadow key) = t.scopeOfChild? 0 c (.shadow key) := rfl

/-- Below an element of the controls document the scope stays that of the top level. -/
theorem scopeOfChild?_of_walked {t : ScopeTree} {source : Source} {scope : ScopeId} {n : NodeId}
    (h : t.scopeOfChild? 0 n source = some scope) (t' : ScopeTree) (c : NodeId) :
    t'.scopeOfChild? scope c source = t'.scopeOfChild? 0 c source := by
  cases source with
  | controls =>
    obtain rfl : 0 = scope := Option.some.inj h
    rfl
  | shadow key => rfl

namespace Grows

variable {t t' : ScopeTree}

theorem scope? (h : t.Grows t') {s : ScopeId} {scope : Scope} (hs : t.scope? s = some scope) :
    t'.scope? s = some scope := by
  obtain ⟨more, hmore⟩ := h.scopes
  obtain ⟨hlt, -⟩ := List.getElem?_eq_some_iff.1 hs
  rw [ScopeTree.scope?, ← hmore, List.getElem?_append_left hlt]
  exact hs

theorem size_le (h : t.Grows t') : t.size ≤ t'.size := h.scopes.length_le

theorem indexAll (t : ScopeTree) (scope : ScopeId) (ids : List String) :
    t.Grows (t.indexAll scope ids) := by
  rw [indexAll_eq]
  exact ⟨List.prefix_rfl, List.suffix_append _ _⟩

theorem enter (t : ScopeTree) (d : Document) (n : NodeId) (scope : ScopeId) (key : String)
    (shadow : ShadowTree) : t.Grows (t.enter d n scope key shadow) := by
  rw [enter_eq]
  exact ⟨List.prefix_append _ _, List.suffix_append _ _⟩

end Grows

end ScopeTree

theorem Sighting.Sound.mono {t t' : ScopeTree} {s : Sighting} (h : s.Sound t) (hgrows : t.Grows t') :
    s.Sound t' := by
  refine ⟨h.resolves, h.name, h.staticId, fun id hid => ?_⟩
  obtain ⟨scope, hscope, hmem⟩ := h.indexed id hid
  exact ⟨scope, hgrows.scope? hscope, hgrows.resolution.subset hmem⟩

theorem Sighting.Entry.mono {t t' : ScopeTree} {s : Sighting} {e : String × ScopeId}
    (h : s.Entry t e) (hgrows : t.Grows t') : s.Entry t' e := by
  obtain ⟨id, scope, hid, hscope, he⟩ := h
  exact ⟨id, scope, hid, hgrows.scope? hscope, he⟩

/-! ## Tables that go together -/

section Tables

variable {α β : Type} {R : α → β → Prop} {xs : List (String × α)} {ys : List (String × β)}
  {key : String} {a : α}

theorem exists_lookup_of_forall₂ (h : List.Forall₂ (fun x y => x.1 = y.1 ∧ R x.2 y.2) xs ys)
    (hx : xs.lookup key = some a) : ∃ b, ys.lookup key = some b ∧ R a b := by
  induction h with
  | nil => simp at hx
  | @cons x y xs ys hxy _ ih =>
    obtain ⟨k, v⟩ := x
    obtain ⟨k', w⟩ := y
    obtain ⟨rfl, hvw⟩ : k = k' ∧ R v w := hxy
    rw [List.lookup_cons] at hx ⊢
    cases hkey : key == k with
    | true =>
      rw [hkey] at hx
      obtain rfl : v = a := Option.some.inj hx
      exact ⟨w, rfl, hvw⟩
    | false =>
      rw [hkey] at hx
      exact ih hx

theorem forall₂_assign (h : List.Forall₂ (fun x y => x.1 = y.1 ∧ R x.2 y.2) xs ys) {b : β}
    (hab : R a b) :
    List.Forall₂ (fun x y => x.1 = y.1 ∧ R x.2 y.2) (Json.assign key a xs) (Json.assign key b ys) := by
  induction h with
  | nil => exact .cons ⟨rfl, hab⟩ .nil
  | @cons x y xs ys hxy hrest ih =>
    obtain ⟨k, v⟩ := x
    obtain ⟨k', w⟩ := y
    obtain ⟨rfl, hvw⟩ : k = k' ∧ R v w := hxy
    rw [Json.assign, Json.assign]
    by_cases hkey : k = key
    · rw [if_pos hkey, if_pos hkey]
      exact .cons ⟨rfl, hab⟩ hrest
    · rw [if_neg hkey, if_neg hkey]
      exact .cons ⟨rfl, hvw⟩ ih

end Tables

/-! ## What an instance takes over -/

/-- Every element below an element of the content is content. -/
theorem ShadowTree.Traced.outer_of_mem_descendantsWithin {s : ShadowTree} {f : NodeId → Origin}
    (h : s.Traced f) {n c m : NodeId} (hn : s.isOuter n = true) (hc : c ∈ s.document.children n)
    {fuel : Nat} (hm : m ∈ s.document.descendantsWithin fuel c) : s.isOuter m = true := by
  induction fuel generalizing n c with
  | zero => simp [Document.descendantsWithin] at hm
  | succ fuel ih =>
    rw [Document.descendantsWithin] at hm
    split at hm
    · rename_i helement
      have hcouter := h.closed n hn c hc helement
      rw [List.mem_cons, List.mem_flatMap] at hm
      rcases hm with rfl | ⟨e, he, hm⟩
      · exact hcouter
      · exact ih hcouter he hm
    · simp at hm

/-- Content and handlers of an instance are below it. -/
theorem exists_child_of_mem_taken {d : Document} {n m : NodeId}
    (hm : m ∈ d.contentElements n ∨ m ∈ d.handlerElements n) :
    ∃ c ∈ d.children n, m ∈ d.descendants c := by
  rcases hm with hm | hm
  · obtain ⟨c, hc, hmc⟩ := List.mem_flatMap.1 hm
    exact ⟨c, List.mem_of_mem_filter hc, hmc⟩
  · obtain ⟨c, hc, hmc⟩ := List.mem_flatMap.1 hm
    exact ⟨c, List.mem_of_mem_filter (List.mem_of_mem_filter hc), hmc⟩

theorem Document.name?_of_kind? {d d' : Document} {n n' : NodeId} (h : d.kind? n = d'.kind? n') :
    d.name? n = d'.name? n' := by
  rw [name?_eq, name?_eq, h]

theorem Document.staticId?_of_kind? {d d' : Document} {n n' : NodeId}
    (h : d.kind? n = d'.kind? n') : d.staticId? n = d'.staticId? n' := by
  rw [staticId?_eq, staticId?_eq, h]

namespace Ledger.Tracks

variable {controls : Document} {components : ComponentRegistry} {l : Ledger} {t : ScopeTree}
  {source : Source} {d : Document} {n : NodeId} {scope : ScopeId}

/-- What the walk needs to know of the document that it is in and of the element that it is at. -/
structure At (controls : Document) (l : Ledger) (t : ScopeTree) (source : Source) (d : Document)
    (n : NodeId) (scope : ScopeId) : Prop where
  grounded : d.Grounded
  lt : scope < t.size
  resolves : (l.origin controls n source).ResolvesIn scope
  matching : d.isElement n = true → (l.origin controls n source).Matches (d.kind? n)
  taken : ∀ m, (m ∈ d.contentElements n ∨ m ∈ d.handlerElements n) →
    (l.taken controls t source n m).ResolvesIn scope ∧
      (l.taken controls t source n m).Matches (d.kind? m)

theorem atElement (h : l.Tracks components t) (hcontrols : controls.Grounded)
    (hd : t.document? controls source = some d)
    (hscope : t.scopeOfChild? 0 n source = some scope) : At controls l t source d n scope := by
  cases source with
  | controls =>
    obtain rfl : controls = d := Option.some.inj hd
    obtain rfl : 0 = scope := Option.some.inj hscope
    refine ⟨hcontrols, h.size, rfl, fun _ => rfl, fun m _ => ?_⟩
    exact ⟨rfl, rfl⟩
  | shadow key =>
    rw [ScopeTree.document?, Option.map_eq_some_iff] at hd
    obtain ⟨s, hs, rfl⟩ := hd
    rw [ScopeTree.scopeOfChild?, hs, Option.map_some, Option.some.injEq] at hscope
    subst hscope
    obtain ⟨f, hf, htraced, hlt⟩ := exists_lookup_of_forall₂
      (R := fun s f => s.Traced f ∧ s.innerScope < t.size) h.shadows hs
    have horigin : ∀ m, l.origin controls m (.shadow key) = f m := by
      intro m
      rw [Ledger.origin, hf, Option.map_some, Option.getD_some]
    have houter : ∀ m, t.isOuter m (.shadow key) = s.isOuter m := by
      intro m
      rw [ScopeTree.isOuter, hs, Option.any_some]
    refine ⟨htraced.grounded, ?_, ?_, ?_, fun m hm => ?_⟩
    · rw [ShadowTree.scopeOf]
      split
      · exact Nat.lt_trans htraced.scopes hlt
      · exact hlt
    · rw [horigin]
      exact htraced.resolves n
    · intro helement
      rw [horigin]
      exact htraced.matching n helement
    · obtain ⟨c, hc, hmc⟩ := exists_child_of_mem_taken hm
      have helement := Document.isElement_of_mem_descendantsWithin hmc
      refine ⟨?_, ?_⟩
      · rw [Ledger.taken, horigin, houter, houter]
        have hresolves := htraced.resolves m
        cases hn : s.isOuter n with
        | true =>
          -- the instance is content as well, and everything stays in the outer scope
          have hmouter := htraced.outer_of_mem_descendantsWithin hn hc hmc
          rw [ShadowTree.scopeOf_of_outer hmouter] at hresolves
          rw [hmouter, ShadowTree.scopeOf_of_outer hn]
          simpa [Origin.ResolvesIn] using hresolves
        | false =>
          rw [ShadowTree.scopeOf_of_inner hn]
          cases hm' : s.isOuter m with
          | true =>
            -- the element moves from the outer scope to the inner one
            rw [ShadowTree.scopeOf_of_outer hm'] at hresolves
            simp only [Origin.ResolvesIn, Bool.not_false, Bool.and_true, Bool.or_true, if_true]
            exact Nat.lt_of_le_of_lt hresolves.home_le htraced.scopes
          | false =>
            rw [ShadowTree.scopeOf_of_inner hm'] at hresolves
            simpa [Origin.ResolvesIn] using hresolves
      · rw [Ledger.taken, horigin]
        exact htraced.matching m helement

/-- Elements are met in a scope and their ids are indexed there. -/
theorem meet {t' : ScopeTree} (h : l.Tracks components t) (hgrows : t.Grows t') {ns : List NodeId}
    {origin : NodeId → Origin} {sc : Scope} (hsc : t'.scope? scope = some sc)
    (horigin : ∀ n ∈ ns, (origin n).ResolvesIn scope ∧ (origin n).Matches (d.kind? n))
    (hresolution : t'.resolution =
      ((ns.filterMap d.staticId?).map fun id => (sc.prefixedId id, scope)).reverse ++ t.resolution) :
    (∀ s ∈ (l.see d scope origin ns).sightings, s.Sound t') ∧
      ∀ e ∈ t'.resolution, ∃ s ∈ (l.see d scope origin ns).sightings, s.Entry t' e := by
  constructor
  · intro s hs
    rw [Ledger.see, List.mem_append, List.mem_reverse, List.mem_map] at hs
    rcases hs with ⟨n, hn, rfl⟩ | hs
    · obtain ⟨hresolves, hmatches⟩ := horigin n hn
      refine ⟨hresolves, Document.name?_of_kind? hmatches, Document.staticId?_of_kind? hmatches,
        fun id hid => ⟨sc, hsc, ?_⟩⟩
      rw [hresolution, List.mem_append, List.mem_reverse, List.mem_map]
      exact .inl ⟨id, List.mem_filterMap.2 ⟨n, hn, hid⟩, rfl⟩
    · exact (h.sightings s hs).mono hgrows
  · intro e he
    rw [hresolution, List.mem_append, List.mem_reverse, List.mem_map] at he
    rw [Ledger.see]
    rcases he with ⟨id, hid, rfl⟩ | he
    · obtain ⟨n, hn, hid⟩ := List.mem_filterMap.1 hid
      refine ⟨_, List.mem_append_left _ (List.mem_reverse.2 (List.mem_map_of_mem hn)), ?_⟩
      exact ⟨id, sc, hid, hsc, rfl⟩
    · obtain ⟨s, hs, hentry⟩ := h.entries e he
      exact ⟨s, List.mem_append_right _ hs, hentry.mono hgrows⟩

/-- The element that the walk is at is met. -/
theorem indexAll (h : l.Tracks components t) (hat : At controls l t source d n scope)
    (helement : d.isElement n = true) :
    (l.meet controls source d n scope).Tracks components
      (t.indexAll scope (d.staticId? n).toList) := by
  obtain ⟨sc, hsc⟩ := ScopeTree.scope?_of_lt hat.lt
  have hgrows := ScopeTree.Grows.indexAll t scope (d.staticId? n).toList
  have heq := ScopeTree.indexAll_eq t scope (d.staticId? n).toList
  have hids : [n].filterMap d.staticId? = (d.staticId? n).toList := by
    cases hid : d.staticId? n <;> simp [hid]
  have horigin : ∀ m ∈ [n], (l.origin controls m source).ResolvesIn scope ∧
      (l.origin controls m source).Matches (d.kind? m) := by
    intro m hm
    rw [List.mem_singleton] at hm
    rw [hm]
    exact ⟨hat.resolves, hat.matching helement⟩
  have hmeet := h.meet hgrows (hgrows.scope? hsc) horigin (by
    rw [heq, hids]
    simp only [ScopeTree.prefixedId_of_scope? hsc])
  refine ⟨?_, ?_, ?_, hmeet.1, hmeet.2⟩
  · rw [heq]
    exact h.components
  · rw [heq]
    exact h.size
  · rw [heq]
    exact h.shadows

/-- What an instance takes over is met in its handlers and put into its shadow tree. -/
theorem enter (h : l.Tracks components t) (hat : At controls l t source d n scope)
    (htemplates : ∀ name template, components.template? name = some template → template.Grounded)
    {key : String} {shadow : ShadowTree}
    (hshadow : t.components.instantiate d n key scope t.size = .ok shadow) :
    (l.enter controls t source d n scope key shadow).Tracks components
      (t.enter d n scope key shadow) := by
  obtain ⟨name, template, hname, htemplate, hinner, houter, -⟩ :=
    ComponentRegistry.instantiate_spec hshadow
  have hexpands : Expansion.Expands d template (d.contentElements n)
      ⟨shadow.document, shadow.outerNodes⟩ :=
    ComponentRegistry.expands_of_instantiate hshadow hname htemplate hat.grounded
      (htemplates name template (h.components ▸ htemplate))
  have hgrows := ScopeTree.Grows.enter t d n scope key shadow
  have hlookup : ((d.name? n).bind t.components.template?).getD d = template := by
    rw [hname, Option.bind_some, htemplate, Option.getD_some]
  have hsize : (t.enter d n scope key shadow).size = t.size + 1 := by
    rw [ScopeTree.enter_eq, ScopeTree.size, List.length_append, List.length_singleton]
    rfl
  -- the handlers are met in the scope of the instance, where their ids are indexed
  obtain ⟨sc, hsc⟩ := ScopeTree.scope?_of_lt hat.lt
  have hcreated : (t.createScope scope key).scope? scope = some sc := by
    show (t.scopes ++ _)[scope]? = some sc
    rw [List.getElem?_append_left hat.lt]
    exact hsc
  have hmeet := h.meet hgrows (hgrows.scope? hsc) (fun m hm => hat.taken m (.inr hm)) (by
    rw [ScopeTree.enter_eq, filterMap_handlerElements]
    simp only [ScopeTree.prefixedId_of_scope? hcreated])
  refine ⟨?_, ?_, ?_, ?_, ?_⟩
  · rw [ScopeTree.enter_eq]
    exact h.components
  · rw [hsize]
    exact Nat.succ_pos _
  · have htraced : shadow.Traced (shadow.origins template
        ((d.contentElements n).map (l.taken controls t source n))) := by
      refine ShadowTree.traced_origins hexpands ?_ ?_ fun m hm => (hat.taken m (.inl hm)).2
      · rw [hinner, houter]
        exact hat.lt
      · intro m hm
        rw [houter]
        exact (hat.taken m (.inl hm)).1
    have hbefore : List.Forall₂ (fun a b => a.1 = b.1 ∧ a.2.Traced b.2 ∧
        a.2.innerScope < (t.enter d n scope key shadow).size) t.shadowTrees l.origins := by
      refine h.shadows.imp fun a b hab => ⟨hab.1, hab.2.1, ?_⟩
      rw [hsize]
      exact Nat.lt_succ_of_lt hab.2.2
    have hnew : shadow.innerScope < (t.enter d n scope key shadow).size := by
      rw [hsize, hinner]
      exact Nat.lt_succ_self _
    -- both tables are assigned at the same key, so they go together as before
    have hassign : List.Forall₂ (fun a b => a.1 = b.1 ∧ a.2.Traced b.2 ∧
        a.2.innerScope < (t.enter d n scope key shadow).size) (Json.assign key shadow t.shadowTrees)
        (Json.assign key (shadow.origins template
          ((d.contentElements n).map (l.taken controls t source n))) l.origins) :=
      forall₂_assign (R := fun s f => ShadowTree.Traced s f ∧
        s.innerScope < (t.enter d n scope key shadow).size) hbefore ⟨htraced, hnew⟩
    rw [Ledger.enter, hlookup]
    rw [ScopeTree.enter_eq] at hassign ⊢
    exact hassign
  · exact hmeet.1
  · exact hmeet.2

/-- Indexing an id changes neither the documents nor the scopes of their elements. -/
theorem sources_indexAll (t : ScopeTree) (controls : Document) (scope : ScopeId) (ids : List String)
    (source : Source) :
    (t.indexAll scope ids).document? controls source = t.document? controls source ∧
      (t.indexAll scope ids).scopeOfChild? 0 n source = t.scopeOfChild? 0 n source := by
  have hshadows : (t.indexAll scope ids).shadowTrees = t.shadowTrees := by
    rw [ScopeTree.indexAll_eq]
  cases source with
  | controls => exact ⟨rfl, rfl⟩
  | shadow key =>
    simp only [ScopeTree.document?, ScopeTree.scopeOfChild?, ScopeTree.shadowTree?, hshadows,
      and_self]

/-- A child is walked in the scope that its source has for it by then. -/
theorem traceAll {fuel : Nat}
    (hstep : ∀ {l t n scope p}, l.Tracks components t → t.scopeOfChild? 0 n source = some scope →
      FormEngine.traceElement controls fuel source n scope (t, l) = .ok p →
      p.2.Tracks components p.1)
    (hsame : ∀ (t : ScopeTree) c, t.scopeOfChild? scope c source = t.scopeOfChild? 0 c source)
    {cs : List NodeId} {p q : ScopeTree × Ledger} (hq : q.2.Tracks components q.1)
    (h : FormEngine.traceAll controls fuel source scope cs q = .ok p) :
    p.2.Tracks components p.1 := by
  refine foldlM_invariant (P := fun p => p.2.Tracks components p.1) h hq ?_
  intro c _ q q' hq hc
  cases hs : q.1.scopeOfChild? scope c source with
  | none =>
    rw [hs] at hc
    contradiction
  | some s =>
    rw [hs] at hc
    rw [hsame] at hs
    exact hstep hq hs hc

/-- **The walk keeps its ledger right**, from each element on. -/
theorem traceElement (hcontrols : controls.Grounded)
    (htemplates : ∀ name template, components.template? name = some template → template.Grounded)
    {fuel : Nat} {p : ScopeTree × Ledger} (h : l.Tracks components t)
    (hscope : t.scopeOfChild? 0 n source = some scope)
    (htrace : traceElement controls fuel source n scope (t, l) = .ok p) :
    p.2.Tracks components p.1 := by
  -- a shadow tree is walked with less fuel, and the invariant is the same in each source
  induction fuel generalizing source n scope t l p with
  | zero => contradiction
  | succ fuel ih =>
    have hmet : ∀ {d name}, t.document? controls source = some d → d.name? n = some name →
        (l.meet controls source d n scope).Tracks components
          (t.indexAll scope (d.staticId? n).toList) := fun hd hname =>
      h.indexAll (h.atElement hcontrols hd hscope) (Document.isElement_of_name? hname)
    cases traces_of_traceElement htrace with
    | passed => exact h
    | data hd hname => exact hmet hd hname
    | @component d name t₁ key shadow p hd hname ht₁ hshadow hinner =>
      subst ht₁
      obtain ⟨hd', hscope'⟩ := sources_indexAll t controls scope (d.staticId? n).toList source
      have hat := (hmet hd hname).atElement hcontrols (hd'.trans hd) (hscope'.trans hscope)
      have hentered := (hmet hd hname).enter hat htemplates hshadow
      exact traceAll (fun h hscope htrace => ih h hscope htrace)
        (fun t c => t.scopeOfChild?_shadow scope key c) hentered hinner
    | @plain d name p hd hname hbelow =>
      exact traceAll (fun h hscope htrace => ih h hscope htrace)
        (ScopeTree.scopeOfChild?_of_walked hscope) (hmet hd hname) hbelow

end Ledger.Tracks

/-- **The ledger of the whole walk is right.** -/
theorem tracks_traceScopes {controls : Document} {components : ComponentRegistry}
    (hcontrols : controls.Grounded)
    (htemplates : ∀ name template, components.template? name = some template → template.Grounded)
    {p : ScopeTree × Ledger} (h : traceScopes controls components = .ok p) :
    p.2.Tracks components p.1 := by
  refine foldlM_invariant (P := fun p => p.2.Tracks components p.1) h ?_ ?_
  · exact ⟨rfl, Nat.one_pos, .nil, fun s hs => by simp at hs, fun e he => by
      simp [ScopeTree.ofComponents] at he⟩
  · intro c _ q q' hq hstep
    exact hq.traceElement hcontrols htemplates rfl hstep

end FormEngine
