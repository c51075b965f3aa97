import FormEngine.Proofs.Control.Around
import FormEngine.Proofs.StaticState.Passes
/-!
# The innermost repeat around two controls

The repeats around two controls are compared from the outermost one inwards, and the last before the
first difference is taken. Nothing is lost by stopping there: what is around a repeat depends on the
repeat alone, so two chains that share a repeat are the same from it outwards, and they never meet
again once they have parted. The repeat that is found is therefore the first one, seen from either
control, that the other is in as well. That no two controls have one prefixed id is needed, since the
chains are compared by prefixed ids.
-/

namespace FormEngine

/-! ## Lists that part once -/

/-- The lists are the same up to any element that they share. -/
def AgreeUpTo (xs ys : List String) : Prop :=
  ∀ us vs us' vs' x, xs = us ++ x :: vs → ys = us' ++ x :: vs' → us = us'

theorem AgreeUpTo.tail {x y : String} {xs ys : List String} (h : AgreeUpTo (x :: xs) (y :: ys)) :
    AgreeUpTo xs ys := by
  intro us vs us' vs' z hxs hys
  have hcons := h (x :: us) vs (y :: us') vs' z (by rw [hxs, List.cons_append])
    (by rw [hys, List.cons_append])
  exact (List.cons.inj hcons).2

/-- What two lists share they begin with, so lists that begin differently share nothing. -/
theorem AgreeUpTo.notMem {x y z : String} {xs ys : List String}
    (h : AgreeUpTo (x :: xs) (y :: ys)) (hxy : x ≠ y) (hz : z ∈ x :: xs) : z ∉ y :: ys := by
  intro hz'
  obtain ⟨us, vs, hus⟩ := List.append_of_mem hz
  obtain ⟨us', vs', hus'⟩ := List.append_of_mem hz'
  obtain rfl := h us vs us' vs' z hus hus'
  cases us with
  | nil => exact hxy ((List.cons.inj hus).1.trans (List.cons.inj hus').1.symm)
  | cons u us => exact hxy ((List.cons.inj hus).1.trans (List.cons.inj hus').1.symm)

/-- The element that both lists begin with stands nowhere else in the first. -/
theorem AgreeUpTo.head_notMem {x : String} {xs ys : List String}
    (h : AgreeUpTo (x :: xs) (x :: ys)) : x ∉ xs := by
  intro hmem
  obtain ⟨us, vs, hus⟩ := List.append_of_mem hmem
  have hnil := h (x :: us) vs [] ys x (by rw [hus, List.cons_append]) rfl
  contradiction

namespace Analysis

/-- The comparison from the start finds the last element of the one list that the other has too. -/
theorem lastCommon?_eq_find? {xs ys : List String} (h : AgreeUpTo xs ys) :
    lastCommon? xs ys = xs.reverse.find? fun x => ys.contains x := by
  induction xs generalizing ys with
  | nil => rfl
  | cons x xs ih =>
    cases ys with
    | nil =>
      rw [lastCommon?, eq_comm, List.find?_eq_none]
      · exact fun z _ hz => by simp at hz
      · exact fun _ _ _ _ _ hnil => by contradiction
    | cons y ys =>
      rw [lastCommon?]
      by_cases hxy : x = y
      · subst hxy
        have hsame : (xs.reverse.find? fun z => (x :: ys).contains z) =
            xs.reverse.find? fun z => ys.contains z := by
          rw [← List.head?_filter, ← List.head?_filter]
          refine congrArg List.head? (List.filter_congr fun z hz => ?_)
          have hne : z ≠ x := fun heq => h.head_notMem (heq ▸ List.mem_reverse.1 hz)
          rw [List.contains_cons, beq_eq_false_iff_ne.2 hne, Bool.false_or]
        have hself : (x :: ys).contains x = true := List.contains_iff_mem.2 List.mem_cons_self
        rw [if_pos rfl, ih h.tail, List.reverse_cons, List.find?_append, hsame,
          List.find?_singleton, if_pos hself]
      · rw [if_neg hxy, eq_comm, List.find?_eq_none]
        intro z hz hcontains
        exact h.notMem hxy (List.mem_reverse.1 hz) (List.contains_iff_mem.1 hcontains)

theorem lastCommon?_comm (xs ys : List String) : lastCommon? xs ys = lastCommon? ys xs := by
  induction xs generalizing ys with
  | nil => cases ys <;> rfl
  | cons x xs ih =>
    cases ys with
    | nil => rfl
    | cons y ys =>
      rw [lastCommon?, lastCommon?, ih]
      by_cases hxy : x = y
      · rw [if_pos hxy, if_pos hxy.symm, hxy]
      · rw [if_neg hxy, if_neg (Ne.symm hxy)]

end Analysis

/-! ## Repeats around a control -/

namespace ControlTree

variable {t : ControlTree} {place place' : Option ControlId} {chain chain' : List Control}
  {c c₁ c₂ q r r' : Control} {i j : ControlId}

/-- The control `r` is around `c`. -/
def Encloses (t : ControlTree) (r c : Control) : Prop := ∃ chain, t.Around c.parent chain ∧ r ∈ chain

/-- The repeat `r` is around both controls, and every other such repeat is around `r`. -/
structure InnermostCommon (t : ControlTree) (c₁ c₂ r : Control) : Prop where
  isRepeat : r.isRepeat = true
  left : t.Encloses r c₁
  right : t.Encloses r c₂
  innermost : ∀ r', r'.isRepeat = true → t.Encloses r' c₁ → t.Encloses r' c₂ →
    r' = r ∨ t.Encloses r' r

/-- The prefixed ids of the repeats in a chain of controls. -/
def repeatIds (chain : List Control) : List String :=
  (chain.filter Control.isRepeat).map (·.prefixedId)

theorem mem_repeatIds {id : String} :
    id ∈ repeatIds chain ↔ ∃ r ∈ chain, r.isRepeat = true ∧ r.prefixedId = id := by
  rw [repeatIds, List.mem_map]
  simp only [List.mem_filter, and_assoc]

theorem Around.encloses_iff (h : t.Around c.parent chain) : t.Encloses r c ↔ r ∈ chain := by
  constructor
  · rintro ⟨chain', h', hr⟩
    rwa [h.unique h'] at hr
  · exact fun hr => ⟨chain, h, hr⟩

/-- Beyond a repeat of the chain, there are the repeats around that repeat. -/
theorem Around.split_repeatIds (h : t.Around place chain) {us vs : List String} {x : String}
    (hsplit : repeatIds chain = us ++ x :: vs) : ∃ r ∈ chain, r.isRepeat = true ∧
      r.prefixedId = x ∧ ∃ outer, t.Around r.parent outer ∧ repeatIds outer = vs := by
  induction h generalizing us with
  | top => cases us <;> contradiction
  | @under p c chain hp houter ih =>
    have hinner : ∀ {us}, repeatIds chain = us ++ x :: vs → ∃ r ∈ c :: chain, r.isRepeat = true ∧
        r.prefixedId = x ∧ ∃ outer, t.Around r.parent outer ∧ repeatIds outer = vs := by
      intro us hus
      obtain ⟨r, hr, hrest⟩ := ih hus
      exact ⟨r, List.mem_cons_of_mem c hr, hrest⟩
    cases hc : c.isRepeat with
    | false =>
      rw [repeatIds, List.filter_cons_of_neg (by rw [hc]; simp)] at hsplit
      exact hinner hsplit
    | true =>
      rw [repeatIds, List.filter_cons_of_pos hc, List.map_cons] at hsplit
      cases us with
      | nil =>
        obtain ⟨hid, hvs⟩ := List.cons.inj hsplit
        exact ⟨c, List.mem_cons_self, hc, hid, chain, houter, hvs⟩
      | cons u us => exact hinner (List.cons.inj hsplit).2

/-- No two controls have one prefixed id. -/
theorem eq_of_prefixedId (hnodup : t.prefixedIds.Nodup) (hq : t.get? i = some q)
    (hr : t.get? j = some r) (hid : q.prefixedId = r.prefixedId) : q = r := by
  have hi : t.prefixedIds[i]? = some q.prefixedId := by
    rw [getElem?_prefixedIds, hq, Option.map_some]
  have hj : t.prefixedIds[j]? = some q.prefixedId := by
    rw [getElem?_prefixedIds, hr, Option.map_some, hid]
  have hij : i = j :=
    (List.getElem?_inj (List.getElem?_eq_some_iff.1 hi).1 hnodup).1 (hi.trans hj.symm)
  exact Option.some.inj (hq.symm.trans (hij ▸ hr))

theorem Around.eq_of_prefixedId (h : t.Around place chain) (h' : t.Around place' chain')
    (hnodup : t.prefixedIds.Nodup) (hq : q ∈ chain) (hr : r ∈ chain')
    (hid : q.prefixedId = r.prefixedId) : q = r := by
  obtain ⟨i, hi⟩ := h.exists_get? hq
  obtain ⟨j, hj⟩ := h'.exists_get? hr
  exact ControlTree.eq_of_prefixedId hnodup hi hj hid

/-- **Two chains agree from a repeat outwards** if they share it. -/
theorem Around.agreeUpTo (h : t.Around place chain) (h' : t.Around place' chain')
    (hnodup : t.prefixedIds.Nodup) :
    AgreeUpTo (repeatIds chain).reverse (repeatIds chain').reverse := by
  intro us vs us' vs' x hus hus'
  have hforward : ∀ {l us vs : List String}, l.reverse = us ++ x :: vs →
      l = vs.reverse ++ x :: us.reverse := by
    intro l us vs hl
    rw [← List.reverse_reverse l, hl, List.reverse_append, List.reverse_cons, List.append_assoc,
      List.singleton_append]
  obtain ⟨r, hr, -, hid, outer, houter, houterIds⟩ := h.split_repeatIds (hforward hus)
  obtain ⟨r', hr', -, hid', outer', houter', houterIds'⟩ := h'.split_repeatIds (hforward hus')
  obtain rfl := h.eq_of_prefixedId h' hnodup hr hr' (hid.trans hid'.symm)
  rw [houter.unique houter'] at houterIds'
  exact List.reverse_inj.1 (houterIds.symm.trans houterIds')

/-- A control that is around another one has come before it. -/
theorem Nests.id_lt (h : t.Nests) (hc : t.get? i = some c) (henc : t.Encloses r c) :
    r.id < c.id := by
  have hchain : ∀ {place chain}, t.Around place chain → ∀ {i}, (∀ p, place = some p → p < i) →
      ∀ r ∈ chain, r.id < i := by
    intro place chain haround
    induction haround with
    | top => exact fun _ r hr => by contradiction
    | @under p q chain hq _ ih =>
      intro i hplace r hr
      have hp : p < i := hplace p rfl
      rcases List.mem_cons.1 hr with rfl | hr
      · rw [(h.sits hq).id]
        exact hp
      · exact Nat.lt_trans (ih (fun p' hp' => ((h.sits hq).under p' hp').1) r hr) hp
  obtain ⟨chain, haround, hr⟩ := henc
  rw [(h.sits hc).id]
  exact hchain haround (fun p hp => ((h.sits hc).under p hp).1) r hr

/-- There is one innermost repeat around two controls at most. -/
theorem Nests.innermostCommon_unique (h : t.Nests) (hr : t.InnermostCommon c₁ c₂ r)
    (hr' : t.InnermostCommon c₁ c₂ r') : r' = r := by
  have hget : ∀ {r}, t.InnermostCommon c₁ c₂ r → ∃ i, t.get? i = some r := by
    intro r hr
    obtain ⟨chain, haround, hmem⟩ := hr.left
    exact haround.exists_get? hmem
  rcases hr.innermost r' hr'.isRepeat hr'.left hr'.right with heq | houter
  · exact heq
  rcases hr'.innermost r hr.isRepeat hr.left hr.right with heq | hinner
  · exact heq.symm
  obtain ⟨i, hi⟩ := hget hr
  obtain ⟨j, hj⟩ := hget hr'
  exact absurd (h.id_lt hi houter) (Nat.lt_asymm (h.id_lt hj hinner))

/-- The first repeat of the one chain that the other has too is the innermost one of both. -/
theorem Around.innermostCommon (h₁ : t.Around c₁.parent chain) (h₂ : t.Around c₂.parent chain')
    (hnodup : t.prefixedIds.Nodup) {id : String}
    (hfind : ((repeatIds chain).find? fun id => (repeatIds chain').contains id) = some id) :
    ∃ r, t.InnermostCommon c₁ c₂ r ∧ r.prefixedId = id := by
  obtain ⟨hshared, us, vs, hsplit, hbefore⟩ := List.find?_eq_some_iff_append.1 hfind
  obtain ⟨r, hr, hrepeat, hid, outer, houter, houterIds⟩ := h₁.split_repeatIds hsplit
  obtain ⟨r₂, hr₂, -, hid₂⟩ := mem_repeatIds.1 (List.contains_iff_mem.1 hshared)
  obtain rfl := h₁.eq_of_prefixedId h₂ hnodup hr hr₂ (hid.trans hid₂.symm)
  refine ⟨r, ⟨hrepeat, h₁.encloses_iff.2 hr, h₂.encloses_iff.2 hr₂, ?_⟩, hid⟩
  intro r' hrepeat' hleft hright
  have hmem := h₁.encloses_iff.1 hleft
  have hids : r'.prefixedId ∈ us ++ id :: vs :=
    hsplit ▸ mem_repeatIds.2 ⟨r', hmem, hrepeat', rfl⟩
  rcases List.mem_append.1 hids with hus | hids
  · -- no repeat further in is around both
    have hnot := hbefore _ hus
    have hyes := mem_repeatIds.2 ⟨r', h₂.encloses_iff.1 hright, hrepeat', rfl⟩
    rw [List.contains_iff_mem.2 hyes] at hnot
    contradiction
  · rcases List.mem_cons.1 hids with heq | hvs
    · exact .inl (h₁.eq_of_prefixedId h₁ hnodup hmem hr (heq.trans hid.symm))
    · obtain ⟨r'', hr'', -, hid''⟩ := mem_repeatIds.1 (houterIds ▸ hvs)
      obtain rfl := houter.eq_of_prefixedId h₁ hnodup hr'' hmem hid''
      exact .inr (houter.encloses_iff.2 hr'')

end ControlTree

namespace Analysis

variable {controls : Document} {models : List Document} {r : ComponentRegistry} {a : Analysis}

/-- The repeats around a control that is found by its prefixed id. -/
theorem exists_repeatIds (h : run controls models r = .ok a) {id : String}
    (hid : id ∈ a.controls.prefixedIds) :
    ∃ c chain, a.controls.control? id = some c ∧ a.controls.Around c.parent chain ∧
      a.ancestorRepeats id none = ControlTree.repeatIds chain := by
  obtain ⟨hnests, hkeyed, hlocated⟩ := nests_located h
  obtain ⟨i, hi⟩ := Option.isSome_iff_exists.1 (hkeyed.contains_iff.2 hid)
  obtain ⟨c, hc, -⟩ := hlocated id i hi
  have hcontrol : a.controls.control? id = some c := by
    rw [ControlTree.control?, hi, Option.bind_some, hc]
  obtain ⟨chain, haround, hrepeats⟩ := (hnests.sits hc).ancestorRepeats_none
  refine ⟨c, chain, hcontrol, haround, ?_⟩
  rw [ancestorRepeats, controlAt?, hcontrol, Option.some_or]
  exact hrepeats

/-- **The innermost repeat around two controls.** For any two prefixed ids of controls of an analysis
in which no two controls have the same, it is the repeat that is around both controls and that every
other such repeat is around. It is the first repeat around the one control that is also around the
other; there is none exactly when the two chains of repeats share none; and the order of the controls
makes no difference. -/
theorem closestCommonRepeat?_innermost (h : run controls models r = .ok a)
    (hnodup : a.controls.prefixedIds.Nodup) {id₁ id₂ : String}
    (h₁ : id₁ ∈ a.controls.prefixedIds) (h₂ : id₂ ∈ a.controls.prefixedIds) :
    ∃ c₁ c₂, a.controls.control? id₁ = some c₁ ∧ a.controls.control? id₂ = some c₂ ∧
      (∀ id, a.closestCommonRepeat? id₁ id₂ = some id ↔
        ∃ r, a.controls.InnermostCommon c₁ c₂ r ∧ r.prefixedId = id) ∧
      a.closestCommonRepeat? id₁ id₂ =
        ((a.ancestorRepeats id₁ none).find? fun id => (a.ancestorRepeats id₂ none).contains id) ∧
      (a.closestCommonRepeat? id₁ id₂ = none ↔
        ∀ id ∈ a.ancestorRepeats id₁ none, id ∉ a.ancestorRepeats id₂ none) ∧
      a.closestCommonRepeat? id₂ id₁ = a.closestCommonRepeat? id₁ id₂ := by
  obtain ⟨hnests, -, -⟩ := nests_located h
  obtain ⟨c₁, chain₁, hc₁, haround₁, hrepeats₁⟩ := exists_repeatIds h h₁
  obtain ⟨c₂, chain₂, hc₂, haround₂, hrepeats₂⟩ := exists_repeatIds h h₂
  have hfind : a.closestCommonRepeat? id₁ id₂ =
      ((a.ancestorRepeats id₁ none).find? fun id => (a.ancestorRepeats id₂ none).contains id) := by
    have hagree := haround₁.agreeUpTo haround₂ hnodup
    rw [closestCommonRepeat?, hrepeats₁, hrepeats₂, lastCommon?_eq_find? hagree,
      List.reverse_reverse]
    simp only [List.contains_reverse]
  refine ⟨c₁, c₂, hc₁, hc₂, fun id => ⟨fun hid => ?_, ?_⟩, hfind, ?_, lastCommon?_comm _ _⟩
  · rw [hfind, hrepeats₁, hrepeats₂] at hid
    exact haround₁.innermostCommon haround₂ hnodup hid
  · rintro ⟨r, hr, rfl⟩
    -- some repeat is found, since this one is around both
    have hsome : (a.closestCommonRepeat? id₁ id₂).isSome = true := by
      rw [hfind, hrepeats₁, hrepeats₂, List.find?_isSome]
      refine ⟨r.prefixedId, ?_, List.contains_iff_mem.2 ?_⟩
      · exact ControlTree.mem_repeatIds.2 ⟨r, haround₁.encloses_iff.1 hr.left, hr.isRepeat, rfl⟩
      · exact ControlTree.mem_repeatIds.2 ⟨r, haround₂.encloses_iff.1 hr.right, hr.isRepeat, rfl⟩
    obtain ⟨id, hid⟩ := Option.isSome_iff_exists.1 hsome
    have hfound := hid
    rw [hfind, hrepeats₁, hrepeats₂] at hfound
    obtain ⟨r', hr', rfl⟩ := haround₁.innermostCommon haround₂ hnodup hfound
    rw [hid, hnests.innermostCommon_unique hr hr']
  · rw [hfind, List.find?_eq_none]
    simp only [List.contains_iff_mem]

/-- In `repeatForm` one input is in a repeat, the other in a repeat in that one. -/
theorem repeats_repeatForm :
    ((run repeatForm.controls [] {}).toOption.map fun a =>
      (a.controls.prefixedIds, a.ancestorRepeats "a" none, a.ancestorRepeats "b" none)) =
      some (["r1", "a", "g", "r2", "b"], ["r1"], ["r2", "r1"]) := by
  decide +kernel

/-- The innermost repeat around the two inputs of `repeatForm`. -/
theorem closestCommonRepeat?_repeatForm : ∃ a, run repeatForm.controls [] {} = .ok a ∧
    a.controls.prefixedIds.Nodup ∧ a.closestCommonRepeat? "a" "b" = some "r1" ∧
    ∃ c₁ c₂ r, a.controls.control? "a" = some c₁ ∧ a.controls.control? "b" = some c₂ ∧
      a.controls.InnermostCommon c₁ c₂ r ∧ r.prefixedId = "r1" := by
  obtain ⟨a, ha, hrun⟩ := ok_of_toOption_map repeats_repeatForm
  simp only [Prod.mk.injEq] at hrun
  obtain ⟨hids, hfirst, hsecond⟩ := hrun
  have hnodup : a.controls.prefixedIds.Nodup := by
    rw [hids]
    decide
  have hmem : "a" ∈ a.controls.prefixedIds ∧ "b" ∈ a.controls.prefixedIds := by
    rw [hids]
    decide
  obtain ⟨c₁, c₂, hc₁, hc₂, hinnermost, hfind, -, -⟩ :=
    closestCommonRepeat?_innermost ha hnodup hmem.1 hmem.2
  have hfound : a.closestCommonRepeat? "a" "b" = some "r1" := by
    rw [hfind, hfirst, hsecond]
    decide
  obtain ⟨r, hr, hid⟩ := (hinnermost "r1").1 hfound
  exact ⟨a, ha, hnodup, hfound, c₁, c₂, r, hc₁, hc₂, hr, hid⟩

end Analysis

end FormEngine
