import FormEngine.Proofs.Control.Reach
/-!
# Support elements and the controls that they name

A support element names a control by `for`, in the scope of the element. The control is found by its
prefixed id, and of each kind it keeps the element that came last. A new control has the last of its
own children of each kind, and the records of the others keep their supports when it joins the tree.
-/

namespace FormEngine

/-! ## What a support element names -/

namespace Form

variable (f : Form)

/-- The kind of a support element. -/
def supportKind? (e : ElementRef) : Option SupportKind := (f.name? e).bind QName.supportKind?

/-- The prefixed id that an element names by `for`, in its own scope. -/
def target? (e : ElementRef) : Option String := (f.attr? e "for").map (f.prefixOf e ++ ·)

/-- A support element of the kind that names a control by this prefixed id. -/
def names (id : String) (k : SupportKind) (e : ElementRef) : Bool :=
  f.supportKind? e == some k && f.target? e == some id

/-- An element that names something, but none of these prefixed ids. -/
def isStray (ids : List String) (e : ElementRef) : Bool :=
  (f.target? e).any fun id => !ids.contains id

/-- What is said about an element that names no control. -/
def strayWarning (e : ElementRef) : Warning :=
  .unresolvedTarget (((f.name? e).map (·.qualified)).getD "") ((f.attr? e "for").getD "")

end Form

/-- The support element that a visit delivers. -/
def Visit.support? : Visit → Option ElementRef
  | .support e => some e
  | _ => none

namespace Form

variable (f : Form)

/-- The delivered support elements of a kind that name a control, in the order of the walk. -/
def naming (visits : List Visit) (id : String) (k : SupportKind) : List ElementRef :=
  (visits.filterMap Visit.support?).filter (f.names id k)

/-- The children of a control that support it without naming it. -/
def childSupports (e : ElementRef) (k : SupportKind) : List ElementRef :=
  (f.childElements e).filter fun c => f.supportKind? c == some k && (f.attr? c "for").isNone

/-- The support element that a control has from its children. A component instance has none. -/
def ownSupport? (c : Control) (k : SupportKind) : Option ElementRef :=
  if c.isComponent then none else (f.childSupports c.element k).getLast?

variable {f}

theorem names_iff {id : String} {k : SupportKind} {e : ElementRef} :
    f.names id k e = true ↔ f.supportKind? e = some k ∧ f.target? e = some id := by
  rw [names, Bool.and_eq_true, beq_iff_eq, beq_iff_eq]

/-- Who names something else does not name the control. -/
theorem names_eq_false {id : String} {e : ElementRef} (h : f.target? e ≠ some id) (k : SupportKind) :
    f.names id k e = false := by
  rw [← Bool.not_eq_true, names_iff]
  exact fun hnames => h hnames.2

theorem naming_append (us vs : List Visit) (id : String) (k : SupportKind) :
    f.naming (us ++ vs) id k = f.naming us id k ++ f.naming vs id k := by
  rw [naming, List.filterMap_append, List.filter_append, naming, naming]

/-- A visit that delivers nothing for the control. -/
theorem naming_concat_of_not {v : Visit} {id : String} {k : SupportKind}
    (h : ∀ e, v.support? = some e → f.names id k e = false) (vs : List Visit) :
    f.naming (vs ++ [v]) id k = f.naming vs id k := by
  have hnil : f.naming [v] id k = [] := by
    rw [naming, List.filterMap_cons]
    cases hv : v.support? with
    | none => rfl
    | some e =>
      rw [List.filterMap_nil, List.filter_singleton, h e hv]
      rfl
  rw [naming_append, hnil, List.append_nil]

/-! ## What the walk delivers -/

/-- Only support elements are delivered as such. -/
theorem supportKind?_of_visitsAt {under : ElementRef → Bool → Except Stop (List Visit)}
    (hunder : ∀ e inComponent vs, under e inComponent = .ok vs →
      ∀ e', .support e' ∈ vs → (f.supportKind? e').isSome = true)
    {inComponent : Bool} {e : ElementRef} {vs : List Visit}
    (h : f.visitsAt under inComponent e = .ok vs) :
    ∀ e', .support e' ∈ vs → (f.supportKind? e').isSome = true := by
  have haround : ∀ {k : ElementClass} {ws : List Visit},
      (∀ e', .support e' ∈ ws → (f.supportKind? e').isSome = true) →
      ∀ e', .support e' ∈ .enter e k :: ws ++ [.leave] → (f.supportKind? e').isSome = true := by
    intro k ws hws e' he'
    refine hws e' ?_
    simpa using he'
  cases walks_of_visitsAt h with
  | text hname => exact fun _ he' => absurd he' List.not_mem_nil
  | container hname hclass hws => exact haround (hunder e false _ hws)
  | bare hname hclass hroot => exact haround fun _ he' => absurd he' List.not_mem_nil
  | component hname hclass hroot hws => exact haround (hunder _ true _ hws)
  | leaf hname hclass hk => exact fun _ he' => by simp at he'
  | @support name hname hclass =>
    intro e' he'
    split at he'
    · exact absurd he' List.not_mem_nil
    · obtain rfl : e' = e := by simpa using he'
      rw [supportKind?, hname, Option.bind_some]
      by_contra hnone
      unfold ScopeTree.classify at hclass
      split_ifs at hclass <;> contradiction
  | closed hname hclass hclosed => exact fun _ he' => absurd he' List.not_mem_nil
  | transparent hname hclass hopen hws => exact hunder e inComponent vs hws

theorem supportKind?_of_visitsUnder {fuel : Nat} {e : ElementRef} {inComponent : Bool}
    {vs : List Visit} (h : f.visitsUnder fuel e inComponent = .ok vs) :
    ∀ e', .support e' ∈ vs → (f.supportKind? e').isSome = true := by
  induction fuel generalizing e inComponent vs with
  | zero => contradiction
  | succ fuel ih =>
    rw [visitsUnder] at h
    obtain ⟨parts, hparts, h⟩ := ok_of_bind h
    obtain rfl := Except.ok.inj h
    intro e' he'
    obtain ⟨part, hpart, he'⟩ := List.mem_flatten.1 he'
    obtain ⟨c, -, hc⟩ := exists_mem_of_mapM hparts hpart
    exact supportKind?_of_visitsAt (fun _ _ _ hunder => ih hunder) hc e' he'

end Form

/-! ## The supports of a record -/

namespace Control

theorem support?_setSupport (c : Control) (s : Support) (k : SupportKind) :
    (c.setSupport s).support? k = if s.kind = k then some s else c.support? k := by
  rw [support?, setSupport, List.find?_append]
  by_cases hk : s.kind = k
  · -- of the others none is of this kind
    have hnone : (c.supports.filter fun s' => s'.kind != s.kind).find? (·.kind == k) = none := by
      rw [List.find?_eq_none]
      intro s' hs' hkind
      rw [beq_iff_eq] at hkind
      have hother := (List.mem_filter.1 hs').2
      exact bne_iff_ne.1 hother (hkind.trans hk.symm)
    rw [if_pos hk, hnone, List.find?_singleton, if_pos (beq_iff_eq.2 hk), Option.none_or]
  · -- those of this kind stay
    have hsame : (c.supports.filter fun s' => s'.kind != s.kind).find? (·.kind == k) =
        c.supports.find? (·.kind == k) := by
      rw [List.find?_filter]
      congr 1
      funext s'
      by_cases hs' : s'.kind = k
      · simp [hs', Ne.symm hk]
      · simp [hs']
    rw [if_neg hk, hsame, List.find?_singleton, if_neg (by simpa using hk), Option.or_none, support?]

theorem support?_foldl_setSupport (ss : List Support) (c : Control) (k : SupportKind) :
    (ss.foldl setSupport c).support? k =
      (ss.filter fun s => s.kind == k).getLast?.or (c.support? k) := by
  induction ss using List.reverseRecOn with
  | nil => rfl
  | append_singleton ss s ih =>
    rw [List.foldl_append, List.foldl_cons, List.foldl_nil, support?_setSupport, ih,
      List.filter_append, List.filter_singleton]
    by_cases hk : s.kind = k
    · simp [hk]
    · rw [if_neg hk, beq_eq_false_iff_ne.2 hk, cond_false, List.append_nil]

theorem support?_addNested (c : Control) (r : ControlId) (k : SupportKind) :
    (c.addNested r).support? k = c.support? k := by
  unfold addNested
  split <;> rfl

/-- The second record is of the same control, and it may have other supports. -/
structure SameApart (c c' : Control) : Prop where
  place : c'.place = c.place
  isComponent : c'.isComponent = c.isComponent

theorem SameApart.refl (c : Control) : c.SameApart c := ⟨rfl, rfl⟩

theorem SameApart.trans {c c' c'' : Control} (h : c.SameApart c') (h' : c'.SameApart c'') :
    c.SameApart c'' :=
  ⟨h'.place.trans h.place, h'.isComponent.trans h.isComponent⟩

theorem SameApart.element {c c' : Control} (h : c.SameApart c') : c'.element = c.element :=
  congrArg Place.element h.place

theorem SameApart.prefixedId {c c' : Control} (h : c.SameApart c') :
    c'.prefixedId = c.prefixedId :=
  congrArg Place.prefixedId h.place

theorem SameApart.ownSupport? {c c' : Control} (h : c.SameApart c') (f : Form) (k : SupportKind) :
    f.ownSupport? c' k = f.ownSupport? c k := by
  rw [Form.ownSupport?, Form.ownSupport?, h.isComponent, h.element]

theorem sameApart_setSupport (c : Control) (s : Support) : c.SameApart (c.setSupport s) := ⟨rfl, rfl⟩

theorem sameApart_addNested (c : Control) (r : ControlId) : c.SameApart (c.addNested r) :=
  ⟨place_addNested c r, congrArg Standing.isComponent (standing_addNested c r)⟩

end Control

/-! ## Controls by their prefixed ids -/

namespace ControlTree

variable {t : ControlTree} {id : String} {i : ControlId} {c : Control}

/-- What is found under a prefixed id has that id. -/
def Located (t : ControlTree) : Prop :=
  ∀ id i, t.id? id = some i → ∃ c, t.get? i = some c ∧ c.prefixedId = id

/-- The prefixed ids of the controls, in the order of the walk. -/
def prefixedIds (t : ControlTree) : List String := t.places.map Place.prefixedId

theorem prefixedIds_eq (t : ControlTree) : t.prefixedIds = t.controls.toList.map (·.prefixedId) := by
  rw [prefixedIds, places, List.map_map]
  rfl

theorem getElem?_prefixedIds (t : ControlTree) (i : ControlId) :
    t.prefixedIds[i]? = (t.get? i).map (·.prefixedId) := by
  rw [prefixedIds_eq, List.getElem?_map, Array.getElem?_toList, get?]

theorem Keyed.contains_iff (h : t.Keyed) : t.contains id = true ↔ id ∈ t.prefixedIds := by
  have hkeys : id ∈ t.prefixedIds ↔ id ∈ t.byPrefixedId.map Prod.fst := by
    rw [h, List.mem_reverse, prefixedIds]
  rw [hkeys, ControlTree.contains, id?, List.lookup_isSome_iff, List.mem_map]
  exact exists_congr fun e => and_congr_right fun _ => beq_iff_eq.trans eq_comm

theorem Located.mem_prefixedIds (h : t.Located) (hi : t.id? id = some i) : id ∈ t.prefixedIds := by
  obtain ⟨c, hc, hid⟩ := h id i hi
  refine List.mem_of_getElem? (i := i) ?_
  rw [getElem?_prefixedIds, hc, Option.map_some, hid]

theorem Located.prefixedId (h : t.Located) (hc : t.control? id = some c) : c.prefixedId = id := by
  obtain ⟨i, hi, hget⟩ := Option.bind_eq_some_iff.1 hc
  obtain ⟨c', hc', hid⟩ := h id i hi
  obtain rfl := Option.some.inj (hget.symm.trans hc')
  exact hid

/-- Where no two controls have one prefixed id, each is found under its own. -/
theorem Located.id?_eq (h : t.Located) (hkeyed : t.Keyed) (hnodup : t.prefixedIds.Nodup)
    (hc : t.get? i = some c) : t.id? c.prefixedId = some i := by
  have hi : t.prefixedIds[i]? = some c.prefixedId := by
    rw [getElem?_prefixedIds, hc, Option.map_some]
  have hcontains := hkeyed.contains_iff.2 (List.mem_of_getElem? hi)
  obtain ⟨j, hj⟩ := Option.isSome_iff_exists.1 hcontains
  obtain ⟨c', hc', hid⟩ := h c.prefixedId j hj
  have hj' : t.prefixedIds[j]? = some c.prefixedId := by
    rw [getElem?_prefixedIds, hc', Option.map_some, hid]
  have hlt := (List.getElem?_eq_some_iff.1 hj').1
  rw [hj, (List.getElem?_inj hlt hnodup).1 (hj'.trans hi.symm)]

theorem Located.modify (h : t.Located) (i : ControlId) (s : Support) :
    (t.modify i fun c => c.setSupport s).Located := by
  intro id j hj
  obtain ⟨c, hc, hid⟩ := h id j hj
  have hget : (t.modify i fun c => c.setSupport s).get? j =
      if i = j then (t.get? j).map fun c => c.setSupport s else t.get? j := Array.getElem?_modify
  rw [hget, hc]
  split
  · exact ⟨_, rfl, hid⟩
  · exact ⟨c, rfl, hid⟩

end ControlTree

namespace TreeBuilder

variable {f : Form} {t t' : ControlTree} {e : ElementRef} {k : SupportKind} {id : String}
  {c : Control}

/-! ## A support element finds its control -/

/-- A support element is given to the control that it names. -/
theorem attach?_eq (hk : f.supportKind? e = some k) :
    attach? t f e = match f.target? e with
      | none => some t
      | some id => (t.id? id).map fun i => t.modify i fun c => c.setSupport (.ofElement f e k) := by
  obtain ⟨n, hn, hkind⟩ := Option.bind_eq_some_iff.1 hk
  have hlocal : SupportKind.ofName? n.localName = some k := by
    rw [QName.supportKind?] at hkind
    split at hkind
    · exact hkind
    · contradiction
  rw [attach?, Form.target?, hn, Option.bind_some, hlocal]
  cases f.attr? e "for" <;> rfl

/-- An element that cannot be given to a control names one that is not there. -/
theorem target?_of_attach?_eq_none (hk : f.supportKind? e = some k) (h : attach? t f e = none) :
    ∃ id, f.target? e = some id ∧ t.id? id = none := by
  rw [attach?_eq hk] at h
  cases htarget : f.target? e with
  | none =>
    rw [htarget] at h
    contradiction
  | some id =>
    rw [htarget] at h
    exact ⟨id, rfl, Option.map_eq_none_iff.1 h⟩

/-- An element that is given to a control, or to none because it names none. -/
theorem target?_of_attach?_eq_some (hk : f.supportKind? e = some k) (h : attach? t f e = some t')
    (htarget : f.target? e = some id) : (t.id? id).isSome = true := by
  rw [attach?_eq hk, htarget] at h
  obtain ⟨i, hi, -⟩ := Option.map_eq_some_iff.1 h
  exact Option.isSome_iff_exists.2 ⟨i, hi⟩

theorem id?_attach? (hattach : attach? t f e = some t') (id : String) : t'.id? id = t.id? id :=
  attach?_keeps (P := fun u => u.id? id = t.id? id) (fun _ _ _ hu => hu) hattach rfl

/-- **A control has the support element that names it**, once this was given to a control. -/
theorem control?_attach? (ht : t.Located) (hk : f.supportKind? e = some k)
    (h : attach? t f e = some t') (hc : t.control? id = some c) :
    ∃ c', t'.control? id = some c' ∧ c.SameApart c' ∧ ∀ k, c'.support? k =
      if f.names id k e then some (.ofElement f e k) else c.support? k := by
  have hnot : f.target? e ≠ some id → ∀ k, c.support? k =
      if f.names id k e then some (.ofElement f e k) else c.support? k := by
    intro hne k
    rw [Form.names_eq_false hne, if_neg Bool.false_ne_true]
  obtain ⟨i, hi, hget⟩ := Option.bind_eq_some_iff.1 hc
  rw [attach?_eq hk] at h
  cases htarget : f.target? e with
  | none =>
    rw [htarget] at h
    obtain rfl := Option.some.inj h
    refine ⟨c, hc, .refl c, hnot ?_⟩
    rw [htarget]
    exact Option.some_ne_none id ∘ Eq.symm
  | some id' =>
    rw [htarget] at h
    obtain ⟨j, hj, rfl⟩ := Option.map_eq_some_iff.1 h
    have hget' : (t.modify j fun c => c.setSupport (.ofElement f e k)).get? i =
        if j = i then some (c.setSupport (.ofElement f e k)) else some c := by
      refine Eq.trans Array.getElem?_modify ?_
      show (if j = i then (t.get? i).map _ else t.get? i) = _
      rw [hget, Option.map_some]
    have hcontrol : (t.modify j fun c => c.setSupport (.ofElement f e k)).control? id =
        if j = i then some (c.setSupport (.ofElement f e k)) else some c := by
      have hi' : (t.modify j fun c => c.setSupport (.ofElement f e k)).id? id = some i := hi
      rw [ControlTree.control?, hi', Option.bind_some, hget']
    by_cases hji : j = i
    · -- one number has one prefixed id
      subst hji
      obtain ⟨c', hc', hid⟩ := ht id' j hj
      obtain rfl := Option.some.inj (hget.symm.trans hc')
      obtain rfl : id' = id := hid.symm.trans (ht.prefixedId hc)
      refine ⟨_, hcontrol.trans (if_pos rfl), c.sameApart_setSupport _, fun k' => ?_⟩
      rw [Control.support?_setSupport]
      have hkind : (Support.ofElement f e k).kind = k := rfl
      by_cases hk' : k = k'
      · subst hk'
        rw [hkind, if_pos rfl, if_pos (Form.names_iff.2 ⟨hk, htarget⟩)]
      · rw [hkind, if_neg hk', if_neg fun hnames =>
          hk' (Option.some.inj (hk.symm.trans (Form.names_iff.1 hnames).1))]
    · refine ⟨c, hcontrol.trans (if_neg hji), .refl c, hnot ?_⟩
      intro heq
      rw [htarget, Option.some.injEq] at heq
      exact hji (Option.some.inj (hj.symm.trans (heq ▸ hi)))

/-! ## A new control -/

/-- The supports that a control begins with are its children that name nothing. -/
theorem filter_ownSupports (f : Form) (e : ElementRef) (k : SupportKind) :
    (ownSupports f e).filter (·.kind == k) = (f.childSupports e k).map (Support.ofElement f · k) := by
  rw [ownSupports, Form.childSupports]
  induction f.childElements e with
  | nil => rfl
  | cons c cs ih =>
    rw [List.filterMap_cons, List.filter_cons, ← Form.supportKind?]
    cases hkind : f.supportKind? c with
    | none => simpa [hkind] using ih
    | some k' =>
      cases hfor : f.attr? c "for" with
      | some id => simpa [hfor] using ih
      | none =>
        have hofElement : (Support.ofElement f c k').kind = k' := rfl
        by_cases hk : k' = k
        · subst hk
          simp [hofElement, ih]
        · simpa [hofElement, hk] using ih

/-- A control begins with the last of its children of each kind that name nothing. -/
theorem support?_controlOf {b : TreeBuilder} {name : QName} {cls : ElementClass}
    (hname : f.name? e = some name) (hclass : f.scopes.classify name = some cls)
    (h : b.controlOf f e cls = .ok c) (k : SupportKind) :
    c.support? k = (f.ownSupport? c k).map (Support.ofElement f · k) := by
  have hcomponent : c.isComponent = (cls == .component) :=
    congrArg Standing.isComponent (standing_controlOf hname hclass h).1
  rw [Form.ownSupport?, hcomponent, (place_controlOf h).2]
  unfold controlOf at h
  cases hid : f.staticId? e with
  | none =>
    rw [hid] at h
    contradiction
  | some staticId =>
    rw [hid] at h
    obtain ⟨kind, -, h⟩ := ok_of_bind h
    have hc := Except.ok.inj h
    generalize hbare : Control.mk _ _ _ _ _ _ _ _ _ _ _ _ _ _ _ _ = bare at hc
    have hnone : bare.support? k = none := by
      rw [← hbare]
      rfl
    rw [← hc]
    split
    · exact hnone
    · rw [Control.support?_foldl_setSupport, hnone, Option.or_none, filter_ownSupports,
        List.getLast?_map]

theorem id?_addControl (t : ControlTree) (c : Control) (id : String) :
    (addControl t c).id? id = if id = c.prefixedId then some c.id else t.id? id := by
  have hkeys : (addControl t c).byPrefixedId = (c.prefixedId, c.id) :: t.byPrefixedId :=
    congrArg ((c.prefixedId, c.id) :: ·) (byPrefixedId_indexKind t c)
  rw [ControlTree.id?, hkeys, List.lookup_cons]
  by_cases hid : id = c.prefixedId
  · rw [if_pos hid, beq_iff_eq.2 hid]
  · rw [if_neg hid, beq_eq_false_iff_ne.2 hid]
    rfl

/-- A control that was there keeps its supports when a new one joins the tree. -/
theorem get?_addControl_old {i : ControlId} (hi : t.get? i = some c) (new : Control) :
    ∃ c', (addControl t new).get? i = some c' ∧ c.SameApart c' ∧ ∀ k, c'.support? k = c.support? k := by
  have hlt : i < (indexKind t new).controls.size := by
    have hsize : (indexKind t new).size = t.size := by
      rw [← ControlTree.length_standings, standings_indexKind, ControlTree.length_standings]
    exact lt_of_lt_of_eq (Array.getElem?_eq_some_iff.1 hi).1 hsize.symm
  have hget : (addControl t new).get? i = (indexKind t new).controls[i]? := by
    show ((indexKind t new).controls.push new)[i]? = _
    rw [Array.getElem?_push, if_neg (Nat.ne_of_lt hlt)]
  rw [hget, controls_indexKind]
  split
  · exact ⟨c, hi, .refl c, fun _ => rfl⟩
  · rename_i outer _
    rw [Array.getElem?_modify]
    split
    · rw [show t.controls[i]? = some c from hi]
      exact ⟨_, rfl, c.sameApart_addNested new.id, c.support?_addNested new.id⟩
    · exact ⟨c, hi, .refl c, fun _ => rfl⟩

theorem control?_addControl_new {t : ControlTree} (hid : c.id = t.size) :
    (addControl t c).control? c.prefixedId = some c := by
  rw [ControlTree.control?, id?_addControl, if_pos rfl, Option.bind_some, hid,
    ← ControlTree.length_standings, get?_addControl_new]

theorem control?_addControl_old (hc : t.control? id = some c) {new : Control}
    (hne : id ≠ new.prefixedId) : ∃ c', (addControl t new).control? id = some c' ∧
      c.SameApart c' ∧ ∀ k, c'.support? k = c.support? k := by
  obtain ⟨i, hi, hget⟩ := Option.bind_eq_some_iff.1 hc
  rw [ControlTree.control?, id?_addControl, if_neg hne, hi, Option.bind_some]
  exact get?_addControl_old hget new

theorem located_addControl (ht : t.Located) (hid : c.id = t.size) : (addControl t c).Located := by
  intro id i hi
  rw [id?_addControl] at hi
  split at hi
  · rename_i heq
    obtain rfl := Option.some.inj hi
    refine ⟨c, ?_, heq.symm⟩
    rw [hid, ← ControlTree.length_standings, get?_addControl_new]
  · obtain ⟨c', hc', hprefixed⟩ := ht id i hi
    obtain ⟨c'', hc'', hsame, -⟩ := get?_addControl_old hc' c
    exact ⟨c'', hc'', hsame.prefixedId.trans hprefixed⟩

end TreeBuilder

/-- What is found under a prefixed id of a finished tree has that id. -/
theorem located_buildControlTree {f : Form} {tree : ControlTree} {warnings : List Warning}
    (h : buildControlTree f = .ok (tree, warnings)) : tree.Located :=
  TreeBuilder.buildControlTree_keeps (P := ControlTree.Located)
    (fun _ _ hid ht => TreeBuilder.located_addControl ht hid) (fun _ i s ht => ht.modify i s)
    (fun _ _ hi => by contradiction) h

end FormEngine
