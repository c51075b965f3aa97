import FormEngine.Proofs.Control.Supports
/-!
# Which support element a control has

A control gets a label, a help, a hint or an alert in three ways, at three times: from its own
children when the walk comes to it, from an element met later that names it by `for`, and at the end
of the walk from an element that named it before it was met. Each of them takes the place of what was
there, so an element that came before the control wins over one that came after it, and this one over
the children. The walk is followed for one prefixed id at a time: until a control with the id is met,
what names it waits; from then on the waiting elements stay as they are, and the record follows the
walk.
-/

namespace FormEngine

namespace TreeBuilder

variable {f : Form} {t t' : ControlTree} {e : ElementRef} {k : SupportKind} {id : String}
  {c : Control}

/-! ## One prefixed id during the walk -/

/-- What the visits so far have come to for a prefixed id. Until a control with the id is met, what
names it waits. Then the control has the last that named it since, or else what it has from its
children, and those wait that named it before. -/
inductive Slot (f : Form) (id : String) (visits : List Visit) (b : TreeBuilder) : Prop
  | absent (hid : b.tree.id? id = none)
      (hwaiting : ∀ k, b.waiting.filter (f.names id k) = f.naming visits id k)
  | present {before after : List Visit} {v : Visit} {c : Control}
      (hvisits : visits = before ++ v :: after) (hv : v.control? = some c.element)
      (hid : b.tree.id? id = some (before.filterMap Visit.control?).length)
      (hc : b.tree.control? id = some c)
      (hsupport : ∀ k, c.support? k =
        ((f.naming after id k).getLast?.or (f.ownSupport? c k)).map (Support.ofElement f · k))
      (hwaiting : ∀ k, b.waiting.filter (f.names id k) = f.naming before id k)

namespace Slot

variable {visits : List Visit} {b b' : TreeBuilder} {v : Visit}

/-- A visit that neither begins the control nor names it. -/
theorem other (h : Slot f id visits b) (hnaming : ∀ k e, v.support? = some e → f.names id k e = false)
    (hid : b'.tree.id? id = b.tree.id? id)
    (hc : ∀ c, b.tree.control? id = some c → ∃ c', b'.tree.control? id = some c' ∧
      c.SameApart c' ∧ ∀ k, c'.support? k = c.support? k)
    (hwaiting : ∀ k, b'.waiting.filter (f.names id k) = b.waiting.filter (f.names id k)) :
    Slot f id (visits ++ [v]) b' := by
  cases h with
  | absent hnone hwait =>
    refine .absent (hid.trans hnone) fun k => ?_
    rw [hwaiting, hwait, Form.naming_concat_of_not (hnaming k)]
  | @present before after w c hvisits hw hnumber hget hsupport hwait =>
    obtain ⟨c', hc', hsame, hsupports⟩ := hc c hget
    refine .present (?_ : visits ++ [v] = before ++ w :: (after ++ [v])) ?_ (hid.trans hnumber) hc'
      (fun k => ?_) fun k => (hwaiting k).trans (hwait k)
    · rw [hvisits, List.append_assoc, List.cons_append]
    · rw [hw, hsame.element]
    · rw [hsupports, hsupport, Form.naming_concat_of_not (hnaming k), hsame.ownSupport?]

/-- A control is met. -/
theorem start (h : Slot f id visits b) (hrecords : Records f visits b) (hlocated : b.tree.Located)
    {name : QName} {cls : ElementClass} (hname : f.name? e = some name)
    (hclass : f.scopes.classify name = some cls) (hc : b.controlOf f e cls = .ok c)
    (hv : v.control? = some e) (htree : b'.tree = addControl b.tree c)
    (hwaiting : b'.waiting = b.waiting) (hnodup : b'.tree.prefixedIds.Nodup) :
    Slot f id (visits ++ [v]) b' := by
  have hcontrol : ∀ e', v.support? = some e' → False := by
    intro e' he'
    cases v <;> simp [Visit.control?, Visit.support?] at hv he'
  by_cases hid : id = c.prefixedId
  · subst hid
    cases h with
    | absent hnone hwait =>
      have hnumber : c.id = (visits.filterMap Visit.control?).length := by
        rw [id_controlOf hc, ← hrecords.elements, List.length_map,
          ControlTree.places, List.length_map, Array.length_toList, ControlTree.size]
      refine .present (c := c) (rfl : visits ++ [v] = visits ++ v :: []) ?_ ?_ ?_ (fun k => ?_)
        fun k => ?_
      · rw [hv, (place_controlOf hc).2]
      · rw [htree, id?_addControl, if_pos rfl, hnumber]
      · rw [htree, control?_addControl_new (id_controlOf hc)]
      · rw [support?_controlOf hname hclass hc]
        rfl
      · rw [hwaiting, hwait]
    | @present before after w c' hvisits hw hnumber hget hsupport hwait =>
      -- the prefixed id would be there twice
      have hmem : c.prefixedId ∈ b.tree.prefixedIds := hlocated.mem_prefixedIds hnumber
      rw [htree, ControlTree.prefixedIds, places_addControl, List.map_append,
        List.map_singleton] at hnodup
      exact absurd rfl ((List.nodup_append.1 hnodup).2.2 _ hmem c.prefixedId (List.mem_singleton.2 rfl))
  · refine h.other (fun k e' he' => (hcontrol e' he').elim) ?_ (fun c' hc' => ?_) fun k => ?_
    · rw [htree, id?_addControl, if_neg hid]
    · rw [htree]
      exact control?_addControl_old hc' hid
    · rw [hwaiting]

/-- A support element waits, so the control that it names is not there. -/
theorem wait (h : Slot f id visits b) (hk : f.supportKind? e = some k)
    (hattach : attach? b.tree f e = none) :
    Slot f id (visits ++ [.support e]) { b with waiting := b.waiting ++ [e] } := by
  obtain ⟨id', htarget, hnone⟩ := target?_of_attach?_eq_none hk hattach
  cases h with
  | absent hid hwait =>
    refine .absent hid fun k => ?_
    show (b.waiting ++ [e]).filter (f.names id k) = _
    rw [List.filter_append, hwait, Form.naming_append]
    rfl
  | @present before after w c hvisits hw hnumber hget hsupport hwait =>
    have hnot : ∀ k, f.names id k e = false := by
      refine Form.names_eq_false fun hnamed => ?_
      obtain rfl := Option.some.inj (htarget.symm.trans hnamed)
      rw [hnumber] at hnone
      contradiction
    refine Slot.other (.present hvisits hw hnumber hget hsupport hwait) ?_ rfl
      (fun c' hc' => ⟨c', hc', .refl c', fun _ => rfl⟩) fun k => ?_
    · intro k e' he'
      obtain rfl := Option.some.inj he'
      exact hnot k
    · show (b.waiting ++ [e]).filter (f.names id k) = _
      rw [List.filter_append, List.filter_singleton, hnot k]
      exact List.append_nil _

/-- A support element is given to a control, or to none because it names none. -/
theorem attach (h : Slot f id visits b) (hlocated : b.tree.Located) (hk : f.supportKind? e = some k)
    (hattach : attach? b.tree f e = some t) :
    Slot f id (visits ++ [.support e]) { b with tree := t } := by
  cases h with
  | absent hid hwait =>
    refine Slot.other (.absent hid hwait) ?_ (id?_attach? hattach id) ?_ fun _ => rfl
    · intro k' e' he'
      obtain rfl := Option.some.inj he'
      refine Form.names_eq_false (fun hnamed => ?_) k'
      have hsome := target?_of_attach?_eq_some hk hattach hnamed
      rw [hid] at hsome
      contradiction
    · intro c hc
      rw [ControlTree.control?, hid] at hc
      contradiction
  | @present before after w c hvisits hw hnumber hget hsupport hwait =>
    obtain ⟨c', hc', hsame, hsupports⟩ := control?_attach? hlocated hk hattach hget
    refine .present (?_ : visits ++ [.support e] = before ++ w :: (after ++ [.support e])) ?_ ?_ hc'
      (fun k => ?_) hwait
    · rw [hvisits, List.append_assoc, List.cons_append]
    · rw [hw, hsame.element]
    · exact (id?_attach? hattach id).trans hnumber
    · have hlast : f.naming [.support e] id k = if f.names id k e then [e] else [] := by
        cases hnames : f.names id k e <;> simp [Form.naming, Visit.support?, hnames]
      rw [hsupports, Form.naming_append, hlast, hsame.ownSupport?, hsupport]
      split <;> simp

end Slot

/-! ## The walk -/

/-- What the visits so far have come to: for every prefixed id, and for what names no control. The
prefixed ids are those of the finished tree. -/
structure Delivered (f : Form) (ids : List String) (visits : List Visit) (b : TreeBuilder) :
    Prop where
  records : Records f visits b
  located : b.tree.Located
  slots : ∀ id, Slot f id visits b
  waits : ∀ e ∈ b.waiting, .support e ∈ visits
  strays : b.waiting.filter (f.isStray ids) =
    (visits.filterMap Visit.support?).filter (f.isStray ids)

/-- Nothing is given to a control, or taken from what waits, when a control is met. -/
theorem waiting_start {b b' : TreeBuilder} {cls : ElementClass} (h : b.start f e cls = .ok b') :
    b'.waiting = b.waiting := by
  obtain ⟨c, -, h⟩ := ok_of_bind h
  obtain rfl := Except.ok.inj h
  split
  · unfold declareVariable
    split <;> rfl
  · rfl

theorem prefixedIds_addControl (t : ControlTree) (c : Control) :
    (addControl t c).prefixedIds = t.prefixedIds ++ [c.prefixedId] := by
  rw [ControlTree.prefixedIds, places_addControl, List.map_append]
  rfl

theorem prefixedIds_modify (t : ControlTree) (i : ControlId) (s : Support) :
    (t.modify i fun c => c.setSupport s).prefixedIds = t.prefixedIds :=
  congrArg (List.map Place.prefixedId) (places_modify_setSupport t i s)

/-- Prefixed ids are added and never taken away. -/
theorem prefixedIds_run {visits : List Visit} {b b' : TreeBuilder}
    (h : visits.foldlM (step f) b = .ok b') : b.tree.prefixedIds <+: b'.tree.prefixedIds := by
  refine foldlM_invariant (P := fun b' => b.tree.prefixedIds <+: b'.tree.prefixedIds) h
    (List.prefix_refl _) fun v _ b₁ b₂ hb₁ hstep => ?_
  refine step_keeps (P := fun t => b.tree.prefixedIds <+: t.prefixedIds) (fun t c _ ht => ?_)
    (fun t i s ht => ?_) hstep hb₁
  · rw [prefixedIds_addControl]
    exact ht.trans (List.prefix_append _ _)
  · rw [prefixedIds_modify]
    exact ht

namespace Delivered

variable {ids : List String} {visits : List Visit} {b b' : TreeBuilder} {v : Visit}

/-- A visit that begins a control. -/
theorem start (h : Delivered f ids visits b) {name : QName} {cls : ElementClass}
    (hname : f.name? e = some name) (hclass : f.scopes.classify name = some cls)
    (hc : b.controlOf f e cls = .ok c) (hv : v.control? = some e)
    (htree : b'.tree = addControl b.tree c) (hwaiting : b'.waiting = b.waiting)
    (hrecords : Records f (visits ++ [v]) b') (hnodup : b'.tree.prefixedIds.Nodup) :
    Delivered f ids (visits ++ [v]) b' where
  records := hrecords
  located := by
    rw [htree]
    exact located_addControl h.located (id_controlOf hc)
  slots id := (h.slots id).start h.records h.located hname hclass hc hv htree hwaiting hnodup
  waits e he := List.mem_append_left _ (h.waits e (hwaiting ▸ he))
  strays := by
    have hnone : v.support? = none := by cases v <;> simp [Visit.control?, Visit.support?] at hv ⊢
    rw [hwaiting, h.strays, List.filterMap_append, List.filterMap_cons, hnone, List.filterMap_nil,
      List.append_nil]

/-- A support element that waits may be a stray. -/
theorem wait (h : Delivered f ids visits b) (hk : f.supportKind? e = some k)
    (hattach : attach? b.tree f e = none)
    (hrecords : Records f (visits ++ [.support e]) { b with waiting := b.waiting ++ [e] }) :
    Delivered f ids (visits ++ [.support e]) { b with waiting := b.waiting ++ [e] } where
  records := hrecords
  located := h.located
  slots id := (h.slots id).wait hk hattach
  waits e' he' := by
    rcases List.mem_append.1 he' with he' | he'
    · exact List.mem_append_left _ (h.waits e' he')
    · rw [List.mem_singleton.1 he']
      exact List.mem_append_right _ (List.mem_singleton.2 rfl)
  strays := by
    rw [List.filter_append, h.strays, List.filterMap_append, List.filter_append]
    rfl

/-- A support element that is given to a control is no stray, since the control stays. -/
theorem attach (h : Delivered f ids visits b) (hk : f.supportKind? e = some k)
    (hattach : attach? b.tree f e = some t)
    (hrecords : Records f (visits ++ [.support e]) { b with tree := t })
    (hids : t.prefixedIds <+: ids) :
    Delivered f ids (visits ++ [.support e]) { b with tree := t } where
  records := hrecords
  located := attach?_keeps (fun _ i s ht => ht.modify i s) hattach h.located
  slots id := (h.slots id).attach h.located hk hattach
  waits e' he' := List.mem_append_left _ (h.waits e' he')
  strays := by
    have hfound : f.isStray ids e = false := by
      rw [Form.isStray]
      cases htarget : f.target? e with
      | none => rfl
      | some id =>
        obtain ⟨i, hi⟩ := Option.isSome_iff_exists.1 (target?_of_attach?_eq_some hk hattach htarget)
        have hmem : id ∈ b.tree.prefixedIds := h.located.mem_prefixedIds hi
        have hsame : t.prefixedIds = b.tree.prefixedIds :=
          attach?_keeps (P := fun u => u.prefixedIds = b.tree.prefixedIds)
            (fun u i s hu => (prefixedIds_modify u i s).trans hu) hattach rfl
        have hmem' : id ∈ ids := hids.subset (hsame ▸ hmem)
        simpa using hmem'
    rw [List.filterMap_append, List.filter_append, ← h.strays]
    show _ = _ ++ [e].filter (f.isStray ids)
    rw [List.filter_singleton, hfound]
    exact (List.append_nil _).symm

theorem step (h : Delivered f ids visits b) (hv : v.Proper f)
    (hsupport : ∀ e, v = .support e → (f.supportKind? e).isSome = true)
    (hstep : TreeBuilder.step f b v = .ok b') (hids : b'.tree.prefixedIds <+: ids)
    (hnodup : ids.Nodup) : Delivered f ids (visits ++ [v]) b' := by
  have hrecords := h.records.step hstep
  have hnodup' : b'.tree.prefixedIds.Nodup := hnodup.sublist hids.sublist
  cases hv with
  | @enter e name cls hname hclass hk =>
    obtain ⟨b₁, hb₁, hstep⟩ := ok_of_bind hstep
    obtain rfl := Except.ok.inj hstep
    obtain ⟨c, hc, htree⟩ := tree_start hb₁
    have hwaiting : b₁.waiting = b.waiting := waiting_start hb₁
    exact h.start hname hclass hc rfl htree hwaiting hrecords hnodup'
  | @leaf e name cls hname hclass hk =>
    obtain ⟨c, hc, htree⟩ := tree_start hstep
    exact h.start hname hclass hc rfl htree (waiting_start hstep) hrecords hnodup'
  | leave =>
    obtain rfl := Except.ok.inj hstep
    refine ⟨hrecords, h.located, fun id => ?_,
      fun e he => List.mem_append_left _ (h.waits e he), ?_⟩
    · exact (h.slots id).other (fun _ _ he => by simp [Visit.support?] at he) rfl
        (fun c hc => ⟨c, hc, .refl c, fun _ => rfl⟩) fun _ => rfl
    · rw [List.filterMap_append]
      exact h.strays.trans (congrArg _ (List.append_nil _).symm)
  | support e =>
    obtain ⟨k, hk⟩ := Option.isSome_iff_exists.1 (hsupport e rfl)
    rw [TreeBuilder.step] at hstep
    cases hattach : attach? b.tree f e with
    | none =>
      rw [hattach] at hstep
      obtain rfl := Except.ok.inj hstep
      exact h.wait hk hattach hrecords
    | some t =>
      rw [hattach] at hstep
      obtain rfl := Except.ok.inj hstep
      exact h.attach hk hattach hrecords hids

theorem run {before : List Visit} (h : Delivered f ids before b)
    (hproper : ∀ v ∈ visits, v.Proper f)
    (hsupport : ∀ e, .support e ∈ visits → (f.supportKind? e).isSome = true)
    (hrun : visits.foldlM (TreeBuilder.step f) b = .ok b') (hids : b'.tree.prefixedIds <+: ids)
    (hnodup : ids.Nodup) : Delivered f ids (before ++ visits) b' := by
  induction visits generalizing before b with
  | nil =>
    obtain rfl : b = b' := Except.ok.inj hrun
    rwa [List.append_nil]
  | cons v visits ih =>
    rw [List.foldlM_cons] at hrun
    obtain ⟨b₁, hv, hrun⟩ := ok_of_bind hrun
    rw [List.forall_mem_cons] at hproper
    have hstep := h.step hproper.1 (fun e he => hsupport e (he ▸ List.mem_cons_self)) hv
      ((prefixedIds_run hrun).trans hids) hnodup
    have hrest := ih hstep hproper.2 (fun e he => hsupport e (List.mem_cons_of_mem v he)) hrun
    rwa [List.append_assoc] at hrest

end Delivered

/-! ## The elements that waited -/

/-- **What waited for a control is given to it in order**, so that the last one stays. -/
theorem control?_foldl_settle {es : List ElementRef} {s : ControlTree × List Warning}
    (hes : ∀ e ∈ es, (f.supportKind? e).isSome = true) (hs : s.1.Located)
    (hc : s.1.control? id = some c) :
    ∃ c', (es.foldl (settle f) s).1.control? id = some c' ∧ c.SameApart c' ∧ ∀ k, c'.support? k =
      ((es.filter (f.names id k)).getLast?.map (Support.ofElement f · k)).or (c.support? k) := by
  induction es generalizing s c with
  | nil => exact ⟨c, hc, .refl c, fun _ => rfl⟩
  | cons e es ih =>
    rw [List.forall_mem_cons] at hes
    obtain ⟨k₀, hk₀⟩ := Option.isSome_iff_exists.1 hes.1
    have hstep : ∃ c', (settle f s e).1.control? id = some c' ∧ c.SameApart c' ∧ ∀ k,
        c'.support? k = if f.names id k e then some (.ofElement f e k) else c.support? k := by
      unfold settle
      cases hattach : attach? s.1 f e with
      | some t => exact control?_attach? hs hk₀ hattach hc
      | none =>
        refine ⟨c, hc, .refl c, fun k => ?_⟩
        obtain ⟨id', htarget, hnone⟩ := target?_of_attach?_eq_none hk₀ hattach
        rw [Form.names_eq_false fun hnamed => ?_, if_neg Bool.false_ne_true]
        obtain rfl := Option.some.inj (htarget.symm.trans hnamed)
        rw [ControlTree.control?, hnone] at hc
        contradiction
    obtain ⟨c₁, hc₁, hsame₁, hsupports₁⟩ := hstep
    obtain ⟨c', hc', hsame, hsupports⟩ :=
      ih hes.2 (settle_keeps (fun _ i s ht => ht.modify i s) e hs) hc₁
    refine ⟨c', hc', hsame₁.trans hsame, fun k => ?_⟩
    rw [hsupports, hsupports₁, List.filter_cons]
    split
    · rw [List.getLast?_cons]
      cases (es.filter (f.names id k)).getLast? <;> rfl
    · rfl

/-- What waited for a control that never came is warned about, in order. -/
theorem warnings_foldl_settle {es : List ElementRef} {s : ControlTree × List Warning}
    (hes : ∀ e ∈ es, (f.supportKind? e).isSome = true) (hs : s.1.Keyed) :
    (es.foldl (settle f) s).2 =
      s.2 ++ (es.filter (f.isStray s.1.prefixedIds)).map f.strayWarning := by
  induction es generalizing s with
  | nil => exact (List.append_nil _).symm
  | cons e es ih =>
    rw [List.forall_mem_cons] at hes
    obtain ⟨k, hk⟩ := Option.isSome_iff_exists.1 hes.1
    have hids : (settle f s e).1.prefixedIds = s.1.prefixedIds :=
      settle_keeps (P := fun u => u.prefixedIds = s.1.prefixedIds)
        (fun u i x hu => (prefixedIds_modify u i x).trans hu) e rfl
    have hstep : (settle f s e).2 =
        s.2 ++ ([e].filter (f.isStray s.1.prefixedIds)).map f.strayWarning := by
      have hstray : f.isStray s.1.prefixedIds e = (attach? s.1 f e).isNone := by
        rw [attach?_eq hk, Form.isStray]
        cases htarget : f.target? e with
        | none => rfl
        | some id =>
          have hcontains : s.1.prefixedIds.contains id = (s.1.id? id).isSome := by
            rw [Bool.eq_iff_iff, List.contains_iff_mem, ← hs.contains_iff, ControlTree.contains]
          simp only [Option.any_some, hcontains, Option.isNone_map]
          cases s.1.id? id <;> rfl
      rw [List.filter_singleton, hstray, settle]
      cases attach? s.1 f e with
      | none => rfl
      | some t => exact (List.append_nil _).symm
    have hkeyed : (settle f s e).1.Keyed :=
      settle_keeps (P := ControlTree.Keyed) (fun _ i x ht => keyed_modify ht i x) e hs
    rw [List.foldl_cons, ih hes.2 hkeyed, hids, hstep, List.append_assoc, ← List.map_append,
      ← List.filter_append, List.singleton_append]

/-! ## The finished tree -/

/-- What a finished tree has come from: the visits of the walk, and then the elements that waited. -/
theorem exists_delivered {tree : ControlTree} {warnings : List Warning}
    (h : buildControlTree f = .ok (tree, warnings)) (hnodup : tree.prefixedIds.Nodup) :
    ∃ visits b, f.visits = .ok visits ∧ Delivered f tree.prefixedIds visits b ∧
      b.tree.prefixedIds = tree.prefixedIds ∧ b.tree.Keyed ∧
      (∀ e ∈ b.waiting, (f.supportKind? e).isSome = true) ∧
      b.waiting.foldl (settle f) (b.tree, []) = (tree, warnings) := by
  obtain ⟨visits, b, hvisits, hrun, hsettled⟩ := exists_run h
  have hids : tree.prefixedIds = b.tree.prefixedIds :=
    settled_eq prefixedIds_modify hsettled
  have hkeyed : b.tree.Keyed :=
    foldlM_invariant (P := fun b : TreeBuilder => b.tree.Keyed) hrun rfl fun v _ b₁ b₂ hb₁ hstep =>
      step_keeps (P := ControlTree.Keyed) (fun _ c _ ht => keyed_addControl ht c)
        (fun _ i s ht => keyed_modify ht i s) hstep hb₁
  have hsupports := Form.supportKind?_of_visitsUnder hvisits
  have hempty : Delivered f tree.prefixedIds [] {} := by
    refine ⟨⟨rfl, fun p hp => ?_⟩, fun id i hi => ?_, fun id => .absent rfl fun _ => rfl,
      fun e he => ?_, rfl⟩
    · simp [ControlTree.places] at hp
    · simp [ControlTree.id?] at hi
    · contradiction
  have hprefix : b.tree.prefixedIds <+: tree.prefixedIds := hids ▸ List.prefix_refl _
  have hdelivered := hempty.run (proper_of_visitsUnder hvisits) hsupports hrun hprefix hnodup
  rw [List.nil_append] at hdelivered
  exact ⟨visits, b, hvisits, hdelivered, hids.symm, hkeyed,
    fun e he => hsupports e (hdelivered.waits e he), hsettled⟩

/-- The supports of a control, by what the walk has come to and what waited at its end. -/
theorem Delivered.support?_settled {ids : List String} {visits : List Visit} {b : TreeBuilder}
    {tree : ControlTree} {warnings : List Warning} (h : Delivered f ids visits b)
    (hwaiting : ∀ e ∈ b.waiting, (f.supportKind? e).isSome = true)
    (hsettled : b.waiting.foldl (settle f) (b.tree, []) = (tree, warnings))
    (hkeyed : tree.Keyed) (hnodup : tree.prefixedIds.Nodup) {i : ControlId}
    (hc : tree.get? i = some c) :
    ∃ before v after, visits = before ++ v :: after ∧
      (before.filterMap Visit.control?).length = i ∧ v.control? = some c.element ∧
      ∀ k, tree.support? c.prefixedId k =
        ((f.naming before c.prefixedId k).getLast?.or
          ((f.naming after c.prefixedId k).getLast?.or (f.ownSupport? c k))).map
            (Support.ofElement f · k) := by
  have hlocated : tree.Located :=
    settled_keeps (P := ControlTree.Located) (fun _ i s ht => ht.modify i s) hsettled h.located
  have hid? : tree.id? c.prefixedId = b.tree.id? c.prefixedId :=
    settled_eq (g := fun u => u.id? c.prefixedId) (fun _ _ _ => rfl) hsettled
  have hnumber := hlocated.id?_eq hkeyed hnodup hc
  have hcontrol : tree.control? c.prefixedId = some c := by
    rw [ControlTree.control?, hnumber, Option.bind_some, hc]
  cases h.slots c.prefixedId with
  | absent hnone hwait =>
    rw [hid?, hnone] at hnumber
    contradiction
  | @present before after v c₀ hsplit hv hat hget hsupport hwait =>
    obtain ⟨c', hc', hsame, hlast⟩ :=
      control?_foldl_settle (s := (b.tree, [])) hwaiting h.located hget
    rw [hsettled] at hc'
    obtain rfl := Option.some.inj (hcontrol.symm.trans hc')
    refine ⟨before, v, after, hsplit, ?_, ?_, fun k => ?_⟩
    · rw [hid?, hat, Option.some.injEq] at hnumber
      exact hnumber
    · rw [hv, hsame.element]
    · rw [ControlTree.support?, hcontrol, Option.bind_some, hlast, hwait, hsupport,
        hsame.ownSupport?, Option.map_or, Option.map_or, Option.map_or]

end TreeBuilder

/-- **Which support element a control has.** On every form whose control tree is built, with no two
controls of one prefixed id, a control has for each kind the last support element that named it before
the walk came to it, or else the last that named it afterwards, or else the last of its children of
that kind that name nothing, where a component instance has none. There is one warning for each
delivered element that names no control of the finished tree, in the order of the walk, and no other. -/
theorem support?_buildControlTree {f : Form} {tree : ControlTree} {warnings : List Warning}
    (h : buildControlTree f = .ok (tree, warnings)) (hnodup : tree.prefixedIds.Nodup) :
    ∃ visits, f.visits = .ok visits ∧
      (∀ i c, tree.get? i = some c → ∃ before v after, visits = before ++ v :: after ∧
        (before.filterMap Visit.control?).length = i ∧ v.control? = some c.element ∧
        ∀ k, tree.support? c.prefixedId k =
          ((f.naming before c.prefixedId k).getLast?.or
            ((f.naming after c.prefixedId k).getLast?.or (f.ownSupport? c k))).map
              (Support.ofElement f · k)) ∧
      warnings =
        ((visits.filterMap Visit.support?).filter (f.isStray tree.prefixedIds)).map f.strayWarning := by
  obtain ⟨visits, b, hvisits, hdelivered, hids, hkeyed, hwaiting, hsettled⟩ :=
    TreeBuilder.exists_delivered h hnodup
  refine ⟨visits, hvisits, fun i c hc => ?_, ?_⟩
  · exact hdelivered.support?_settled hwaiting hsettled (keyed_buildControlTree h) hnodup hc
  · have hwarnings := TreeBuilder.warnings_foldl_settle (s := (b.tree, [])) hwaiting hkeyed
    rw [hsettled, List.nil_append] at hwarnings
    rw [show warnings = _ from hwarnings, hids, hdelivered.strays]

/-- A group with a label, a hint and a help in it. A label that names it comes before it, a hint that
names it comes after it, and an alert names nobody. -/
def supportsForm : Form :=
  { controls :=
      { nodes :=
          #[{ kind := .element (.plain "controls") [], children := [1, 2, 6, 7] },
            { kind := .element { nsPrefix := "xf", uri := Namespace.xforms, localName := "label" }
                [⟨.plain "for", "g"⟩]
              parent := some 0 },
            { kind := .element { nsPrefix := "xf", uri := Namespace.xforms, localName := "group" }
                [⟨.plain "id", "g"⟩]
              parent := some 0, children := [3, 4, 5] },
            { kind := .element { nsPrefix := "xf", uri := Namespace.xforms, localName := "label" } []
              parent := some 2 },
            { kind := .element { nsPrefix := "xf", uri := Namespace.xforms, localName := "hint" } []
              parent := some 2 },
            { kind := .element { nsPrefix := "xf", uri := Namespace.xforms, localName := "help" } []
              parent := some 2 },
            { kind := .element { nsPrefix := "xf", uri := Namespace.xforms, localName := "hint" }
                [⟨.plain "for", "g"⟩]
              parent := some 0 },
            { kind := .element { nsPrefix := "xf", uri := Namespace.xforms, localName := "alert" }
                [⟨.plain "for", "nobody"⟩]
              parent := some 0 }]
        root := 0 }
    scopes := {} }

/-- The support elements of the group by kind, and the warnings. -/
theorem tree_supportsForm :
    ((buildControlTree supportsForm).toOption.map fun p =>
      (p.1.prefixedIds, SupportKind.all.map fun k => (p.1.support? "g" k).map (·.element.node), p.2)) =
      some (["g"], [some 1, some 5, some 6, none], [.unresolvedTarget "xf:alert" "nobody"]) := by
  decide +kernel

theorem support?_buildControlTree_supportsForm : ∃ tree warnings,
    buildControlTree supportsForm = .ok (tree, warnings) ∧ tree.prefixedIds = ["g"] ∧
    (SupportKind.all.map fun k => (tree.support? "g" k).map (·.element.node)) =
      [some 1, some 5, some 6, none] ∧
    ∃ visits, supportsForm.visits = .ok visits ∧
      (∀ i c, tree.get? i = some c → ∃ before v after, visits = before ++ v :: after ∧
        (before.filterMap Visit.control?).length = i ∧ v.control? = some c.element ∧
        ∀ k, tree.support? c.prefixedId k =
          ((supportsForm.naming before c.prefixedId k).getLast?.or
            ((supportsForm.naming after c.prefixedId k).getLast?.or
              (supportsForm.ownSupport? c k))).map (Support.ofElement supportsForm · k)) ∧
      warnings = ((visits.filterMap Visit.support?).filter
        (supportsForm.isStray tree.prefixedIds)).map supportsForm.strayWarning := by
  have hrun := tree_supportsForm
  cases hbuild : buildControlTree supportsForm with
  | error e =>
    rw [hbuild] at hrun
    contradiction
  | ok p =>
    obtain ⟨tree, warnings⟩ := p
    rw [hbuild] at hrun
    simp only [Except.toOption, Option.map_some, Option.some.injEq, Prod.mk.injEq] at hrun
    obtain ⟨hids, hsupports, -⟩ := hrun
    refine ⟨tree, warnings, rfl, hids, hsupports, support?_buildControlTree hbuild ?_⟩
    rw [hids]
    decide

end FormEngine
