import FormEngine.Control.Builder
import FormEngine.Proofs.Outcome
/-!
# Where the controls are

Each control of the tree is the record of one visit, in the order of the walk. What the visits to
come and the support elements change in a record is never its place: the element, the ids and the
scope are those that the visit found.
-/

namespace FormEngine

/-- What identifies a control. -/
structure Place where
  element : ElementRef
  staticId : String
  prefixedId : String
  scope : ScopeId

def Control.place (c : Control) : Place :=
  { element := c.element, staticId := c.staticId, prefixedId := c.prefixedId, scope := c.scope }

/-- The places of the controls in the order of the walk. -/
def ControlTree.places (t : ControlTree) : List Place := t.controls.toList.map Control.place

/-- The place is that of an element of the form. -/
structure Place.In (f : Form) (p : Place) : Prop where
  staticId : f.staticId? p.element = some p.staticId
  prefixedId : p.prefixedId = f.prefixOf p.element ++ p.staticId
  scope : p.scope = f.scopeOf p.element

/-- The element of the control that a visit begins. -/
def Visit.control? : Visit → Option ElementRef
  | .enter e _ => some e
  | .leaf e _ => some e
  | _ => none

/-! ## Changes that leave the places alone -/

theorem place_setSupport (c : Control) (s : Support) : (c.setSupport s).place = c.place := rfl

theorem place_addNested (c : Control) (r : ControlId) : (c.addNested r).place = c.place := by
  unfold Control.addNested
  split <;> rfl

theorem place_foldl_setSupport (ss : List Support) (c : Control) :
    (ss.foldl Control.setSupport c).place = c.place := by
  induction ss generalizing c with
  | nil => rfl
  | cons s ss ih => rw [List.foldl_cons, ih, place_setSupport]

theorem map_modify_same {α : Type} {part : Control → α} {cs : Array Control} {i : Nat}
    {g : Control → Control} (hg : ∀ c, part (g c) = part c) :
    (cs.modify i g).toList.map part = cs.toList.map part := by
  refine List.ext_getElem? fun j => ?_
  rw [List.getElem?_map, List.getElem?_map, Array.getElem?_toList, Array.getElem?_toList,
    Array.getElem?_modify]
  by_cases hij : i = j
  · subst hij
    rw [if_pos rfl]
    cases cs[i]? with
    | none => rfl
    | some c => exact congrArg some (hg c)
  · rw [if_neg hij]

theorem place_mem_places {t : ControlTree} {i : ControlId} {c : Control} (h : t.get? i = some c) :
    c.place ∈ t.places :=
  List.mem_map_of_mem (Array.mem_toList_iff.2 (Array.mem_of_getElem? h))

theorem places_modify {t : ControlTree} {i : ControlId} {g : Control → Control}
    (hg : ∀ c, (g c).place = c.place) : (t.modify i g).places = t.places :=
  map_modify_same hg

namespace TreeBuilder

/-- Of the records that there are, a new repeat changes that of the repeat around it. -/
theorem controls_indexKind (t : ControlTree) (c : Control) :
    (indexKind t c).controls =
      match if c.isRepeat then c.ancestorRepeat.bind t.get? else none with
      | none => t.controls
      | some outer => t.controls.modify outer.id fun r => r.addNested c.id := by
  cases hkind : c.kind <;> simp only [indexKind, Control.isRepeat, hkind]
  case repetition =>
    unfold indexRepeat
    cases c.ancestorRepeat.bind t.get? <;> rfl
  all_goals rfl

section Parts

variable {α : Type} {part : Control → α} (hnested : ∀ c r, part (c.addNested r) = part c)

include hnested

theorem map_controls_indexKind (t : ControlTree) (c : Control) :
    (indexKind t c).controls.toList.map part = t.controls.toList.map part := by
  rw [controls_indexKind]
  split
  · rfl
  · exact map_modify_same fun r => hnested r c.id

/-- A new control is the last one, and in the others nothing changes but the repeats in a repeat. -/
theorem map_controls_addControl (t : ControlTree) (c : Control) :
    (addControl t c).controls.toList.map part = t.controls.toList.map part ++ [part c] := by
  show ((indexKind t c).controls.push c).toList.map part = _
  rw [Array.toList_push, List.map_append, List.map_singleton, map_controls_indexKind hnested]

end Parts

theorem places_addControl (t : ControlTree) (c : Control) :
    (addControl t c).places = t.places ++ [c.place] :=
  map_controls_addControl place_addNested t c

section Keeps

/-! What a support element leaves alone. -/

variable {f : Form} {P : ControlTree → Prop}
  (hsupport : ∀ t i s, P t → P (t.modify i fun c => c.setSupport s))

include hsupport

theorem attach?_keeps {t t' : ControlTree} {e : ElementRef} (h : attach? t f e = some t')
    (ht : P t) : P t' := by
  unfold attach? at h
  split at h
  · obtain ⟨c, -, rfl⟩ := Option.map_eq_some_iff.1 h
    exact hsupport t c _ ht
  · obtain rfl := Option.some.inj h
    exact ht

theorem settle_keeps (e : ElementRef) {s : ControlTree × List Warning} (hs : P s.1) :
    P (settle f s e).1 := by
  unfold settle
  cases h : attach? s.1 f e with
  | none => exact hs
  | some t => exact attach?_keeps hsupport h hs

/-- Settling what waits for its control changes supports only. -/
theorem foldl_settle_keeps (es : List ElementRef) {s : ControlTree × List Warning} (hs : P s.1) :
    P (es.foldl (settle f) s).1 :=
  List.foldlRecOn (motive := fun s : ControlTree × List Warning => P s.1) es _ hs
    fun _ hs e _ => settle_keeps hsupport e hs

theorem settled_keeps {b : TreeBuilder} {t : ControlTree} {warnings : List Warning}
    (h : b.waiting.foldl (settle f) (b.tree, []) = (t, warnings)) (hb : P b.tree) : P t := by
  have hfst := foldl_settle_keeps (f := f) (s := (b.tree, [])) hsupport b.waiting hb
  rwa [h] at hfst

/-- A support element that is met opens and closes no control. -/
theorem step_support_keeps {b b' : TreeBuilder} {e : ElementRef}
    (h : step f b (.support e) = .ok b') (hb : P b.tree) : P b'.tree ∧ b'.frames = b.frames := by
  rw [step] at h
  cases hattach : attach? b.tree f e with
  | none =>
    rw [hattach] at h
    obtain rfl := Except.ok.inj h
    exact ⟨hb, rfl⟩
  | some t =>
    rw [hattach] at h
    obtain rfl := Except.ok.inj h
    exact ⟨attach?_keeps hsupport hattach hb, rfl⟩

end Keeps

section Readings

/-! What is read off a tree and not changed by a support. -/

variable {f : Form} {α : Type} {g : ControlTree → α}
  (hg : ∀ t i s, g (t.modify i fun c => c.setSupport s) = g t)

include hg

theorem settled_eq {b : TreeBuilder} {t : ControlTree} {warnings : List Warning}
    (h : b.waiting.foldl (settle f) (b.tree, []) = (t, warnings)) : g t = g b.tree :=
  settled_keeps (P := fun u => g u = g b.tree) (fun u i s hu => (hg u i s).trans hu) h rfl

theorem step_support_eq {b b' : TreeBuilder} {e : ElementRef}
    (h : step f b (.support e) = .ok b') : g b'.tree = g b.tree ∧ b'.frames = b.frames :=
  step_support_keeps (P := fun u => g u = g b.tree) (fun u i s hu => (hg u i s).trans hu) h rfl

end Readings

theorem places_modify_setSupport (t : ControlTree) (i : ControlId) (s : Support) :
    (t.modify i fun c => c.setSupport s).places = t.places :=
  places_modify fun c => place_setSupport c s

/-! ## The steps -/

/-- The record of a control is at the place of its element. -/
theorem place_controlOf {b : TreeBuilder} {f : Form} {e : ElementRef} {k : ElementClass}
    {c : Control} (h : b.controlOf f e k = .ok c) : c.place.In f ∧ c.element = e := by
  unfold controlOf at h
  cases hid : f.staticId? e with
  | none =>
    rw [hid] at h
    contradiction
  | some staticId =>
    rw [hid] at h
    obtain ⟨kind, -, h⟩ := ok_of_bind h
    have hplace : c.place = ⟨e, staticId, f.prefixOf e ++ staticId, f.scopeOf e⟩ := by
      obtain rfl := Except.ok.inj h
      split
      · rfl
      · exact place_foldl_setSupport _ _
    refine ⟨?_, congrArg Place.element hplace⟩
    rw [hplace]
    exact ⟨hid, rfl, rfl⟩

/-- A control that is met joins the tree, and declaring a variable changes nothing else of it. -/
theorem tree_start {b b' : TreeBuilder} {f : Form} {e : ElementRef} {k : ElementClass}
    (h : b.start f e k = .ok b') :
    ∃ c, b.controlOf f e k = .ok c ∧ b'.tree = addControl b.tree c := by
  obtain ⟨c, hc, h⟩ := ok_of_bind h
  obtain rfl := Except.ok.inj h
  refine ⟨c, hc, congrArg (addControl · c) ?_⟩
  split
  · unfold declareVariable
    split <;> rfl
  · rfl

theorem places_start {b b' : TreeBuilder} {f : Form} {e : ElementRef} {k : ElementClass}
    (h : b.start f e k = .ok b') :
    ∃ p : Place, b'.tree.places = b.tree.places ++ [p] ∧ p.In f ∧ p.element = e := by
  obtain ⟨c, hc, htree⟩ := tree_start h
  obtain ⟨hplace, helement⟩ := place_controlOf hc
  exact ⟨c.place, by rw [htree, places_addControl], hplace, helement⟩

/-- The controls so far are those of the visits so far. -/
structure Records (f : Form) (visits : List Visit) (b : TreeBuilder) : Prop where
  elements : b.tree.places.map Place.element = visits.filterMap Visit.control?
  placed : ∀ p ∈ b.tree.places, p.In f

theorem Records.step {f : Form} {visits : List Visit} {b b' : TreeBuilder} (h : Records f visits b)
    {v : Visit} (hstep : TreeBuilder.step f b v = .ok b') : Records f (visits ++ [v]) b' := by
  -- a visit begins a control and adds its place, or it begins none and adds no place
  have hstart : ∀ {e k b₁}, b.start f e k = .ok b₁ → v.control? = some e → b'.tree = b₁.tree →
      Records f (visits ++ [v]) b' := by
    intro e k b₁ hb₁ hv htree
    obtain ⟨p, hp, hin, rfl⟩ := places_start hb₁
    refine ⟨?_, ?_⟩
    · rw [htree, hp, List.map_append, h.elements, List.filterMap_append, List.filterMap_cons, hv]
      rfl
    · intro q hq
      rw [htree, hp, List.mem_append, List.mem_singleton] at hq
      rcases hq with hq | rfl
      · exact h.placed q hq
      · exact hin
  have hsame : v.control? = none → b'.tree.places = b.tree.places →
      Records f (visits ++ [v]) b' := by
    intro hv hplaces
    refine ⟨?_, by rw [hplaces]; exact h.placed⟩
    rw [hplaces, h.elements, List.filterMap_append, List.filterMap_cons, hv, List.filterMap_nil,
      List.append_nil]
  cases v with
  | enter e k =>
    obtain ⟨b₁, hb₁, hstep⟩ := ok_of_bind hstep
    obtain rfl := Except.ok.inj hstep
    exact hstart hb₁ rfl rfl
  | leave =>
    obtain rfl := Except.ok.inj hstep
    exact hsame rfl rfl
  | leaf e k => exact hstart hstep rfl rfl
  | support e =>
    exact hsame rfl (step_support_eq places_modify_setSupport hstep).1

theorem Records.run {f : Form} {visits before : List Visit} {b b' : TreeBuilder}
    (h : Records f before b) (hrun : visits.foldlM (TreeBuilder.step f) b = .ok b') :
    Records f (before ++ visits) b' :=
  foldlM_invariant_along hrun h fun _ _ _ _ _ hrecords hstep => hrecords.step hstep

end TreeBuilder

/-- A control tree is built in a run over the visits of the form, and then what waits is settled. -/
theorem exists_run {f : Form} {tree : ControlTree} {warnings : List Warning}
    (h : buildControlTree f = .ok (tree, warnings)) :
    ∃ visits b, f.visits = .ok visits ∧ visits.foldlM (TreeBuilder.step f) {} = .ok b ∧
      b.waiting.foldl (TreeBuilder.settle f) (b.tree, []) = (tree, warnings) := by
  obtain ⟨visits, hvisits, h⟩ := ok_of_bind h
  obtain ⟨b, hb, h⟩ := ok_of_bind h
  exact ⟨visits, b, hvisits, ok_of_mapError hb, Except.ok.inj h⟩

/-- **The controls are the visits that begin one**, each at the place of its element. -/
theorem places_buildControlTree {f : Form} {tree : ControlTree} {warnings : List Warning}
    (h : buildControlTree f = .ok (tree, warnings)) :
    ∃ visits, f.visits = .ok visits ∧
      tree.places.map Place.element = visits.filterMap Visit.control? ∧
      ∀ p ∈ tree.places, p.In f := by
  obtain ⟨visits, b, hvisits, hb, hsettled⟩ := exists_run h
  have hempty : TreeBuilder.Records f [] {} :=
    ⟨rfl, fun p hp => by simp [ControlTree.places] at hp⟩
  have hrecords : TreeBuilder.Records f visits b := hempty.run hb
  have hplaces : tree.places = b.tree.places :=
    TreeBuilder.settled_eq TreeBuilder.places_modify_setSupport hsettled
  rw [hplaces]
  exact ⟨visits, hvisits, hrecords.elements, hrecords.placed⟩

end FormEngine
