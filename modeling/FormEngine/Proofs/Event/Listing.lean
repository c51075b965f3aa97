import FormEngine.Proofs.Component.Links
import FormEngine.Proofs.Control.Nesting
import FormEngine.Proofs.StaticState.Definitions
/-!
# What is listed under an observer

A handler gets the next number when it is registered and is listed under an observer as often as it
names the observer. What is registered later gets other numbers, so how often a handler is listed,
and under what, is settled by its own registration. The elements of a form that may be handlers are
gone through once each, so a handler that names one observer is listed once.

The observer is named by its id with the prefix of the scope, but for the id that stands for the
whole form, which has no prefix anywhere.
-/

namespace FormEngine

namespace EventIndex

variable {x y z : EventIndex}

/-! ## One registration -/

theorem byObserver_recordAncestor (x : EventIndex) (h : EventHandler) (ids : List String) :
    (x.recordAncestor h ids).byObserver = x.byObserver := by
  unfold recordAncestor
  split <;> rfl

theorem byObserver_recordEvents (x : EventIndex) (i : Nat) (h : EventHandler) :
    (x.recordEvents i h).byObserver = x.byObserver := by
  obtain ⟨names, keys, heq⟩ := x.exists_recordEvents i h
  rw [heq]

theorem lookup_foldl_pushUnder (key : String → String) (i : Nat) (os : List String)
    (m : List (String × List Nat)) (observer : String) :
    ((os.foldl (fun m o => pushUnder (key o) i m) m).lookup observer).getD [] =
      (m.lookup observer).getD [] ++ List.replicate ((os.map key).count observer) i := by
  induction os generalizing m with
  | nil => exact (List.append_nil _).symm
  | cons o os ih =>
    rw [List.foldl_cons, ih, lookup_pushUnder, List.map_cons, List.count_cons]
    by_cases ho : observer = key o
    · subst ho
      rw [if_pos rfl, if_pos (beq_self_eq_true _), Option.getD_some, List.append_assoc,
        List.replicate_succ, List.singleton_append]
    · rw [if_neg ho, if_neg (by rw [beq_iff_eq]; exact Ne.symm ho), Nat.add_zero]

/-- **A handler is listed under an observer as often as it names the observer.** -/
theorem indicesFor_register (x : EventIndex) (h : EventHandler) (observersPrefix : String)
    (ids : List String) (observer : String) :
    (x.register h observersPrefix ids).indicesFor observer = x.indicesFor observer ++
      List.replicate ((h.observersStaticIds.map (observerId observersPrefix)).count observer)
        x.size := by
  unfold register
  split
  · rename_i hempty
    rw [List.isEmpty_iff.1 hempty]
    exact (List.append_nil _).symm
  · dsimp only
    rw [indicesFor, byObserver_recordEvents, byObserver_recordAncestor]
    exact lookup_foldl_pushUnder (observerId observersPrefix) x.size h.observersStaticIds
      x.byObserver observer

/-- **A handler without observers is not registered.** -/
theorem register_of_isEmpty {h : EventHandler} (hnone : h.observersStaticIds.isEmpty = true)
    (x : EventIndex) (observersPrefix : String) (ids : List String) :
    x.register h observersPrefix ids = x :=
  if_pos hnone

theorem handlers_register (x : EventIndex) {h : EventHandler}
    (hsome : h.observersStaticIds.isEmpty = false) (observersPrefix : String) (ids : List String) :
    (x.register h observersPrefix ids).handlers = x.handlers.push h := by
  rw [register, if_neg (by rw [hsome]; exact Bool.false_ne_true)]
  dsimp only
  rw [handlers_recordEvents, handlers_recordAncestor]

theorem length_locations (x : EventIndex) : x.locations.length = x.size := by
  rw [locations, List.length_map, Array.length_toList]
  rfl

/-! ## Many registrations -/

/-- The index has grown: handlers keep their numbers and are listed as before. -/
structure Extends (x y : EventIndex) : Prop where
  locations : x.locations <+: y.locations
  listed : ∀ i < x.size, ∀ observer,
    (y.indicesFor observer).count i = (x.indicesFor observer).count i

theorem Extends.refl (x : EventIndex) : x.Extends x := ⟨List.prefix_rfl, fun _ _ _ => rfl⟩

theorem Extends.size_le (h : x.Extends y) : x.size ≤ y.size := by
  rw [← length_locations, ← length_locations]
  exact h.locations.length_le

theorem Extends.register (h : x.Extends y) (handler : EventHandler) (observersPrefix : String)
    (ids : List String) : x.Extends (y.register handler observersPrefix ids) := by
  refine ⟨?_, fun i hi observer => ?_⟩
  · rw [locations_register]
    exact h.locations.trans (List.prefix_append _ _)
  · have hne : y.size ≠ i := Nat.ne_of_gt (Nat.lt_of_lt_of_le hi h.size_le)
    rw [indicesFor_register, List.count_append, h.listed i hi, List.count_replicate,
      if_neg (by rw [beq_iff_eq]; exact hne), Nat.add_zero]

theorem Extends.getElem?_locations (h : x.Extends y) {i : Nat} (hi : i < x.size) :
    y.locations[i]? = x.locations[i]? := by
  obtain ⟨more, hmore⟩ := h.locations
  rw [← length_locations] at hi
  rw [← hmore, List.getElem?_append_left hi]

/-- No number is listed that is not given yet. -/
def Bounded (x : EventIndex) : Prop :=
  ∀ observer, ∀ i ∈ x.indicesFor observer, i < x.size

theorem Bounded.register (h : x.Bounded) (handler : EventHandler) (observersPrefix : String)
    (ids : List String) : (x.register handler observersPrefix ids).Bounded := by
  intro observer i hi
  rw [indicesFor_register, List.mem_append, List.mem_replicate] at hi
  rw [← length_locations, locations_register, List.length_append, length_locations]
  rcases hi with hi | ⟨hcount, rfl⟩
  · exact Nat.lt_of_lt_of_le (h observer i hi) (Nat.le_add_right _ _)
  · -- a handler without observers is listed nowhere
    cases hnone : handler.observersStaticIds.isEmpty with
    | true =>
      rw [List.isEmpty_iff.1 hnone] at hcount
      contradiction
    | false =>
      rw [if_neg Bool.false_ne_true]
      exact Nat.lt_succ_self _

/-- A handler with one observer gets the next number, which is listed once. -/
theorem Bounded.register_one (h : x.Bounded) {handler : EventHandler} {o : String}
    (hobservers : handler.observersStaticIds = [o]) (observersPrefix : String)
    (ids : List String) :
    x.size < (x.register handler observersPrefix ids).size ∧
      (x.register handler observersPrefix ids).locations[x.size]? = some handler.location ∧
      ((x.register handler observersPrefix ids).indicesFor
        (observerId observersPrefix o)).count x.size = 1 := by
  have hlocations : (x.register handler observersPrefix ids).locations =
      x.locations ++ [handler.location] := by
    rw [locations_register, hobservers]
    rfl
  have hnone : (x.indicesFor (observerId observersPrefix o)).count x.size = 0 :=
    List.count_eq_zero.2 fun hmem => Nat.lt_irrefl _ (h _ _ hmem)
  refine ⟨?_, ?_, ?_⟩
  · rw [← length_locations, ← length_locations, hlocations, List.length_append]
    exact Nat.lt_succ_self _
  · rw [hlocations, ← length_locations, List.getElem?_concat_length]
  · rw [indicesFor_register, hobservers, List.count_append, hnone, List.map_singleton,
      List.count_singleton_self, List.count_replicate_self]

section Keeps

variable {P : EventIndex → Prop}
  (hregister : ∀ x handler observersPrefix ids, P x → P (x.register handler observersPrefix ids))

include hregister

/-- A handler at an element of the form is registered or passed over. -/
theorem addHandler_keeps (f : Form) (controls : ControlTree) (hx : P x) (e : ElementRef) :
    P (addHandler f controls x e) := by
  rw [addHandler]
  split
  · exact hregister _ _ _ _ hx
  · exact hx

theorem foldl_addHandler_keeps (f : Form) (controls : ControlTree) (hx : P x)
    (es : List ElementRef) : P (es.foldl (addHandler f controls) x) :=
  List.foldlRecOn (motive := P) es _ hx fun _ hy e _ =>
    addHandler_keeps hregister f controls hy e

theorem foldl_addModelHandlers_keeps (t : ScopeTree) (hx : P x) (ms : List Model) :
    P (ms.foldl (addModelHandlers t) x) := by
  refine List.foldlRecOn (motive := P) ms _ hx fun y hy m _ => ?_
  exact List.foldlRecOn (motive := P) _ _ hy fun z hz n _ => hregister _ _ _ _ hz

end Keeps

/-! ## The elements that may be handlers -/

theorem mem_candidates {f : Form} {e : ElementRef} {t : TreeRef} :
    e ∈ candidates f t ↔ e.tree = t ∧ e.node ∈ (f.document t).eventHandlers true ∧
      ((f.shadow? t).any fun s => s.isOuter e.node) = false ∧
      ((f.document t).name? e.node).any (·.isAction) = true := by
  rw [candidates, List.mem_map]
  constructor
  · rintro ⟨n, hn, rfl⟩
    obtain ⟨hselect, hn⟩ := List.mem_filter.1 hn
    rw [Bool.and_eq_true, Bool.not_eq_true'] at hn
    exact ⟨rfl, hselect, hn.1, hn.2⟩
  · rintro ⟨rfl, hselect, houter, haction⟩
    refine ⟨e.node, List.mem_filter.2 ⟨hselect, ?_⟩, rfl⟩
    rw [Bool.and_eq_true, Bool.not_eq_true']
    exact ⟨houter, haction⟩

/-- All elements of the form that may be handlers. -/
def allCandidates (f : Form) : List ElementRef := f.trees.flatMap (candidates f)

/-- **Each element of the form is gone through once.** -/
theorem nodup_allCandidates {f : Form} (hforest : ∀ t, (f.document t).IsForest) :
    (allCandidates f).Nodup := by
  have htrees : f.trees.Nodup := by
    rw [Form.trees, List.nodup_cons]
    refine ⟨fun hmem => ?_, ?_⟩
    · obtain ⟨i, -, hi⟩ := List.mem_map.1 hmem
      contradiction
    · exact List.nodup_range.map fun i j hij => TreeRef.shadow.inj hij
  refine List.nodup_flatMap.2 ⟨fun t _ => ?_, htrees.imp fun {t t'} hne => ?_⟩
  · refine List.Nodup.map (fun n m hnm => congrArg ElementRef.node hnm) (List.Nodup.filter _ ?_)
    exact (hforest t).nodup_descendants_root.filter _
  · intro e he he'
    exact hne ((mem_candidates.1 he).1.symm.trans (mem_candidates.1 he').1)

/-- The index of a form and its models. -/
def ofForm (f : Form) (controls : ControlTree) (t : ScopeTree) (ms : List Model) : EventIndex :=
  ms.foldl (addModelHandlers t) (addFormHandlers f controls {})

variable {f : Form} {controls : ControlTree} {t : ScopeTree} {ms : List Model} {e : ElementRef}
  {i j : Nat}

/-- A handler of the form stands at an element that may be one. -/
theorem mem_allCandidates (h : (ofForm f controls t ms).locations[i]? = some (.form e)) :
    e ∈ allCandidates f := by
  have hmem := List.mem_of_getElem? h
  rw [ofForm, mem_locations_addModelHandlers, addFormHandlers, locations_addHandlers] at hmem
  obtain ⟨e', he', heq⟩ := List.mem_map.1 hmem
  obtain rfl := HandlerLocation.form.inj heq
  exact List.mem_of_mem_filter he'

/-- **No element has two handlers.** -/
theorem number_unique (hforest : ∀ t, (f.document t).IsForest)
    (hi : (ofForm f controls t ms).locations[i]? = some (.form e))
    (hj : (ofForm f controls t ms).locations[j]? = some (.form e)) : i = j := by
  have hform : (addFormHandlers f controls {}).locations =
      ((allCandidates f).filter (accepts f controls)).map .form := by
    rw [addFormHandlers, locations_addHandlers]
    rfl
  have hnodup : (addFormHandlers f controls {}).locations.Nodup := by
    rw [hform]
    exact ((nodup_allCandidates hforest).filter _).map fun _ _ h => HandlerLocation.form.inj h
  rw [ofForm, locations_foldl_addModelHandlers] at hi hj
  have hmodels := form_notMem_locations t ms e
  generalize (addFormHandlers f controls {}).locations = ls at hi hj hnodup
  generalize (ms.flatMap fun m => (m.listening t).map (HandlerLocation.model m.prefixedId)) = more
    at hi hj hmodels
  have hlt : ∀ {k}, (ls ++ more)[k]? = some (.form e) → k < ls.length ∧ ls[k]? = some (.form e) := by
    intro k hk
    rcases Nat.lt_or_ge k ls.length with hlt | hge
    · rw [List.getElem?_append_left hlt] at hk
      exact ⟨hlt, hk⟩
    · rw [List.getElem?_append_right hge] at hk
      exact absurd (List.mem_of_getElem? hk) hmodels
  exact (List.getElem?_inj (hlt hi).1 hnodup).1 ((hlt hi).2.trans (hlt hj).2.symm)

/-! ## One observer -/

/-- The element names no observer, and the element around it is a control with the id `o`. -/
structure Answers (f : Form) (controls : ControlTree) (e : ElementRef) (o : String) : Prop where
  observer : (f.document e.tree).attribute? e.node Namespace.events "observer" = none
  inside : e.tree = .controls → (f.document e.tree).parent? e.node ≠ some (f.document e.tree).root
  parent : ((f.document e.tree).parent? e.node).bind (f.document e.tree).staticId? = some o
  control : controls.contains (f.prefixOf e ++ o) = true

/-- Such an element is registered under the element around it. -/
theorem Answers.register_eq {o : String} (h : Answers f controls e o) (x : EventIndex) :
    ∃ handler ids, addHandler f controls x e = x.register handler (f.prefixOf e) ids ∧
      handler.observersStaticIds = [o] ∧ handler.location = .form e := by
  have htop : f.isTopLevel e = false := by
    rw [Form.isTopLevel, Bool.and_eq_false_iff, beq_eq_false_iff_ne, beq_eq_false_iff_ne]
    by_cases hcontrols : e.tree = .controls
    · exact .inr (h.inside hcontrols)
    · exact .inl hcontrols
  have hnames : f.namesObservers e = false := by
    rw [Form.namesObservers, h.observer, Option.isSome_none]
  have hparent : f.parentStaticId? e = some o := by
    rw [Form.parentStaticId?, htop, if_neg Bool.false_ne_true, h.parent]
  have hadmits : f.admits controls e = true := by
    rw [Form.admits, hparent, Option.map_some, Option.any_some, h.control]
    simp only [Bool.or_true]
  refine ⟨f.handlerAt e, (f.document e.tree).subtreeIds e.node, ?_, ?_, rfl⟩
  · rw [addHandler, hadmits, if_pos rfl, Form.observersPrefix, hnames]
  · rw [Form.handlerAt, EventHandler.ofElement, h.observer, hparent]
    rfl

/-- **An element that answers has one handler, which is listed once** under the element around it. -/
theorem Answers.listed_once {o : String} (h : Answers f controls e o) (t : ScopeTree)
    (ms : List Model) (he : e ∈ allCandidates f) :
    ∃ i, (ofForm f controls t ms).locations[i]? = some (.form e) ∧
      ((ofForm f controls t ms).indicesFor (observerId (f.prefixOf e) o)).count i = 1 := by
  obtain ⟨before, after, hsplit⟩ := List.append_of_mem he
  have hform : addFormHandlers f controls {} =
      after.foldl (addHandler f controls)
        (addHandler f controls (before.foldl (addHandler f controls) {}) e) := by
    have hfold : addFormHandlers f controls {} =
        (allCandidates f).foldl (addHandler f controls) {} := rfl
    rw [hfold, hsplit, List.foldl_append, List.foldl_cons]
  have hempty : Bounded {} := fun observer i hi => by simp [indicesFor] at hi
  have hbounded : (before.foldl (addHandler f controls) {}).Bounded :=
    foldl_addHandler_keeps (fun x handler p ids hx => hx.register handler p ids) f controls hempty
      before
  rw [ofForm, hform]
  generalize before.foldl (addHandler f controls) {} = x at hbounded ⊢
  obtain ⟨handler, ids, hadd, hobservers, hlocation⟩ := h.register_eq x
  rw [hadd]
  obtain ⟨hsize, hnew, hcount⟩ := hbounded.register_one hobservers (f.prefixOf e) ids
  rw [hlocation] at hnew
  -- the rest of the form and the models only add to what is registered by then
  have hextends : (x.register handler (f.prefixOf e) ids).Extends
      (ms.foldl (addModelHandlers t)
        (after.foldl (addHandler f controls) (x.register handler (f.prefixOf e) ids))) :=
    foldl_addModelHandlers_keeps (fun z handler p ids hz => hz.register handler p ids) t
      (foldl_addHandler_keeps (fun z handler p ids hz => hz.register handler p ids) f controls
        (.refl _) after) ms
  exact ⟨x.size, (hextends.getElem?_locations hsize).trans hnew,
    (hextends.listed _ hsize _).trans hcount⟩

end EventIndex

end FormEngine
