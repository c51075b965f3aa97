import FormEngine.Proofs.Control.Accounted
import FormEngine.Proofs.Document.Line
import FormEngine.Proofs.Event.Listing
import FormEngine.Proofs.Json.Assign
import FormEngine.Proofs.Scope.Parted
import FormEngine.Proofs.Scope.Unbound
/-!
# The observer around an element of a handler

When a handler is registered, the observer around it is recorded for every id in the handler, and a
later registration takes the place of an earlier one. Handlers are registered in document order. So of
the handlers around an element the innermost one counts that has an observer around it, and what is
recorded is an observer around that handler, which need not be the innermost thing around the element
that could observe events.

The forms are those without bindings in which no two elements of the controls document have one id.
The handlers of models come last; an id that is in none of them is safe.
-/

namespace FormEngine

namespace EventIndex

/-! ## One registration -/

theorem ancestorObservers_recordEvents (x : EventIndex) (i : Nat) (h : EventHandler) :
    (x.recordEvents i h).ancestorObservers = x.ancestorObservers := by
  obtain ⟨names, keys, heq⟩ := x.exists_recordEvents i h
  rw [heq]

theorem lookup_foldl_assign {α : Type} (key : String → String) (value : α) (names : List String)
    (m : List (String × α)) (k : String) :
    (names.foldl (fun m name => Json.assign (key name) value m) m).lookup k =
      if k ∈ names.map key then some value else m.lookup k := by
  induction names generalizing m with
  | nil => rfl
  | cons name names ih =>
    rw [List.foldl_cons, ih, lookup_assign, List.map_cons]
    by_cases hname : k = key name
    · simp [hname]
    · simp [hname]

theorem ancestorObserver?_recordAncestor (x : EventIndex) (h : EventHandler) (ids : List String)
    (id : String) : (x.recordAncestor h ids).ancestorObserver? id =
      (if id ∈ ids.map (h.scopePrefix ++ ·) then
        h.ancestorObserverStaticId.map (observerId h.scopePrefix) else none).or
          (x.ancestorObserver? id) := by
  unfold recordAncestor
  split
  · rename_i hnone
    rw [hnone, Option.map_none, ite_self, Option.none_or]
  · rename_i ancestor hsome
    rw [hsome, Option.map_some]
    refine (lookup_foldl_assign (h.scopePrefix ++ ·) _ ids x.ancestorObservers id).trans ?_
    split
    · rw [Option.some_or]
    · rw [Option.none_or]
      rfl

/-- **A registration records the observer around the handler for the ids in it.** -/
theorem ancestorObserver?_register (x : EventIndex) (h : EventHandler) (observersPrefix : String)
    (ids : List String) (id : String) :
    (x.register h observersPrefix ids).ancestorObserver? id =
      (if h.observersStaticIds.isEmpty = false ∧ id ∈ ids.map (h.scopePrefix ++ ·) then
        h.ancestorObserverStaticId.map (observerId h.scopePrefix) else none).or
          (x.ancestorObserver? id) := by
  unfold register
  cases hempty : h.observersStaticIds.isEmpty with
  | true => simp
  | false =>
    rw [if_neg Bool.false_ne_true]
    show (recordEvents _ _ h).ancestorObservers.lookup id = _
    rw [ancestorObservers_recordEvents]
    simp only [true_and]
    exact ancestorObserver?_recordAncestor _ h ids id

end EventIndex

/-! ## The handlers of the form -/

/-- The observer around a handler at an element of the form, by its prefixed id. -/
def Form.observerAround? (f : Form) (e : ElementRef) : Option String :=
  (f.ancestorObserver? e).map (EventIndex.observerId (f.prefixOf e))

/-- The prefixed ids in an element of the form. -/
def Form.idsIn (f : Form) (e : ElementRef) : List String :=
  ((f.document e.tree).subtreeIds e.node).map (f.prefixOf e ++ ·)

namespace EventIndex

/-- What is recorded for an id when the handler at an element is registered. -/
def records (f : Form) (controls : ControlTree) (id : String) (e : ElementRef) : Option String :=
  if accepts f controls e = true ∧ id ∈ f.idsIn e then f.observerAround? e else none

theorem ancestorObserver?_addHandler (f : Form) (controls : ControlTree) (x : EventIndex)
    (e : ElementRef) (id : String) : (addHandler f controls x e).ancestorObserver? id =
      (records f controls id e).or (x.ancestorObserver? id) := by
  rw [addHandler, records, accepts]
  cases f.admits controls e with
  | false => simp
  | true =>
    rw [if_pos rfl, ancestorObserver?_register]
    refine congrArg (fun o : Option String => o.or _) (if_congr (and_congr_left' ?_) rfl rfl)
    rw [Bool.true_and, Bool.not_eq_true']

/-- Of many handlers, the last one counts that has an observer around it. -/
theorem ancestorObserver?_addHandlers (f : Form) (controls : ControlTree) (es : List ElementRef)
    (x : EventIndex) (id : String) :
    (es.foldl (addHandler f controls) x).ancestorObserver? id =
      (es.reverse.findSome? (records f controls id)).or (x.ancestorObserver? id) := by
  induction es generalizing x with
  | nil => rfl
  | cons e es ih =>
    rw [List.foldl_cons, ih, ancestorObserver?_addHandler, List.reverse_cons,
      List.findSome?_append, List.findSome?_singleton, Option.or_assoc]

end EventIndex

/-! ## The handlers of the models -/

/-- The prefixed id is that of an element in a handler of the model. -/
def Model.Handles (m : Model) (t : ScopeTree) (id : String) : Prop :=
  ∃ n ∈ m.document.modelHandlers, id ∈ (m.document.subtreeIds n).map
    ((((t.scope? m.scope).map (·.fullPrefix)).getD "") ++ ·)

namespace EventIndex

/-- A model records nothing for an id that is in none of its handlers. -/
theorem ancestorObserver?_addModelHandlers {t : ScopeTree} {m : Model} {id : String}
    (hm : ¬m.Handles t id) (x : EventIndex) :
    (addModelHandlers t x m).ancestorObserver? id = x.ancestorObserver? id := by
  unfold addModelHandlers
  refine List.foldlRecOn (motive := fun y : EventIndex =>
    y.ancestorObserver? id = x.ancestorObserver? id) _ _ rfl fun y hy n hn => ?_
  rw [ancestorObserver?_register, if_neg, Option.none_or, hy]
  rintro ⟨-, hmem⟩
  exact hm ⟨n, hn, hmem⟩

theorem ancestorObserver?_foldl_addModelHandlers {t : ScopeTree} {ms : List Model} {id : String}
    (hms : ∀ m ∈ ms, ¬m.Handles t id) (x : EventIndex) :
    (ms.foldl (addModelHandlers t) x).ancestorObserver? id = x.ancestorObserver? id :=
  List.foldlRecOn (motive := fun y : EventIndex =>
    y.ancestorObserver? id = x.ancestorObserver? id) ms _ rfl fun y hy m hm =>
      (ancestorObserver?_addModelHandlers (hms m hm) y).trans hy

end EventIndex

/-- In a flat form the models are the given ones, at top level. -/
theorem models_modelIndex {t : ScopeTree} (h : t.Flat) (documents : List Document) :
    ∀ m ∈ (Analysis.modelIndex t documents).models, m.scope = 0 ∧ m.document ∈ documents := by
  have hadd : ∀ (ds : List Document) (x : ModelIndex), ds ⊆ documents →
      (∀ m ∈ x.models, m.scope = 0 ∧ m.document ∈ documents) →
      ∀ m ∈ (ds.foldl (fun x d => x.add Scope.top d) x).models,
        m.scope = 0 ∧ m.document ∈ documents := by
    intro ds x hds hx
    refine List.foldlRecOn (motive := fun x : ModelIndex => ∀ m ∈ x.models,
      m.scope = 0 ∧ m.document ∈ documents) ds _ hx fun x hx d hd m hm => ?_
    rw [ModelIndex.add] at hm
    dsimp only at hm
    split at hm
    · exact hx m hm
    · rcases List.mem_append.1 hm with hm | hm
      · exact hx m hm
      · obtain rfl := List.mem_singleton.1 hm
        exact ⟨rfl, hds hd⟩
  rw [Analysis.modelIndex, h.shadowTrees]
  exact hadd documents {} (List.Subset.refl _) (List.forall_mem_nil _)

/-! ## Handlers around an element -/

/-- No two elements of a document have one id. -/
theorem Document.IsForest.eq_of_staticId? {d : Document} (h : d.IsForest)
    (hnodup : d.staticIds.Nodup) {n m : NodeId} (hn : n ∈ d.descendants d.root)
    (hm : m ∈ d.descendants d.root) {id : String} (hnid : d.staticId? n = some id)
    (hmid : d.staticId? m = some id) : n = m := by
  obtain ⟨t, ht, -⟩ := h.exists_hasTree
  rw [ht.staticIds] at hnodup
  obtain ⟨s, hs, rfl⟩ := Tree.exists_subtree_of_mem_ids (ht.mem_descendants_root.1 hn).1
  obtain ⟨u, hu, rfl⟩ := Tree.exists_subtree_of_mem_ids (ht.mem_descendants_root.1 hm).1
  obtain ⟨p, hp⟩ := ht.holds.subtree hs
  obtain ⟨q, hq⟩ := ht.holds.subtree hu
  rw [hp.staticId?] at hnid
  rw [hq.staticId?] at hmid
  rw [Tree.eq_of_staticId? hnodup hs hu hnid hmid]

/-- An id is in a subtree exactly if the top of it is on the line of the element with the id. -/
theorem Document.IsForest.mem_subtreeIds_iff {d : Document} (h : d.IsForest)
    (hnodup : d.staticIds.Nodup) {n x : NodeId} (hn : n ∈ d.descendants d.root)
    (hx : x ∈ d.descendants d.root) {id : String} (hid : d.staticId? x = some id) :
    id ∈ d.subtreeIds n ↔ n ∈ d.line x := by
  have hlt : n < d.size := Document.lt_size_of_isElement (h.mem_descendants_root.1 hn).1
  rw [Document.subtreeIds, List.mem_filterMap]
  constructor
  · rintro ⟨y, hy, hyid⟩
    have helement : d.isElement y = true := Document.isElement_of_staticId? hyid
    have hline := (h.mem_descendants_iff hlt helement).1 hy
    have hyroot : y ∈ d.descendants d.root := by
      rw [h.mem_descendants_iff h.root_lt helement]
      exact h.mem_line_trans ((h.mem_descendants_iff h.root_lt (h.mem_descendants_root.1 hn).1).1 hn)
        hline
    rwa [h.eq_of_staticId? hnodup hyroot hx hyid hid] at hline
  · exact fun hline => ⟨x, (h.mem_descendants_iff hlt (h.mem_descendants_root.1 hx).1).2 hline, hid⟩

theorem findSome?_eq_filter {α β : Type} {f g : α → Option β} {p : α → Bool} {l : List α}
    (h : ∀ a ∈ l, f a = if p a = true then g a else none) :
    l.findSome? f = (l.filter p).findSome? g := by
  induction l with
  | nil => rfl
  | cons a l ih =>
    obtain ⟨ha, hl⟩ := List.forall_mem_cons.1 h
    rw [List.findSome?_cons, ha, ih hl, List.filter_cons]
    cases p a with
    | false => rfl
    | true => rw [if_pos rfl, if_pos rfl, List.findSome?_cons]

section Flat

variable {controls : Document} {t : ScopeTree} {tree : ControlTree} {x : NodeId} {id : String}
  (hflat : t.Flat) (hforest : controls.IsForest) (hnodup : controls.staticIds.Nodup)
  (hx : x ∈ controls.descendants controls.root) (hid : controls.staticId? x = some id)

include hforest hx

/-- In document order, the handlers on a line come from the outside in. -/
theorem filter_formHandlers (p : NodeId → Bool) :
    (controls.formHandlers.filter fun n => p n && (controls.line x).contains n) =
      ((controls.line x).filter fun n => controls.formHandlers.contains n && p n).reverse := by
  obtain ⟨q, hq⟩ : ∃ q : NodeId → Bool,
      controls.formHandlers = (controls.descendants controls.root).filter q :=
    ⟨_, List.filter_filter⟩
  have hmem : ∀ n ∈ controls.line x, controls.formHandlers.contains n = q n := by
    intro n hn
    rw [Bool.eq_iff_iff, List.contains_iff_mem, hq, List.mem_filter]
    exact and_iff_right (hforest.line_subset hx hn)
  calc (controls.formHandlers.filter fun n => p n && (controls.line x).contains n)
      = ((controls.descendants controls.root).filter fun n =>
          (controls.line x).contains n).filter fun n => q n && p n := by
        rw [hq, List.filter_filter, List.filter_filter]
        refine List.filter_congr fun n _ => ?_
        cases q n <;> cases (controls.line x).contains n <;> simp
    _ = ((controls.line x).filter fun n => q n && p n).reverse := by
        rw [hforest.filter_descendants_root hx, List.filter_reverse]
    _ = ((controls.line x).filter fun n => controls.formHandlers.contains n && p n).reverse :=
        congrArg List.reverse (List.filter_congr fun n hn => by rw [hmem n hn])

include hflat hnodup hid

/-- A handler is recorded for the element with the id if it is on the line of the element. -/
theorem EventIndex.records_eq {n : NodeId} (hn : n ∈ controls.descendants controls.root) :
    records ⟨controls, t⟩ tree id ⟨.controls, n⟩ =
      if (accepts ⟨controls, t⟩ tree ⟨.controls, n⟩ && (controls.line x).contains n) = true then
        Form.observerAround? ⟨controls, t⟩ ⟨.controls, n⟩ else none := by
  have hids : Form.idsIn ⟨controls, t⟩ ⟨.controls, n⟩ = controls.subtreeIds n := by
    rw [Form.idsIn, hflat.prefixOf]
    exact (List.map_congr_left fun _ _ => String.empty_append).trans (List.map_id _)
  rw [records, hids]
  refine if_congr ?_ rfl rfl
  rw [hforest.mem_subtreeIds_iff hnodup hn hx hid, Bool.and_eq_true, List.contains_iff_mem]

/-- **Of the handlers around an element, the innermost one counts** that has an observer around it. -/
theorem EventIndex.ancestorObserver?_addFormHandlers :
    (addFormHandlers ⟨controls, t⟩ tree {}).ancestorObserver? id =
      ((controls.line x).filter fun n => controls.formHandlers.contains n &&
        accepts ⟨controls, t⟩ tree ⟨.controls, n⟩).findSome? fun n =>
          Form.observerAround? ⟨controls, t⟩ ⟨.controls, n⟩ := by
  have hrecords : ∀ n ∈ controls.formHandlers.reverse,
      records ⟨controls, t⟩ tree id ⟨.controls, n⟩ =
        if (accepts ⟨controls, t⟩ tree ⟨.controls, n⟩ && (controls.line x).contains n) = true then
          Form.observerAround? ⟨controls, t⟩ ⟨.controls, n⟩ else none := fun n hn =>
    records_eq hflat hforest hnodup hx hid
      (List.mem_of_mem_filter (List.mem_of_mem_filter (List.mem_reverse.1 hn)))
  calc (addFormHandlers ⟨controls, t⟩ tree {}).ancestorObserver? id
      = (controls.formHandlers.map (ElementRef.mk .controls)).reverse.findSome?
          (records ⟨controls, t⟩ tree id) := by
        rw [addFormHandlers, hflat.trees, List.flatMap_singleton, candidates_controls,
          ancestorObserver?_addHandlers]
        exact Option.or_none
    _ = controls.formHandlers.reverse.findSome? fun n =>
          records ⟨controls, t⟩ tree id ⟨.controls, n⟩ := by
        rw [← List.map_reverse, List.findSome?_map]
        rfl
    _ = _ := by
        rw [findSome?_eq_filter hrecords, List.filter_reverse, filter_formHandlers hforest hx,
          List.reverse_reverse]

end Flat

namespace Analysis

variable {controls : Document} {models : List Document} {r : ComponentRegistry} {a : Analysis}

/-- The handlers of the form around an element of the controls document, the element itself
included, innermost first. -/
def handlersAround (a : Analysis) (controls : Document) (n : NodeId) : List NodeId :=
  (controls.line n).filter fun m => a.events.locations.contains (.form ⟨.controls, m⟩)

/-- The observer around the innermost of these handlers that has one. -/
def observerAround? (a : Analysis) (controls : Document) (n : NodeId) : Option String :=
  (a.handlersAround controls n).findSome? fun m =>
    (a.form controls).observerAround? ⟨.controls, m⟩

/-- **What is recorded for an element** of the controls document is the observer around the innermost
handler around it that has one. -/
theorem ancestorObserver?_eq (h : run controls models r = .ok a) (hr : r.bindings = [])
    (hforest : controls.IsForest) (hnodup : controls.staticIds.Nodup) {x : NodeId} {id : String}
    (hx : x ∈ controls.descendants controls.root) (hid : controls.staticId? x = some id)
    (hmodels : ∀ m ∈ models, ∀ n ∈ m.modelHandlers, id ∉ m.subtreeIds n) :
    a.events.ancestorObserver? id = a.observerAround? controls x := by
  obtain ⟨scopes, tree, hscopes, -, hfree, hindex, -, hevents⟩ := run_spec h
  have hflat := flat_resolveScopes hr hscopes
  rw [hflat.freeTemplates] at hfree
  have hunhandled : ∀ m ∈ a.models.models, ¬m.Handles scopes id := by
    rintro m hm ⟨n, hn, hid⟩
    rw [hindex] at hm
    obtain ⟨hscope, hdocument⟩ := models_modelIndex hflat models m hm
    obtain ⟨staticId, hstatic, heq⟩ := List.mem_map.1 hid
    rw [hscope, ScopeTree.scope?, hflat.scopes] at heq
    obtain rfl : staticId = id := String.empty_append.symm.trans heq
    exact hmodels m.document hdocument n hn hstatic
  have hlocated : ∀ n, a.events.locations.contains (.form ⟨.controls, n⟩) =
      (controls.formHandlers.contains n && EventIndex.accepts ⟨controls, scopes⟩
        (collectScripts ⟨controls, scopes⟩ a.models tree) ⟨.controls, n⟩) := by
    intro n
    rw [Bool.eq_iff_iff, List.contains_iff_mem, Bool.and_eq_true, List.contains_iff_mem, hevents,
      EventIndex.mem_locations_addModelHandlers, EventIndex.mem_locations_addFormHandlers]
  rw [observerAround?, handlersAround, funext hlocated, form, hfree, hevents,
    EventIndex.ancestorObserver?_foldl_addModelHandlers hunhandled,
    EventIndex.ancestorObserver?_addFormHandlers hflat hforest hnodup hx hid]

end Analysis

end FormEngine
