import FormEngine.Proofs.Event.Listing
/-!
# The parts of the index agree

A registration writes to the handlers, to the lists of the observers, to the names of events and to
the handlers of key presses, each in its own branch. Whatever is registered in whatever order, the
parts say the same. An event name is there if a handler has brought it, a handler is listed under
some observer, and the handlers of key presses are those among the handlers that list them. A handler
without observers is in none of the parts.

A handler that reacts to every event brings the name of all events and none of its others. So the
index knows an event by name only if a handler lists it and does not react to every event, and the
question whether there is any handler for an event has to look at both.
-/

namespace FormEngine

namespace EventHandler

/-- The events that the index takes from a handler. -/
def brings (h : EventHandler) : List String :=
  if h.isAllEvents then [Event.all] else h.eventNames

/-- The handler is one of key presses. -/
def isKeyHandler (h : EventHandler) : Bool :=
  !h.isAllEvents && h.eventNames.contains Event.keypress

/-- The handler is known to react to every event exactly if it lists the name of all events. -/
def Flagged (h : EventHandler) : Prop :=
  h.isAllEvents = h.eventNames.contains Event.all

/-- A handler lists an event but not the name of all events. -/
def Names (h : EventHandler) (event : String) : Prop :=
  Event.all ∉ h.eventNames ∧ event ∈ h.eventNames

instance (h : EventHandler) (event : String) : Decidable (h.Names event) := by
  unfold Names
  infer_instance

variable {h : EventHandler}

theorem Flagged.isAllEvents_iff (hf : h.Flagged) :
    h.isAllEvents = true ↔ Event.all ∈ h.eventNames := by
  rw [hf, List.contains_iff_mem]

theorem Flagged.isKeyHandler_iff (hf : h.Flagged) :
    h.isKeyHandler = true ↔ h.Names Event.keypress := by
  rw [isKeyHandler, Bool.and_eq_true, Bool.not_eq_true', ← Bool.not_eq_true, hf.isAllEvents_iff,
    List.contains_iff_mem, Names]

/-- What is brought besides the name of all events is listed without it. -/
theorem Flagged.mem_brings (hf : h.Flagged) {event : String} (hne : event ≠ Event.all) :
    event ∈ h.brings ↔ h.Names event := by
  rw [Names, ← hf.isAllEvents_iff, brings]
  cases h.isAllEvents with
  | true => simp [hne]
  | false => simp

/-- A handler reacts to what it brings, and to everything if it brings the name of all events. -/
theorem Flagged.handles_iff (hf : h.Flagged) {event : String} :
    h.handles event = true ↔ Event.all ∈ h.brings ∨ event ∈ h.brings := by
  have hall := hf.isAllEvents_iff
  rw [handles, brings, Bool.or_eq_true, List.contains_iff_mem]
  cases hflag : h.isAllEvents with
  | true => simp
  | false =>
    rw [hflag, Bool.false_eq_true, false_iff] at hall
    simp [hall]

end EventHandler

namespace EventIndex

variable {x : EventIndex}

/-! ## One registration -/

theorem mem_addName {names : List String} {name event : String} :
    event ∈ addName names name ↔ event ∈ names ∨ event = name := by
  rw [addName]
  split
  · rename_i hcontains
    refine ⟨Or.inl, fun hmem => hmem.elim id ?_⟩
    rintro rfl
    exact List.contains_iff_mem.1 hcontains
  · rw [List.mem_append, List.mem_singleton]

/-- The names of a handler that lists events, and its number among the handlers of key presses. -/
theorem recordNames (i : Nat) (names : List String) (x : EventIndex)
    (hkeys : x.keyHandlers.getLast? ≠ some i) :
    let y := names.foldl
      (fun x name =>
        { x with
          eventNames := addName x.eventNames name
          keyHandlers :=
            if name = Event.keypress ∧ x.keyHandlers.getLast? ≠ some i then x.keyHandlers ++ [i]
            else x.keyHandlers }) x
    (∀ event, event ∈ y.eventNames ↔ event ∈ x.eventNames ∨ event ∈ names) ∧
      y.keyHandlers = x.keyHandlers ++ if Event.keypress ∈ names then [i] else [] := by
  dsimp only
  induction names using List.reverseRecOn with
  | nil => simp
  | append_singleton names name ih =>
    rw [List.foldl_append, List.foldl_cons, List.foldl_nil]
    obtain ⟨hnames, hkeyHandlers⟩ := ih
    refine ⟨fun event => ?_, ?_⟩
    · rw [mem_addName, hnames, List.mem_append, List.mem_singleton, or_assoc]
    · dsimp only
      rw [hkeyHandlers]
      -- the number is put in with the first of the names that is the name of key presses
      by_cases hmem : Event.keypress ∈ names
      · simp [hmem]
      · by_cases hname : name = Event.keypress
        · simp [hmem, hname, hkeys]
        · simp [hmem, hname, Ne.symm hname]

theorem recordEvents_eq (x : EventIndex) (i : Nat) (h : EventHandler)
    (hkeys : x.keyHandlers.getLast? ≠ some i) :
    (∀ event, event ∈ (x.recordEvents i h).eventNames ↔ event ∈ x.eventNames ∨ event ∈ h.brings) ∧
      (x.recordEvents i h).keyHandlers = x.keyHandlers ++ if h.isKeyHandler then [i] else [] := by
  rw [recordEvents, EventHandler.brings, EventHandler.isKeyHandler]
  cases hflag : h.isAllEvents with
  | true =>
    refine ⟨fun event => ?_, (List.append_nil _).symm⟩
    simp only [if_true, mem_addName, List.mem_singleton]
  | false =>
    obtain ⟨hnames, hkeyHandlers⟩ := recordNames i h.eventNames x hkeys
    refine ⟨hnames, hkeyHandlers.trans ?_⟩
    simp only [Bool.not_false, Bool.true_and, List.contains_iff_mem]

theorem recordAncestor_events (x : EventIndex) (h : EventHandler) (ids : List String) :
    (x.recordAncestor h ids).eventNames = x.eventNames ∧
      (x.recordAncestor h ids).keyHandlers = x.keyHandlers := by
  unfold recordAncestor
  split <;> exact ⟨rfl, rfl⟩

/-- A handler with observers brings its events, and its number if it is one of key presses. -/
theorem events_register (x : EventIndex) {h : EventHandler}
    (hsome : h.observersStaticIds.isEmpty = false) (observersPrefix : String) (ids : List String)
    (hkeys : x.keyHandlers.getLast? ≠ some x.size) :
    (∀ event, event ∈ (x.register h observersPrefix ids).eventNames ↔
        event ∈ x.eventNames ∨ event ∈ h.brings) ∧
      (x.register h observersPrefix ids).keyHandlers =
        x.keyHandlers ++ if h.isKeyHandler then [x.size] else [] := by
  rw [register, if_neg (by rw [hsome]; exact Bool.false_ne_true)]
  dsimp only
  generalize h.observersStaticIds.foldl _ _ = byObserver
  obtain ⟨hnames, hkeyHandlers⟩ := recordAncestor_events { x with byObserver } h ids
  have hevents := recordEvents_eq ({ x with byObserver }.recordAncestor h ids) x.size h
    (by rw [hkeyHandlers]; exact hkeys)
  rwa [hnames, hkeyHandlers] at hevents

/-! ## A sequence of registrations -/

/-- The parts of the index say the same. -/
structure Consistent (x : EventIndex) : Prop where
  bounded : x.Bounded
  /-- Every handler is listed somewhere. -/
  listed : ∀ i < x.size, ∃ observer, i ∈ x.indicesFor observer
  /-- An event name is there if a handler has brought it. -/
  names : ∀ event, event ∈ x.eventNames ↔ ∃ h ∈ x.handlers, event ∈ h.brings
  keys : x.keyHandlers =
    (List.range x.size).filter fun i => (x.handlers[i]?).any (·.isKeyHandler)

theorem Consistent.empty : Consistent {} := by
  refine ⟨fun observer i hi => ?_, fun i hi => ?_, fun event => ?_, rfl⟩
  · simp [indicesFor] at hi
  · contradiction
  · simp

/-- The next number is not yet that of a handler of key presses. -/
theorem Consistent.getLast?_keyHandlers (hx : x.Consistent) :
    x.keyHandlers.getLast? ≠ some x.size := by
  intro hlast
  have hmem : x.size ∈ x.keyHandlers := List.mem_of_getLast? hlast
  rw [hx.keys, List.mem_filter, List.mem_range] at hmem
  exact Nat.lt_irrefl _ hmem.1

theorem Consistent.register (hx : x.Consistent) (h : EventHandler) (observersPrefix : String)
    (ids : List String) : (x.register h observersPrefix ids).Consistent := by
  cases hempty : h.observersStaticIds.isEmpty with
  | true =>
    rw [register_of_isEmpty hempty]
    exact hx
  | false =>
    have hhandlers := handlers_register x hempty observersPrefix ids
    obtain ⟨hnames, hkeys⟩ := events_register x hempty observersPrefix ids hx.getLast?_keyHandlers
    have hsize : (x.register h observersPrefix ids).size = x.size + 1 := by
      rw [size, hhandlers, Array.size_push]
      rfl
    refine ⟨hx.bounded.register h observersPrefix ids, fun i hi => ?_, fun event => ?_, ?_⟩
    · simp only [indicesFor_register, List.mem_append]
      rcases Nat.lt_succ_iff_lt_or_eq.1 (hsize ▸ hi) with hlt | rfl
      · obtain ⟨observer, hmem⟩ := hx.listed i hlt
        exact ⟨observer, .inl hmem⟩
      · -- the new handler is listed under the first observer that it names
        obtain ⟨o, ho⟩ := List.exists_mem_of_ne_nil _ (List.isEmpty_eq_false_iff.1 hempty)
        refine ⟨observerId observersPrefix o, .inr (List.mem_replicate.2 ⟨?_, rfl⟩)⟩
        exact Nat.ne_of_gt (List.count_pos_iff.2 (List.mem_map_of_mem ho))
    · rw [hnames, hx.names, hhandlers]
      simp only [Array.mem_push, or_and_right, exists_or, exists_eq_left]
    · rw [hkeys, hsize, List.range_succ, List.filter_append, hx.keys, hhandlers]
      congr 1
      · refine List.filter_congr fun i hi => ?_
        have hne : i ≠ x.handlers.size := Nat.ne_of_lt (List.mem_range.1 hi)
        rw [Array.getElem?_push, if_neg hne]
      · have hlast : (x.handlers.push h)[x.size]? = some h := Array.getElem?_push_size
        rw [List.filter_singleton, hlast, Option.any_some]
        cases h.isKeyHandler <;> rfl

/-- A handler on its way to the index, with the prefix of its observers and the ids in it. -/
structure Registration where
  handler : EventHandler
  observersPrefix : String
  subtreeIds : List String

/-- The index after a sequence of registrations. -/
def registerAll (rs : List Registration) : EventIndex :=
  rs.foldl (fun x r => x.register r.handler r.observersPrefix r.subtreeIds) {}

/-- The handlers of a sequence that have observers, in order. -/
def registered (rs : List Registration) : List EventHandler :=
  (rs.map (·.handler)).filter fun h => !h.observersStaticIds.isEmpty

theorem consistent_registerAll (rs : List Registration) : (registerAll rs).Consistent :=
  List.foldlRecOn (motive := Consistent) rs _ .empty fun _ hx r _ =>
    hx.register r.handler r.observersPrefix r.subtreeIds

/-- **The handlers of the index are those with observers**, in the order of registration. -/
theorem handlers_registerAll (rs : List Registration) :
    (registerAll rs).handlers.toList = registered rs := by
  induction rs using List.reverseRecOn with
  | nil => rfl
  | append_singleton rs r ih =>
    rw [registered, List.map_append, List.filter_append, ← registered, ← ih, registerAll,
      List.foldl_append, ← registerAll, List.foldl_cons, List.foldl_nil, List.map_singleton,
      List.filter_singleton]
    cases hempty : r.handler.observersStaticIds.isEmpty with
    | true =>
      rw [register_of_isEmpty hempty]
      exact (List.append_nil _).symm
    | false =>
      rw [handlers_register _ hempty, Array.toList_push]
      rfl

/-! ## What the index answers -/

theorem observerHandles_iff {observer event : String} :
    x.observerHandles observer event = true ↔
      ∃ i ∈ x.indicesFor observer, ∃ h, x.handlers[i]? = some h ∧ h.handles event = true := by
  rw [observerHandles, List.any_eq_true]
  simp only [handlersFor, List.mem_filterMap]
  constructor
  · rintro ⟨h, ⟨i, hi, hh⟩, hhandles⟩
    exact ⟨i, hi, h, hh, hhandles⟩
  · rintro ⟨i, hi, h, hh, hhandles⟩
    exact ⟨h, ⟨i, hi, hh⟩, hhandles⟩

/-- A handler reacts under some observer exactly if it is one of the index. -/
theorem Consistent.exists_observerHandles (hx : x.Consistent) {event : String} :
    (∃ observer, x.observerHandles observer event = true) ↔
      ∃ h ∈ x.handlers, h.handles event = true := by
  simp only [observerHandles_iff]
  constructor
  · rintro ⟨observer, i, -, h, hh, hhandles⟩
    exact ⟨h, Array.mem_of_getElem? hh, hhandles⟩
  · rintro ⟨h, hmem, hhandles⟩
    obtain ⟨i, hi, rfl⟩ := Array.mem_iff_getElem.1 hmem
    obtain ⟨observer, hlisted⟩ := hx.listed i hi
    exact ⟨observer, i, hlisted, _, Array.getElem?_eq_getElem hi, hhandles⟩

/-- What an index says of the handlers `hs`, which are numbered in order. -/
structure Reports (x : EventIndex) (hs : List EventHandler) : Prop where
  handlers : x.handlers.toList = hs
  /-- There is a handler for an event, be it one for every event, if some observer has one. -/
  any : ∀ event, x.hasHandlerFor event true = true ↔
    ∃ observer, x.observerHandles observer event = true
  /-- There is a handler for the event by name if one lists it that is not for every event. -/
  named : ∀ event, event ≠ Event.all →
    (x.hasHandlerFor event false = true ↔ ∃ h ∈ hs, h.Names event)
  /-- The handlers of key presses, each once and in order. -/
  increasing : x.keyHandlers.Pairwise (· < ·)
  keys : x.keyHandlers.map (x.handlers[·]?) = (hs.filter (·.Names Event.keypress)).map some

/-- The elements at the numbers that pass a test are the elements that pass it. -/
theorem map_getElem?_filter_range {α : Type} (xs : List α) (p : α → Bool) :
    ((List.range xs.length).filter fun i => (xs[i]?).any p).map (xs[·]?) =
      (xs.filter p).map some := by
  induction xs using List.reverseRecOn with
  | nil => rfl
  | append_singleton xs x ih =>
    rw [List.length_append, List.length_singleton, List.range_succ, List.filter_append,
      List.map_append, List.filter_append, List.map_append, ← ih]
    congr 1
    · have hfilter : ((List.range xs.length).filter fun i => ((xs ++ [x])[i]?).any p) =
          (List.range xs.length).filter fun i => (xs[i]?).any p := by
        refine List.filter_congr fun i hi => ?_
        rw [List.getElem?_append_left (List.mem_range.1 hi)]
      rw [hfilter]
      refine List.map_congr_left fun i hi => ?_
      exact List.getElem?_append_left (List.mem_range.1 (List.mem_filter.1 hi).1)
    · rw [List.filter_singleton, List.filter_singleton, List.getElem?_concat_length, Option.any_some]
      cases p x with
      | true => simp
      | false => rfl

theorem Consistent.reports (hx : x.Consistent)
    (hflagged : ∀ h ∈ x.handlers, h.Flagged) : x.Reports x.handlers.toList := by
  have hnames : ∀ event, x.eventNames.contains event = true ↔
      ∃ h ∈ x.handlers, event ∈ h.brings := fun event => by
    rw [List.contains_iff_mem, hx.names]
  refine ⟨rfl, fun event => ?_, fun event hne => ?_, ?_, ?_⟩
  · rw [hx.exists_observerHandles, hasHandlerFor, Bool.true_and, Bool.or_eq_true, hnames, hnames,
      ← exists_or]
    refine exists_congr fun h => ?_
    rw [← and_or_left]
    exact and_congr_right fun hmem => (hflagged h hmem).handles_iff.symm
  · rw [hasHandlerFor, Bool.false_and, Bool.false_or, hnames]
    simp only [Array.mem_toList_iff]
    exact exists_congr fun h => and_congr_right fun hmem => (hflagged h hmem).mem_brings hne
  · rw [hx.keys]
    exact List.pairwise_lt_range.filter _
  · have hkey : ∀ h ∈ x.handlers.toList, decide (h.Names Event.keypress) = h.isKeyHandler := by
      intro h hmem
      rw [Bool.eq_iff_iff, decide_eq_true_iff,
        (hflagged h (Array.mem_toList_iff.1 hmem)).isKeyHandler_iff]
    rw [List.filter_congr hkey, ← map_getElem?_filter_range, hx.keys, Array.length_toList]
    simp only [Array.getElem?_toList]
    rfl

/-- **The parts of an index agree, whatever is registered.** The handlers are those with observers;
there is a handler for an event exactly if some observer has one, and one by name exactly if a handler
lists it without the name of all events; the handlers of key presses are those that list them so, each
once and in order. -/
theorem reports_registerAll {rs : List Registration} (hflagged : ∀ r ∈ rs, r.handler.Flagged) :
    (registerAll rs).Reports (registered rs) := by
  have hmem : ∀ h ∈ (registerAll rs).handlers, h.Flagged := by
    intro h hh
    rw [← Array.mem_toList_iff, handlers_registerAll, registered, List.mem_filter] at hh
    obtain ⟨r, hr, rfl⟩ := List.mem_map.1 hh.1
    exact hflagged r hr
  rw [← handlers_registerAll]
  exact (consistent_registerAll rs).reports hmem

/-! ## A sequence with a handler of key presses -/

/-- A handler that listens on the observers for the events. -/
def listener (observers events : List String) : EventHandler where
  scopePrefix := ""
  staticId := none
  name := { uri := Namespace.xforms, localName := "action" }
  location := .model "m" 0
  observersStaticIds := observers
  ancestorObserverStaticId := none
  isAllEvents := events.contains Event.all
  eventNames := events
  targetIds := []

/-- A handler of every event, one of key presses, and one without observers. -/
def threeListeners : List Registration :=
  [⟨listener ["g"] ["#all", "keypress"], "", []⟩,
    ⟨listener ["g", "t"] ["keypress", "DOMActivate"], "a$", []⟩,
    ⟨listener [] ["keypress", "DOMFocusIn"], "", []⟩]

theorem reports_threeListeners : (∀ r ∈ threeListeners, r.handler.Flagged) ∧
    (registerAll threeListeners).Reports
      [listener ["g"] ["#all", "keypress"], listener ["g", "t"] ["keypress", "DOMActivate"]] := by
  have hflagged : ∀ r ∈ threeListeners, r.handler.Flagged := by
    intro r hr
    simp only [threeListeners, List.mem_cons, List.not_mem_nil, or_false] at hr
    rcases hr with rfl | rfl | rfl <;> rfl
  exact ⟨hflagged, reports_registerAll hflagged⟩

end EventIndex

end FormEngine
