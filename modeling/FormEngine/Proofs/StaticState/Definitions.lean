import FormEngine.Proofs.Document.Reading
import FormEngine.Proofs.StaticState.Passes
import FormEngine.StaticState.Basic
/-!
# Definitions in the control markup

A definition of a component takes effect through the instances of the component: the resolver and the
walk over the controls pass by every element of XBL, and a definition directly under the root of a
form is no control markup in the first place. The other passes over the controls document ask whether
markup is data of an instance and not whether it belongs to a definition. What the models, the event
handlers and the scripts of a form are at top level is therefore what the controls document holds of
them anywhere, definitions included, and definitions take no effect there when there is nothing of
the kind in them.

The models under the root of the form, and what stands in the documents of models, are left alone
here.
-/

namespace FormEngine

/-! ## What stands in a definition -/

namespace Document

/-- The node stands in a definition: it or an element around it is of XBL. -/
def inDefinition (d : Document) (n : NodeId) : Bool :=
  (n :: d.ancestors n).any fun a => (d.name? a).any fun name => name.uri == Namespace.xbl

/-- The models in a document, outside instances. -/
def modelElements (d : Document) : List NodeId :=
  (d.descendants d.root).filter fun m =>
    d.isNamed m Namespace.xforms "model" && !d.hasAncestorNamed m Namespace.xforms "instance"

/-- The scripts in a document, outside instances. -/
def scriptElements (d : Document) : List NodeId :=
  d.elementsNamed { uri := Namespace.xxforms, localName := "script" }

/-- The actions in a document that may be handlers, outside models and instances. -/
def formHandlers (d : Document) : List NodeId :=
  (d.eventHandlers true).filter fun n => (d.name? n).any (·.isAction)

/-- The actions in a document of a model that are its handlers. -/
def modelHandlers (d : Document) : List NodeId :=
  (d.eventHandlers false).filter fun n => (d.name? n).any (·.isAction)

end Document

/-! ## The handlers of the models -/

namespace Model

/-- The prefix of the scope of a model. -/
def prefixIn (m : Model) (t : ScopeTree) : String :=
  ((t.scope? m.scope).map (·.fullPrefix)).getD ""

/-- The handler of a model at an element of its document. -/
def handlerAt (m : Model) (t : ScopeTree) (n : NodeId) : EventHandler :=
  .ofElement m.document n (.model m.prefixedId n) (m.prefixIn t)
    ((m.document.parent? n).bind m.document.staticId?) (m.document.ancestorObserver? t n)

/-- The handlers of the model with observers. -/
def listening (m : Model) (t : ScopeTree) : List NodeId :=
  m.document.modelHandlers.filter fun n => !(m.handlerAt t n).observersStaticIds.isEmpty

end Model

/-! ## The handlers that are registered -/

namespace EventIndex

/-- Where the handlers stand, in the order of registration. -/
def locations (x : EventIndex) : List HandlerLocation := x.handlers.toList.map (·.location)

theorem handlers_recordAncestor (x : EventIndex) (h : EventHandler) (ids : List String) :
    (x.recordAncestor h ids).handlers = x.handlers := by
  unfold recordAncestor
  split <;> rfl

/-- The events of a handler are recorded in two places. -/
theorem exists_recordEvents (x : EventIndex) (i : Nat) (h : EventHandler) :
    ∃ names keys, x.recordEvents i h = { x with eventNames := names, keyHandlers := keys } := by
  unfold recordEvents
  split
  · exact ⟨_, x.keyHandlers, rfl⟩
  · refine List.foldlRecOn
      (motive := fun y : EventIndex =>
        ∃ names keys, y = { x with eventNames := names, keyHandlers := keys })
      h.eventNames _ ⟨x.eventNames, x.keyHandlers, rfl⟩ ?_
    rintro _ ⟨names, keys, rfl⟩ name -
    exact ⟨_, _, rfl⟩

theorem handlers_recordEvents (x : EventIndex) (i : Nat) (h : EventHandler) :
    (x.recordEvents i h).handlers = x.handlers := by
  obtain ⟨names, keys, heq⟩ := x.exists_recordEvents i h
  rw [heq]

/-- A handler is registered if it has observers. -/
theorem locations_register (x : EventIndex) (h : EventHandler) (observersPrefix : String)
    (ids : List String) :
    (x.register h observersPrefix ids).locations =
      x.locations ++ if h.observersStaticIds.isEmpty then [] else [h.location] := by
  unfold register
  split
  · rw [List.append_nil]
  · rw [locations, Array.toList_push, handlers_recordEvents, handlers_recordAncestor, List.map_append]
    rfl

/-- The handler at an element of the form is accepted and has observers. -/
def accepts (f : Form) (controls : ControlTree) (e : ElementRef) : Bool :=
  f.admits controls e && !(f.handlerAt e).observersStaticIds.isEmpty

theorem locations_addHandler (f : Form) (controls : ControlTree) (x : EventIndex) (e : ElementRef) :
    (addHandler f controls x e).locations =
      x.locations ++ if accepts f controls e then [.form e] else [] := by
  rw [addHandler, accepts]
  cases f.admits controls e with
  | false => exact (List.append_nil _).symm
  | true =>
    rw [if_pos rfl, locations_register, Bool.true_and]
    cases (f.handlerAt e).observersStaticIds.isEmpty <;> rfl

theorem locations_addHandlers (f : Form) (controls : ControlTree) (es : List ElementRef)
    (x : EventIndex) :
    (es.foldl (addHandler f controls) x).locations =
      x.locations ++ (es.filter (accepts f controls)).map .form := by
  induction es generalizing x with
  | nil => rw [List.foldl_nil, List.filter_nil, List.map_nil, List.append_nil]
  | cons e es ih =>
    rw [List.foldl_cons, ih, locations_addHandler, List.append_assoc, List.filter_cons]
    split <;> rfl

/-- The handlers of a model that have observers are registered. -/
theorem locations_addModelHandlers (t : ScopeTree) (x : EventIndex) (m : Model) :
    (addModelHandlers t x m).locations =
      x.locations ++ (m.listening t).map (.model m.prefixedId) := by
  have hfold : ∀ (nodes : List NodeId) (x : EventIndex),
      (nodes.foldl (fun x n => x.register (m.handlerAt t n) (m.prefixIn t)
        (m.document.subtreeIds n)) x).locations =
        x.locations ++ (nodes.filter fun n => !(m.handlerAt t n).observersStaticIds.isEmpty).map
          (.model m.prefixedId) := by
    intro nodes
    induction nodes with
    | nil => exact fun x => (List.append_nil _).symm
    | cons n nodes ih =>
      intro x
      rw [List.foldl_cons, ih, locations_register, List.append_assoc, List.filter_cons]
      cases (m.handlerAt t n).observersStaticIds.isEmpty <;> rfl
  exact hfold _ x

theorem candidates_controls (f : Form) :
    candidates f .controls = f.controls.formHandlers.map fun n => ⟨.controls, n⟩ := by
  unfold candidates Document.formHandlers
  refine congrArg (List.map _) (List.filter_congr fun n _ => ?_)
  exact Bool.true_and _

/-- Handlers in the controls document are registered wherever they stand. -/
theorem mem_locations_addFormHandlers (f : Form) (controls : ControlTree) (n : NodeId) :
    .form ⟨.controls, n⟩ ∈ (addFormHandlers f controls {}).locations ↔
      n ∈ f.controls.formHandlers ∧ accepts f controls ⟨.controls, n⟩ = true := by
  have hnone : (locations {}) = [] := rfl
  rw [addFormHandlers, locations_addHandlers, hnone, List.nil_append, List.mem_map]
  constructor
  · rintro ⟨e, he, heq⟩
    obtain rfl := HandlerLocation.form.inj heq
    obtain ⟨hmem, haccepts⟩ := List.mem_filter.1 he
    refine ⟨?_, haccepts⟩
    obtain ⟨tree, -, hmem⟩ := List.mem_flatMap.1 hmem
    have htree : tree = .controls := by
      obtain ⟨m, -, hm⟩ := List.mem_map.1 hmem
      exact congrArg ElementRef.tree hm
    rw [htree, candidates_controls, List.mem_map] at hmem
    obtain ⟨m, hm, heq⟩ := hmem
    obtain rfl : m = n := congrArg ElementRef.node heq
    exact hm
  · rintro ⟨hmem, haccepts⟩
    refine ⟨_, List.mem_filter.2 ⟨List.mem_flatMap.2 ⟨.controls, List.mem_cons_self, ?_⟩, haccepts⟩,
      rfl⟩
    rw [candidates_controls]
    exact List.mem_map_of_mem hmem

/-- Models add handlers that stand in models. -/
theorem locations_foldl_addModelHandlers (t : ScopeTree) (ms : List Model) (x : EventIndex) :
    (ms.foldl (addModelHandlers t) x).locations =
      x.locations ++ ms.flatMap fun m => (m.listening t).map (.model m.prefixedId) := by
  induction ms generalizing x with
  | nil => exact (List.append_nil _).symm
  | cons m ms ih =>
    rw [List.foldl_cons, ih, locations_addModelHandlers, List.append_assoc, List.flatMap_cons]

theorem form_notMem_locations (t : ScopeTree) (ms : List Model) (e : ElementRef) :
    HandlerLocation.form e ∉
      ms.flatMap fun m => (m.listening t).map (HandlerLocation.model m.prefixedId) := by
  intro hmem
  obtain ⟨m, -, hmem⟩ := List.mem_flatMap.1 hmem
  obtain ⟨n, -, heq⟩ := List.mem_map.1 hmem
  contradiction

/-- Models add no handlers that stand in the form. -/
theorem mem_locations_addModelHandlers (t : ScopeTree) (ms : List Model) (x : EventIndex)
    (e : ElementRef) :
    .form e ∈ (ms.foldl (addModelHandlers t) x).locations ↔ .form e ∈ x.locations := by
  rw [locations_foldl_addModelHandlers, List.mem_append,
    or_iff_left (form_notMem_locations t ms e)]

end EventIndex

/-! ## The scripts that are collected -/

namespace ControlTree

/-- Scripts are collected wherever they stand. -/
theorem mem_scripts_addScripts (t : ControlTree) {d : Document} {prefixOf : NodeId → String}
    {n : NodeId} (hn : n ∈ d.scriptElements) {id : String} (hid : d.staticId? n = some id) :
    prefixOf n ++ id ∈ (t.addScripts d prefixOf).scripts.map Prod.fst := by
  show _ ∈ (d.scriptElements.foldl (addScript d prefixOf) t).scripts.map Prod.fst
  obtain ⟨before, after, hsplit⟩ := List.append_of_mem hn
  rw [hsplit, List.foldl_append, List.foldl_cons]
  refine (Tagged.foldl (tagged_addScript d prefixOf) after _).scripts _ ?_
  generalize before.foldl (addScript d prefixOf) t = t'
  rw [addScript, hid]
  show _ ∈ (Json.assign _ _ _).map Prod.fst
  rw [Json.keys_assign]
  split
  · assumption
  · exact List.mem_append_right _ (List.mem_singleton.2 rfl)

end ControlTree

/-! ## The analysis -/

namespace Analysis

/-- The model documents of a form are registered at top level, in order and before all others. -/
theorem registrations_modelIndex (t : ScopeTree) (documents : List Document) :
    ∃ ids : List String, ids.length = documents.length ∧
      ids.map (Prod.mk 0) <+: (modelIndex t documents).registrations := by
  have hadd : ∀ (scope : Scope) (ds : List Document) (x : ModelIndex), ∃ ids : List String,
      ids.length = ds.length ∧ (ds.foldl (fun x d => x.add scope d) x).registrations =
        x.registrations ++ ids.map (Prod.mk scope.id) := by
    intro scope ds
    induction ds with
    | nil => exact fun x => ⟨[], rfl, (List.append_nil _).symm⟩
    | cons d ds ih =>
      intro x
      obtain ⟨ids, hlength, hids⟩ := ih (x.add scope d)
      refine ⟨(x.modelOf scope d).prefixedId :: ids, congrArg (· + 1) hlength, hids.trans ?_⟩
      exact List.append_assoc _ [_] _
  have hgrow : ∀ (scope : Scope) (ds : List Document) (x : ModelIndex),
      x.registrations <+: (ds.foldl (fun x d => x.add scope d) x).registrations := by
    intro scope ds x
    obtain ⟨ids, -, hids⟩ := hadd scope ds x
    exact ⟨_, hids.symm⟩
  obtain ⟨ids, hlength, hids⟩ := hadd Scope.top documents {}
  refine ⟨ids, hlength, ?_⟩
  have htop : ids.map (Prod.mk 0) =
      (documents.foldl (fun x d => x.add Scope.top d) ({} : ModelIndex)).registrations := hids.symm
  rw [htop, modelIndex]
  generalize documents.foldl (fun x d => x.add Scope.top d) ({} : ModelIndex) = x
  -- instance by instance, further documents come behind
  induction t.shadowTrees generalizing x with
  | nil => exact List.prefix_rfl
  | cons e entries ih =>
    rw [List.foldl_cons]
    refine List.IsPrefix.trans ?_ (ih _)
    split
    · exact List.prefix_rfl
    · rename_i scope _
      have hmap := hgrow scope ((templateModels e.2).map e.2.document.subtreeDocument) x
      rwa [List.foldl_map] at hmap

end Analysis

/-! ## Definitions without effect -/

namespace StaticState

/-- Nothing that stands in a definition takes effect at top level: no model is copied out of one, no
handler in one is registered, and no script in one is found under its id. -/
structure Inert (d : Document) (s : StaticState) (a : Analysis) : Prop where
  models : s.models = d.topLevelModels.map d.subtreeDocument ++
    (s.controls.modelElements.filter fun n => !s.controls.inDefinition n).map s.controls.subtreeDocument
  handlers : ∀ h ∈ a.events.handlers, ∀ n, h.location = .form ⟨.controls, n⟩ →
    s.controls.inDefinition n = false
  scripts : ∀ n ∈ s.controls.scriptElements, s.controls.inDefinition n = true →
    ∀ id, s.controls.staticId? n = some id → a.controls.scripts.lookup id = none

/-- The definitions of a controls document hold no model, no handler that would be accepted and no
script with an id. -/
structure Hollow (c : Document) (a : Analysis) : Prop where
  models : ∀ n ∈ c.modelElements, c.inDefinition n = false
  handlers : ∀ n ∈ c.formHandlers,
    EventIndex.accepts ⟨c, a.scopes⟩ a.controls ⟨.controls, n⟩ = true → c.inDefinition n = false
  scripts : ∀ n ∈ c.scriptElements, (c.staticId? n).isSome = true → c.inDefinition n = false

/-- The templates that an analysis drops, and the classes and scripts that it adds to the controls,
make no difference to which handlers are accepted. -/
theorem accepts_freeTemplates (c : Document) (t : ScopeTree) {controls controls' : ControlTree}
    (h : controls'.byPrefixedId = controls.byPrefixedId) (n : NodeId) :
    EventIndex.accepts ⟨c, t.freeTemplates⟩ controls' ⟨.controls, n⟩ =
      EventIndex.accepts ⟨c, t⟩ controls ⟨.controls, n⟩ := by
  have hcontains : controls'.contains = controls.contains := by
    funext id
    rw [ControlTree.contains, ControlTree.contains, ControlTree.id?, ControlTree.id?, h]
  rw [EventIndex.accepts, EventIndex.accepts, Form.admits, Form.admits, hcontains]
  rfl

/-- The models of a state are those under the root of the form and all others in the controls. -/
theorem models_ofDocument {uuid : String} {d : Document} {supplied : Option Document}
    {config : EngineConfig} {s : StaticState} (h : ofDocument uuid d supplied config = .ok s) :
    s.models = d.topLevelModels.map d.subtreeDocument ++
      s.controls.modelElements.map s.controls.subtreeDocument := by
  obtain ⟨p, hp, h⟩ := ok_of_bind h
  obtain rfl := Except.ok.inj h
  rw [FormParts.ofDocument] at hp
  obtain ⟨metadata, -, hp⟩ := ok_of_bind hp
  obtain ⟨properties, -, hp⟩ := ok_of_bind hp
  obtain ⟨components, -, hp⟩ := ok_of_bind hp
  obtain rfl := Except.ok.inj hp
  rfl

/-- Leaving out the models of the definitions leaves the models as they are if there are none. -/
theorem models_eq_iff {uuid : String} {d : Document} {supplied : Option Document}
    {config : EngineConfig} {s : StaticState} (h : ofDocument uuid d supplied config = .ok s) :
    (s.models = d.topLevelModels.map d.subtreeDocument ++
        (s.controls.modelElements.filter fun n => !s.controls.inDefinition n).map
          s.controls.subtreeDocument) ↔
      ∀ n ∈ s.controls.modelElements, s.controls.inDefinition n = false := by
  rw [models_ofDocument h, List.append_cancel_left_eq]
  constructor
  · intro h
    have hlength := congrArg List.length h
    rw [List.length_map, List.length_map, eq_comm, List.length_filter_eq_length_iff] at hlength
    exact fun n hn => by simpa using hlength n hn
  · intro h
    rw [List.filter_eq_self.2 fun n hn => by simpa using h n hn]

section Run

variable {c : Document} {models : List Document} {r : ComponentRegistry} {a : Analysis}

/-- The handlers registered for the controls markup are those of its actions that are accepted. -/
theorem registered_iff (ha : Analysis.run c models r = .ok a) (n : NodeId) :
    (∃ h ∈ a.events.handlers, h.location = .form ⟨.controls, n⟩) ↔
      n ∈ c.formHandlers ∧ EventIndex.accepts ⟨c, a.scopes⟩ a.controls ⟨.controls, n⟩ = true := by
  obtain ⟨scopes, tree, -, -, hscopes, -, hcontrols, hevents⟩ := Analysis.run_spec ha
  have htagged : ControlTree.Tagged (Analysis.collectScripts ⟨c, scopes⟩ a.models tree) a.controls :=
    hcontrols ▸ ControlTree.tagged_classifyOffline _ _ _
  rw [hscopes, accepts_freeTemplates c scopes htagged.byPrefixedId,
    ← EventIndex.mem_locations_addFormHandlers ⟨c, scopes⟩,
    ← EventIndex.mem_locations_addModelHandlers scopes a.models.models, ← hevents,
    EventIndex.locations, List.mem_map]
  simp only [Array.mem_toList_iff]

/-- A script of the controls markup with an id is found under the id. -/
theorem lookup_scripts_ne (ha : Analysis.run c models r = .ok a) {n : NodeId}
    (hn : n ∈ c.scriptElements) {id : String} (hid : c.staticId? n = some id) :
    a.controls.scripts.lookup id ≠ none := by
  obtain ⟨scopes, tree, -, -, -, -, hcontrols, -⟩ := Analysis.run_spec ha
  have htagged : ControlTree.Tagged (Analysis.collectScripts ⟨c, scopes⟩ a.models tree) a.controls :=
    hcontrols ▸ ControlTree.tagged_classifyOffline _ _ _
  have hcollected : "" ++ id ∈ (tree.addScripts c fun _ => "").scripts.map Prod.fst :=
    ControlTree.mem_scripts_addScripts tree hn hid
  have hkey := ((Analysis.tagged_collectScripts ⟨c, scopes⟩ a.models tree).trans
    htagged).scripts _ hcollected
  rw [String.empty_append] at hkey
  obtain ⟨e, he, rfl⟩ := List.mem_map.1 hkey
  intro hnone
  simpa using List.lookup_eq_none_iff.1 hnone e he

end Run

/-- **Definitions in the control markup are not passed over at top level.** The models of a form are
registered at top level one by one; and no markup of a definition takes effect there exactly if the
definitions hold no model, no handler that would be accepted and no script with an id. -/
theorem inert_iff_hollow {uuid : String} {d : Document} {supplied : Option Document}
    {config : EngineConfig} {s : StaticState} {a : Analysis}
    (hs : ofDocument uuid d supplied config = .ok s)
    (ha : Analysis.run s.controls s.models s.components = .ok a) :
    (∃ ids : List String, ids.length = s.models.length ∧
      ids.map (Prod.mk 0) <+: a.models.registrations) ∧
    (Inert d s a ↔ Hollow s.controls a) := by
  obtain ⟨scopes, tree, -, -, -, hmodels, -, -⟩ := Analysis.run_spec ha
  refine ⟨hmodels ▸ Analysis.registrations_modelIndex scopes s.models, ?_⟩
  have hcopied := models_eq_iff hs
  have hregistered := registered_iff ha
  constructor
  · rintro ⟨hinertModels, hinertHandlers, hinertScripts⟩
    refine ⟨hcopied.1 hinertModels, ?_, ?_⟩
    · intro n hn haccepts
      obtain ⟨h, hh, hlocation⟩ := (hregistered n).2 ⟨hn, haccepts⟩
      exact hinertHandlers h hh n hlocation
    · intro n hn hsome
      obtain ⟨id, hid⟩ := Option.isSome_iff_exists.1 hsome
      rw [← Bool.not_eq_true]
      exact fun hdefinition => lookup_scripts_ne ha hn hid (hinertScripts n hn hdefinition id hid)
  · rintro ⟨hhollowModels, hhollowHandlers, hhollowScripts⟩
    refine ⟨hcopied.2 hhollowModels, ?_, ?_⟩
    · intro h hh n hlocation
      obtain ⟨hn, haccepts⟩ := (hregistered n).1 ⟨h, hh, hlocation⟩
      exact hhollowHandlers n hn haccepts
    · intro n hn hdefinition id hid
      rw [hhollowScripts n hn (by rw [hid]; rfl)] at hdefinition
      contradiction

/-- A form with a definition in a block of its controls. The template of the definition holds a model,
a handler that names its observer, and a script. -/
def blockForm : Document :=
  { nodes :=
      #[{ kind := .element (.plain "static-state") [], children := [1] },
        { kind := .element { nsPrefix := "xh", uri := Namespace.xhtml, localName := "div" } []
          parent := some 0, children := [2] },
        { kind := .element { nsPrefix := "xbl", uri := Namespace.xbl, localName := "binding" }
            [⟨.plain "element", "xh|a"⟩]
          parent := some 1, children := [3] },
        { kind := .element { nsPrefix := "xbl", uri := Namespace.xbl, localName := "template" } []
          parent := some 2, children := [4, 5, 6] },
        { kind := .element { nsPrefix := "xf", uri := Namespace.xforms, localName := "model" }
            [⟨.plain "id", "m"⟩]
          parent := some 3 },
        { kind := .element { nsPrefix := "xf", uri := Namespace.xforms, localName := "action" }
            [⟨{ nsPrefix := "ev", uri := Namespace.events, localName := "event" }, "DOMActivate"⟩,
              ⟨{ nsPrefix := "ev", uri := Namespace.events, localName := "observer" }, "i"⟩]
          parent := some 3 },
        { kind := .element { nsPrefix := "xxf", uri := Namespace.xxforms, localName := "script" }
            [⟨.plain "id", "s"⟩]
          parent := some 3 }]
    root := 0
    namespaces := [("xh", Namespace.xhtml)] }

/-- The model, the observer and the script of `blockForm` that are known at top level, with the models
that stand in a definition. -/
theorem analysis_blockForm :
    ((ofDocument "" blockForm none {}).toOption.bind fun s =>
      (Analysis.run s.controls s.models s.components).toOption.map fun a =>
        (a.models.idsForScope 0, a.events.observers, a.controls.scripts.map Prod.fst,
          s.controls.modelElements.filter s.controls.inDefinition)) =
      some (["m"], ["i"], ["s"], [4]) := by
  decide +kernel

theorem exists_blockForm : ∃ s a, ofDocument "" blockForm none {} = .ok s ∧
    Analysis.run s.controls s.models s.components = .ok a ∧ a.models.idsForScope 0 = ["m"] ∧
    a.events.observers = ["i"] ∧ a.controls.scripts.map Prod.fst = ["s"] ∧
    s.controls.modelElements.filter s.controls.inDefinition = [4] := by
  obtain ⟨s, hs, hrun⟩ := ok_of_toOption_bind analysis_blockForm
  obtain ⟨a, ha, hrun⟩ := ok_of_toOption_map hrun
  simp only [Prod.mk.injEq] at hrun
  exact ⟨s, a, hs, ha, hrun⟩

/-- **Definitions take effect at top level.** The model of the definition in `blockForm` does. -/
theorem not_definitions_inert :
    ¬∀ (uuid : String) (d : Document) (supplied : Option Document) (config : EngineConfig)
      (s : StaticState) (a : Analysis), ofDocument uuid d supplied config = .ok s →
      Analysis.run s.controls s.models s.components = .ok a → Inert d s a := by
  intro hall
  obtain ⟨s, a, hs, ha, -, -, -, hdefinition⟩ := exists_blockForm
  have hinert := (hall "" blockForm none {} s a hs ha).models
  rw [models_ofDocument hs, List.append_cancel_left_eq] at hinert
  have hlength := congrArg List.length hinert
  rw [List.length_map, List.length_map, eq_comm, List.length_filter_eq_length_iff] at hlength
  have hmem : 4 ∈ s.controls.modelElements.filter s.controls.inDefinition := by
    rw [hdefinition]
    exact List.mem_singleton.2 rfl
  obtain ⟨hmodel, hin⟩ := List.mem_filter.1 hmem
  have hout := hlength 4 hmodel
  rw [hin] at hout
  contradiction

/-- The law at `blockForm`, whose definition is not hollow. -/
theorem inert_iff_hollow_blockForm : ∃ s a, ofDocument "" blockForm none {} = .ok s ∧
    Analysis.run s.controls s.models s.components = .ok a ∧
    s.controls.modelElements.filter s.controls.inDefinition = [4] ∧
    (∃ ids : List String, ids.length = s.models.length ∧
      ids.map (Prod.mk 0) <+: a.models.registrations) ∧
    (Inert blockForm s a ↔ Hollow s.controls a) := by
  obtain ⟨s, a, hs, ha, -, -, -, hdefinition⟩ := exists_blockForm
  exact ⟨s, a, hs, ha, hdefinition, inert_iff_hollow hs ha⟩

end StaticState

end FormEngine
