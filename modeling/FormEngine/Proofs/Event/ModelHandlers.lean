import FormEngine.Proofs.Document.Built
import FormEngine.Proofs.Document.Line
import FormEngine.Proofs.Event.Multiplicity
import FormEngine.Proofs.StaticState.Models
import Mathlib.Data.List.Count
/-!
# The handlers at the top of a model

An action directly under a model that names no observer listens on the model. The search for handlers
finds it wherever the model stands, but its observer is read off the element of the model, and a
handler without observers is not registered. So such an action is registered once, under its model,
if the element has an id. The id that is made up for a model without one is no observer of anything.

A model whose id is the reserved one is told apart from the whole form only by the prefix of its
scope, which observers with this id do not have.
-/

namespace FormEngine

/-! ## The actions at the top of a model -/

namespace Document

variable {d : Document} {n : NodeId}

/-- The actions directly under the root that list events and name no observer. -/
def topActions (d : Document) : List NodeId :=
  (d.childElements d.root).filter fun n => (d.name? n).any (·.isAction) &&
    ((d.attribute? n Namespace.events "event").isSome &&
      !(d.attribute? n Namespace.events "observer").isSome)

theorem mem_topActions : n ∈ d.topActions ↔ n ∈ d.childElements d.root ∧
    (d.name? n).any (·.isAction) = true ∧ (d.attribute? n Namespace.events "event").isSome = true ∧
      (d.attribute? n Namespace.events "observer").isSome = false := by
  rw [topActions, List.mem_filter, Bool.and_eq_true, Bool.and_eq_true, Bool.not_eq_true']

theorem IsForest.parent?_of_mem_topActions (h : d.IsForest) (hn : n ∈ d.topActions) :
    d.parent? n = some d.root :=
  (h.linked d.root h.root_lt).back n (List.mem_of_mem_filter (mem_topActions.1 hn).1)

/-- A node has one name. -/
theorem isNamed_eq_false_of_ne {uri localName other : String} (h : d.isNamed n uri localName = true)
    (hne : localName ≠ other) : d.isNamed n uri other = false := by
  rw [isNamed, Option.any_eq_true] at h
  obtain ⟨name, hname, his⟩ := h
  rw [QName.is_iff] at his
  rw [isNamed, hname, Option.any_some, QName.is, his.2, beq_false_of_ne hne, Bool.and_false]

/-- **The actions at the top of a model are found**: only the model is around them. -/
theorem IsModel.topActions_subset (h : d.IsModel) : d.topActions ⊆ d.modelHandlers := by
  intro n hn
  have hparent := h.forest.parent?_of_mem_topActions hn
  obtain ⟨hchild, haction, hevent, -⟩ := mem_topActions.1 hn
  have hancestors : d.ancestors n = [d.root] := by
    rw [h.forest.ancestors_of_parent? hparent, ancestors_of_parent?_eq_none h.forest.root_parent]
  have hdescendant : n ∈ d.descendants d.root :=
    h.forest.mem_descendants_root.2 ⟨(List.mem_filter.1 hchild).2, .inr (by simp [hancestors])⟩
  have houtside : d.inInstance n = false := by
    rw [inInstance, hasAncestorNamed, hancestors, List.any_cons, List.any_nil, Bool.or_false]
    exact isNamed_eq_false_of_ne h.named (by decide)
  have hknown : d.hasKnownObserver n = true := by
    rw [hasKnownObserver, hparent, Bool.or_eq_true]
    exact .inr (beq_self_eq_true _)
  refine List.mem_filter.2 ⟨List.mem_filter.2 ⟨hdescendant, ?_⟩, haction⟩
  rw [hevent, houtside, hknown]
  rfl

theorem IsForest.nodup_modelHandlers (h : d.IsForest) : d.modelHandlers.Nodup :=
  (h.nodup_descendants_root.filter _).filter _

end Document

namespace Model

variable {m : Model} {t : ScopeTree} {n : NodeId}

/-- The id of the element of the model. -/
def elementId? (m : Model) : Option String := m.document.staticId? m.document.root

/-- **The observer of an action at the top of a model is the element of the model.** -/
theorem Sits.observersStaticIds (h : m.Sits t) (hn : n ∈ m.document.topActions) :
    (m.handlerAt t n).observersStaticIds = m.elementId?.toList := by
  rw [handlerAt, EventHandler.ofElement]
  dsimp only
  rw [(Document.mem_topActions.1 hn).2.2.2, if_neg Bool.false_ne_true,
    h.document.forest.parent?_of_mem_topActions hn]
  rfl

theorem Sits.mem_listening_iff (h : m.Sits t) (hn : n ∈ m.document.topActions) :
    n ∈ m.listening t ↔ m.elementId?.isSome = true := by
  rw [listening, List.mem_filter, and_iff_right (h.document.topActions_subset hn),
    h.observersStaticIds hn]
  cases m.elementId? <;> simp

/-- A model is kept under its id with the prefix of its scope. -/
theorem Sits.prefixedId_eq (h : m.Sits t) {id : String} (hid : m.elementId? = some id) :
    m.prefixedId = m.prefixIn t ++ id := by
  obtain ⟨scope, hscope, hprefixed⟩ := h.scope
  rw [hprefixed, h.staticId id hid, prefixIn, hscope]
  rfl

/-- The observer with the id of the element is the model, but for the reserved id in a scope with a
prefix. -/
theorem Sits.prefixedId_eq_observerId_iff (h : m.Sits t) {id : String}
    (hid : m.elementId? = some id) :
    m.prefixedId = EventIndex.observerId (m.prefixIn t) id ↔
      (id = Event.documentObserver → m.prefixIn t = "") := by
  rw [h.prefixedId_eq hid, EventIndex.observerId]
  split
  · rename_i hreserved
    rw [← String.toList_inj, String.toList_append, List.append_left_eq_self,
      imp_iff_right hreserved]
    exact String.toList_eq_nil_iff
  · rename_i hother
    exact iff_of_true rfl fun hreserved => absurd hreserved hother

end Model

/-! ## Where handlers of models stand -/

namespace EventIndex

variable {f : Form} {controls : ControlTree} {t : ScopeTree} {ms : List Model} {m : Model}
  {n : NodeId}

/-- **At an element of a model stands one handler**, if it is a handler with observers there. -/
theorem count_locations_ofForm (hms : (ms.map (·.prefixedId)).Nodup) (hm : m ∈ ms)
    (hforest : m.document.IsForest) :
    (ofForm f controls t ms).locations.count (.model m.prefixedId n) =
      if n ∈ m.listening t then 1 else 0 := by
  have hform : (addFormHandlers f controls {}).locations.count (.model m.prefixedId n) = 0 := by
    rw [addFormHandlers, locations_addHandlers]
    refine List.count_eq_zero.2 fun hmem => ?_
    obtain ⟨e, -, he⟩ := List.mem_map.1 hmem
    contradiction
  obtain ⟨before, after, rfl⟩ := List.append_of_mem hm
  rw [List.map_append, List.map_cons, List.nodup_middle, List.nodup_cons, ← List.map_append] at hms
  -- the other models have other prefixed ids
  have hothers : ∀ others ⊆ before ++ after,
      (others.flatMap fun m => (m.listening t).map (.model m.prefixedId)).count
        (HandlerLocation.model m.prefixedId n) = 0 := by
    intro others hsub
    refine List.count_eq_zero.2 fun hmem => ?_
    obtain ⟨m', hm', hmem⟩ := List.mem_flatMap.1 hmem
    obtain ⟨n', -, heq⟩ := List.mem_map.1 hmem
    exact hms.1 (List.mem_map.2 ⟨m', hsub hm', (HandlerLocation.model.inj heq).1⟩)
  have hself : ((m.listening t).map (.model m.prefixedId)).count
      (HandlerLocation.model m.prefixedId n) = (m.listening t).count n :=
    List.count_map_of_injective _ _ (fun _ _ h => (HandlerLocation.model.inj h).2) n
  rw [ofForm, locations_foldl_addModelHandlers, List.count_append, hform, List.flatMap_append, List.flatMap_cons,
    List.count_append, List.count_append, hothers before (List.subset_append_left _ _),
    hothers after (List.subset_append_right _ _), hself, Nat.zero_add, Nat.zero_add, Nat.add_zero]
  exact (hforest.nodup_modelHandlers.filter _).count

/-- **A handler at an element of a model is the one of that element**, and it is listed as often as
this names the observer. -/
theorem Tallies.of_model {x : EventIndex} (hx : x.Tallies (Registers f ms))
    (hms : (ms.map (·.prefixedId)).Nodup) (hm : m ∈ ms) {i : Nat}
    (hi : x.locations[i]? = some (.model m.prefixedId n)) (observer : String) :
    (x.indicesFor observer).count i =
      ((m.handlerAt f.scopes n).observersStaticIds.map
        (observerId (m.prefixIn f.scopes))).count observer := by
  rw [locations, List.getElem?_map, Option.map_eq_some_iff] at hi
  obtain ⟨h, hh, hlocation⟩ := hi
  obtain ⟨p, hregisters, hcount⟩ := hx.counted i h (by rwa [← Array.getElem?_toList])
  cases hregisters with
  | form e => contradiction
  | model hm' hn' =>
    obtain ⟨hid, rfl⟩ := HandlerLocation.model.inj hlocation
    obtain rfl := List.inj_on_of_nodup_map hms hm' hm hid
    exact hcount observer

theorem exists_handlersFor_iff {x : EventIndex} {observer : String} {l : HandlerLocation} :
    (∃ h ∈ x.handlersFor observer, h.location = l) ↔
      ∃ i ∈ x.indicesFor observer, x.locations[i]? = some l := by
  have hlocations : ∀ i, x.locations[i]? = x.handlers[i]?.map EventHandler.location := fun i => by
    rw [locations, List.getElem?_map, Array.getElem?_toList]
  constructor
  · rintro ⟨h, hh, hl⟩
    obtain ⟨i, hi, hget⟩ := List.mem_filterMap.1 hh
    exact ⟨i, hi, by rw [hlocations, hget, Option.map_some, hl]⟩
  · rintro ⟨i, hi, hl⟩
    rw [hlocations, Option.map_eq_some_iff] at hl
    obtain ⟨h, hget, hl⟩ := hl
    exact ⟨h, List.mem_filterMap.2 ⟨i, hi, hget⟩, hl⟩

/-- A handler that is registered and listed under the element of a model is listed under the model. -/
theorem exists_handlersFor_model_iff {x : EventIndex} (hsits : m.Sits t) {l : HandlerLocation}
    (hregistered : x.locations.count l = if m.elementId?.isSome = true then 1 else 0)
    (hlisted : ∀ i id, x.locations[i]? = some l → m.elementId? = some id → ∀ observer,
      (x.indicesFor observer).count i = if observer = observerId (m.prefixIn t) id then 1 else 0) :
    (∃ h ∈ x.handlersFor m.prefixedId, h.location = l) ↔
      ∃ id, m.elementId? = some id ∧ (id = Event.documentObserver → m.prefixIn t = "") := by
  rw [exists_handlersFor_iff]
  constructor
  · rintro ⟨i, hi, hl⟩
    cases hid : m.elementId? with
    | none =>
      rw [hid] at hregistered
      exact absurd (List.mem_of_getElem? hl) (List.count_eq_zero.1 hregistered)
    | some id =>
      refine ⟨id, rfl, (hsits.prefixedId_eq_observerId_iff hid).1 ?_⟩
      -- the handler is in no other list
      by_contra hother
      have hcount := hlisted i id hl hid m.prefixedId
      rw [if_neg hother] at hcount
      exact List.count_eq_zero.1 hcount hi
  · rintro ⟨id, hid, hreserved⟩
    rw [← hsits.prefixedId_eq_observerId_iff hid] at hreserved
    rw [hid] at hregistered
    have hmem : l ∈ x.locations := by
      rw [← List.count_pos_iff, hregistered]
      exact Nat.one_pos
    obtain ⟨i, hi⟩ := List.mem_iff_getElem?.1 hmem
    refine ⟨i, ?_, hi⟩
    rw [← List.count_pos_iff, hlisted i id hi hid, if_pos hreserved]
    exact Nat.one_pos

end EventIndex

/-! ## The handlers at the top of the models of a form -/

/-- How an analysis holds an action at the top of a model. -/
structure Analysis.HoldsTopAction (a : Analysis) (m : Model) (n : NodeId) : Prop where
  /-- It is registered once if the element of the model has an id, and else it is not. -/
  registered : a.events.locations.count (.model m.prefixedId n) =
    if m.elementId?.isSome = true then 1 else 0
  /-- Its handler is listed once, under the observer with this id. -/
  listed : ∀ i id, a.events.locations[i]? = some (.model m.prefixedId n) →
    m.elementId? = some id → ∀ observer, (a.events.indicesFor observer).count i =
      if observer = EventIndex.observerId (m.prefixIn a.scopes) id then 1 else 0
  /-- The observer is the model, but for the reserved id in a scope with a prefix. -/
  under_iff : (∃ h ∈ a.events.handlersFor m.prefixedId, h.location = .model m.prefixedId n) ↔
    ∃ id, m.elementId? = some id ∧ (id = Event.documentObserver → m.prefixIn a.scopes = "")

namespace FormParts

variable {d : Document} {config : EngineConfig} {p : FormParts} {a : Analysis}

/-- **In every form the actions at the top of a model that name no observer are registered exactly if
the element of the model has an id**, whatever scope the model is in. They are listed under the model
then, but for the reserved id in a scope with a prefix. -/
theorem holdsTopAction_of_mem_topActions (hd : d.Built) (hp : ofDocument d config = .ok p)
    (ha : Analysis.run p.controls p.models p.components = .ok a) :
    ∀ m ∈ a.models.models, ∀ n ∈ m.document.topActions, a.HoldsTopAction m n := by
  intro m hm n hn
  have hwell := wellFormed_ofDocument hd.sound.forest hp
  obtain ⟨t, tree, hscopes, hfree, hmodels, hevents⟩ := Analysis.exists_ofForm ha
  have hsound := Analysis.sound_modelIndex
    (planted_resolveScopes hwell.controls hwell.components hscopes) hwell.models
  rw [← hmodels] at hsound
  have hsits := hsound.sits m hm
  have hsame : m.prefixIn a.scopes = m.prefixIn t := by rw [hfree]; rfl
  have hregistered : a.events.locations.count (.model m.prefixedId n) =
      if m.elementId?.isSome = true then 1 else 0 := by
    rw [hevents, EventIndex.count_locations_ofForm hsound.nodup hm hsits.document.forest]
    exact if_congr (hsits.mem_listening_iff hn) rfl rfl
  have hlisted : ∀ i id, a.events.locations[i]? = some (.model m.prefixedId n) →
      m.elementId? = some id → ∀ observer, (a.events.indicesFor observer).count i =
        if observer = EventIndex.observerId (m.prefixIn a.scopes) id then 1 else 0 := by
    intro i id hi hid observer
    rw [hevents] at hi ⊢
    rw [(EventIndex.tallies_ofForm _ _ _).of_model hsound.nodup hm hi observer,
      hsits.observersStaticIds hn, hid, hsame]
    exact (List.nodup_singleton _).count.trans (if_congr List.mem_singleton rfl rfl)
  refine ⟨hregistered, hlisted, ?_⟩
  rw [hsame] at hlisted ⊢
  exact EventIndex.exists_handlersFor_model_iff hsits hregistered hlisted

/-- Two models with an action for the same event, the first without an id. -/
def twoModelsForm : Document :=
  let action (parent : NodeId) : Node :=
    { kind := .element { nsPrefix := "xf", uri := Namespace.xforms, localName := "action" }
        [⟨{ nsPrefix := "ev", uri := Namespace.events, localName := "event" }, "xforms-ready"⟩]
      parent := some parent }
  { nodes :=
      #[{ kind := .element (.plain "static-state") [], children := [1, 3] },
        { kind := .element { nsPrefix := "xf", uri := Namespace.xforms, localName := "model" } []
          parent := some 0, children := [2] },
        action 1,
        { kind := .element { nsPrefix := "xf", uri := Namespace.xforms, localName := "model" }
            [⟨.plain "id", "m"⟩]
          parent := some 0, children := [4] },
        action 3]
    root := 0 }

theorem built_twoModelsForm : twoModelsForm.Built := .accepted (by decide +kernel) .nil

/-- The models of `twoModelsForm` with the ids of their elements and the actions at their top, and
where the handlers stand. -/
theorem analysis_twoModelsForm :
    ((ofDocument twoModelsForm {}).toOption.bind fun p =>
      (Analysis.run p.controls p.models p.components).toOption.map fun a =>
        (a.models.models.map fun m => (m.prefixedId, m.elementId?, m.document.topActions),
          a.events.locations)) =
      some ([("xf-model-1", none, [1]), ("m", some "m", [1])], [.model "m" 1]) := by
  decide +kernel

theorem exists_twoModelsForm : ∃ p a, ofDocument twoModelsForm {} = .ok p ∧
    Analysis.run p.controls p.models p.components = .ok a ∧
    (∃ m ∈ a.models.models, m.prefixedId = "xf-model-1" ∧ m.elementId? = none ∧
      1 ∈ m.document.topActions) ∧
    (∃ m ∈ a.models.models, m.prefixedId = "m" ∧ m.elementId? = some "m" ∧
      1 ∈ m.document.topActions) ∧
    a.events.locations = [.model "m" 1] := by
  obtain ⟨p, hp, hrun⟩ := ok_of_toOption_bind analysis_twoModelsForm
  obtain ⟨a, ha, hrun⟩ := ok_of_toOption_map hrun
  obtain ⟨hmodels, hlocations⟩ := Prod.mk.inj hrun
  have hexists : ∀ row ∈ [("xf-model-1", none, [1]), ("m", some "m", [1])], ∃ m ∈ a.models.models,
      m.prefixedId = row.1 ∧ m.elementId? = row.2.1 ∧ m.document.topActions = row.2.2 := by
    intro row hrow
    rw [← hmodels] at hrow
    obtain ⟨m, hm, rfl⟩ := List.mem_map.1 hrow
    exact ⟨m, hm, rfl, rfl, rfl⟩
  obtain ⟨m, hm, hid, helement, hactions⟩ := hexists _ List.mem_cons_self
  obtain ⟨m', hm', hid', helement', hactions'⟩ := hexists _ (List.mem_cons_of_mem _ List.mem_cons_self)
  exact ⟨p, a, hp, ha, ⟨m, hm, hid, helement, by rw [hactions]; exact List.mem_cons_self⟩,
    ⟨m', hm', hid', helement', by rw [hactions']; exact List.mem_cons_self⟩, hlocations⟩

/-- How the analysis of `twoModelsForm` holds the action of each model. -/
theorem holdsTopAction_twoModelsForm : ∃ p a, twoModelsForm.Built ∧
    ofDocument twoModelsForm {} = .ok p ∧ Analysis.run p.controls p.models p.components = .ok a ∧
    (∃ m ∈ a.models.models, m.prefixedId = "xf-model-1" ∧ m.elementId? = none ∧
      1 ∈ m.document.topActions ∧ a.HoldsTopAction m 1) ∧
    (∃ m ∈ a.models.models, m.prefixedId = "m" ∧ m.elementId? = some "m" ∧
      1 ∈ m.document.topActions ∧ a.HoldsTopAction m 1) ∧
    a.events.locations = [.model "m" 1] := by
  obtain ⟨p, a, hp, ha, ⟨m, hm, hid, helement, hn⟩, ⟨m', hm', hid', helement', hn'⟩, hlocations⟩ :=
    exists_twoModelsForm
  have hholds := holdsTopAction_of_mem_topActions built_twoModelsForm hp ha
  exact ⟨p, a, built_twoModelsForm, hp, ha, ⟨m, hm, hid, helement, hn, hholds m hm 1 hn⟩,
    ⟨m', hm', hid', helement', hn', hholds m' hm' 1 hn'⟩, hlocations⟩

/-- **Not every action at the top of a model is registered under the model**: that of the first model
of `twoModelsForm` is not. -/
theorem not_all_topActions_registered : ¬∀ (d : Document) (config : EngineConfig) (p : FormParts)
    (a : Analysis), d.Built → ofDocument d config = .ok p →
    Analysis.run p.controls p.models p.components = .ok a →
    ∀ m ∈ a.models.models, ∀ n ∈ m.document.topActions,
      ∃ h ∈ a.events.handlersFor m.prefixedId, h.location = .model m.prefixedId n := by
  intro hall
  obtain ⟨p, a, hp, ha, ⟨m, hm, hid, -, hn⟩, -, hlocations⟩ := exists_twoModelsForm
  obtain ⟨i, -, hi⟩ := EventIndex.exists_handlersFor_iff.1
    (hall _ _ p a built_twoModelsForm hp ha m hm 1 hn)
  have hlocation := List.mem_of_getElem? hi
  rw [hlocations, hid] at hlocation
  exact absurd hlocation (by decide)

end FormParts

end FormEngine
