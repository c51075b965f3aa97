import FormEngine.Proofs.Event.AncestorObserver
import FormEngine.Proofs.Scope.Inverse
/-!
# How often a handler is listed

The observers of a handler are the words of its attribute, or the element around it. The events that
it lists are taken once each; the observers are taken as they are written. So a handler is listed
under an observer as often as its attribute has the id of the observer, in the order of registration,
and it is listed at most once everywhere exactly if the attribute has no id twice. A handler without
the attribute is.

Two ids are never the id of one observer. The prefix of a scope is empty or ends in the sign that
separates it from ids, and the reserved id, which has no prefix anywhere, does not have this sign.
-/

namespace FormEngine

/-! ## The prefixes of the scopes -/

namespace ScopeTree

/-- The prefix is that of a scope, or there is none. -/
def Prefixes (t : ScopeTree) (scopePrefix : String) : Prop :=
  scopePrefix = "" ∨ ∃ scope ∈ t.scopes, scope.fullPrefix = scopePrefix

theorem prefixes_getD {t : ScopeTree} {scope : Option Scope} {other : String}
    (h : ∀ sc, scope = some sc → sc ∈ t.scopes) (hother : t.Prefixes other) :
    t.Prefixes ((scope.map (·.fullPrefix)).getD other) := by
  cases scope with
  | none => exact hother
  | some sc => exact .inr ⟨sc, h sc rfl, rfl⟩

theorem mem_scopes_of_scope? {t : ScopeTree} {s : ScopeId} {scope : Scope}
    (h : t.scope? s = some scope) : scope ∈ t.scopes :=
  List.mem_of_getElem? h

end ScopeTree

/-- The prefix of an element is that of a scope. -/
theorem Form.prefixes_prefixOf (f : Form) (e : ElementRef) : f.scopes.Prefixes (f.prefixOf e) :=
  ScopeTree.prefixes_getD (fun _ h => ScopeTree.mem_scopes_of_scope? h) (.inl rfl)

/-- The prefix of the observers of a handler is that of a scope. -/
theorem Form.prefixes_observersPrefix (f : Form) (e : ElementRef) :
    f.scopes.Prefixes (f.observersPrefix e) := by
  rw [Form.observersPrefix]
  split
  · refine ScopeTree.prefixes_getD (fun sc hsc => ?_) (f.prefixes_prefixOf e)
    obtain ⟨s, -, hs⟩ := Option.bind_eq_some_iff.1 hsc
    exact ScopeTree.mem_scopes_of_scope? hs
  · exact f.prefixes_prefixOf e

/-- The prefix is empty, or it has the sign that separates it from ids. -/
def Separated (scopePrefix : String) : Prop := scopePrefix = "" ∨ '$' ∈ scopePrefix.toList

/-- **The prefixes of a form are separated from ids.** -/
theorem separated_resolveScopes {controls : Document} {r : ComponentRegistry} {t : ScopeTree}
    (h : resolveScopes controls r = .ok t) {scopePrefix : String} (hp : t.Prefixes scopePrefix) :
    Separated scopePrefix := by
  rcases hp with rfl | ⟨scope, hscope, rfl⟩
  · exact .inl rfl
  · rcases (nested_resolveScopes h).parted hscope with hempty | ⟨key, hkey⟩
    · exact .inl hempty
    · refine .inr ?_
      rw [hkey, String.toList_append]
      exact List.mem_append_right _ (List.mem_singleton.2 rfl)

/-! ## Observers by their ids -/

/-- The reserved id is not the id of another observer. -/
theorem Separated.append_ne {scopePrefix id : String} (hp : Separated scopePrefix)
    (hid : id ≠ Event.documentObserver) : scopePrefix ++ id ≠ Event.documentObserver := by
  rcases hp with rfl | hp
  · rwa [String.empty_append]
  · intro heq
    have hmem : '$' ∈ (scopePrefix ++ id).toList := by
      rw [String.toList_append]
      exact List.mem_append_left _ hp
    rw [heq] at hmem
    exact absurd hmem (by decide)

/-- **Different ids are ids of different observers.** -/
theorem Separated.observerId_injective {scopePrefix : String} (hp : Separated scopePrefix) :
    Function.Injective (EventIndex.observerId scopePrefix) := by
  intro id id' heq
  rw [EventIndex.observerId, EventIndex.observerId] at heq
  split at heq
  · rename_i hid
    split at heq
    · rename_i hid'
      rw [hid, hid']
    · rename_i hid'
      exact absurd heq.symm (hid ▸ hp.append_ne hid')
  · rename_i hid
    split at heq
    · rename_i hid'
      exact absurd heq (hid' ▸ hp.append_ne hid)
    · rw [← String.toList_inj, String.toList_append, String.toList_append,
        List.append_cancel_left_eq, String.toList_inj] at heq
      exact heq

/-! ## What is registered -/

/-- The handlers of a form and its models, each with the prefix of its observers. -/
inductive Registers (f : Form) (ms : List Model) : EventHandler → String → Prop
  | form (e : ElementRef) : Registers f ms (f.handlerAt e) (f.observersPrefix e)
  | model {m : Model} (hm : m ∈ ms) {n : NodeId} (hn : n ∈ m.document.modelHandlers) :
      Registers f ms (m.handlerAt f.scopes n) (m.prefixIn f.scopes)

theorem Registers.prefixes {f : Form} {ms : List Model} {h : EventHandler} {observersPrefix : String}
    (hr : Registers f ms h observersPrefix) : f.scopes.Prefixes observersPrefix := by
  cases hr with
  | form e => exact f.prefixes_observersPrefix e
  | model hm hn =>
    exact ScopeTree.prefixes_getD (fun _ h => ScopeTree.mem_scopes_of_scope? h) (.inl rfl)

namespace EventIndex

variable {f : Form} {controls : ControlTree} {ms : List Model} {x : EventIndex}

/-- **What every registration keeps holds of the index of a form and its models.** -/
theorem ofForm_keeps {P : EventIndex → Prop}
    (hregister : ∀ x h observersPrefix ids, Registers f ms h observersPrefix → P x →
      P (x.register h observersPrefix ids))
    (hempty : P {}) : P (ofForm f controls f.scopes ms) := by
  have hform : P (addFormHandlers f controls {}) := by
    refine List.foldlRecOn (motive := P) _ _ hempty fun x hx e _ => ?_
    rw [addHandler]
    split
    · exact hregister x _ _ _ (.form e) hx
    · exact hx
  refine List.foldlRecOn (motive := P) _ _ hform fun x hx m hm => ?_
  exact List.foldlRecOn (motive := P) _ _ hx fun y hy n hn => hregister y _ _ _ (.model hm hn) hy

/-! ## The listing -/

/-- Everywhere the handlers are listed in order, and as often as they name the observer by an id with
the prefix that `R` has for them. -/
structure Tallies (R : EventHandler → String → Prop) (x : EventIndex) : Prop where
  bounded : x.Bounded
  sorted : ∀ observer, (x.indicesFor observer).Pairwise (· ≤ ·)
  counted : ∀ i h, x.handlers[i]? = some h → ∃ observersPrefix, R h observersPrefix ∧
    ∀ observer, (x.indicesFor observer).count i =
      (h.observersStaticIds.map (observerId observersPrefix)).count observer

theorem tallies_empty (R : EventHandler → String → Prop) : Tallies R {} := by
  refine ⟨fun observer i hi => ?_, fun observer => .nil, fun i h hi => ?_⟩
  · simp [indicesFor] at hi
  · simp at hi

theorem Tallies.register {R : EventHandler → String → Prop} (hx : x.Tallies R)
    {handler : EventHandler} {observersPrefix : String} (hR : R handler observersPrefix)
    (ids : List String) : (x.register handler observersPrefix ids).Tallies R := by
  cases hempty : handler.observersStaticIds.isEmpty with
  | true =>
    rw [register_of_isEmpty hempty]
    exact hx
  | false =>
    refine ⟨hx.bounded.register _ _ _, fun observer => ?_, fun i h hi => ?_⟩
    · -- the new number is larger than those that are listed
      rw [indicesFor_register, List.pairwise_append]
      refine ⟨hx.sorted observer, List.pairwise_replicate.2 (.inr (Nat.le_refl _)),
        fun i hi j hj => ?_⟩
      rw [List.eq_of_mem_replicate hj]
      exact Nat.le_of_lt (hx.bounded observer i hi)
    · rw [handlers_register x hempty, Array.getElem?_push] at hi
      split at hi
      · rename_i hnew
        obtain rfl := Option.some.inj hi
        refine ⟨observersPrefix, hR, fun observer => ?_⟩
        have hnone : (x.indicesFor observer).count i = 0 :=
          List.count_eq_zero.2 fun hmem => Nat.ne_of_lt (hx.bounded observer i hmem) hnew
        rw [indicesFor_register, List.count_append, hnone, Nat.zero_add,
          show x.size = i from hnew.symm, List.count_replicate_self]
      · obtain ⟨p, hp, hcount⟩ := hx.counted i h hi
        have hlt : i < x.size := (Array.getElem?_eq_some_iff.1 hi).1
        refine ⟨p, hp, fun observer => ?_⟩
        rw [((Extends.refl x).register handler observersPrefix ids).listed i hlt, hcount]

/-- The handlers of a form and its models are listed as they are registered. -/
theorem tallies_ofForm (f : Form) (controls : ControlTree) (ms : List Model) :
    (ofForm f controls f.scopes ms).Tallies (Registers f ms) :=
  ofForm_keeps (fun _ _ _ ids hr hx => hx.register hr ids) (tallies_empty _)

/-- The handler with number `i` is listed as often as it names the observer. -/
def ListedAsNamed (x : EventIndex) (h : EventHandler) (i : Nat) : Prop :=
  ∃ observersPrefix, Separated observersPrefix ∧ ∀ observer, (x.indicesFor observer).count i =
    (h.observersStaticIds.map (observerId observersPrefix)).count observer

/-- The handler with number `i` is at most once in each list. -/
def ListedOnce (x : EventIndex) (i : Nat) : Prop := ∀ observer, (x.indicesFor observer).count i ≤ 1

/-- **A handler is at most once in each list exactly if it names no observer twice.** -/
theorem ListedAsNamed.listedOnce_iff {h : EventHandler} {i : Nat} (hnamed : x.ListedAsNamed h i) :
    x.ListedOnce i ↔ h.observersStaticIds.Nodup := by
  obtain ⟨p, hp, hcount⟩ := hnamed
  have hnodup : (h.observersStaticIds.map (observerId p)).Nodup ↔ h.observersStaticIds.Nodup :=
    List.nodup_map_iff hp.observerId_injective
  rw [← hnodup, List.nodup_iff_count_le_one]
  exact forall_congr' fun observer => by rw [hcount]

end EventIndex

/-! ## The markup of a handler -/

/-- The attribute of an element for observers, if it is there, has no id twice. -/
def Document.NamesOnce (d : Document) (n : NodeId) : Prop :=
  (d.attribute? n Namespace.events "observer").isSome = true →
    (EventHandler.eventWords d n "observer").Nodup

theorem EventHandler.nodup_observersStaticIds (d : Document) (n : NodeId)
    (location : HandlerLocation) (scopePrefix : String) (parent ancestor : Option String) :
    (ofElement d n location scopePrefix parent ancestor).observersStaticIds.Nodup ↔
      d.NamesOnce n := by
  rw [ofElement, Document.NamesOnce]
  dsimp only
  cases (d.attribute? n Namespace.events "observer").isSome with
  | true => simp
  | false => cases parent <;> simp

/-- The element that a handler is from, by its location. -/
inductive StandsAt (f : Form) (ms : List Model) : HandlerLocation → Document → NodeId → Prop
  | form (e : ElementRef) : StandsAt f ms (.form e) (f.document e.tree) e.node
  | model {m : Model} (hm : m ∈ ms) (n : NodeId) :
      StandsAt f ms (.model m.prefixedId n) m.document n

/-- A handler names an observer twice if its element does. -/
theorem Registers.exists_standsAt {f : Form} {ms : List Model} {h : EventHandler}
    {observersPrefix : String} (hr : Registers f ms h observersPrefix) :
    ∃ d n, StandsAt f ms h.location d n ∧ (h.observersStaticIds.Nodup ↔ d.NamesOnce n) := by
  cases hr with
  | form e => exact ⟨_, _, .form e, EventHandler.nodup_observersStaticIds _ _ _ _ _ _⟩
  | model hm hn => exact ⟨_, _, .model hm _, EventHandler.nodup_observersStaticIds _ _ _ _ _ _⟩

namespace Analysis

/-- The lists of an analysis are in the order of registration, each handler is listed as often as it
names the observer, and at most once in each list exactly if its attribute for observers has no id
twice. -/
structure ListsByMention (a : Analysis) (f : Form) : Prop where
  sorted : ∀ observer, (a.events.indicesFor observer).Pairwise (· ≤ ·)
  registered : ∀ observer, ∀ i ∈ a.events.indicesFor observer, i < a.events.size
  handlers : ∀ i h, a.events.handlers[i]? = some h → a.events.ListedAsNamed h i ∧
    ∃ d n, StandsAt f a.models.models h.location d n ∧
      (a.events.ListedOnce i ↔ d.NamesOnce n)

variable {controls : Document} {models : List Document} {r : ComponentRegistry} {a : Analysis}

/-- The index of an analysis is that of its form and its models. -/
theorem exists_ofForm (h : run controls models r = .ok a) :
    ∃ t tree, resolveScopes controls r = .ok t ∧ a.scopes = t.freeTemplates ∧
      a.models = modelIndex t models ∧
      a.events = EventIndex.ofForm ⟨controls, t⟩ tree t a.models.models := by
  obtain ⟨t, tree, hscopes, -, hfree, hmodels, -, hevents⟩ := run_spec h
  exact ⟨t, _, hscopes, hfree, hmodels, hevents⟩

/-- **In every analysis the handlers of an observer are listed as often as they name it**, in the
order of registration. A handler is listed at most once under every observer exactly if its attribute
for observers, where it has one, has no id twice. -/
theorem handlers_by_mention (h : run controls models r = .ok a) :
    a.ListsByMention (a.form controls) := by
  obtain ⟨t, tree, hscopes, hfree, -, hevents⟩ := exists_ofForm h
  have htallies : a.events.Tallies (Registers ⟨controls, t⟩ a.models.models) := by
    rw [hevents]
    exact EventIndex.tallies_ofForm ⟨controls, t⟩ tree a.models.models
  refine ⟨htallies.sorted, htallies.bounded, fun i handler hi => ?_⟩
  obtain ⟨p, hregisters, hcount⟩ := htallies.counted i handler hi
  have hnamed : a.events.ListedAsNamed handler i :=
    ⟨p, separated_resolveScopes hscopes hregisters.prefixes, hcount⟩
  obtain ⟨d, n, hstands, hnodup⟩ := hregisters.exists_standsAt
  refine ⟨hnamed, d, n, ?_, hnamed.listedOnce_iff.trans hnodup⟩
  -- the documents of a form do not depend on its templates
  rw [form, hfree]
  generalize handler.location = location at hstands ⊢
  cases hstands with
  | form e => exact .form e
  | model hm n => exact .model hm n

/-- A group with an action that names the group twice. -/
def twiceControls : Document :=
  { nodes :=
      #[{ kind := .element (.plain "controls") [], children := [1] },
        { kind := .element { nsPrefix := "xf", uri := Namespace.xforms, localName := "group" }
            [⟨.plain "id", "g"⟩]
          parent := some 0, children := [2] },
        { kind := .element { nsPrefix := "xf", uri := Namespace.xforms, localName := "action" }
            [⟨{ nsPrefix := "ev", uri := Namespace.events, localName := "event" }, "DOMActivate"⟩,
              ⟨{ nsPrefix := "ev", uri := Namespace.events, localName := "observer" }, "g g"⟩]
          parent := some 1 }]
    root := 0 }

theorem listed_twiceControls :
    (run twiceControls [] {}).toOption.map (fun a => (a.events.size, a.events.indicesFor "g")) =
      some (1, [0, 0]) := by
  decide +kernel

/-- How the handler of `twiceControls` is listed. -/
theorem handlers_by_mention_twiceControls : ∃ a, run twiceControls [] {} = .ok a ∧
    a.ListsByMention (a.form twiceControls) ∧ a.events.indicesFor "g" = [0, 0] := by
  obtain ⟨a, ha, hlisted⟩ := ok_of_toOption_map listed_twiceControls
  exact ⟨a, ha, handlers_by_mention ha, congrArg Prod.snd hlisted⟩

/-- **Not every handler is listed at most once under each observer**: one that names it twice is
not. -/
theorem not_all_listedOnce : ¬∀ (controls : Document) (models : List Document)
    (r : ComponentRegistry) (a : Analysis), run controls models r = .ok a →
    ∀ i < a.events.size, a.events.ListedOnce i := by
  intro hall
  obtain ⟨a, ha, hlisted⟩ := ok_of_toOption_map listed_twiceControls
  obtain ⟨hsize, hindices⟩ := Prod.mk.inj hlisted
  have honce := hall _ _ _ a ha 0 (by rw [hsize]; exact Nat.one_pos) "g"
  rw [hindices] at honce
  exact absurd honce (by decide)

end Analysis

end FormEngine
