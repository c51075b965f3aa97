import FormEngine.Proofs.Event.Listener
import FormEngine.Proofs.Event.Listing
import FormEngine.Proofs.Scope.Own
/-!
# One handler for every action that is written

An action that listens on a control gives one handler, however often its element has been copied
into shadow trees, and an action of a template gives one in each instance. The copies are content,
which is passed over; the original is found, because the control that it stands in is found under its
prefixed id, and it is listed once, because each element is gone through once. The law is about forms
with separate ids. There the origin of a handler tells what element it was registered for.

The observer is listed under its id with the prefix of the scope, but for the id that stands for the
whole form: an action of a template whose parent has this id listens on the whole form.
-/

namespace FormEngine

namespace EventIndex

/-- The handler with number `i` was registered for the element `n` of the document `d`, which was
written for the scope `home`. -/
def ComesFrom (x : EventIndex) (origin : ElementRef → Origin) (d : Document) (n : NodeId)
    (home : ScopeId) (i : Nat) : Prop :=
  ∃ h e, x.handlers[i]? = some h ∧ h.location = .form e ∧
    (origin e).document = d ∧ (origin e).node = n ∧ (origin e).home = home

/-- Exactly one handler comes from the element, and it is listed once under the observer. -/
def ListsOnce (x : EventIndex) (origin : ElementRef → Origin) (d : Document) (n : NodeId)
    (home : ScopeId) (observer : String) : Prop :=
  ∃ i, (∀ j, x.ComesFrom origin d n home j ↔ j = i) ∧ (x.indicesFor observer).count i = 1

theorem getElem?_locations {x : EventIndex} {i : Nat} {e : ElementRef} :
    x.locations[i]? = some (.form e) ↔ ∃ h, x.handlers[i]? = some h ∧ h.location = .form e := by
  rw [locations, List.getElem?_map, Array.getElem?_toList, Option.map_eq_some_iff]

/-- The observers of the controls document have no prefix. -/
theorem observerId_empty (id : String) : observerId "" id = id := by
  rw [observerId, String.empty_append, ite_self]

variable {f : Form} {controls : ControlTree} {r : ComponentRegistry} {l : Ledger}
  {tree : Tree} {e : ElementRef} {o : String} {n : NodeId}

theorem owns_of_mem_allCandidates (h : e ∈ allCandidates f) : f.Owns e := by
  obtain ⟨ref, href, hmem⟩ := List.mem_flatMap.1 h
  obtain ⟨rfl, -, hinner, -⟩ := mem_candidates.1 hmem
  exact ⟨href, hinner⟩

/-- An own element that listens may be a handler. -/
theorem mem_allCandidates_of_listens (he : f.Owns e) (h : (f.document e.tree).Listens e.node o) :
    e ∈ allCandidates f := by
  refine List.mem_flatMap.2 ⟨e.tree, he.tree, mem_candidates.2 ⟨rfl, ?_, he.inner, ?_⟩⟩
  · refine List.mem_filter.2 ⟨h.reached, ?_⟩
    obtain ⟨p, hp, hid⟩ := Option.bind_eq_some_iff.1 h.parent
    have hknown : (f.document e.tree).hasKnownObserver e.node = true := by
      rw [Document.hasKnownObserver, hp, Option.any_some, hid]
      rfl
    rw [h.event, h.data, h.model, hknown]
    rfl
  · obtain ⟨name, hname, haction⟩ := h.action
    rw [hname, Option.any_some]
    exact haction

/-- **An own element that listens on a control has one handler**, listed once. -/
theorem listsOnce_of_listens (t : ScopeTree) (ms : List Model) (hsettled : f.Settled r l tree)
    (howns : f.Owns e) (h : (f.document e.tree).Listens e.node o)
    (hinside : e.tree = .controls →
      (f.document e.tree).parent? e.node ≠ some (f.document e.tree).root)
    (hcontrol : controls.contains (f.prefixOf e ++ o) = true) :
    (ofForm f controls t ms).ListsOnce (l.originAt f.controls) (l.originAt f.controls e).document
      (l.originAt f.controls e).node (l.originAt f.controls e).home
      (observerId (f.prefixOf e) o) := by
  have he := mem_allCandidates_of_listens howns h
  have hanswers : Answers f controls e o := ⟨h.observer, hinside, h.parent, hcontrol⟩
  obtain ⟨i, hi, hcount⟩ := hanswers.listed_once t ms he
  refine ⟨i, fun j => ⟨?_, ?_⟩, hcount⟩
  · rintro ⟨handler, e', hhandler, hlocation, -, hnode, hhome⟩
    have hj : (ofForm f controls t ms).locations[j]? = some (.form e') :=
      getElem?_locations.2 ⟨handler, hhandler, hlocation⟩
    -- its origin says that it stands where the element stands
    have hsame : e' = e := by
      rw [hsettled.eq_of_owns (owns_of_mem_allCandidates (mem_allCandidates hj)), hnode, hhome,
        ← hsettled.eq_of_owns (owns_of_mem_allCandidates he)]
    rw [hsame] at hj
    exact number_unique hsettled.isForest hj hi
  · rintro rfl
    obtain ⟨handler, hhandler, hlocation⟩ := getElem?_locations.1 hi
    exact ⟨handler, e, hhandler, hlocation, rfl, rfl, rfl⟩

/-- An action in the controls document listens at top level, under the id of its parent. -/
theorem listsOnce_written (t : ScopeTree) (ms : List Model) (hsettled : f.Settled r l tree)
    (h : f.controls.Listens n o) (hinside : f.controls.parent? n ≠ some f.controls.root)
    (hcontrol : controls.contains o = true) :
    (ofForm f controls t ms).ListsOnce (l.originAt f.controls) f.controls n 0 o := by
  have hfull := hsettled.prefixOf_controls n
  have howns : f.Owns ⟨.controls, n⟩ := ⟨List.mem_cons_self, rfl⟩
  have hcontrol' : controls.contains (f.prefixOf ⟨.controls, n⟩ ++ o) = true := by
    rw [hfull, String.empty_append]
    exact hcontrol
  have hlists := listsOnce_of_listens t ms hsettled howns h (fun _ => hinside) hcontrol'
  rw [hfull, observerId_empty] at hlists
  exact hlists

/-- An action of a template listens in an instance, under the id of its parent in its scope. -/
theorem listsOnce_template (t : ScopeTree) (ms : List Model) (hsettled : f.Settled r l tree)
    {j : Nat} {key : String} {s : ShadowTree}
    (hs : f.scopes.shadowTrees[j]? = some (key, s)) {template : Document}
    (hinstance : s.InstanceOf r template)
    (horigins : ∀ n, s.isOuter n = false → l.originAt f.controls ⟨.shadow j, n⟩ =
      { document := template, node := n, home := j + 1, handedOn := false })
    {scope : Scope} (hscope : f.scopes.scope? (j + 1) = some scope) (h : template.Listens n o)
    (hcontrol : controls.contains (scope.prefixedId o) = true) :
    (ofForm f controls t ms).ListsOnce (l.originAt f.controls) template n (j + 1)
      (observerId scope.fullPrefix o) := by
  have hforest := hsettled.template_isForest hinstance
  have hown := hinstance.isOuter_eq_false hforest h.lt
  have hfull := hsettled.prefixOf_own hs hscope hown
  have hshadow : f.shadow? (.shadow j) = some s := by
    rw [Form.shadow?, ScopeTree.shadowTreeAt?, hs, Option.map_some]
  have howns : f.Owns ⟨.shadow j, n⟩ := by
    have hlt := (List.getElem?_eq_some_iff.1 hs).1
    refine ⟨List.mem_cons_of_mem _ (List.mem_map_of_mem (List.mem_range.2 hlt)), ?_⟩
    rw [hshadow, Option.any_some]
    exact hown
  have hlistens : (f.document (.shadow j)).Listens n o := by
    rw [Form.document, hshadow, Option.map_some, Option.getD_some]
    exact hinstance.listens hforest h
  have hcontrol' : controls.contains (f.prefixOf ⟨.shadow j, n⟩ ++ o) = true := by
    rw [hfull]
    exact hcontrol
  have hlists := listsOnce_of_listens t ms hsettled howns hlistens
    (fun hcontrols => by contradiction) hcontrol'
  rw [horigins n hown, hfull] at hlists
  exact hlists

end EventIndex

namespace Analysis

/-- Some control has the static id and the prefixed id. -/
def HasControl (a : Analysis) (staticId prefixedId : String) : Prop :=
  ∃ c ∈ a.controls.controls, c.staticId = staticId ∧ c.prefixedId = prefixedId

/-- The handlers of an analysis are those that were written, each listed once under its observer,
which `observer` names by the prefix of its scope and its id. -/
structure ListsHandlers (a : Analysis) (controls : Document) (r : ComponentRegistry) (l : Ledger)
    (observer : String → String → String) : Prop where
  /-- Handlers of the controls document. -/
  written : ∀ n e, controls.Listens n e → a.HasControl e e →
    a.events.ListsOnce (l.originAt controls) controls n 0 e
  /-- No instance has lost its shadow tree. -/
  instances : a.scopes.size = a.scopes.shadowTrees.length + 1
  /-- Handlers of a template, in each instance of it. -/
  templates : ∀ j key s, a.scopes.shadowTrees[j]? = some (key, s) → ∃ scope template,
    a.scopes.scope? (j + 1) = some scope ∧ scope.scopeId = key ∧ scope.fullPrefix = key ++ "$" ∧
    s.InstanceOf r template ∧
    ∀ n e, template.Listens n e → a.HasControl e (scope.prefixedId e) →
      a.events.ListsOnce (l.originAt controls) template n (j + 1) (observer scope.fullPrefix e)

variable {controls : Document} {models : List Document} {r : ComponentRegistry} {a : Analysis}

/-- The controls that handlers are accepted by are those of the analysis. -/
theorem exists_place {f : Form} {tree : ControlTree} {warnings : List Warning}
    (hbuild : buildControlTree f = .ok (tree, warnings))
    (hcontrols : a.controls = (collectScripts f a.models tree).classifyOffline f
      (a.models.models.map (·.document))) {staticId prefixedId : String}
    (h : a.HasControl staticId prefixedId) :
    (collectScripts f a.models tree).contains prefixedId = true ∧
      ∃ p ∈ tree.places, p.staticId = staticId ∧ p.prefixedId = prefixedId := by
  have hcollected : ControlTree.Tagged tree (collectScripts f a.models tree) :=
    (ControlTree.tagged_addScripts tree f.controls _).trans (tagged_collectScripts f a.models tree)
  have htagged : ControlTree.Tagged tree a.controls :=
    hcollected.trans (hcontrols ▸ ControlTree.tagged_classifyOffline _ _ _)
  obtain ⟨c, hc, hstatic, hprefixed⟩ := h
  have hplace : c.place ∈ tree.places := by
    rw [← htagged.places]
    exact List.mem_map_of_mem (Array.mem_toList_iff.2 hc)
  refine ⟨?_, c.place, hplace, hstatic, hprefixed⟩
  have hcontains := (keyed_buildControlTree hbuild).contains hplace
  rw [show c.place.prefixedId = prefixedId from hprefixed] at hcontains
  rw [ControlTree.contains, ControlTree.id?, hcollected.byPrefixedId]
  exact hcontains

/-- A control at top level has not the id of the root of the controls document. -/
theorem parent?_ne_root {f : Form} {l : Ledger} {tr : Tree} (hsettled : f.Settled r l tr)
    {tree : ControlTree} {warnings : List Warning}
    (hbuild : buildControlTree f = .ok (tree, warnings)) {p : Place} (hp : p ∈ tree.places) {e : String} (hstatic : p.staticId = e)
    (hprefixed : p.prefixedId = e) {n : NodeId} (hn : f.controls.Listens n e) :
    f.controls.parent? n ≠ some f.controls.root := by
  intro hroot
  obtain ⟨-, -, -, hin⟩ := places_buildControlTree hbuild
  have hid := (hin p hp).staticId
  have hfull := (hin p hp).prefixedId
  rw [hprefixed, hstatic] at hfull
  have hempty : f.prefixOf p.element = "" :=
    ((String.append_left_inj e).1 (String.empty_append.trans hfull)).symm
  have hparent := hn.parent
  rw [hroot, Option.bind_some] at hparent
  exact hsettled.staticId?_root_ne (below_of_mem_places hsettled.isForest hbuild hp) hempty hid
    (hstatic ▸ hparent)

/-- **Every action that is written and listens on a control has one handler, listed once.** -/
theorem handlers_listed_once (hform : SeparateIds controls r) (h : run controls models r = .ok a) :
    ∃ t l, traceScopes controls r = .ok (t, l) ∧ a.scopes = t.freeTemplates ∧
      a.ListsHandlers controls r l EventIndex.observerId := by
  obtain ⟨t, tree, hscopes, hbuild, hfree, hmodels, hcontrols, hevents⟩ := run_spec h
  obtain ⟨l, hl⟩ := exists_traceScopes hscopes
  obtain ⟨tr, hsettled⟩ := settled_traceScopes hform hl
  have hindex : a.events = EventIndex.ofForm ⟨controls, t⟩
      (collectScripts ⟨controls, t⟩ a.models tree) t a.models.models := hevents
  refine ⟨t, l, hl, hfree, ?_, ?_, ?_⟩
  · intro n e hn hcontrol
    obtain ⟨hcontains, p, hp, hstatic, hprefixed⟩ := exists_place hbuild hcontrols hcontrol
    rw [hindex]
    exact EventIndex.listsOnce_written _ _ hsettled hn
      (parent?_ne_root hsettled hbuild hp hstatic hprefixed hn) hcontains
  · rw [hfree]
    exact hsettled.inStep.size
  · intro j key s hs
    rw [hfree] at hs ⊢
    obtain ⟨template, hinstance, horigins⟩ := hsettled.exists_template hs
    obtain ⟨-, scope, hscope, hid, hfull⟩ := hsettled.inStep.scopes j _ hs
    refine ⟨scope, template, hscope, hid, hfull, hinstance, fun n e hn hcontrol => ?_⟩
    obtain ⟨hcontains, -⟩ := exists_place hbuild hcontrols hcontrol
    rw [hindex]
    exact EventIndex.listsOnce_template _ _ hsettled hs hinstance horigins hscope hn hcontains

end Analysis

/-! ## A form with a component -/

/-- A template with an action on a group with the id `id`, and with a place for content. -/
def boxTemplate (id : String) : Document :=
  { nodes :=
      #[{ kind := .element { nsPrefix := "xbl", uri := Namespace.xbl, localName := "template" } []
          children := [1, 3] },
        { kind := .element { nsPrefix := "xf", uri := Namespace.xforms, localName := "group" }
            [⟨.plain "id", id⟩]
          parent := some 0, children := [2] },
        { kind := .element { nsPrefix := "xf", uri := Namespace.xforms, localName := "action" }
            [⟨.plain "id", "h"⟩,
              ⟨{ nsPrefix := "ev", uri := Namespace.events, localName := "event" }, "DOMActivate"⟩]
          parent := some 1 },
        { kind := .element { nsPrefix := "xbl", uri := Namespace.xbl, localName := "content" } []
          parent := some 0 }]
    root := 0 }

def boxComponents (id : String) : ComponentRegistry :=
  { bindings :=
      [{ element := { nsPrefix := "fr", uri := "fr", localName := "box" }, bindingId := none
         template := some (boxTemplate id) }] }

/-- An instance `a`, with a group `p` as its content that has an action on it. -/
def boxControls : Document :=
  { nodes :=
      #[{ kind := .element (.plain "controls") [], children := [1] },
        { kind := .element { nsPrefix := "fr", uri := "fr", localName := "box" }
            [⟨.plain "id", "a"⟩]
          parent := some 0, children := [2] },
        { kind := .element { nsPrefix := "xf", uri := Namespace.xforms, localName := "group" }
            [⟨.plain "id", "p"⟩]
          parent := some 1, children := [3] },
        { kind := .element { nsPrefix := "xf", uri := Namespace.xforms, localName := "action" }
            [⟨.plain "id", "q"⟩,
              ⟨{ nsPrefix := "ev", uri := Namespace.events, localName := "event" }, "DOMActivate"⟩]
          parent := some 2 }]
    root := 0 }

theorem separateIds_box : SeparateIds boxControls (boxComponents "g") ∧
    SeparateIds boxControls (boxComponents "#document") := by
  refine ⟨⟨⟨?_, ?_, ?_⟩, ?_, ?_⟩, ⟨⟨?_, ?_, ?_⟩, ?_, ?_⟩⟩ <;> decide

/-- The static and prefixed ids of the controls, the instances and the observers of an analysis. -/
def Analysis.outline (a : Analysis) : List (String × String) × List String × List String :=
  (a.controls.controls.toList.map fun c => (c.staticId, c.prefixedId),
    a.scopes.shadowTrees.map Prod.fst, a.events.observers)

/-- The action of the template is listed under its group in the instance, and under the whole form if
the group has the id that stands for it. -/
theorem outline_box :
    ((Analysis.run boxControls [] (boxComponents "g")).toOption.map Analysis.outline =
      some ([("a", "a"), ("g", "a$g"), ("p", "p")], ["a"], ["p", "a$g"])) ∧
    (Analysis.run boxControls [] (boxComponents "#document")).toOption.map Analysis.outline =
      some ([("a", "a"), ("#document", "a$#document"), ("p", "p")], ["a"], ["p", "#document"]) := by
  decide +kernel

theorem exists_of_outline {r : ComponentRegistry} {controls : List (String × String)}
    {instances observers : List String}
    (h : (Analysis.run boxControls [] r).toOption.map Analysis.outline =
      some (controls, instances, observers)) :
    ∃ a, Analysis.run boxControls [] r = .ok a ∧
      (∀ ids ∈ controls, a.HasControl ids.1 ids.2) ∧
      a.scopes.shadowTrees.map Prod.fst = instances ∧ a.events.observers = observers := by
  obtain ⟨a, ha, h⟩ := ok_of_toOption_map h
  simp only [Analysis.outline, Prod.mk.injEq] at h
  refine ⟨a, ha, fun ids hids => ?_, h.2.1, h.2.2⟩
  rw [← h.1, List.mem_map] at hids
  obtain ⟨c, hc, rfl⟩ := hids
  exact ⟨c, Array.mem_toList_iff.1 hc, rfl, rfl⟩

theorem listens_box (id : String) (hid : id = "g" ∨ id = "#document") :
    (boxTemplate id).Listens 2 id := by
  rcases hid with rfl | rfl <;>
    exact ⟨by decide, ⟨_, rfl, by decide⟩, by decide, by decide, by decide, by decide, by decide,
      by decide⟩

/-- The action of the template in the one instance. -/
theorem Analysis.ListsHandlers.box {a : Analysis} {l : Ledger} {id : String}
    {observer : String → String → String}
    (h : a.ListsHandlers boxControls (boxComponents id) l observer)
    (hinstances : a.scopes.shadowTrees.map Prod.fst = ["a"]) (hid : id = "g" ∨ id = "#document")
    (hcontrol : a.HasControl id ("a$" ++ id)) :
    a.events.ListsOnce (l.originAt boxControls) (boxTemplate id) 2 1 (observer "a$" id) := by
  obtain ⟨⟨key, s⟩, hs, hkey⟩ : ∃ entry, a.scopes.shadowTrees[0]? = some entry ∧ entry.1 = "a" := by
    have hzero : (a.scopes.shadowTrees.map Prod.fst)[0]? = some "a" := by
      rw [hinstances]
      rfl
    rwa [List.getElem?_map, Option.map_eq_some_iff] at hzero
  obtain ⟨scope, template, -, -, hfull, hinstance, hlisted⟩ := h.templates 0 key s hs
  obtain ⟨name, htemplate⟩ := hinstance.template?
  have hbox : template = boxTemplate id :=
    ComponentRegistry.of_template? (P := fun d => d = boxTemplate id) (fun b hb d hd => by
      obtain rfl := List.mem_singleton.1 hb
      exact (Option.some.inj hd).symm) htemplate
  subst hbox
  have hfull : scope.fullPrefix = "a$" := by
    rw [hfull, show key = "a" from hkey]
    rfl
  have hid' := hlisted 2 id (listens_box id hid) (by rw [Scope.prefixedId, hfull]; exact hcontrol)
  rwa [hfull] at hid'

/-- **Not every handler of a template is listed under an id with the prefix of its instance**: that
of the template with the reserved id is not. -/
theorem not_all_observers_prefixed :
    ¬∀ (controls : Document) (models : List Document) (r : ComponentRegistry) (a : Analysis),
      SeparateIds controls r → Analysis.run controls models r = .ok a →
      ∃ t l, traceScopes controls r = .ok (t, l) ∧ a.scopes = t.freeTemplates ∧
        a.ListsHandlers controls r l fun scopePrefix id => scopePrefix ++ id := by
  intro hall
  obtain ⟨a, ha, hcontrols, hinstances, hobservers⟩ := exists_of_outline outline_box.2
  obtain ⟨t, l, -, -, hlists⟩ := hall boxControls [] _ a separateIds_box.2 ha
  obtain ⟨i, -, hcount⟩ := hlists.box hinstances (.inr rfl)
    (hcontrols ("#document", "a$#document") (by decide))
  -- nothing is listed under the prefixed id
  have hnone : a.events.indicesFor ("a$" ++ "#document") = [] := by
    have hlookup : a.events.byObserver.lookup ("a$" ++ "#document") = none := by
      refine List.lookup_eq_none_iff.2 fun entry hentry => ?_
      have hmem : entry.1 ∈ ["p", "#document"] := hobservers ▸ List.mem_map_of_mem hentry
      rcases List.mem_cons.1 hmem with hp | hmem
      · rw [hp]
        decide
      · rw [List.mem_singleton.1 hmem]
        decide
    rw [EventIndex.indicesFor, hlookup]
    rfl
  rw [hnone] at hcount
  contradiction

/-- The law at a form with an action in its template and one in the content of an instance. -/
theorem handlers_listed_once_box : SeparateIds boxControls (boxComponents "g") ∧
    ∃ a t l, Analysis.run boxControls [] (boxComponents "g") = .ok a ∧
      traceScopes boxControls (boxComponents "g") = .ok (t, l) ∧
      a.events.ListsOnce (l.originAt boxControls) boxControls 3 0 "p" ∧
      a.events.ListsOnce (l.originAt boxControls) (boxTemplate "g") 2 1 "a$g" := by
  obtain ⟨a, ha, hcontrols, hinstances, -⟩ := exists_of_outline outline_box.1
  obtain ⟨t, l, hl, -, hlists⟩ := Analysis.handlers_listed_once separateIds_box.1 ha
  refine ⟨separateIds_box.1, a, t, l, ha, hl, ?_, ?_⟩
  · refine hlists.written 3 "p" ?_ (hcontrols ("p", "p") (by decide))
    exact ⟨by decide, ⟨_, rfl, by decide⟩, by decide, by decide, by decide, by decide, by decide,
      by decide⟩
  · exact hlists.box hinstances (.inl rfl) (hcontrols ("g", "a$g") (by decide))

end FormEngine
