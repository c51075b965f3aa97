import FormEngine.Proofs.Control.Enclosed
import FormEngine.Proofs.Event.AncestorObserver
/-!
# The repeats around an element of a handler

The repeats around an element of a handler are asked of the observer that is recorded for it, and the
answer are the repeats around that observer. That is not always what is asked for. The answer leaves
out the observer itself when that is a repeat, as it does for a handler directly in a repeat, and it
leaves out a repeat between the observer and the element. It is right exactly if the same repeats are
above the element and above the observer.

The forms are those without bindings in which every element of the controls document has an id of its
own. About the handlers in models nothing is said.
-/

namespace FormEngine

/-! ## Documents in which ids tell elements apart -/

namespace Document

/-- The ids of the repeats in a list of nodes. -/
def repeatIds (d : Document) (ns : List NodeId) : List String :=
  (ns.filter fun n => d.isNamed n Namespace.xforms "repeat").filterMap d.staticId?

/-- A controls document in which every element below the root has an id of its own. -/
structure Identified (d : Document) : Prop where
  checked : d.check = .ok ()
  root : d.name? d.root = some (.plain "controls")
  identified : ∀ n ∈ d.descendants d.root, n ≠ d.root → (d.staticId? n).isSome = true
  nodup : d.staticIds.Nodup

namespace Identified

variable {d : Document} {ns ms : List NodeId}

theorem isForest (h : d.Identified) : d.IsForest := check_eq_ok_iff.1 h.checked

/-- The root is no repeat. -/
theorem ne_root (h : d.Identified) {n : NodeId}
    (hn : d.isNamed n Namespace.xforms "repeat" = true) : n ≠ d.root := by
  rintro rfl
  rw [isNamed, h.root] at hn
  exact absurd hn (by decide)

/-- Nodes that stand in the order of the document have the same repeats exactly if the repeats have
the same ids. -/
theorem repeatIds_eq_iff (h : d.Identified)
    (hns : (d.descendants d.root).filter (fun n => ns.contains n) = ns.reverse)
    (hms : (d.descendants d.root).filter (fun n => ms.contains n) = ms.reverse) :
    d.repeatIds ns = d.repeatIds ms ↔
      ∀ n, d.isNamed n Namespace.xforms "repeat" = true → (n ∈ ns ↔ n ∈ ms) := by
  have hbelow : ∀ {ks : List NodeId} {n : NodeId},
      (d.descendants d.root).filter (fun n => ks.contains n) = ks.reverse → n ∈ ks →
      n ∈ d.descendants d.root := by
    intro ks n hks hn
    rw [← List.mem_reverse, ← hks] at hn
    exact List.mem_of_mem_filter hn
  constructor
  · intro heq n hn
    -- a repeat is known by its id
    have hforward : ∀ {ks ls : List NodeId},
        (d.descendants d.root).filter (fun n => ks.contains n) = ks.reverse →
        (d.descendants d.root).filter (fun n => ls.contains n) = ls.reverse →
        d.repeatIds ks = d.repeatIds ls → n ∈ ks → n ∈ ls := by
      intro ks ls hks hls heq hmem
      have hroot := hbelow hks hmem
      obtain ⟨id, hid⟩ := Option.isSome_iff_exists.1 (h.identified n hroot (h.ne_root hn))
      have hidMem : id ∈ d.repeatIds ls := by
        rw [← heq]
        exact List.mem_filterMap.2 ⟨n, List.mem_filter.2 ⟨hmem, hn⟩, hid⟩
      obtain ⟨m, hm, hmid⟩ := List.mem_filterMap.1 hidMem
      have hmls := List.mem_of_mem_filter hm
      rwa [h.isForest.eq_of_staticId? h.nodup hroot (hbelow hls hmls) hid hmid]
    exact ⟨hforward hns hms heq, hforward hms hns heq.symm⟩
  · intro hsame
    have hfilter : ∀ {ks : List NodeId},
        (d.descendants d.root).filter (fun n => ks.contains n) = ks.reverse →
        ks.filter (fun n => d.isNamed n Namespace.xforms "repeat") =
          ((d.descendants d.root).filter fun n =>
            d.isNamed n Namespace.xforms "repeat" && ks.contains n).reverse := by
      intro ks hks
      rw [← List.filter_filter, hks, List.filter_reverse, List.reverse_reverse]
    rw [repeatIds, repeatIds, hfilter hns, hfilter hms]
    refine congrArg (fun ks => List.filterMap d.staticId? (List.reverse ks))
      (List.filter_congr fun n _ => ?_)
    cases hn : d.isNamed n Namespace.xforms "repeat" with
    | false => rfl
    | true =>
      rw [Bool.true_and, Bool.true_and, Bool.eq_iff_iff, List.contains_iff_mem, List.contains_iff_mem]
      exact hsame n hn

end Identified

end Document

/-! ## The controls of a form without bindings -/

/-- Without bindings the walk stays below the root of the controls document. -/
theorem standings_in_controls {controls : Document} {t : ScopeTree} {tree : ControlTree}
    {warnings : List Warning} (h : buildControlTree ⟨controls, t⟩ = .ok (tree, warnings))
    (hflat : t.Flat) (hforest : controls.IsForest) : ∀ s ∈ tree.standings, s.element.tree = .controls ∧
      controls.root ∈ controls.ancestors s.element.node := by
  have hdescends : Form.Descends ⟨controls, t⟩
      (fun _ e => e.tree = .controls ∧ controls.root ∈ controls.ancestors e.node)
      (fun _ e => e.tree = .controls ∧ controls.root ∈ controls.line e.node) := by
    refine ⟨fun {_ e c} he hc => ?_, fun {_ _ _} he _ _ => ?_, fun {e root} hroot => ?_,
      fun {_ _ _} he _ _ => ?_⟩
    · obtain ⟨tree, n⟩ := e
      obtain ⟨htree, hline⟩ := he
      obtain rfl : tree = .controls := htree
      obtain ⟨hctree, hparent⟩ := Form.parent?_of_mem_childElements hforest hc
      exact ⟨hctree, by rwa [hforest.ancestors_of_parent? hparent]⟩
    · exact ⟨he.1, List.mem_cons_of_mem _ he.2⟩
    · -- there is no shadow tree to go on in
      obtain ⟨i, hi, -⟩ := Option.map_eq_some_iff.1 hroot
      obtain ⟨id, -, hi⟩ := Option.bind_eq_some_iff.1 hi
      rw [ScopeTree.shadowTreeIndex?, hflat.shadowTrees] at hi
      contradiction
    · exact ⟨he.1, List.mem_cons_of_mem _ he.2⟩
  have hheld := held_buildControlTree h hdescends ⟨rfl, controls.mem_line_self controls.root⟩
  intro s hs
  obtain ⟨place, -, hplace⟩ := hheld.stands s hs
  exact hplace

namespace Analysis

variable {controls : Document} {models : List Document} {r : ComponentRegistry} {a : Analysis}

/-- A control that is found by an id is the one of the element with the id. -/
theorem exists_element_of_control? (h : run controls models r = .ok a) (hr : r.bindings = [])
    (hforest : controls.IsForest) {id : String} {c : Control}
    (hc : a.controls.control? id = some c) : ∃ n, c.element = ⟨.controls, n⟩ ∧
      n ∈ controls.descendants controls.root ∧ controls.staticId? n = some id := by
  obtain ⟨scopes, tree, hscopes, -, hbuild, htagged⟩ := exists_tagged h
  have hflat := flat_resolveScopes hr hscopes
  obtain ⟨-, -, hlocated⟩ := nests_located h
  have hid := hlocated.prefixedId hc
  obtain ⟨i, -, hget⟩ := Option.bind_eq_some_iff.1 hc
  have hmem : c.standing ∈ tree.standings := by
    rw [← htagged.standings]
    exact ControlTree.standing_mem_standings hget
  have hplace : c.place ∈ tree.places := by
    rw [← htagged.places]
    exact place_mem_places hget
  obtain ⟨-, -, -, hplaced⟩ := places_buildControlTree hbuild
  obtain ⟨hstatic, hprefixed, -⟩ := hplaced c.place hplace
  obtain ⟨htree, habove⟩ := standings_in_controls hbuild hflat hforest c.standing hmem
  obtain ⟨n, hn⟩ : ∃ n, c.element = ⟨.controls, n⟩ := ⟨c.element.node, by rw [← htree]; rfl⟩
  have helement : c.place.element = ⟨.controls, n⟩ := hn
  rw [helement] at hstatic hprefixed
  have hstaticId : controls.staticId? n = some c.staticId := hstatic
  have hplain : c.staticId = id := by
    rw [hflat.prefixOf, String.empty_append] at hprefixed
    exact hprefixed.symm.trans hid
  refine ⟨n, hn, ?_, hplain ▸ hstaticId⟩
  rw [hforest.mem_descendants_root]
  refine ⟨Document.isElement_of_staticId? hstaticId, .inr ?_⟩
  have hnode : c.standing.element.node = n := congrArg ElementRef.node hn
  rwa [hnode] at habove

/-- The control of the observer that is recorded for an element of a handler. -/
def observer? (a : Analysis) (controls : Document) (n : NodeId) : Option Control :=
  (a.observerAround? controls n).bind a.controls.control?

/-- What is above the element of this control; nothing if there is no such control. -/
def aboveObserver (a : Analysis) (controls : Document) (n : NodeId) : List NodeId :=
  ((a.observer? controls n).map fun c => controls.ancestors c.element.node).getD []

/-- The repeats around a control are those above its element. -/
theorem ancestorRepeats_control (h : run controls models r = .ok a) (hr : r.bindings = [])
    (hform : controls.Identified) {i : ControlId} {c : Control} {n : NodeId}
    (hc : a.controls.get? i = some c) (helement : c.element = ⟨.controls, n⟩) :
    a.controls.ancestorRepeats c none = controls.repeatIds (controls.ancestors n) := by
  obtain ⟨scopes, tree, hscopes, -, hbuild, htagged⟩ := exists_tagged h
  have hflat := flat_resolveScopes hr hscopes
  have hname : Form.name? ⟨controls, scopes⟩ ⟨.controls, controls.root⟩ = some (.plain "controls") :=
    hform.root
  have hroot : Form.isHolder ⟨controls, scopes⟩ controls.root = false := by
    rw [Form.isHolder_eq (e := ⟨.controls, controls.root⟩) rfl hname, ScopeTree.classify,
      ComponentRegistry.isComponent_of_unbound hflat.components]
    decide
  rw [ancestorRepeats_eq_repeatsAround hbuild htagged hform.isForest hroot hc helement]
  exact List.filterMap_congr fun m _ => hflat.prefixedId? m

/-- **The repeats around an element of a handler are those around its observer.** For every element of
the controls document that is no control and in no handler of a model, the answer has the repeats above
the observer that is recorded for the element. It has the repeats above the element itself exactly if
these are the same, so neither the observer is a repeat nor one is between the two. -/
theorem ancestorRepeats_eq_aboveObserver (h : run controls models r = .ok a) (hr : r.bindings = [])
    (hform : controls.Identified) {x : NodeId} {id : String}
    (hx : x ∈ controls.descendants controls.root) (hid : controls.staticId? x = some id)
    (hcontrol : ∀ c ∈ a.controls.controls, c.element ≠ ⟨.controls, x⟩)
    (hmodels : ∀ m ∈ models, ∀ n ∈ m.modelHandlers, id ∉ m.subtreeIds n) :
    a.ancestorRepeats id none = controls.repeatIds (a.aboveObserver controls x) ∧
    (a.ancestorRepeats id none = controls.repeatIds (controls.ancestors x) ↔
      ∀ n, controls.isNamed n Namespace.xforms "repeat" = true →
        (n ∈ controls.ancestors x ↔ n ∈ a.aboveObserver controls x)) := by
  have hforest := hform.isForest
  have hnone : a.controls.control? id = none := by
    cases hc : a.controls.control? id with
    | none => rfl
    | some c =>
      obtain ⟨n, helement, hn, hnid⟩ := exists_element_of_control? h hr hforest hc
      obtain rfl := hforest.eq_of_staticId? hform.nodup hn hx hnid hid
      obtain ⟨i, -, hget⟩ := Option.bind_eq_some_iff.1 hc
      exact absurd helement (hcontrol c (Array.mem_of_getElem? hget))
  have hobserver : a.controlAt? id = a.observer? controls x := by
    rw [controlAt?, hnone, Option.none_or, observer?,
      ancestorObserver?_eq h hr hforest hform.nodup hx hid hmodels]
  have hlaw : a.ancestorRepeats id none = controls.repeatIds (a.aboveObserver controls x) ∧
      (controls.descendants controls.root).filter (fun n => (a.aboveObserver controls x).contains n) =
        (a.aboveObserver controls x).reverse := by
    rw [ancestorRepeats, hobserver, aboveObserver]
    cases hc : a.observer? controls x with
    | none => exact ⟨rfl, List.filter_eq_nil_iff.2 fun _ _ => Bool.false_ne_true⟩
    | some c =>
      obtain ⟨observerId, -, hcontrol⟩ := Option.bind_eq_some_iff.1 hc
      obtain ⟨n, helement, hn, -⟩ := exists_element_of_control? h hr hforest hcontrol
      obtain ⟨i, -, hget⟩ := Option.bind_eq_some_iff.1 hcontrol
      rw [Option.map_some, Option.getD_some, helement]
      exact ⟨ancestorRepeats_control h hr hform hget helement,
        hforest.filter_descendants_ancestors hn⟩
  refine ⟨hlaw.1, ?_⟩
  rw [hlaw.1, eq_comm, hform.repeatIds_eq_iff (hforest.filter_descendants_ancestors hx) hlaw.2]

/-- A repeat with a handler directly in it and with another one in a trigger. -/
def handlerControls : Document :=
  { nodes :=
      #[{ kind := .element (.plain "controls") [], children := [1] },
        { kind := .element { nsPrefix := "xf", uri := Namespace.xforms, localName := "repeat" }
            [⟨.plain "id", "r"⟩]
          parent := some 0, children := [2, 3] },
        { kind := .element { nsPrefix := "xf", uri := Namespace.xforms, localName := "action" }
            [⟨.plain "id", "h"⟩,
              ⟨{ nsPrefix := "ev", uri := Namespace.events, localName := "event" }, "DOMActivate"⟩]
          parent := some 1 },
        { kind := .element { nsPrefix := "xf", uri := Namespace.xforms, localName := "trigger" }
            [⟨.plain "id", "t"⟩]
          parent := some 1, children := [4] },
        { kind := .element { nsPrefix := "xf", uri := Namespace.xforms, localName := "action" }
            [⟨.plain "id", "g"⟩,
              ⟨{ nsPrefix := "ev", uri := Namespace.events, localName := "event" }, "DOMActivate"⟩]
          parent := some 3, children := [5] },
        { kind := .element { nsPrefix := "xf", uri := Namespace.xforms, localName := "setvalue" }
            [⟨.plain "id", "v"⟩]
          parent := some 4 }]
    root := 0 }

theorem identified_handlerControls : handlerControls.Identified where
  checked := by decide
  root := rfl
  identified := by decide
  nodup := by decide

/-- The controls of `handlerControls`, the handlers around the first handler, and the repeats around
it and around the action in the second. -/
theorem repeats_handlerControls :
    ((run handlerControls [] {}).toOption.map fun a =>
      (a.controls.controls.toList.map (·.element), a.handlersAround handlerControls 2,
        a.ancestorRepeats "h" none, a.ancestorRepeats "v" none)) =
      some ([⟨.controls, 1⟩, ⟨.controls, 3⟩], [2], [], ["r"]) := by
  decide +kernel

theorem exists_handlerControls : ∃ a, run handlerControls [] {} = .ok a ∧
    (∀ c ∈ a.controls.controls, c.element ≠ ⟨.controls, 2⟩ ∧ c.element ≠ ⟨.controls, 5⟩) ∧
    a.handlersAround handlerControls 2 = [2] ∧ a.ancestorRepeats "h" none = [] ∧
    a.ancestorRepeats "v" none = ["r"] := by
  obtain ⟨a, ha, hrun⟩ := ok_of_toOption_map repeats_handlerControls
  simp only [Prod.mk.injEq] at hrun
  obtain ⟨helements, hhandlers, hh, hv⟩ := hrun
  refine ⟨a, ha, fun c hc => ?_, hhandlers, hh, hv⟩
  have hmem : c.element ∈ a.controls.controls.toList.map (·.element) :=
    List.mem_map_of_mem (Array.mem_toList_iff.2 hc)
  rw [helements] at hmem
  revert hmem
  generalize c.element = e
  decide +revert

/-- **The repeats around an element of a handler are not always found**: the repeat around the first
handler of `handlerControls` is not. -/
theorem not_ancestorRepeats_eq_ancestors :
    ¬∀ (controls : Document) (models : List Document) (r : ComponentRegistry) (a : Analysis)
      (x n : NodeId) (id : String), controls.Identified → r.bindings = [] →
      (controls.staticIds ++ models.flatMap Document.staticIds).Nodup →
      run controls models r = .ok a → n ∈ a.handlersAround controls x →
      controls.staticId? x = some id → (∀ c ∈ a.controls.controls, c.element ≠ ⟨.controls, x⟩) →
      a.ancestorRepeats id none = controls.repeatIds (controls.ancestors x) := by
  intro hall
  obtain ⟨a, ha, hcontrol, hhandlers, hrepeats, -⟩ := exists_handlerControls
  have hclaim := hall handlerControls [] {} a 2 2 "h" identified_handlerControls rfl (by decide) ha
    (hhandlers ▸ List.mem_singleton.2 rfl) rfl fun c hc => (hcontrol c hc).1
  rw [hrepeats] at hclaim
  exact absurd hclaim (by decide)

/-- The law at both handlers of `handlerControls`: the repeat is missed for the first handler, and
found for the action in the second. -/
theorem ancestorRepeats_eq_aboveObserver_handlerControls : ∃ a, run handlerControls [] {} = .ok a ∧
    handlerControls.Identified ∧
    (∀ c ∈ a.controls.controls, c.element ≠ ⟨.controls, 2⟩ ∧ c.element ≠ ⟨.controls, 5⟩) ∧
    handlerControls.repeatIds (a.aboveObserver handlerControls 2) = [] ∧
    handlerControls.repeatIds (handlerControls.ancestors 2) = ["r"] ∧
    (∀ n, handlerControls.isNamed n Namespace.xforms "repeat" = true →
      (n ∈ handlerControls.ancestors 5 ↔ n ∈ a.aboveObserver handlerControls 5)) := by
  obtain ⟨a, ha, hcontrol, -, hh, hv⟩ := exists_handlerControls
  have hform := identified_handlerControls
  have hfirst := ancestorRepeats_eq_aboveObserver ha rfl hform (by decide)
    (rfl : handlerControls.staticId? 2 = some "h")
    (fun c hc => (hcontrol c hc).1) (List.forall_mem_nil _)
  have hsecond := ancestorRepeats_eq_aboveObserver ha rfl hform (by decide)
    (rfl : handlerControls.staticId? 5 = some "v")
    (fun c hc => (hcontrol c hc).2) (List.forall_mem_nil _)
  refine ⟨a, ha, hform, hcontrol, hfirst.1.symm.trans hh, by decide, hsecond.2.1 ?_⟩
  rw [hv]
  decide

end Analysis

end FormEngine
