import FormEngine.Model
import Mathlib.Data.List.Induction
import Mathlib.Data.List.Nodup
/-!
# Registering models one after the other

A model document is registered in a scope under its own id, or under an id that is made up from the
number of models kept so far if it has none. Made-up ids never get in the way of one another, whatever
the prefixes of their scopes: the number has grown by the time the next one is made up. But an id that
was written by hand may be just the one that is made up later. So a model without an id joins the
index exactly if no model document before it was written with an id that comes to the same prefixed
id. Otherwise it is lost.
-/

namespace FormEngine

/-! ## Made-up ids -/

/-- Two lists that end in the same way after the last occurrence of an element. -/
theorem eq_of_append_cons_eq {α : Type} [DecidableEq α] {a : α} {xs ys ds es : List α}
    (hd : a ∉ ds) (he : a ∉ es) (h : xs ++ a :: ds = ys ++ a :: es) : ds = es := by
  have hlast : ∀ {zs fs : List α}, a ∉ fs →
      (zs ++ a :: fs).reverse.takeWhile (· != a) = fs.reverse := by
    intro zs fs hf
    have hpos : ∀ b ∈ fs.reverse, (b != a) = true := by
      intro b hb
      rw [bne_iff_ne]
      rintro rfl
      exact hf (List.mem_reverse.1 hb)
    rw [List.reverse_append, List.reverse_cons, List.append_assoc,
      List.takeWhile_append_of_pos hpos]
    simp
  have hreverse : ds.reverse = es.reverse := by rw [← hlast hd, h, hlast he]
  exact List.reverse_inj.1 hreverse

namespace ModelIndex

/-- The made-up id with a number. -/
def madeUpId (k : Nat) : String := "xf-model-" ++ Nat.repr k

theorem fallbackId_eq (x : ModelIndex) : x.fallbackId = madeUpId (x.size + 1) := rfl

/-- **Made-up ids with different numbers stay different under any prefixes.** -/
theorem eq_of_append_madeUpId {p q : String} {j k : Nat}
    (h : p ++ madeUpId j = q ++ madeUpId k) : j = k := by
  have hnone : ∀ n, '-' ∉ Nat.toDigits 10 n := by
    intro n hmem
    have hdigit := Nat.isDigit_of_mem_toDigits (by decide) (by decide) hmem
    exact absurd hdigit (by decide)
  have hmark : "xf-model-".toList = "xf-model".toList ++ ['-'] := rfl
  have hlists := congrArg String.toList h
  simp only [madeUpId, String.toList_append, Nat.toList_repr, hmark, List.append_assoc,
    List.singleton_append] at hlists
  rw [← List.append_assoc, ← List.append_assoc] at hlists
  have hdigits := eq_of_append_cons_eq (hnone j) (hnone k) hlists
  have hnumbers := congrArg (fun ds => Nat.ofDigitChars 10 ds 0) hdigits
  simpa using hnumbers

/-! ## One registration -/

variable {x : ModelIndex} {scope : Scope} {d : Document} {id : String}

theorem model?_isSome_iff : (x.model? id).isSome = true ↔ ∃ m ∈ x.models, m.prefixedId = id := by
  simp [model?, List.find?_isSome]

theorem model?_eq_none_iff : x.model? id = none ↔ ∀ m ∈ x.models, m.prefixedId ≠ id := by
  simp [model?, List.find?_eq_none]

theorem models_add_of_taken {m : Model} (h : x.model? (x.modelOf scope d).prefixedId = some m) :
    (x.add scope d).models = x.models :=
  if_pos (by rw [h]; rfl)

theorem models_add_of_free (h : x.model? (x.modelOf scope d).prefixedId = none) :
    (x.add scope d).models = x.models ++ [x.modelOf scope d] :=
  if_neg (by rw [h]; exact Bool.false_ne_true)

/-- What all models have after a registration. -/
theorem forall_models_add {P : Model → Prop} (h : ∀ m ∈ x.models, P m)
    (hnew : P (x.modelOf scope d)) : ∀ m ∈ (x.add scope d).models, P m := by
  cases hfree : x.model? (x.modelOf scope d).prefixedId with
  | some m => rwa [models_add_of_taken hfree]
  | none =>
    rw [models_add_of_free hfree]
    exact List.forall_mem_append.2 ⟨h, List.forall_mem_singleton.2 hnew⟩

/-- No two models are kept under one prefixed id. -/
theorem nodup_models_add (h : (x.models.map (·.prefixedId)).Nodup) (scope : Scope) (d : Document) :
    ((x.add scope d).models.map (·.prefixedId)).Nodup := by
  cases hfree : x.model? (x.modelOf scope d).prefixedId with
  | some m => rwa [models_add_of_taken hfree]
  | none =>
    rw [models_add_of_free hfree, List.map_append, List.map_singleton, ← List.concat_eq_append]
    refine h.concat ?_
    intro hmem
    obtain ⟨m, hm, hid⟩ := List.mem_map.1 hmem
    exact model?_eq_none_iff.1 hfree m hm hid

/-- A model stays the one under its prefixed id. -/
theorem model?_add_of_isSome (h : (x.model? id).isSome = true) :
    (x.add scope d).model? id = x.model? id := by
  cases hfree : x.model? (x.modelOf scope d).prefixedId with
  | some m => rw [model?, models_add_of_taken hfree, model?]
  | none =>
    rw [model?, models_add_of_free hfree, List.find?_append]
    exact Option.or_of_isSome h

/-- After its registration there is a model under the prefixed id of a document. -/
theorem model?_add_modelOf (x : ModelIndex) (scope : Scope) (d : Document) :
    ((x.add scope d).model? (x.modelOf scope d).prefixedId).isSome = true := by
  cases hfree : x.model? (x.modelOf scope d).prefixedId with
  | some m =>
    have htaken : (x.model? (x.modelOf scope d).prefixedId).isSome = true := by rw [hfree]; rfl
    rwa [model?_add_of_isSome htaken]
  | none =>
    rw [model?_isSome_iff, models_add_of_free hfree]
    exact ⟨x.modelOf scope d, by simp, rfl⟩

theorem size_le_size_add (x : ModelIndex) (scope : Scope) (d : Document) :
    x.size ≤ (x.add scope d).size := by
  cases hfree : x.model? (x.modelOf scope d).prefixedId with
  | some m => exact Nat.le_of_eq (by rw [size, size, models_add_of_taken hfree])
  | none =>
    rw [size, size, models_add_of_free hfree, List.length_append]
    exact Nat.le_add_right _ _

/-- The index `x'` is `x` with one model more, whose prefixed id no model of `x` has. -/
structure Gains (x x' : ModelIndex) (m : Model) : Prop where
  models : x'.models = x.models ++ [m]
  size : x'.size = x.size + 1
  new : ∀ e ∈ x.models, e.prefixedId ≠ m.prefixedId
  found : x'.model? m.prefixedId = some m

/-- A model joins the index if its prefixed id is free. -/
theorem gains_add_iff : x.Gains (x.add scope d) (x.modelOf scope d) ↔
    x.model? (x.modelOf scope d).prefixedId = none := by
  constructor
  · intro h
    exact model?_eq_none_iff.2 h.new
  · intro hfree
    have hmodels := models_add_of_free hfree
    refine ⟨hmodels, ?_, model?_eq_none_iff.1 hfree, ?_⟩
    · rw [size, hmodels, List.length_append, List.length_singleton, size]
    · rw [model?, hmodels, List.find?_append, show x.models.find? _ = none from hfree]
      simp

/-! ## A sequence of registrations -/

/-- The index after model documents have been registered in order, each in its scope. -/
def ofCalls (calls : List (Scope × Document)) : ModelIndex :=
  calls.foldl (fun x c => x.add c.1 c.2) {}

theorem ofCalls_concat (calls : List (Scope × Document)) (c : Scope × Document) :
    ofCalls (calls ++ [c]) = (ofCalls calls).add c.1 c.2 :=
  List.foldl_append

/-- A model document among these was written with an id that comes to the given prefixed id. -/
def Written (calls : List (Scope × Document)) (prefixedId : String) : Prop :=
  ∃ c ∈ calls, ∃ id, c.2.staticId? c.2.root = some id ∧ c.1.prefixedId id = prefixedId

theorem Written.concat {calls : List (Scope × Document)} (h : Written calls id)
    (c : Scope × Document) : Written (calls ++ [c]) id := by
  obtain ⟨e, he, hid⟩ := h
  exact ⟨e, List.mem_append_left [c] he, hid⟩

/-- Where the prefixed ids of the index come from: every written one is taken, and one that was not
written has a made-up id with the number of a model that is kept. -/
structure Traced (calls : List (Scope × Document)) (x : ModelIndex) : Prop where
  written : ∀ id, Written calls id → (x.model? id).isSome = true
  origin : ∀ m ∈ x.models, Written calls m.prefixedId ∨
    ∃ (scope : Scope) (k : Nat), k ≤ x.size ∧ m.prefixedId = scope.prefixedId (madeUpId k)

theorem Traced.add {calls : List (Scope × Document)} (h : Traced calls x) (scope : Scope)
    (d : Document) : Traced (calls ++ [(scope, d)]) (x.add scope d) := by
  constructor
  · rintro id ⟨c, hc, own, hown, hid⟩
    rcases List.mem_append.1 hc with hc | hc
    · have htaken := h.written id ⟨c, hc, own, hown, hid⟩
      rwa [model?_add_of_isSome htaken]
    · obtain rfl : c = (scope, d) := List.mem_singleton.1 hc
      have hmodel : (x.modelOf scope d).prefixedId = id := by
        show scope.prefixedId ((d.staticId? d.root).getD x.fallbackId) = id
        rw [show d.staticId? d.root = some own from hown, Option.getD_some]
        exact hid
      rw [← hmodel]
      exact model?_add_modelOf x scope d
  · have hold : ∀ m ∈ x.models, Written (calls ++ [(scope, d)]) m.prefixedId ∨
        ∃ (scope' : Scope) (k : Nat), k ≤ (x.add scope d).size ∧
          m.prefixedId = scope'.prefixedId (madeUpId k) := by
      intro m hm
      rcases h.origin m hm with hwritten | ⟨scope', k, hk, hid⟩
      · exact .inl (hwritten.concat _)
      · exact .inr ⟨scope', k, Nat.le_trans hk (size_le_size_add x scope d), hid⟩
    cases hfree : x.model? (x.modelOf scope d).prefixedId with
    | some m => rwa [models_add_of_taken hfree]
    | none =>
      have hgains := gains_add_iff.2 hfree
      rw [hgains.models, List.forall_mem_append, List.forall_mem_singleton]
      refine ⟨hold, ?_⟩
      cases hown : d.staticId? d.root with
      | some own =>
        refine .inl ⟨(scope, d), by simp, own, hown, ?_⟩
        show scope.prefixedId own = scope.prefixedId ((d.staticId? d.root).getD x.fallbackId)
        rw [hown, Option.getD_some]
      | none =>
        -- the number of the made-up id is that of the new model
        refine .inr ⟨scope, x.size + 1, Nat.le_of_eq hgains.size.symm, ?_⟩
        show scope.prefixedId ((d.staticId? d.root).getD x.fallbackId) = _
        rw [hown, Option.getD_none, fallbackId_eq]

theorem traced_ofCalls (calls : List (Scope × Document)) : Traced calls (ofCalls calls) := by
  induction calls using List.reverseRecOn with
  | nil =>
    constructor
    · rintro id ⟨c, hc, -⟩
      simp at hc
    · intro m hm
      simp [ofCalls] at hm
  | append_singleton calls c ih =>
    rw [ofCalls_concat]
    exact ih.add c.1 c.2

/-- **A model without an id joins the index exactly if the id that is made up for it was not written
before**: in whatever scopes models have been registered so far, with ids or without, it is then kept
as a new model under a prefixed id that no model had. Otherwise the index keeps the models it has, and
the model is lost. -/
theorem gains_iff_of_nameless (calls : List (Scope × Document)) (scope : Scope) {d : Document}
    (hd : d.staticId? d.root = none) :
    let x := ofCalls calls
    (x.modelOf scope d).prefixedId = scope.prefixedId x.fallbackId ∧
      (x.Gains (x.add scope d) (x.modelOf scope d) ↔
        ¬Written calls (scope.prefixedId x.fallbackId)) ∧
      (Written calls (scope.prefixedId x.fallbackId) → (x.add scope d).models = x.models) := by
  intro x
  have htraced : Traced calls x := traced_ofCalls calls
  have hid : (x.modelOf scope d).prefixedId = scope.prefixedId x.fallbackId := by
    show scope.prefixedId ((d.staticId? d.root).getD x.fallbackId) = _
    rw [hd, Option.getD_none]
  refine ⟨hid, ?_, ?_⟩
  · rw [gains_add_iff, hid]
    constructor
    · intro hfree hwritten
      have htaken := htraced.written _ hwritten
      rw [hfree] at htaken
      contradiction
    · intro hunwritten
      rw [model?_eq_none_iff]
      intro m hm hsame
      rcases htraced.origin m hm with hwritten | ⟨scope', k, hk, hmade⟩
      · exact hunwritten (hsame ▸ hwritten)
      · -- the numbers of made-up ids in use are not above the number of models
        rw [hsame, fallbackId_eq] at hmade
        have hnumber : x.size + 1 = k := eq_of_append_madeUpId hmade
        omega
  · intro hwritten
    obtain ⟨m, hm⟩ := Option.isSome_iff_exists.1 (htraced.written _ hwritten)
    rw [← hid] at hm
    exact models_add_of_taken hm

/-! ## Models with and without ids -/

/-- The document of a model without content. -/
def bareModel (id? : Option String) : Document :=
  let name : QName := { nsPrefix := "xf", uri := Namespace.xforms, localName := "model" }
  let attributes := id?.toList.map fun id => ⟨.plain "id", id⟩
  { nodes := #[{ kind := .element name attributes }], root := 0 }

/-- A model is registered in a component instance, and another one without an id at top level. -/
def mixedCalls : List (Scope × Document) :=
  [(⟨1, "a", "a$", some 0⟩, bareModel (some "xf-model-3")), (Scope.top, bareModel none)]

/-- The third model has a made-up id that was written before, but in another scope. -/
theorem gains_mixedCalls : (bareModel none).staticId? (bareModel none).root = none ∧
    (ofCalls mixedCalls).Gains ((ofCalls mixedCalls).add Scope.top (bareModel none))
      ((ofCalls mixedCalls).modelOf Scope.top (bareModel none)) := by
  have hnone : (bareModel none).staticId? (bareModel none).root = none := by decide
  refine ⟨hnone, (gains_iff_of_nameless mixedCalls Scope.top hnone).2.1.2 ?_⟩
  rintro ⟨c, hc, id, hid, hwritten⟩
  have hids : mixedCalls.map (fun c => (c.2.staticId? c.2.root).map c.1.prefixedId) =
      [some "a$xf-model-3", none] := by decide
  have hfallback : Scope.top.prefixedId (ofCalls mixedCalls).fallbackId = "xf-model-3" := by decide
  have hmem := List.mem_map_of_mem (f := fun c => (c.2.staticId? c.2.root).map c.1.prefixedId) hc
  rw [hids, hid, Option.map_some, hwritten, hfallback] at hmem
  exact absurd hmem (by decide)

/-- **Not every model without an id is kept**: one that is registered after a model that was written
with its made-up id is lost. -/
theorem not_all_nameless_gained : ¬∀ (calls : List (Scope × Document)) (scope : Scope)
    (d : Document), d.staticId? d.root = none →
    (ofCalls calls).Gains ((ofCalls calls).add scope d) ((ofCalls calls).modelOf scope d) := by
  intro hall
  have hgains := hall [(Scope.top, bareModel (some "xf-model-2"))] Scope.top (bareModel none)
    (by decide)
  exact absurd hgains.size (by decide)

end ModelIndex

end FormEngine
