import FormEngine.Proofs.Model.Registration
import FormEngine.Proofs.Scope.Chain
/-!
# The search for an instance

An instance is looked for in the scope at hand, then in the scope around it, and so on. Nothing in the
search itself says that this ends. It does because a scope is always made inside one that is there: the
scope around it has a smaller number, and only the top level has no scope around it. So the scopes from
any scope outwards form a chain that ends at the top level, and the search answers for the first scope
of the chain that has a model with the instance.
-/

namespace FormEngine

namespace ScopeTree

/-! ## Scopes inside of earlier ones -/

/-- The scopes have been made one after the other, each inside one that was there. All else about the
tree may change at any time. -/
inductive Grown : ScopeTree → Prop
  | start (r : ComponentRegistry) : Grown (.ofComponents r)
  | create {t : ScopeTree} {parent : ScopeId} (scopeId : String) :
    Grown t → parent < t.size → Grown (t.createScope parent scopeId)
  | change {t t' : ScopeTree} : Grown t → t'.scopes = t.scopes → Grown t'

/-- **In a tree that was grown the number of a scope is above that of the scope around it.** -/
theorem Grown.ordered {t : ScopeTree} (h : t.Grown) : t.Ordered := by
  induction h with
  | start r => exact ordered_ofComponents r
  | create _ _ hparent ih => exact ih.concat rfl hparent
  | change _ hsame ih => exact ih.congr hsame

end ScopeTree

/-! ## The search -/

namespace ModelIndex

variable {x : ModelIndex} {t : ScopeTree} {instanceId : String}

/-- Some model in the list of the scope has the instance. -/
def Offers (x : ModelIndex) (instanceId : String) (s : Scope) : Prop :=
  ∃ m ∈ x.modelsForScope s.id, instanceId ∈ m.instanceStaticIds

theorem offers_iff {s : Scope} : x.Offers instanceId s ↔
    ((x.modelsForScope s.id).any fun m => m.hasInstance instanceId) = true := by
  simp only [Offers, List.any_eq_true, Model.hasInstance, List.contains_iff_mem]

/-- **The search, step by step**, from the scope it has come to. It is over with an answer at a scope
that offers the instance, and without one where there is no scope left. -/
inductive Searches (x : ModelIndex) (t : ScopeTree) (instanceId : String) :
    Option Scope → Option String → Prop
  | nowhere : Searches x t instanceId none none
  | here {s : Scope} :
    x.Offers instanceId s → Searches x t instanceId (some s) (some (s.prefixedId instanceId))
  | outwards {s : Scope} {answer : Option String} :
    ¬x.Offers instanceId s → Searches x t instanceId (t.parent? s.id) answer →
    Searches x t instanceId (some s) answer

theorem Searches.unique {s? : Option Scope} {answer answer' : Option String}
    (h : x.Searches t instanceId s? answer) (h' : x.Searches t instanceId s? answer') :
    answer = answer' := by
  induction h with
  | nowhere =>
    cases h'
    rfl
  | here hoffers =>
    cases h' with
    | here _ => rfl
    | outwards hnot _ => exact absurd hoffers hnot
  | outwards hnot _ ih =>
    cases h' with
    | here hoffers => exact absurd hoffers hnot
    | outwards _ hrest => exact ih hrest

/-- The search at a scope goes as far along the chain as it has to. -/
theorem searches_cons {s : Scope} {outer : List Scope}
    (h : x.Searches t instanceId (t.parent? s.id)
      ((outer.find? fun s => (x.modelsForScope s.id).any fun m => m.hasInstance instanceId).map
        fun s => s.prefixedId instanceId)) :
    x.Searches t instanceId (some s)
      (((s :: outer).find? fun s =>
          (x.modelsForScope s.id).any fun m => m.hasInstance instanceId).map
        fun s => s.prefixedId instanceId) := by
  rw [List.find?_cons]
  split
  · rename_i hoffers
    exact .here (offers_iff.2 hoffers)
  · rename_i hnot
    refine .outwards ?_ h
    intro hoffers
    rw [offers_iff.1 hoffers] at hnot
    contradiction

/-- The search along a chain answers for the first scope that offers the instance. -/
theorem searches_of_outwards (ht : t.Ordered) {place : Option ScopeId} {chain : List Scope}
    (h : Outwards t.scope? Scope.parent place chain) :
    x.Searches t instanceId (place.bind t.scope?)
      ((chain.find? fun s => (x.modelsForScope s.id).any fun m => m.hasInstance instanceId).map
        fun s => s.prefixedId instanceId) := by
  induction h with
  | top => exact .nowhere
  | under hs _ ih =>
    rw [Option.bind_some, hs]
    apply searches_cons
    rw [ht.parent?_eq hs]
    exact ih

/-- **An instance is found in the innermost scope that has it.** In a tree that was grown, whatever models
have been registered, the search from any scope is over after finitely many steps, with the answer of the
index and no other. The scopes from the start outwards form a chain that ends at the top level, and the
answer is the instance under the prefix of the first scope of the chain that has a model with it. There
is no answer exactly if no scope of the chain has one. -/
theorem finds_innermost (x : ModelIndex) {t : ScopeTree} (ht : t.Grown) {start : ScopeId}
    (hstart : start < t.size) (instanceId : String) :
    Outwards t.scope? Scope.parent (some start) (t.chain start) ∧
      (t.chain start).getLast? = some Scope.top ∧
      (∀ answer, x.Searches t instanceId (t.scope? start) answer ↔
        x.findInstancePrefixedId? t start instanceId = answer) ∧
      (∀ id, x.findInstancePrefixedId? t start instanceId = some id ↔
        ∃ inner s outer, t.chain start = inner ++ s :: outer ∧ x.Offers instanceId s ∧
          (∀ u ∈ inner, ¬x.Offers instanceId u) ∧ s.prefixedId instanceId = id) ∧
      (x.findInstancePrefixedId? t start instanceId = none ↔
        ∀ s ∈ t.chain start, ¬x.Offers instanceId s) := by
  have hordered := ht.ordered
  have hchain := hordered.outwards_chain hstart
  have hsearches : x.Searches t instanceId (t.scope? start)
      (x.findInstancePrefixedId? t start instanceId) := searches_of_outwards hordered hchain
  refine ⟨hchain, hordered.getLast?_outwards hchain, ?_, ?_, ?_⟩
  · intro answer
    constructor
    · intro h
      exact hsearches.unique h
    · rintro rfl
      exact hsearches
  · intro id
    rw [findInstancePrefixedId?, Option.map_eq_some_iff]
    constructor
    · rintro ⟨s, hfound, hid⟩
      obtain ⟨hoffers, inner, outer, hsplit, hinner⟩ := List.find?_eq_some_iff_append.1 hfound
      refine ⟨inner, s, outer, hsplit, offers_iff.2 hoffers, ?_, hid⟩
      intro u hu hmore
      have hnot := hinner u hu
      rw [offers_iff.1 hmore] at hnot
      contradiction
    · rintro ⟨inner, s, outer, hsplit, hoffers, hinner, hid⟩
      refine ⟨s, List.find?_eq_some_iff_append.2 ⟨offers_iff.1 hoffers, inner, outer, hsplit, ?_⟩, hid⟩
      intro u hu
      rw [Bool.not_eq_true', ← Bool.not_eq_true, ← offers_iff]
      exact hinner u hu
  · rw [findInstancePrefixedId?, Option.map_eq_none_iff, List.find?_eq_none]
    apply forall₂_congr
    intro s _
    rw [offers_iff]

/-! ## Scopes in scopes -/

/-- A component instance in a component instance, each with its scope. -/
def nestedScopes : ScopeTree :=
  ((ScopeTree.ofComponents {}).createScope 0 "a").createScope 1 "a$b"

/-- The document of a model without an id and with one instance. -/
def instanceModel (instanceId : String) : Document :=
  let name : QName := { nsPrefix := "xf", uri := Namespace.xforms, localName := "instance" }
  (bareModel none).appendElement 0 name [⟨.plain "id", instanceId⟩]

/-- Models with instances: `i` at top level and in the outer component instance, and `j` at top level. -/
def nestedCalls : List (Scope × Document) :=
  [(Scope.top, instanceModel "i"), (⟨1, "a", "a$", some 0⟩, instanceModel "i"),
    (Scope.top, instanceModel "j")]

/-- From the inner component instance `i` is found in the outer one, `j` at top level, and `k` nowhere. -/
theorem finds_innermost_nestedScopes : nestedScopes.Grown ∧ 2 < nestedScopes.size ∧
    ["i", "j", "k"].map ((ofCalls nestedCalls).findInstancePrefixedId? nestedScopes 2) =
      [some "a$i", some "j", none] ∧
    (ofCalls nestedCalls).Searches nestedScopes "i" (nestedScopes.scope? 2) (some "a$i") ∧
    ¬(ofCalls nestedCalls).Offers "k" Scope.top := by
  have hgrown : nestedScopes.Grown := .create _ (.create _ (.start _) (by decide)) (by decide)
  have hsize : 2 < nestedScopes.size := by decide
  have hanswers : ["i", "j", "k"].map
      ((ofCalls nestedCalls).findInstancePrefixedId? nestedScopes 2) =
        [some "a$i", some "j", none] := by decide +kernel
  have hi := (List.cons.inj hanswers).1
  have hk := (List.cons.inj (List.cons.inj (List.cons.inj hanswers).2).2).1
  obtain ⟨-, -, hsearch, -, -⟩ := finds_innermost (ofCalls nestedCalls) hgrown hsize "i"
  obtain ⟨-, hlast, -, -, hnone⟩ := finds_innermost (ofCalls nestedCalls) hgrown hsize "k"
  refine ⟨hgrown, hsize, hanswers, (hsearch _).2 hi, ?_⟩
  exact hnone.1 hk _ (List.mem_of_getLast? hlast)

end ModelIndex

end FormEngine
