import FormEngine.Proofs.Outwards
import FormEngine.Proofs.Scope.Written
/-!
# The chain of a scope

A scope is made inside one that is there, so the scope around it has a smaller number, and only the top
level has no scope around it. The scopes from any scope outwards are therefore a chain that ends at the
top level after no more steps than there are scopes.
-/

namespace FormEngine

namespace ScopeTree

/-- The scopes have their positions for numbers, and each but the first is inside an earlier one. -/
structure Ordered (t : ScopeTree) : Prop where
  top : t.scope? 0 = some Scope.top
  numbered : ∀ (i : Nat) s, t.scope? i = some s → s.id = i
  earlier : ∀ (i : Nat) s, t.scope? (i + 1) = some s → ∃ p ≤ i, s.parent = some p

variable {t t' : ScopeTree} {i : Nat} {s : Scope}

theorem ordered_ofComponents (r : ComponentRegistry) : (ScopeTree.ofComponents r).Ordered := by
  refine ⟨rfl, ?_, ?_⟩
  · intro i s hs
    cases i with
    | zero => exact Option.some.inj hs ▸ rfl
    | succ i => contradiction
  · intro i s hs
    contradiction

namespace Ordered

theorem size_pos (h : t.Ordered) : 0 < t.size := (List.getElem?_eq_some_iff.1 h.top).1

/-- Nothing but the scopes counts. -/
theorem congr (h : t.Ordered) (hsame : t'.scopes = t.scopes) : t'.Ordered := by
  obtain ⟨htop, hnumbered, hearlier⟩ := h
  simp only [scope?, ← hsame] at htop hnumbered hearlier
  exact ⟨htop, hnumbered, hearlier⟩

/-- A scope joins that is inside one that is there. -/
theorem concat (h : t.Ordered) {parent : Nat} {scopeId fullPrefix : String}
    (hscopes : t'.scopes = t.scopes ++ [⟨t.size, scopeId, fullPrefix, some parent⟩])
    (hparent : parent < t.size) : t'.Ordered := by
  have hcases : ∀ i s, t'.scope? i = some s →
      t.scope? i = some s ∨ i = t.size ∧ s = ⟨t.size, scopeId, fullPrefix, some parent⟩ := by
    intro i s hs
    rw [scope?, hscopes] at hs
    exact getElem?_concat hs
  refine ⟨?_, ?_, ?_⟩
  · rw [scope?, hscopes, List.getElem?_append_left h.size_pos]
    exact h.top
  · intro i s hs
    rcases hcases i s hs with hs | ⟨rfl, rfl⟩
    · exact h.numbered i s hs
    · rfl
  · intro i s hs
    rcases hcases (i + 1) s hs with hs | ⟨hi, rfl⟩
    · exact h.earlier i s hs
    · exact ⟨parent, Nat.le_of_lt_succ (Nat.lt_of_lt_of_eq hparent hi.symm), rfl⟩

theorem scope?_id (h : t.Ordered) (hs : s ∈ t.scopes) : t.scope? s.id = some s := by
  obtain ⟨i, hi⟩ := List.mem_iff_getElem?.1 hs
  rw [h.numbered i s hi]
  exact hi

theorem parent_eq_none_iff (h : t.Ordered) (hs : t.scope? i = some s) :
    s.parent = none ↔ s = Scope.top := by
  cases i with
  | zero =>
    obtain rfl : Scope.top = s := Option.some.inj (h.top.symm.trans hs)
    exact ⟨fun _ => rfl, fun _ => rfl⟩
  | succ i =>
    obtain ⟨p, -, hp⟩ := h.earlier i s hs
    constructor
    · intro hnone
      rw [hp] at hnone
      contradiction
    · rintro rfl
      contradiction

theorem parent?_eq (h : t.Ordered) (hs : t.scope? i = some s) :
    t.parent? s.id = s.parent.bind t.scope? := by
  rw [parent?, h.numbered i s hs, hs, Option.bind_some]

/-- **The chain of a scope comes to its end**: as many steps as the tree has scopes are enough. -/
theorem outwards_chainWithin (h : t.Ordered) {fuel : Nat} (hfuel : i < fuel) (hi : i < t.size) :
    Outwards t.scope? Scope.parent (some i) (t.chainWithin fuel i) := by
  induction fuel generalizing i with
  | zero => omega
  | succ fuel ih =>
    obtain ⟨s, hs⟩ := scope?_of_lt hi
    cases i with
    | zero =>
      obtain rfl : Scope.top = s := Option.some.inj (h.top.symm.trans hs)
      rw [chainWithin, hs]
      exact .under hs .top
    | succ i =>
      obtain ⟨p, hp, hparent⟩ := h.earlier i s hs
      simp only [chainWithin, hs, hparent]
      apply Outwards.under hs
      rw [hparent]
      apply ih
      · omega
      · omega

theorem outwards_chain (h : t.Ordered) (hi : i < t.size) :
    Outwards t.scope? Scope.parent (some i) (t.chain i) :=
  h.outwards_chainWithin hi hi

/-- A chain ends at the top level. -/
theorem getLast?_outwards (h : t.Ordered) {place : Option ScopeId} {chain : List Scope}
    (hchain : Outwards t.scope? Scope.parent place chain) :
    chain.getLast? = place.map fun _ => Scope.top := by
  induction hchain with
  | top => rfl
  | @under i s chain hs _ ih =>
    rw [List.getLast?_cons, ih]
    cases hparent : s.parent with
    | none =>
      rw [(h.parent_eq_none_iff hs).1 hparent]
      rfl
    | some p => rfl

end Ordered

end ScopeTree

end FormEngine
