import Mathlib.Data.List.Forall2
import Mathlib.Data.List.Induction
/-!
# Computations that can fail

A sequence of steps that ends well has passed through every step well. The lemmas take such a
sequence apart, one for a single step and one for a fold.
-/

namespace FormEngine

variable {ε α β σ : Type}

/-- Two steps that end well. -/
theorem ok_of_bind {x : Except ε α} {f : α → Except ε β} {b : β} (h : (x >>= f) = .ok b) :
    ∃ a, x = .ok a ∧ f a = .ok b := by
  cases x with
  | error e => contradiction
  | ok a => exact ⟨a, rfl, h⟩

/-- What ends well under another name for its fault ends well. -/
theorem ok_of_mapError {ε' : Type} {x : Except ε α} {f : ε → ε'} {a : α}
    (h : x.mapError f = .ok a) : x = .ok a := by
  cases x with
  | error e => contradiction
  | ok b => exact congrArg Except.ok (Except.ok.inj h)

/-- What is read off the value of a computation is there only if the computation ends well. -/
theorem ok_of_toOption_bind {x : Except ε α} {f : α → Option β} {b : β}
    (h : x.toOption.bind f = some b) : ∃ a, x = .ok a ∧ f a = some b := by
  cases x with
  | error e => contradiction
  | ok a => exact ⟨a, rfl, h⟩

theorem ok_of_toOption_map {x : Except ε α} {f : α → β} {b : β}
    (h : x.toOption.map f = some b) : ∃ a, x = .ok a ∧ f a = b := by
  cases x with
  | error e => contradiction
  | ok a => exact ⟨a, rfl, Option.some.inj h⟩

/-- A fold that ends well keeps what each of its steps keeps, where a step may use how the fold came
to it. -/
theorem foldlM_invariant_of_prefix {f : σ → α → Except ε σ} {P : σ → Prop} {xs : List α} {s s' : σ}
    (h : xs.foldlM f s = .ok s') (hs : P s)
    (hstep : ∀ before x after s₁ s₂, xs = before ++ x :: after → before.foldlM f s = .ok s₁ → P s₁ →
      f s₁ x = .ok s₂ → P s₂) : P s' := by
  induction xs using List.reverseRecOn generalizing s' with
  | nil =>
    obtain rfl : s = s' := Except.ok.inj h
    exact hs
  | append_singleton xs x ih =>
    rw [List.foldlM_append] at h
    obtain ⟨s₁, hxs, hx⟩ := ok_of_bind h
    rw [List.foldlM_cons] at hx
    obtain ⟨s₂, hlast, hnil⟩ := ok_of_bind hx
    obtain rfl : s₂ = s' := Except.ok.inj hnil
    refine hstep xs x [] s₁ s₂ rfl hxs (ih hxs fun before y after s₃ s₄ hsplit => ?_) hlast
    exact hstep before y (after ++ [x]) s₃ s₄ (by rw [hsplit, List.append_assoc, List.cons_append])

/-- A fold that ends well keeps what each of its steps keeps. -/
theorem foldlM_invariant {f : σ → α → Except ε σ} {P : σ → Prop} {xs : List α} {s s' : σ}
    (h : xs.foldlM f s = .ok s') (hs : P s)
    (hstep : ∀ x ∈ xs, ∀ s s', P s → f s x = .ok s' → P s') : P s' := by
  refine foldlM_invariant_of_prefix h hs fun before x after s₁ s₂ hsplit _ hs₁ hx => ?_
  refine hstep x ?_ s₁ s₂ hs₁ hx
  rw [hsplit]
  exact List.mem_append_right before List.mem_cons_self

/-- What each step keeps of the elements that the fold has gone over and of what it has come to, holds of
all of them at the end. -/
theorem foldlM_invariant_along {f : σ → α → Except ε σ} {P : List α → σ → Prop} {done xs : List α}
    {s s' : σ} (h : xs.foldlM f s = .ok s') (hs : P done s)
    (hstep : ∀ x ∈ xs, ∀ done s s', P done s → f s x = .ok s' → P (done ++ [x]) s') :
    P (done ++ xs) s' := by
  induction xs generalizing done s with
  | nil =>
    obtain rfl : s = s' := Except.ok.inj h
    rwa [List.append_nil]
  | cons x xs ih =>
    rw [List.foldlM_cons] at h
    obtain ⟨s₁, hx, hxs⟩ := ok_of_bind h
    obtain ⟨hfirst, hrest⟩ := List.forall_mem_cons.1 hstep
    have hall := ih hxs (hfirst done s s₁ hs hx) hrest
    rwa [List.append_assoc] at hall

/-- A fold that fails has ended well up to an element and fails there. -/
theorem exists_of_foldlM_error {f : σ → α → Except ε σ} {xs : List α} {s : σ} {e : ε}
    (h : xs.foldlM f s = .error e) :
    ∃ before x after s', xs = before ++ x :: after ∧ before.foldlM f s = .ok s' ∧
      f s' x = .error e := by
  induction xs generalizing s with
  | nil => contradiction
  | cons x xs ih =>
    rw [List.foldlM_cons] at h
    cases hx : f s x with
    | error e' =>
      rw [hx] at h
      obtain rfl : e' = e := Except.error.inj h
      exact ⟨[], x, xs, s, rfl, rfl, hx⟩
    | ok s₁ =>
      rw [hx] at h
      obtain ⟨before, y, after, s', rfl, hbefore, hy⟩ := ih h
      refine ⟨x :: before, y, after, s', rfl, ?_, hy⟩
      rw [List.foldlM_cons, hx]
      exact hbefore

/-- Steps that agree unless they fail with a given fault make folds that agree unless they fail with
it. -/
theorem foldlM_congr_of_ne {f g : σ → α → Except ε σ} {e : ε} {xs : List α} {s : σ}
    (hstep : ∀ s x, f s x ≠ .error e → g s x = f s x) (h : xs.foldlM f s ≠ .error e) :
    xs.foldlM g s = xs.foldlM f s := by
  induction xs generalizing s with
  | nil => rfl
  | cons x xs ih =>
    rw [List.foldlM_cons] at h
    have hx : f s x ≠ .error e := fun hx => h (by rw [hx]; rfl)
    rw [List.foldlM_cons, List.foldlM_cons, hstep s x hx]
    cases hs : f s x with
    | error e' => rfl
    | ok s' =>
      rw [hs] at h
      exact ih h

/-- A map that ends well has done so on every element. -/
theorem forall₂_of_mapM {g : α → Except ε β} {xs : List α} {ys : List β}
    (h : xs.mapM g = .ok ys) : List.Forall₂ (fun x y => g x = .ok y) xs ys := by
  induction xs generalizing ys with
  | nil =>
    obtain rfl : [] = ys := Except.ok.inj h
    exact .nil
  | cons x xs ih =>
    rw [List.mapM_cons] at h
    obtain ⟨y, hy, h⟩ := ok_of_bind h
    obtain ⟨ys', hys, h⟩ := ok_of_bind h
    obtain rfl := Except.ok.inj h
    exact .cons hy (ih hys)

theorem exists_of_forall₂ {R : α → β → Prop} {xs : List α} {ys : List β} (h : List.Forall₂ R xs ys)
    {x : α} (hx : x ∈ xs) : ∃ y ∈ ys, R x y := by
  induction h with
  | nil => contradiction
  | @cons _ y _ _ hxy _ ih =>
    rcases List.mem_cons.1 hx with rfl | hx
    · exact ⟨y, List.mem_cons_self, hxy⟩
    · obtain ⟨y', hy', hxy'⟩ := ih hx
      exact ⟨y', List.mem_cons_of_mem y hy', hxy'⟩

/-- Every element of a map that ends well has a result. -/
theorem exists_ok_of_mapM {g : α → Except ε β} {xs : List α} {ys : List β}
    (h : xs.mapM g = .ok ys) {x : α} (hx : x ∈ xs) : ∃ y ∈ ys, g x = .ok y :=
  exists_of_forall₂ (forall₂_of_mapM h) hx

/-- Every result of a map comes from an element. -/
theorem exists_mem_of_mapM {g : α → Except ε β} {xs : List α} {ys : List β}
    (h : xs.mapM g = .ok ys) {y : β} (hy : y ∈ ys) : ∃ x ∈ xs, g x = .ok y :=
  exists_of_forall₂ (forall₂_of_mapM h).flip hy

end FormEngine
