import Mathlib.Data.Option.Basic
/-!
# The way outwards

Controls and scopes alike say no more of where they are than what they are directly inside of. Going from
one to the next leads outwards, until there is something that is inside of nothing. The way outwards lists
what is met, from the inside out. It depends on where it begins only, and what is met on it stays the same
when more values join, or when the values are seen through a function that keeps what they are inside of.
-/

namespace FormEngine

/-- What joins a list is at its end. -/
theorem getElem?_concat {α : Type} {l : List α} {a x : α} {i : Nat} (h : (l ++ [a])[i]? = some x) :
    l[i]? = some x ∨ i = l.length ∧ x = a := by
  rcases Nat.lt_trichotomy i l.length with hlt | rfl | hgt
  · rw [List.getElem?_append_left hlt] at h
    exact .inl h
  · rw [List.getElem?_concat_length] at h
    exact .inr ⟨rfl, (Option.some.inj h).symm⟩
  · rw [List.getElem?_eq_none] at h
    · contradiction
    · rw [List.length_append]
      exact hgt

/-- What is met on the way outwards from a place. The values are looked up by their numbers, and each
says which one it is inside of. -/
inductive Outwards {ι α : Type} (get? : ι → Option α) (outer? : α → Option ι) :
    Option ι → List α → Prop
  | top : Outwards get? outer? none []
  | under {i : ι} {a : α} {chain : List α} (hget : get? i = some a)
      (houter : Outwards get? outer? (outer? a) chain) : Outwards get? outer? (some i) (a :: chain)

namespace Outwards

variable {ι α β : Type} {get? more? : ι → Option α} {outer? : α → Option ι} {place : Option ι}
  {chain chain' : List α}

/-- There is one way outwards. -/
theorem unique (h : Outwards get? outer? place chain) (h' : Outwards get? outer? place chain') :
    chain' = chain := by
  induction h generalizing chain' with
  | top =>
    cases h'
    rfl
  | under hget _ ih =>
    cases h' with
    | under hget' houter' =>
      obtain rfl := Option.some.inj (hget.symm.trans hget')
      rw [ih houter']

theorem exists_get? (h : Outwards get? outer? place chain) {a : α} (ha : a ∈ chain) :
    ∃ i, get? i = some a := by
  induction h with
  | top => contradiction
  | @under i b chain hget _ ih =>
    rcases List.mem_cons.1 ha with rfl | ha
    · exact ⟨i, hget⟩
    · exact ih ha

/-- What is there already is not made to stand elsewhere by what joins. -/
theorem mono (h : Outwards get? outer? place chain)
    (hmore : ∀ i a, get? i = some a → more? i = some a) : Outwards more? outer? place chain := by
  induction h with
  | top => exact .top
  | under hget _ ih => exact .under (hmore _ _ hget) ih

theorem append {l : List α} {outer? : α → Option Nat} {place : Option Nat} {chain : List α}
    (h : Outwards (fun i => l[i]?) outer? place chain) (l' : List α) :
    Outwards (fun i => (l ++ l')[i]?) outer? place chain :=
  h.mono fun _ _ hi => (List.getElem?_append_left (List.getElem?_eq_some_iff.1 hi).1).trans hi

section Map

variable {f : α → β} {image? : ι → Option β} {outerImage? : β → Option ι}

/-- The way outwards, seen through a function. -/
theorem map (h : Outwards get? outer? place chain) (hget : ∀ i, image? i = (get? i).map f)
    (houter : ∀ a, outerImage? (f a) = outer? a) :
    Outwards image? outerImage? place (chain.map f) := by
  induction h with
  | top => exact .top
  | @under i a chain hi _ ih =>
    refine .under (i := i) ?_ ?_
    · rw [hget, hi, Option.map_some]
    · rw [houter]
      exact ih

/-- What is seen is there. -/
theorem exists_of_map {images : List β} (h : Outwards image? outerImage? place images)
    (hget : ∀ i, image? i = (get? i).map f) (houter : ∀ a, outerImage? (f a) = outer? a) :
    ∃ chain, Outwards get? outer? place chain ∧ images = chain.map f := by
  induction h with
  | top => exact ⟨[], .top, rfl⟩
  | under hi _ ih =>
    obtain ⟨chain, hchain, rfl⟩ := ih
    rw [hget, Option.map_eq_some_iff] at hi
    obtain ⟨a, ha, rfl⟩ := hi
    rw [houter] at hchain
    exact ⟨a :: chain, .under ha hchain, rfl⟩

end Map

end Outwards

end FormEngine
