import FormEngine.Pattern.Matcher
import Mathlib.Data.List.Count
import Mathlib.Logic.Function.Iterate
/-!
# What a mask of gaps comes to

Matching takes masks of gaps from one part of a pattern to the next. A gap is in the mask that comes out
exactly if the pattern matches from some gap of the mask that goes in. A repetition without a limit is
given as many rounds as the text has gaps. These are enough: a round that changes the mask adds a gap to
it. So a pattern whose repetitions have limits in order is found in a text exactly if it matches some
part of the text.
-/

namespace FormEngine

/-! ## Rounds of a relation -/

/-- So many steps of a relation lead from the one number to the other. -/
inductive Rounds (R : Nat → Nat → Prop) : Nat → Nat → Nat → Prop
  | none (i : Nat) : Rounds R 0 i i
  | more {n i j k : Nat} : R i j → Rounds R n j k → Rounds R (n + 1) i k

theorem rounds_add_iff {R : Nat → Nat → Prop} {m n i k : Nat} :
    Rounds R (m + n) i k ↔ ∃ j, Rounds R m i j ∧ Rounds R n j k := by
  induction m generalizing i with
  | zero =>
    rw [Nat.zero_add]
    constructor
    · intro h
      exact ⟨i, .none i, h⟩
    · rintro ⟨j, hnone, h⟩
      cases hnone
      exact h
  | succ m ih =>
    rw [Nat.succ_add]
    constructor
    · intro h
      cases h with
      | more hstep hrest =>
        obtain ⟨j, hm, hn⟩ := ih.1 hrest
        exact ⟨j, .more hstep hm, hn⟩
    · rintro ⟨j, hm, hn⟩
      cases hm with
      | more hstep hrest => exact .more hstep (ih.2 ⟨j, hrest, hn⟩)

/-- A step that adds to a bounded measure, or changes nothing, changes nothing after so many rounds. -/
theorem iterate_fixed_of_bound {α : Type} {f : α → α} {c : α → Nat} {bound : Nat}
    {P : α → Prop} (hP : ∀ a, P a → P (f a)) (hbound : ∀ a, P a → c a ≤ bound)
    (hgrow : ∀ a, P a → f a ≠ a → c a < c (f a)) {a : α} (ha : P a) :
    f (f^[bound] a) = f^[bound] a := by
  have hkeeps : ∀ n, P (f^[n] a) := by
    intro n
    induction n with
    | zero => exact ha
    | succ n ih =>
      rw [Function.iterate_succ_apply']
      exact hP _ ih
  have hcases : ∀ n, f (f^[n] a) = f^[n] a ∨ n < c (f (f^[n] a)) := by
    intro n
    induction n with
    | zero =>
      by_cases hfixed : f a = a
      · exact .inl hfixed
      · have hless := hgrow a ha hfixed
        exact .inr (Nat.lt_of_le_of_lt (Nat.zero_le _) hless)
    | succ n ih =>
      rw [Function.iterate_succ_apply']
      rcases ih with hfixed | hless
      · left
        rw [hfixed, hfixed]
      · by_cases hfixed : f (f (f^[n] a)) = f (f^[n] a)
        · exact .inl hfixed
        · have hmore := hgrow _ (hP _ (hkeeps n)) hfixed
          right
          omega
  rcases hcases bound with hfixed | hless
  · exact hfixed
  · have hle := hbound _ (hP _ (hkeeps bound))
    omega

/-! ## Masks -/

namespace Mask

/-- The gap is in the mask. -/
def Has (m : Mask) (i : Nat) : Prop := m[i]? = some true

variable {m n : Mask} {gaps : List Gap} {i j : Nat}

theorem Has.lt_length (h : Has m i) : i < m.length := (List.getElem?_eq_some_iff.1 h).1

@[simp]
theorem has_cons_zero {b : Bool} : Has (b :: m) 0 ↔ b = true := by
  simp [Has]

@[simp]
theorem has_cons_succ {b : Bool} : Has (b :: m) (i + 1) ↔ Has m i := by
  simp [Has]

@[simp]
theorem not_has_nil : ¬Has [] i := by
  simp [Has]

theorem length_advance [PatternEngine] (set : CharSet) (reached : Bool) (h : m.length = gaps.length) :
    (advance set reached gaps m).length = gaps.length := by
  induction gaps generalizing m reached with
  | nil => rfl
  | cons g gaps ih =>
    cases m with
    | nil => contradiction
    | cons b m =>
      rw [advance, List.length_cons, List.length_cons, ih _ (Nat.succ.inj h)]

theorem length_keep [PatternEngine] (a : Anchor) (h : m.length = gaps.length) :
    (keep a gaps m).length = gaps.length := by
  rw [keep, List.length_zipWith, h, Nat.min_self]

theorem length_union (h : m.length = n.length) : (union m n).length = m.length := by
  rw [union, List.length_zipWith, ← h, Nat.min_self]

theorem has_advance_iff [PatternEngine] {set : CharSet} {reached : Bool} (h : m.length = gaps.length) :
    Has (advance set reached gaps m) j ↔ j < gaps.length ∧ ((j = 0 ∧ reached = true) ∨
      ∃ i g, j = i + 1 ∧ Has m i ∧ gaps[i]? = some g ∧ g.after.any set.mem = true) := by
  induction gaps generalizing m reached j with
  | nil => simp [advance]
  | cons g gaps ih =>
    cases m with
    | nil => contradiction
    | cons b m =>
      rw [advance]
      cases j with
      | zero => simp
      | succ j =>
        rw [has_cons_succ, ih (Nat.succ.inj h), Bool.and_eq_true, List.length_cons,
          Nat.succ_lt_succ_iff]
        refine and_congr_right fun _ => ?_
        constructor
        · rintro (⟨rfl, hb, hg⟩ | ⟨i, g', rfl, hi, hg'⟩)
          · exact .inr ⟨0, g, rfl, has_cons_zero.2 hb, rfl, hg⟩
          · exact .inr ⟨i + 1, g', rfl, has_cons_succ.2 hi, hg'⟩
        · rintro (⟨hzero, -⟩ | ⟨i, g', hi, hb, hg', hmem⟩)
          · omega
          · cases i with
            | zero =>
              obtain rfl := Option.some.inj hg'
              exact .inl ⟨by omega, has_cons_zero.1 hb, hmem⟩
            | succ i => exact .inr ⟨i, g', by omega, has_cons_succ.1 hb, hg', hmem⟩

theorem has_keep_iff [PatternEngine] {a : Anchor} :
    Has (keep a gaps m) j ↔ Has m j ∧ ∃ g, gaps[j]? = some g ∧ a.holds g = true := by
  rw [Has, keep, List.getElem?_zipWith]
  cases gaps[j]? <;> cases hm : m[j]? <;> simp [Has, hm, and_comm]

theorem has_union_iff (h : m.length = n.length) : Has (union m n) j ↔ Has m j ∨ Has n j := by
  rw [Has, union, List.getElem?_zipWith]
  rcases Nat.lt_or_ge j m.length with hj | hj
  · have hn : j < n.length := h ▸ hj
    simp [Has, List.getElem?_eq_getElem hj, List.getElem?_eq_getElem hn]
  · have hn : n.length ≤ j := h ▸ hj
    simp [Has, List.getElem?_eq_none hj, List.getElem?_eq_none hn]

/-! ## Rounds over masks -/

variable {round : Mask → Mask} {R : Nat → Nat → Prop} {size : Nat}

theorem iterate_eq (round : Mask → Mask) (k : Nat) (m : Mask) : iterate round k m = round^[k] m := by
  induction k generalizing m with
  | zero => rfl
  | succ k ih =>
    rw [iterate, Function.iterate_succ_apply]
    split
    · rename_i hfixed
      rw [hfixed]
      exact (Function.iterate_fixed hfixed k).symm
    · exact ih _

theorem upTo_eq (round : Mask → Mask) (k : Nat) (m : Mask) :
    upTo round k m = (fun m => m.union (round m))^[k] m := by
  induction k generalizing m with
  | zero => rfl
  | succ k ih =>
    rw [upTo, Function.iterate_succ_apply]
    split
    · rename_i hfixed
      rw [hfixed]
      exact (Function.iterate_fixed hfixed k).symm
    · exact ih _

theorem upTo_add (round : Mask → Mask) (n k : Nat) (m : Mask) :
    upTo round (n + k) m = upTo round n (upTo round k m) := by
  simp only [upTo_eq]
  exact Function.iterate_add_apply _ n k m

theorem upTo_of_fixed (h : m.union (round m) = m) (n : Nat) : upTo round n m = m := by
  rw [upTo_eq]
  exact Function.iterate_fixed h n

/-- On masks of one length the round goes one step along a relation. -/
structure Follows (size : Nat) (round : Mask → Mask) (R : Nat → Nat → Prop) : Prop where
  length : ∀ m : Mask, m.length = size → (round m).length = size
  has_iff : ∀ m : Mask, m.length = size → ∀ j, Has (round m) j ↔ ∃ i, Has m i ∧ R i j

namespace Follows

theorem length_iterate (h : Follows size round R) (k : Nat) (hm : m.length = size) :
    (iterate round k m).length = size := by
  rw [iterate_eq]
  induction k generalizing m with
  | zero => exact hm
  | succ k ih => exact ih (h.length m hm)

theorem has_iterate_iff (h : Follows size round R) {k : Nat} (hm : m.length = size) :
    Has (iterate round k m) j ↔ ∃ i, Has m i ∧ Rounds R k i j := by
  rw [iterate_eq]
  induction k generalizing m with
  | zero =>
    constructor
    · intro hj
      exact ⟨j, hj, .none j⟩
    · rintro ⟨i, hi, hnone⟩
      cases hnone
      exact hi
  | succ k ih =>
    rw [Function.iterate_succ_apply, ih (h.length m hm)]
    constructor
    · rintro ⟨i', hi', hrest⟩
      obtain ⟨i, hi, hstep⟩ := (h.has_iff m hm i').1 hi'
      exact ⟨i, hi, .more hstep hrest⟩
    · rintro ⟨i, hi, hrounds⟩
      cases hrounds with
      | more hstep hrest => exact ⟨_, (h.has_iff m hm _).2 ⟨i, hi, hstep⟩, hrest⟩

/-- A round that keeps what there was. -/
theorem adding (h : Follows size round R) :
    Follows size (fun m => m.union (round m)) fun i j => i = j ∨ R i j := by
  refine ⟨?_, ?_⟩
  · intro m hm
    rw [length_union (hm.trans (h.length m hm).symm), hm]
  · intro m hm j
    rw [has_union_iff (hm.trans (h.length m hm).symm), h.has_iff m hm]
    constructor
    · rintro (hj | ⟨i, hi, hstep⟩)
      · exact ⟨j, hj, .inl rfl⟩
      · exact ⟨i, hi, .inr hstep⟩
    · rintro ⟨i, hi, rfl | hstep⟩
      · exact .inl hi
      · exact .inr ⟨i, hi, hstep⟩

end Follows

theorem rounds_or_eq_iff {k : Nat} :
    Rounds (fun i j => i = j ∨ R i j) k i j ↔ ∃ n ≤ k, Rounds R n i j := by
  constructor
  · intro h
    induction h with
    | none i => exact ⟨0, Nat.le_refl 0, .none i⟩
    | more hstep _ ih =>
      obtain ⟨n, hn, hrounds⟩ := ih
      rcases hstep with rfl | hstep
      · exact ⟨n, by omega, hrounds⟩
      · exact ⟨n + 1, by omega, .more hstep hrounds⟩
  · rintro ⟨n, hn, hrounds⟩
    induction k generalizing n i with
    | zero =>
      obtain rfl : n = 0 := by omega
      cases hrounds
      exact .none _
    | succ k ih =>
      cases hrounds with
      | none => exact .more (.inl rfl) (ih 0 (Nat.zero_le k) (.none _))
      | more hstep hrest => exact .more (.inr hstep) (ih _ (by omega) hrest)

namespace Follows

theorem length_upTo (h : Follows size round R) (k : Nat) (hm : m.length = size) :
    (upTo round k m).length = size := by
  rw [upTo_eq, ← iterate_eq]
  exact h.adding.length_iterate k hm

/-- **What comes of a mask in a limited number of rounds.** -/
theorem has_upTo_iff (h : Follows size round R) {k : Nat} (hm : m.length = size) :
    Has (upTo round k m) j ↔ ∃ i, Has m i ∧ ∃ n ≤ k, Rounds R n i j := by
  rw [upTo_eq, ← iterate_eq, h.adding.has_iterate_iff hm]
  simp only [rounds_or_eq_iff]

end Follows

theorem union_cons_cons (b c : Bool) (m n : Mask) :
    union (b :: m) (c :: n) = (b || c) :: union m n := rfl

/-- What is added to a mask makes more entries true. -/
theorem count_lt_count_union (h : m.length = n.length) (hne : union m n ≠ m) :
    m.count true < (union m n).count true := by
  induction m generalizing n with
  | nil => exact absurd rfl hne
  | cons b m ih =>
    cases n with
    | nil => contradiction
    | cons c n =>
      rw [union_cons_cons] at hne ⊢
      by_cases hsame : union m n = m
      · -- the entry in front is the one that changes
        rw [hsame] at hne ⊢
        cases b with
        | true => exact absurd rfl hne
        | false =>
          cases c with
          | true => simp
          | false => exact absurd rfl hne
      · have hlt := ih (Nat.succ.inj h) hsame
        have hle : [b].count true ≤ [b || c].count true := by
          cases b <;> cases c <;> decide
        rw [← List.singleton_append, ← List.singleton_append (l := union m n), List.count_append,
          List.count_append]
        omega

/-- **What comes of a mask in any number of rounds** has come by as many rounds as there are gaps. -/
theorem Follows.has_upTo_size_iff (h : Follows size round R) (hm : m.length = size) :
    Has (upTo round size m) j ↔ ∃ i, Has m i ∧ ∃ n, Rounds R n i j := by
  constructor
  · intro hj
    obtain ⟨i, hi, n, -, hrounds⟩ := (h.has_upTo_iff hm).1 hj
    exact ⟨i, hi, n, hrounds⟩
  · rintro ⟨i, hi, n, hrounds⟩
    have hfixed : (upTo round size m).union (round (upTo round size m)) = upTo round size m := by
      rw [upTo_eq]
      refine iterate_fixed_of_bound (c := List.count true) (P := fun m : Mask => m.length = size)
        h.adding.length ?_ ?_ hm
      · intro a ha
        rw [← ha]
        exact List.count_le_length
      · intro a ha hne
        exact count_lt_count_union (ha.trans (h.length a ha).symm) hne
    -- more rounds than there are gaps end where that many rounds end
    have hlate : Has (upTo round (n + size) m) j :=
      (h.has_upTo_iff hm).2 ⟨i, hi, n, Nat.le_add_right n size, hrounds⟩
    rwa [upTo_add, upTo_of_fixed hfixed] at hlate

end Mask

/-! ## Patterns -/

namespace Gap

/-- A character stands before a further gap. -/
def Linked (gaps : List Gap) : Prop :=
  ∀ (i : Nat) g, gaps[i]? = some g → g.after.isSome = true → i + 1 < gaps.length

theorem linked_listFrom (before : Option Char) (cs : List Char) : Linked (listFrom before cs) := by
  induction cs generalizing before with
  | nil =>
    intro i g hg hafter
    rw [listFrom, List.getElem?_singleton] at hg
    split at hg
    · obtain rfl := Option.some.inj hg
      contradiction
    · contradiction
  | cons c cs ih =>
    intro i g hg hafter
    rw [length_listFrom, List.length_cons]
    cases i with
    | zero => omega
    | succ i =>
      have hlt := ih (some c) i g hg hafter
      rw [length_listFrom] at hlt
      omega

theorem linked_list (s : String) : Linked (list s) := linked_listFrom none s.toList

theorem length_list (s : String) : (list s).length = s.toList.length + 1 :=
  length_listFrom none s.toList

end Gap

namespace Pattern

/-- In each repetition the limits are in order. -/
def WellFormed : Pattern → Prop
  | .empty | .char _ | .anchor _ => True
  | .sequence p q | .choice p q => p.WellFormed ∧ q.WellFormed
  | .capture p => p.WellFormed
  | .repetition p min max => p.WellFormed ∧ ∀ n ∈ max, min ≤ n

variable [PatternEngine] {gaps : List Gap} {p : Pattern} {i j : Nat}

theorem Matches.lt_length (h : Matches gaps p i j) (hgaps : Gap.Linked gaps) :
    i < gaps.length ∧ j < gaps.length := by
  induction h with
  | empty i hi => exact ⟨hi, hi⟩
  | char hg hafter _ =>
    exact ⟨(List.getElem?_eq_some_iff.1 hg).1, hgaps _ _ hg (by rw [hafter]; rfl)⟩
  | anchor hg _ => exact ⟨(List.getElem?_eq_some_iff.1 hg).1, (List.getElem?_eq_some_iff.1 hg).1⟩
  | sequence _ _ ihp ihq => exact ⟨ihp.1, ihq.2⟩
  | choiceLeft _ ih => exact ih
  | choiceRight _ ih => exact ih
  | capture _ ih => exact ih
  | repeatNone hi => exact ⟨hi, hi⟩
  | repeatOnce _ _ _ ihp ihrest => exact ⟨ihp.1, ihrest.2⟩

/-- **A repetition matches in a number of rounds between its limits.** -/
theorem matches_repetition_iff (hgaps : Gap.Linked gaps) {min : Nat} {max : Option Nat} :
    Matches gaps (.repetition p min max) i j ↔
      i < gaps.length ∧ ∃ n, min ≤ n ∧ (∀ limit ∈ max, n ≤ limit) ∧ Rounds (Matches gaps p) n i j := by
  constructor
  · intro h
    refine ⟨(h.lt_length hgaps).1, ?_⟩
    generalize hq : Pattern.repetition p min max = q at h
    induction h generalizing min max with
    | repeatNone _ =>
      cases hq
      exact ⟨0, Nat.le_refl 0, fun _ _ => Nat.zero_le _, .none _⟩
    | repeatOnce hmax hp _ _ ihrest =>
      cases hq
      obtain ⟨n, hmin, hlimit, hrounds⟩ := ihrest rfl
      refine ⟨n + 1, by omega, ?_, .more hp hrounds⟩
      intro limit hmem
      have hpred := hlimit (limit - 1) (Option.mem_map_of_mem (· - 1) hmem)
      have hpos : limit ≠ 0 := by
        rintro rfl
        exact hmax hmem
      omega
    | _ => cases hq
  · rintro ⟨hi, n, hmin, hlimit, hrounds⟩
    induction hrounds generalizing min max with
    | none i =>
      obtain rfl : min = 0 := by omega
      exact .repeatNone hi
    | more hp _ ih =>
      refine .repeatOnce ?_ hp (ih (hp.lt_length hgaps).2 (by omega) ?_)
      · rintro rfl
        have hzero := hlimit 0 rfl
        omega
      · intro limit hmem
        obtain ⟨limit', hmem', rfl⟩ := Option.map_eq_some_iff.1 hmem
        have hle := hlimit limit' hmem'
        omega

/-- **A mask is taken to the gaps where the pattern may end.** -/
theorem follows_run (hgaps : Gap.Linked gaps) (hp : p.WellFormed) :
    Mask.Follows gaps.length (p.run gaps) (Matches gaps p) := by
  induction p with
  | empty =>
    refine ⟨fun m hm => hm, fun m hm j => ?_⟩
    constructor
    · intro hj
      exact ⟨j, hj, .empty j (hm ▸ hj.lt_length)⟩
    · rintro ⟨i, hi, hmatch⟩
      cases hmatch
      exact hi
  | char set =>
    refine ⟨fun m hm => Mask.length_advance set false hm, fun m hm j => ?_⟩
    rw [run, Mask.has_advance_iff hm]
    constructor
    · rintro ⟨-, ⟨-, hfalse⟩ | ⟨i, g, rfl, hi, hg, hany⟩⟩
      · contradiction
      · obtain ⟨c, hc, hmem⟩ := (Option.any_eq_true _ _).1 hany
        exact ⟨i, hi, .char hg hc hmem⟩
    · rintro ⟨i, hi, hmatch⟩
      refine ⟨(hmatch.lt_length hgaps).2, .inr ?_⟩
      cases hmatch with
      | char hg hc hmem => exact ⟨i, _, rfl, hi, hg, by rw [hc]; exact hmem⟩
  | anchor a =>
    refine ⟨fun m hm => Mask.length_keep a hm, fun m hm j => ?_⟩
    rw [run, Mask.has_keep_iff]
    constructor
    · rintro ⟨hj, g, hg, hholds⟩
      exact ⟨j, hj, .anchor hg hholds⟩
    · rintro ⟨i, hi, hmatch⟩
      cases hmatch with
      | anchor hg hholds => exact ⟨hi, _, hg, hholds⟩
  | sequence p q ihp ihq =>
    have hfirst := ihp hp.1
    have hsecond := ihq hp.2
    refine ⟨fun m hm => hsecond.length _ (hfirst.length m hm), fun m hm j => ?_⟩
    rw [run, hsecond.has_iff _ (hfirst.length m hm)]
    constructor
    · rintro ⟨k, hk, hq⟩
      obtain ⟨i, hi, hmatch⟩ := (hfirst.has_iff m hm k).1 hk
      exact ⟨i, hi, .sequence hmatch hq⟩
    · rintro ⟨i, hi, hmatch⟩
      cases hmatch with
      | sequence hmatch hq => exact ⟨_, (hfirst.has_iff m hm _).2 ⟨i, hi, hmatch⟩, hq⟩
  | choice p q ihp ihq =>
    have hleft := ihp hp.1
    have hright := ihq hp.2
    have hlengths : ∀ m : Mask, m.length = gaps.length →
        (p.run gaps m).length = (q.run gaps m).length := by
      intro m hm
      rw [hleft.length m hm, hright.length m hm]
    refine ⟨fun m hm => ?_, fun m hm j => ?_⟩
    · rw [run, Mask.length_union (hlengths m hm), hleft.length m hm]
    · rw [run, Mask.has_union_iff (hlengths m hm), hleft.has_iff m hm, hright.has_iff m hm]
      constructor
      · rintro (⟨i, hi, hmatch⟩ | ⟨i, hi, hmatch⟩)
        · exact ⟨i, hi, .choiceLeft hmatch⟩
        · exact ⟨i, hi, .choiceRight hmatch⟩
      · rintro ⟨i, hi, hmatch⟩
        cases hmatch with
        | choiceLeft hmatch => exact .inl ⟨i, hi, hmatch⟩
        | choiceRight hmatch => exact .inr ⟨i, hi, hmatch⟩
  | capture p ih =>
    have hpart := ih hp
    refine ⟨hpart.length, fun m hm j => ?_⟩
    rw [run, hpart.has_iff m hm]
    constructor
    · rintro ⟨i, hi, hmatch⟩
      exact ⟨i, hi, .capture hmatch⟩
    · rintro ⟨i, hi, hmatch⟩
      cases hmatch with
      | capture hmatch => exact ⟨i, hi, hmatch⟩
  | repetition p min max ih =>
    have hround := ih hp.1
    refine ⟨fun m hm => hround.length_upTo _ (hround.length_iterate _ hm), fun m hm j => ?_⟩
    have hfirst := hround.length_iterate min hm
    simp only [matches_repetition_iff hgaps, run]
    have hafter : ∀ {k : Nat}, (∃ i, Mask.Has (Mask.iterate (p.run gaps) min m) i ∧
        Rounds (Matches gaps p) k i j) ↔ ∃ i, Mask.Has m i ∧ Rounds (Matches gaps p) (min + k) i j := by
      intro k
      simp only [hround.has_iterate_iff hm, rounds_add_iff]
      constructor
      · rintro ⟨i', ⟨i, hi, hm'⟩, hk⟩
        exact ⟨i, hi, i', hm', hk⟩
      · rintro ⟨i, hi, i', hm', hk⟩
        exact ⟨i', ⟨i, hi, hm'⟩, hk⟩
    cases max with
    | none =>
      rw [show ((Option.map (· - min) none).getD gaps.length) = gaps.length from rfl,
        hround.has_upTo_size_iff hfirst]
      constructor
      · rintro ⟨i', hi', n, hrounds⟩
        obtain ⟨i, hi, hall⟩ := hafter.1 ⟨i', hi', hrounds⟩
        exact ⟨i, hi, hm ▸ hi.lt_length, min + n, by omega, fun _ hnone => by contradiction, hall⟩
      · rintro ⟨i, hi, -, n, hmin, -, hall⟩
        obtain ⟨k, rfl⟩ := Nat.exists_eq_add_of_le hmin
        obtain ⟨i', hi', hrounds⟩ := hafter.2 ⟨i, hi, hall⟩
        exact ⟨i', hi', k, hrounds⟩
    | some limit =>
      have horder := hp.2 limit rfl
      rw [show ((Option.map (· - min) (some limit)).getD gaps.length) = limit - min from rfl,
        hround.has_upTo_iff hfirst]
      constructor
      · rintro ⟨i', hi', n, hn, hrounds⟩
        obtain ⟨i, hi, hall⟩ := hafter.1 ⟨i', hi', hrounds⟩
        refine ⟨i, hi, hm ▸ hi.lt_length, min + n, by omega, fun l hl => ?_, hall⟩
        obtain rfl := Option.some.inj hl
        omega
      · rintro ⟨i, hi, -, n, hmin, hlimit, hall⟩
        have hle := hlimit limit rfl
        obtain ⟨k, rfl⟩ := Nat.exists_eq_add_of_le hmin
        obtain ⟨i', hi', hrounds⟩ := hafter.2 ⟨i, hi, hall⟩
        exact ⟨i', hi', k, by omega, hrounds⟩

/-- **A pattern is found in a text exactly if it matches some part of it.** -/
theorem isFoundIn_iff (hp : p.WellFormed) (s : String) :
    p.isFoundIn s = true ↔ ∃ i j, Matches (Gap.list s) p i j := by
  have hfollows := follows_run (Gap.linked_list s) hp
  have hlength : ((Gap.list s).map fun _ => true).length = (Gap.list s).length := List.length_map _
  have hmem : p.isFoundIn s = true ↔
      ∃ j, Mask.Has (p.run (Gap.list s) ((Gap.list s).map fun _ => true)) j := by
    simp only [isFoundIn, List.any_eq_true, id, exists_eq_right, Mask.Has, List.mem_iff_getElem?]
  rw [hmem]
  constructor
  · rintro ⟨j, hj⟩
    obtain ⟨i, -, hmatch⟩ := (hfollows.has_iff _ hlength j).1 hj
    exact ⟨i, j, hmatch⟩
  · rintro ⟨i, j, hmatch⟩
    have hi := (hmatch.lt_length (Gap.linked_list s)).1
    refine ⟨j, (hfollows.has_iff _ hlength j).2 ⟨i, ?_, hmatch⟩⟩
    rw [Mask.Has, List.getElem?_map, List.getElem?_eq_getElem hi, Option.map_some]

end Pattern

end FormEngine
