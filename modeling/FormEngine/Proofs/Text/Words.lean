import FormEngine.Text.Blank
import Mathlib.Data.List.Basic
/-!
# The words of a text

A word of a text is a stretch of it without blanks that nothing but a blank, or an end of the text,
stands next to. Cutting a text at its blanks gives its words.
-/

namespace FormEngine.Text

/-- The stretch is a word of the characters: it is not empty and has no blank, and on either side of
it they end or go on with a blank. -/
def IsWord (w cs : List Char) : Prop :=
  ∃ before after, cs = before ++ (w ++ after) ∧ w ≠ [] ∧ (∀ c ∈ w, isBlank c = false) ∧
    (∀ c ∈ before.getLast?, isBlank c = true) ∧ ∀ c ∈ after.head?, isBlank c = true

variable {w run rest : List Char}

/-- Where there is no blank, nothing ends with one. -/
theorem eq_nil_of_getLast?_blank (hrun : ∀ c ∈ run, isBlank c = false)
    (hlast : ∀ c ∈ run.getLast?, isBlank c = true) : run = [] := by
  by_contra hne
  have hblank := hlast _ (List.getLast?_eq_some_getLast hne)
  rw [hrun _ (List.getLast_mem hne)] at hblank
  contradiction

/-- A stretch without blanks has itself as its only word. -/
theorem isWord_of_notBlank (hrun : ∀ c ∈ run, isBlank c = false) :
    IsWord w run ↔ w = run ∧ run ≠ [] := by
  constructor
  · rintro ⟨before, after, rfl, hw, -, hbefore, hafter⟩
    have hleft : before = [] :=
      eq_nil_of_getLast?_blank (fun c hc => hrun c (List.mem_append_left _ hc)) hbefore
    have hright : after = [] := by
      cases after with
      | nil => rfl
      | cons c after =>
        have hblank := hafter c rfl
        rw [hrun c (by simp)] at hblank
        contradiction
    subst hleft hright
    simp [hw]
  · rintro ⟨rfl, hne⟩
    exact ⟨[], [], by simp, hne, hrun, by simp, by simp⟩

/-- A word of a text with a blank ends at the first blank or begins after it. -/
theorem IsWord.of_append_cons {b : Char} (hrun : ∀ c ∈ run, isBlank c = false)
    (hb : isBlank b = true) (h : IsWord w (run ++ b :: rest)) :
    (w = run ∧ run ≠ []) ∨ IsWord w rest := by
  obtain ⟨before, after, heq, hw, hnot, hbefore, hafter⟩ := h
  rcases List.append_eq_append_iff.1 heq with ⟨t, rfl, htail⟩ | ⟨t, rfl, htail⟩
  · -- the word begins after the run, hence after the blank
    right
    cases t with
    | nil =>
      obtain ⟨c, w, rfl⟩ := List.exists_cons_of_ne_nil hw
      obtain ⟨rfl, -⟩ := List.cons.inj htail
      rw [hnot b (by simp)] at hb
      contradiction
    | cons c t =>
      obtain ⟨rfl, rfl⟩ := List.cons.inj htail
      refine ⟨t, after, rfl, hw, hnot, fun c hc => hbefore c ?_, hafter⟩
      cases t with
      | nil => contradiction
      | cons d t =>
        rw [List.getLast?_append_of_ne_nil _ (by simp), List.getLast?_cons_cons]
        exact hc
  · -- it begins in the run, hence with it, and ends with it too
    left
    have hleft : before = [] :=
      eq_nil_of_getLast?_blank (fun c hc => hrun c (List.mem_append_left _ hc)) hbefore
    subst hleft
    rw [List.nil_append] at hrun ⊢
    rcases List.append_eq_append_iff.1 htail with ⟨u, rfl, hrest⟩ | ⟨u, rfl, hrest⟩
    · cases u with
      | nil => exact ⟨(List.append_nil w).symm, by rwa [List.append_nil]⟩
      | cons c u =>
        have hblank := hafter c (by rw [hrest]; rfl)
        rw [hrun c (by simp)] at hblank
        exact absurd hblank Bool.false_ne_true
    · cases u with
      | nil =>
        rw [List.append_nil] at hw ⊢
        exact ⟨rfl, hw⟩
      | cons c u =>
        obtain ⟨rfl, -⟩ := List.cons.inj hrest
        rw [hnot b (by simp)] at hb
        contradiction

/-- At the first blank of a text its first word ends, and the others are those of what follows. -/
theorem isWord_append_cons {b : Char} (hrun : ∀ c ∈ run, isBlank c = false)
    (hb : isBlank b = true) :
    IsWord w (run ++ b :: rest) ↔ (w = run ∧ run ≠ []) ∨ IsWord w rest := by
  refine ⟨IsWord.of_append_cons hrun hb, ?_⟩
  rintro (⟨rfl, hne⟩ | ⟨before, after, rfl, hw, hnot, hbefore, hafter⟩)
  · refine ⟨[], b :: rest, rfl, hne, hrun, by simp, fun c hc => ?_⟩
    obtain rfl := Option.some.inj hc
    exact hb
  · refine ⟨run ++ b :: before, after, by simp, hw, hnot, fun c hc => ?_, hafter⟩
    rw [List.getLast?_append_of_ne_nil _ (by simp)] at hc
    cases before with
    | nil =>
      obtain rfl := Option.some.inj hc
      exact hb
    | cons d before => exact hbefore c (by rwa [List.getLast?_cons_cons] at hc)

/-- Of a text that has been read up to the current word, the words come from that word on. -/
theorem mem_wordsFrom {word : List Char} (hword : ∀ c ∈ word, isBlank c = false)
    (cs : List Char) : w ∈ wordsFrom word cs ↔ IsWord w (word.reverse ++ cs) := by
  induction cs generalizing word with
  | nil =>
    rw [List.append_nil, isWord_of_notBlank fun c hc => hword c (List.mem_reverse.1 hc)]
    cases word <;> simp [wordsFrom]
  | cons c cs ih =>
    unfold wordsFrom
    by_cases hc : isBlank c = true
    · have hnone : w ∈ wordsFrom [] cs ↔ IsWord w cs := ih (by simp)
      rw [if_pos hc, isWord_append_cons (fun c hc => hword c (List.mem_reverse.1 hc)) hc, ← hnone]
      cases word <;> simp
    · have hsnoc : ∀ d ∈ c :: word, isBlank d = false :=
        List.forall_mem_cons.2 ⟨by simpa using hc, hword⟩
      rw [if_neg hc, ih hsnoc, List.reverse_cons, List.append_assoc, List.singleton_append]

/-- **The words of a text** are what stands between its blanks. -/
theorem mem_words_iff {word s : String} : word ∈ words s ↔ IsWord word.toList s.toList := by
  have hfrom : word.toList ∈ wordsFrom [] s.toList ↔ IsWord word.toList s.toList :=
    mem_wordsFrom (by simp) s.toList
  rw [words, ← hfrom, List.mem_map]
  constructor
  · rintro ⟨w, hw, rfl⟩
    rwa [String.toList_ofList]
  · exact fun h => ⟨word.toList, h, String.ofList_toList⟩

end FormEngine.Text
