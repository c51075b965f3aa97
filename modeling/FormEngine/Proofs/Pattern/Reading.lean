import FormEngine.Proofs.Pattern.Groups
/-!
# Readings of a text

A reading goes from token to token. It ends with the text, or strays onto a closing parenthesis that no
group is open for. A text whose reading ends with no group and no bracket open strays onto a parenthesis
behind it, or takes it into a comment. Whatever strays onto a parenthesis has read the text in front of
it to its end.
-/

namespace FormEngine

open Reader

namespace PatternState

/-- Reading the text from one state ends in another. -/
inductive Ends : PatternState → List Char → PatternState → Prop
  | done {s : PatternState} {cs : List Char} : s.flags.skip cs = [] → Ends s cs s
  | token {s s' e : PatternState} {cs rest : List Char} :
    s.step (s.flags.skip cs) = some (s', rest) → Ends s' rest e → Ends s cs e

/-- Reading the text comes to a closing parenthesis with no group and no bracket open. -/
inductive Strays : PatternState → List Char → PatternState → List Char → Prop
  | here {s : PatternState} {cs tail : List Char} : s.brackets = [] → s.outer = [] →
    s.flags.skip cs = ')' :: tail → Strays s cs s tail
  | token {s s' e : PatternState} {cs rest tail : List Char} :
    s.step (s.flags.skip cs) = some (s', rest) → Strays s' rest e tail → Strays s cs e tail

variable {s s' e e' : PatternState} {cs rest tail : List Char}

theorem step_nil (s : PatternState) : s.step [] = none := by
  rw [step]
  split <;> rfl

theorem step_stray (hbrackets : s.brackets = []) (houter : s.outer = []) (tail : List Char) :
    s.step (')' :: tail) = none := by
  rw [step, hbrackets]
  show s.closeGroup?.map (·, tail) = none
  rw [closeGroup?, houter]
  rfl

/-- A token takes something. -/
theorem length_lt_of_step (h : s.step cs = some (s', rest)) : rest.length < cs.length := by
  cases cs with
  | nil =>
    rw [step_nil] at h
    contradiction
  | cons c cs => exact Nat.lt_succ_of_le (step_suffix h).length_le

theorem suffix_of_step (h : s.step cs = some (s', rest)) : rest <:+ cs := by
  cases cs with
  | nil =>
    rw [step_nil] at h
    contradiction
  | cons c cs => exact (step_suffix h).trans (List.suffix_cons c cs)

theorem ends_iff_of_nil (h : s.flags.skip cs = []) : Ends s cs e ↔ s = e := by
  constructor
  · intro hends
    cases hends with
    | done _ => rfl
    | token hstep _ =>
      rw [h, step_nil] at hstep
      contradiction
  · rintro rfl
    exact .done h

theorem ends_iff_of_cons {c : Char} {cs' : List Char} (h : s.flags.skip cs = c :: cs') :
    Ends s cs e ↔ ∃ s' rest, s.step (c :: cs') = some (s', rest) ∧ Ends s' rest e := by
  constructor
  · intro hends
    cases hends with
    | done hnil =>
      rw [h] at hnil
      contradiction
    | token hstep hrest =>
      rw [h] at hstep
      exact ⟨_, _, hstep, hrest⟩
  · rintro ⟨s', rest, hstep, hrest⟩
    exact .token (h ▸ hstep) hrest

theorem ends_iff_of_step {c : Char} {cs' : List Char} (h : s.flags.skip cs = c :: cs')
    (hstep : s.step (c :: cs') = some (s', rest)) : Ends s cs e ↔ Ends s' rest e := by
  rw [ends_iff_of_cons h, hstep]
  constructor
  · rintro ⟨_, _, heq, hends⟩
    obtain ⟨rfl, rfl⟩ := Prod.mk.inj (Option.some.inj heq)
    exact hends
  · intro hends
    exact ⟨s', rest, rfl, hends⟩

/-- **The reader follows the reading of its text.** -/
theorem run_eq_some_iff {fuel : Nat} (h : cs.length ≤ fuel) : run fuel s cs = some e ↔ Ends s cs e := by
  induction fuel generalizing s cs with
  | zero =>
    obtain rfl := List.length_eq_zero_iff.1 (Nat.le_zero.1 h)
    have hnil : s.flags.skip [] = [] := List.suffix_nil.1 (s.flags.skip_suffix [])
    rw [run, hnil, ends_iff_of_nil hnil, Option.some.injEq]
  | succ fuel ih =>
    rw [run]
    cases hcs : s.flags.skip cs with
    | nil => rw [ends_iff_of_nil hcs, Option.some.injEq]
    | cons c cs' =>
      cases hstep : s.step (c :: cs') with
      | none =>
        rw [ends_iff_of_cons hcs]
        simp [hstep]
      | some p =>
        have hskip := s.flags.length_skip_le cs
        have hlt := length_lt_of_step hstep
        rw [hcs] at hskip
        rw [ends_iff_of_step hcs hstep, ← ih (by omega)]
        simp only [hstep]

theorem Ends.wellFormed (h : Ends s cs e) (hs : s.WellFormed) : e.WellFormed := by
  induction h with
  | done _ => exact hs
  | token hstep _ ih => exact ih (hs.step hstep)

/-! ## Strays -/

theorem Strays.closed (h : Strays s cs e tail) : e.brackets = [] ∧ e.outer = [] := by
  induction h with
  | here hbrackets houter _ => exact ⟨hbrackets, houter⟩
  | token _ _ ih => exact ih

theorem Strays.suffix (h : Strays s cs e tail) : ')' :: tail <:+ cs := by
  induction h with
  | @here s cs _ _ _ hskip => exact hskip ▸ s.flags.skip_suffix cs
  | @token s _ _ cs _ _ hstep _ ih => exact ih.trans ((suffix_of_step hstep).trans (s.flags.skip_suffix cs))

/-- A reading that strays does not end. -/
theorem Strays.not_ends (h : Strays s cs e tail) : ¬Ends s cs e' := by
  induction h with
  | here hbrackets houter hskip =>
    rw [ends_iff_of_cons hskip, step_stray hbrackets houter]
    rintro ⟨s', rest, hnone, -⟩
    contradiction
  | token hstep _ ih =>
    intro hends
    cases hends with
    | done hnil =>
      rw [hnil, step_nil] at hstep
      contradiction
    | token hstep' hrest =>
      rw [hstep] at hstep'
      obtain ⟨rfl, rfl⟩ := Prod.mk.inj (Option.some.inj hstep')
      exact ih hrest

/-- **A text whose reading ends closed strays onto a parenthesis behind it**, or takes in what is behind
it to the end of the line. -/
theorem Ends.followed (h : Ends s cs e) (hbrackets : e.brackets = []) (houter : e.outer = []) :
    (∀ tail, Strays s (cs ++ ')' :: tail) e tail) ∨
      ∀ tail, '\n' ∉ tail → Ends s (cs ++ ')' :: tail) e := by
  induction h with
  | @done s cs hnil =>
    rcases s.flags.skip_cases cs with hstops | ⟨-, hspills⟩
    · refine .inl fun tail => .here hbrackets houter ?_
      rw [hstops, hnil, List.nil_append]
    · exact .inr fun tail htail => .done ((hspills tail).2 htail)
  | @token s s' _ cs rest hstep hrest ih =>
    have hstops : ∀ tail, s.flags.skip (cs ++ ')' :: tail) = s.flags.skip cs ++ ')' :: tail := by
      rcases s.flags.skip_cases cs with hstops | ⟨hnil, -⟩
      · exact hstops
      · rw [hnil, step_nil] at hstep
        contradiction
    rcases s.tokenAt (s.flags.skip cs) with ⟨s'', rest'', htoken⟩ | htoken
    · rw [htoken.alone] at hstep
      obtain ⟨rfl, rfl⟩ := Prod.mk.inj (Option.some.inj hstep)
      have hfollowed : ∀ tail, s.step (s.flags.skip (cs ++ ')' :: tail)) =
          some (s'', rest'' ++ ')' :: tail) := by
        intro tail
        rw [hstops]
        exact htoken.followed tail
      refine (ih hbrackets houter).imp ?_ ?_
      · intro hstrays tail
        exact .token (hfollowed tail) (hstrays tail)
      · intro hends tail htail
        exact .token (hfollowed tail) (hends tail htail)
    · -- the token is the last one
      obtain ⟨rfl, hopen | hcomment⟩ := htoken.alone s' rest hstep
      · obtain rfl := (ends_iff_of_nil (List.suffix_nil.1 (s'.flags.skip_suffix []))).1 hrest
        exact absurd hbrackets hopen
      · refine .inr fun tail htail => .token ?_ hrest
        rw [hstops]
        exact hcomment tail htail

/-! ## Readings inside of a group -/

/-- The state after the parenthesis that closes a group around the state. -/
def closedInto (g : GroupBody × PatternFlags) (s : PatternState) : PatternState :=
  { s with flags := g.2, body := g.1.add s.body.close.nested, outer := [] }

variable {g : GroupBody × PatternFlags}

theorem step_within_stray (hbrackets : s.brackets = []) (houter : s.outer = []) (tail : List Char) :
    (s.within g).step (')' :: tail) = some (s.closedInto g, tail) := by
  rw [step, brackets_within, hbrackets]
  show (s.within g).closeGroup?.map (·, tail) = _
  rw [closeGroup?, within, houter]
  rfl

/-- A text that strays goes on behind the group when there is one. -/
theorem Strays.ends_within (h : Strays s cs e tail) (hends : Ends (e.closedInto g) tail e') :
    Ends (s.within g) cs e' := by
  induction h with
  | here hbrackets houter hskip =>
    refine .token ?_ hends
    rw [flags_within, hskip]
    exact step_within_stray hbrackets houter _
  | @token s s' _ cs rest _ hstep _ ih =>
    refine .token ?_ (ih hends)
    rw [flags_within, step_within, hstep]
    · rfl
    · intro hbrackets hhead houter
      obtain ⟨tail, htail⟩ := List.head?_eq_some_iff.1 hhead
      rw [htail, step_stray hbrackets houter] at hstep
      contradiction

/-- **A reading inside of a group that ends outside of it** has strayed onto the parenthesis. -/
theorem Ends.exists_strays (h : Ends (s.within g) cs e') (houter : e'.outer = []) :
    ∃ e tail, Strays s cs e tail ∧ Ends (e.closedInto g) tail e' := by
  generalize hs : s.within g = sg at h
  induction h generalizing s with
  | done _ =>
    rw [← hs, within] at houter
    exact absurd houter (List.append_ne_nil_of_right_ne_nil _ (List.cons_ne_nil _ _))
  | @token _ s' _ cs rest hstep hrest ih =>
    subst hs
    rw [flags_within] at hstep
    by_cases hstray : s.brackets = [] ∧ s.outer = [] ∧ (s.flags.skip cs).head? = some ')'
    · obtain ⟨hbrackets, hnil, hhead⟩ := hstray
      obtain ⟨tail, htail⟩ := List.head?_eq_some_iff.1 hhead
      rw [htail, step_within_stray hbrackets hnil] at hstep
      obtain ⟨rfl, rfl⟩ := Prod.mk.inj (Option.some.inj hstep)
      exact ⟨s, _, .here hbrackets hnil htail, hrest⟩
    · rw [step_within] at hstep
      · obtain ⟨p, hp, heq⟩ := Option.map_eq_some_iff.1 hstep
        obtain ⟨rfl, rfl⟩ := Prod.mk.inj heq
        obtain ⟨e, tail, hstrays, hends⟩ := ih houter rfl
        exact ⟨e, tail, .token hp hstrays, hends⟩
      · intro hbrackets hhead hnil
        exact hstray ⟨hbrackets, hnil, hhead⟩

end PatternState

end FormEngine
