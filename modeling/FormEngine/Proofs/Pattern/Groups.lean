import FormEngine.Proofs.Pattern.Matching
import FormEngine.Proofs.Pattern.Tokens
/-!
# Groups around a text

Reading a text inside of a group makes the same of it as reading it alone, up to a closing parenthesis
that the text alone has no group for. In what is read the limits of repetitions are in order.
-/

namespace FormEngine

namespace PatternState

variable {s s' : PatternState} {cs rest : List Char}

/-! ## A group around all others -/

/-- The same state inside of a further group. -/
def within (g : GroupBody × PatternFlags) (s : PatternState) : PatternState :=
  { s with outer := s.outer ++ [g] }

section Within

variable (g : GroupBody × PatternFlags) (s : PatternState)

@[simp]
theorem flags_within : (s.within g).flags = s.flags := rfl

@[simp]
theorem body_within : (s.within g).body = s.body := rfl

@[simp]
theorem brackets_within : (s.within g).brackets = s.brackets := rfl

/-- What a reader has come to, inside of a further group. -/
def lift (r : Option (PatternState × List Char)) : Option (PatternState × List Char) :=
  r.map fun p => (p.1.within g, p.2)

theorem lift_bind {β : Type} (o : Option β) (k : β → Option (PatternState × List Char)) :
    lift g (o.bind k) = o.bind fun y => lift g (k y) :=
  Option.map_bind ..

theorem lift_map (o : Option PatternState) (rest : List Char) :
    lift g (o.map (·, rest)) = (o.map (within g)).map (·, rest) := by
  cases o <;> rfl

theorem openNamed?_within (cs : List Char) :
    (s.within g).openNamed? cs = lift g (s.openNamed? cs) := by
  rcases hname : readName cs with _ | ⟨name, rest⟩
  · rw [openNamed?, openNamed?, hname]
    rfl
  · rw [openNamed?, openNamed?, hname]
    show (if s.names.contains name then none else _) = lift g (if s.names.contains name then none else _)
    split <;> rfl

theorem setFlags?_within (change : PatternFlags.Change) (terminator : Char) :
    (s.within g).setFlags? change terminator = (s.setFlags? change terminator).map (within g) := by
  rw [setFlags?, setFlags?]
  split
  · rfl
  · split <;> rfl

theorem openFlagged?_within (cs : List Char) :
    (s.within g).openFlagged? cs = lift g (s.openFlagged? cs) := by
  rw [openFlagged?_eq, openFlagged?_eq, lift_bind]
  congr 1
  funext p
  rw [setFlags?_within]
  cases s.setFlags? p.1.1 p.1.2 <;> rfl

theorem readGroup_within (cs : List Char) :
    (s.within g).readGroup cs = lift g (s.readGroup cs) := by
  rw [readGroup, readGroup, flags_within]
  split
  all_goals first | rfl | exact s.openNamed?_within g _ | exact s.openFlagged?_within g _

theorem repeatLast?_within (min : Nat) (max : Option Nat) :
    (s.within g).repeatLast? min max = (s.repeatLast? min max).map (within g) := by
  rw [repeatLast?, repeatLast?, body_within, Option.map_map]
  rfl

theorem closeGroup?_within (h : s.outer ≠ []) :
    (s.within g).closeGroup? = s.closeGroup?.map (within g) := by
  obtain ⟨o, outer, houter⟩ := List.exists_cons_of_ne_nil h
  rw [closeGroup?, closeGroup?, within, houter]
  rfl

theorem closeBracket?_within (b : Bracket) (outer : List Bracket) :
    (s.within g).closeBracket? b outer = (s.closeBracket? b outer).map (within g) := by
  rw [closeBracket?, closeBracket?, flags_within]
  cases b.close? s.flags with
  | none => rfl
  | some piece => cases outer <;> rfl

theorem readToken_within (h : cs.head? = some ')' → s.outer ≠ []) :
    (s.within g).readToken cs = lift g (s.readToken cs) := by
  cases cs with
  | nil => rfl
  | cons c cs =>
    by_cases hsign : c ∈ signs
    · have hrepeat : ∀ (min : Nat) (max : Option Nat) (rest : List Char),
          ((s.within g).repeatLast? min max).map (·, rest) =
            lift g ((s.repeatLast? min max).map (·, rest)) := by
        intro min max rest
        rw [repeatLast?_within, lift_map]
      simp only [signs, List.mem_cons, List.not_mem_nil, or_false] at hsign
      rcases hsign with rfl | rfl | rfl | rfl | rfl | rfl | rfl | rfl | rfl | rfl | rfl | rfl
      · exact s.readGroup_within g cs
      · show (s.within g).closeGroup?.map (·, cs) = lift g (s.closeGroup?.map (·, cs))
        rw [closeGroup?_within g s (h rfl), lift_map]
      · rfl
      · rfl
      · exact hrepeat 0 (some 1) _
      · exact hrepeat 0 none _
      · exact hrepeat 1 none _
      · show ((readLimits s.flags cs).bind fun p => ((s.within g).repeatLast? p.1.1 p.1.2).bind fun s' =>
            some (s', dropLazy (s.flags.skip p.2))) =
          lift g ((readLimits s.flags cs).bind fun p => (s.repeatLast? p.1.1 p.1.2).bind fun s' =>
            some (s', dropLazy (s.flags.skip p.2)))
        rw [lift_bind]
        congr 1
        funext p
        rw [repeatLast?_within]
        cases s.repeatLast? p.1.1 p.1.2 <;> rfl
      · show ((s.flags.readEscape cs).bind fun p => (escaped? s.flags p.1).bind fun q =>
            some ((s.within g).add q, p.2)) = lift g (s.readEscaped? cs)
        rw [readEscaped?, lift_bind]
        congr 1
        funext p
        rw [lift_bind]
        rfl
      · show ((dot? s.flags).bind fun p => some ((s.within g).add p, cs)) =
          lift g ((dot? s.flags).bind fun p => some (s.add p, cs))
        rw [lift_bind]
        rfl
      · rfl
      · rfl
    · rw [readToken_cons _ hsign, readToken_cons _ hsign, lift_bind]
      rfl

theorem readInBracket_within (b : Bracket) (outer : List Bracket) (cs : List Char) :
    (s.within g).readInBracket b outer cs = lift g (s.readInBracket b outer cs) := by
  rw [readInBracket.eq_def, readInBracket.eq_def]
  split
  · rfl
  · rfl
  · rfl
  · rename_i rest
    show ((s.within g).closeBracket? b outer).map (·, rest) = _
    rw [closeBracket?_within, lift_map]
  · rename_i rest
    rw [flags_within]
    rcases Bracket.readClass? s.flags rest with _ | ⟨set, rest⟩
    · rfl
    · cases set <;> rfl
  · rw [flags_within]
    cases Bracket.readRange s.flags _ <;> rfl

/-- **A token inside of a further group** is the same, unless it closes that group. -/
theorem step_within (h : s.brackets = [] → cs.head? = some ')' → s.outer ≠ []) :
    (s.within g).step cs = lift g (s.step cs) := by
  rw [step, step, brackets_within]
  split
  · rename_i hnil
    exact s.readToken_within g (h hnil)
  · exact s.readInBracket_within g _ _ cs

end Within

end PatternState

/-! ## Limits in order -/

namespace Pattern

theorem wellFormed_sequenceOf {ps : List Pattern} (h : ∀ p ∈ ps, p.WellFormed) :
    (sequenceOf ps).WellFormed := by
  induction ps using sequenceOf.induct with
  | case1 => trivial
  | case2 p => exact h p List.mem_cons_self
  | case3 p rest _ ih =>
    rw [sequenceOf]
    · exact ⟨h p List.mem_cons_self, ih fun q hq => h q (List.mem_cons_of_mem p hq)⟩
    · assumption

theorem wellFormed_choiceOf {ps : List Pattern} (h : ∀ p ∈ ps, p.WellFormed) :
    (choiceOf ps).WellFormed := by
  induction ps using choiceOf.induct with
  | case1 => trivial
  | case2 p => exact h p List.mem_cons_self
  | case3 p rest _ ih =>
    rw [choiceOf]
    · exact ⟨h p List.mem_cons_self, ih fun q hq => h q (List.mem_cons_of_mem p hq)⟩
    · assumption

end Pattern

namespace GroupBody

/-- In everything that has been read of the group the limits of repetitions are in order. -/
structure WellFormed (b : GroupBody) : Prop where
  branches : ∀ p ∈ b.branches, p.pattern.WellFormed
  pieces : ∀ p ∈ b.pieces, p.pattern.WellFormed

namespace WellFormed

variable {b : GroupBody}

theorem add (h : b.WellFormed) {p : Piece} (hp : p.pattern.WellFormed) : (b.add p).WellFormed :=
  ⟨h.branches, List.forall_mem_cons.2 ⟨hp, h.pieces⟩⟩

theorem bar (h : b.WellFormed) : b.bar.WellFormed := by
  refine ⟨List.forall_mem_cons.2 ⟨?_, h.branches⟩, List.forall_mem_nil _⟩
  apply Pattern.wellFormed_sequenceOf
  intro p hp
  obtain ⟨q, hq, rfl⟩ := List.mem_map.1 hp
  exact h.pieces q (List.mem_reverse.1 hq)

theorem close (h : b.WellFormed) : b.close.pattern.WellFormed := by
  have hall : (Piece.choice b.bar.branches.reverse).pattern.WellFormed := by
    apply Pattern.wellFormed_choiceOf
    intro p hp
    obtain ⟨q, hq, rfl⟩ := List.mem_map.1 hp
    exact h.bar.branches q (List.mem_reverse.1 hq)
  rw [GroupBody.close]
  split
  · exact hall
  · exact hall

theorem repeatLast? (h : b.WellFormed) {min : Nat} {max : Option Nat} {b' : GroupBody}
    (hlimits : ∀ n ∈ max, min ≤ n) (hb : b.repeatLast? min max = some b') : b'.WellFormed := by
  rw [GroupBody.repeatLast?] at hb
  split at hb
  · contradiction
  · rename_i p rest hpieces
    split at hb
    · contradiction
    · obtain rfl := Option.some.inj hb
      have hall := h.pieces
      rw [hpieces, List.forall_mem_cons] at hall
      exact ⟨h.branches, List.forall_mem_cons.2 ⟨⟨hall.1, hlimits⟩, hall.2⟩⟩

end WellFormed

end GroupBody

namespace PatternState

theorem wellFormed_literal {f : PatternFlags} {c : Char} {isByte : Bool} {p : Pattern}
    (h : literal? f c isByte = some p) : p.WellFormed := by
  rw [literal?] at h
  split at h
  · contradiction
  · obtain rfl := Option.some.inj h
    trivial

theorem wellFormed_dot {f : PatternFlags} {p : Pattern} (h : dot? f = some p) : p.WellFormed := by
  rw [dot?] at h
  split at h
  · contradiction
  · split at h
    · obtain rfl := Option.some.inj h
      trivial
    · split at h
      all_goals
        obtain rfl := Option.some.inj h
        trivial

theorem wellFormed_escaped {f : PatternFlags} {e : Escape} {p : Pattern} (h : escaped? f e = some p) :
    p.WellFormed := by
  cases e with
  | literal c isByte => exact wellFormed_literal h
  | set s =>
    obtain rfl := Option.some.inj h
    trivial
  | anchor a =>
    obtain rfl := Option.some.inj h
    trivial

/-- In everything that has been read the limits of repetitions are in order. -/
structure WellFormed (s : PatternState) : Prop where
  body : s.body.WellFormed
  outer : ∀ g ∈ s.outer, g.1.WellFormed

namespace WellFormed

variable {s s' : PatternState} {cs rest : List Char}

theorem init : ({} : PatternState).WellFormed :=
  ⟨⟨List.forall_mem_nil _, List.forall_mem_nil _⟩, List.forall_mem_nil _⟩

theorem add (h : s.WellFormed) {p : Pattern} (hp : p.WellFormed) : (s.add p).WellFormed :=
  ⟨h.body.add hp, h.outer⟩

theorem openGroup (h : s.WellFormed) (flags : PatternFlags) (captures : Bool) :
    (s.openGroup flags captures).WellFormed :=
  ⟨⟨List.forall_mem_nil _, List.forall_mem_nil _⟩, List.forall_mem_cons.2 ⟨h.body, h.outer⟩⟩

theorem closeGroup? (h : s.WellFormed) (hs : s.closeGroup? = some s') : s'.WellFormed := by
  rw [PatternState.closeGroup?] at hs
  split at hs
  · contradiction
  · rename_i body flags outer houter
    obtain rfl := Option.some.inj hs
    have hall := h.outer
    rw [houter, List.forall_mem_cons] at hall
    exact ⟨hall.1.add h.body.close, hall.2⟩

theorem repeatLast? (h : s.WellFormed) {min : Nat} {max : Option Nat} (hlimits : ∀ n ∈ max, min ≤ n)
    (hs : s.repeatLast? min max = some s') : s'.WellFormed := by
  obtain ⟨body, hbody, rfl⟩ := Option.map_eq_some_iff.1 hs
  exact ⟨h.body.repeatLast? hlimits hbody, h.outer⟩

theorem openNamed? (h : s.WellFormed) (hs : s.openNamed? cs = some (s', rest)) : s'.WellFormed := by
  obtain ⟨p, -, hread⟩ := Option.bind_eq_some_iff.1 hs
  replace hread : (if s.names.contains p.1 then none else
    some ({ s.openGroup s.flags true with names := p.1 :: s.names }, p.2)) = some (s', rest) := hread
  split at hread
  · contradiction
  · rw [← (Prod.mk.inj (Option.some.inj hread)).1]
    exact ⟨(h.openGroup s.flags true).body, (h.openGroup s.flags true).outer⟩

theorem openFlagged? (h : s.WellFormed) (hs : s.openFlagged? cs = some (s', rest)) :
    s'.WellFormed := by
  rw [openFlagged?_eq] at hs
  obtain ⟨p, -, hread⟩ := Option.bind_eq_some_iff.1 hs
  obtain ⟨s'', hset, heq⟩ := Option.bind_eq_some_iff.1 hread
  rw [← (Prod.mk.inj (Option.some.inj heq)).1]
  rw [setFlags?] at hset
  split at hset
  · obtain rfl := Option.some.inj hset
    exact h.openGroup _ false
  · split at hset
    · contradiction
    · obtain rfl := Option.some.inj hset
      exact ⟨h.body.add trivial, h.outer⟩

theorem readGroup (h : s.WellFormed) (hs : s.readGroup cs = some (s', rest)) : s'.WellFormed := by
  rw [PatternState.readGroup] at hs
  split at hs
  · contradiction
  · contradiction
  · contradiction
  · contradiction
  · exact h.openNamed? hs
  · exact h.openNamed? hs
  · exact h.openFlagged? hs
  · rw [← (Prod.mk.inj (Option.some.inj hs)).1]
    exact h.openGroup s.flags true

theorem readToken (h : s.WellFormed) (hs : s.readToken cs = some (s', rest)) : s'.WellFormed := by
  have hadd : ∀ {o : Option Pattern} {rest' : List Char}, (∀ p, o = some p → p.WellFormed) →
      (o.bind fun p => some (s.add p, rest')) = some (s', rest) → s'.WellFormed := by
    intro o rest' hp hread
    obtain ⟨p, ho, heq⟩ := Option.bind_eq_some_iff.1 hread
    rw [← (Prod.mk.inj (Option.some.inj heq)).1]
    exact h.add (hp p ho)
  have hrepeat : ∀ {min : Nat} {max : Option Nat} {rest' : List Char}, (∀ n ∈ max, min ≤ n) →
      (s.repeatLast? min max).map (·, rest') = some (s', rest) → s'.WellFormed := by
    intro min max rest' hlimits hread
    obtain ⟨s'', hs'', heq⟩ := Option.map_eq_some_iff.1 hread
    rw [← (Prod.mk.inj heq).1]
    exact h.repeatLast? hlimits hs''
  cases cs with
  | nil => contradiction
  | cons c cs =>
    by_cases hsign : c ∈ signs
    · simp only [signs, List.mem_cons, List.not_mem_nil, or_false] at hsign
      rcases hsign with rfl | rfl | rfl | rfl | rfl | rfl | rfl | rfl | rfl | rfl | rfl | rfl
      · exact h.readGroup hs
      · obtain ⟨s'', hs'', heq⟩ := Option.map_eq_some_iff.1 hs
        rw [← (Prod.mk.inj heq).1]
        exact h.closeGroup? hs''
      · rw [← (Prod.mk.inj (Option.some.inj hs)).1]
        exact ⟨h.body.bar, h.outer⟩
      · rw [← (Prod.mk.inj (Option.some.inj hs)).1]
        exact ⟨h.body, h.outer⟩
      · exact hrepeat (fun _ _ => Nat.zero_le _) hs
      · exact hrepeat (fun _ hn => by contradiction) hs
      · exact hrepeat (fun _ hn => by contradiction) hs
      · obtain ⟨p, hlimits, hread⟩ := Option.bind_eq_some_iff.1 hs
        obtain ⟨s'', hs'', heq⟩ := Option.bind_eq_some_iff.1 hread
        rw [← (Prod.mk.inj (Option.some.inj heq)).1]
        exact h.repeatLast? (le_of_readLimits hlimits) hs''
      · obtain ⟨p, -, hread⟩ := Option.bind_eq_some_iff.1 hs
        exact hadd (fun _ => wellFormed_escaped) hread
      · exact hadd (fun _ => wellFormed_dot) hs
      · rw [← (Prod.mk.inj (Option.some.inj hs)).1]
        exact h.add trivial
      · rw [← (Prod.mk.inj (Option.some.inj hs)).1]
        exact h.add trivial
    · rw [readToken_cons _ hsign] at hs
      exact hadd (fun _ => wellFormed_literal) hs

theorem closeBracket? (h : s.WellFormed) {b : Bracket} {outer : List Bracket}
    (hs : s.closeBracket? b outer = some s') : s'.WellFormed := by
  obtain ⟨piece, -, hclose⟩ := Option.bind_eq_some_iff.1 hs
  cases outer with
  | nil =>
    obtain rfl := Option.some.inj hclose
    exact ⟨h.body.add trivial, h.outer⟩
  | cons o outer =>
    obtain rfl := Option.some.inj hclose
    exact ⟨h.body, h.outer⟩

theorem readInBracket (h : s.WellFormed) {b : Bracket} {outer : List Bracket}
    (hs : s.readInBracket b outer cs = some (s', rest)) : s'.WellFormed := by
  rw [PatternState.readInBracket.eq_def] at hs
  split at hs
  · rw [← (Prod.mk.inj (Option.some.inj hs)).1]
    exact ⟨h.body, h.outer⟩
  · rw [← (Prod.mk.inj (Option.some.inj hs)).1]
    exact ⟨h.body, h.outer⟩
  · rw [← (Prod.mk.inj (Option.some.inj hs)).1]
    exact ⟨h.body, h.outer⟩
  · obtain ⟨s'', hs'', heq⟩ := Option.map_eq_some_iff.1 hs
    rw [← (Prod.mk.inj heq).1]
    exact h.closeBracket? hs''
  · split at hs
    · obtain ⟨set, -, heq⟩ := Option.bind_eq_some_iff.1 hs
      rw [← (Prod.mk.inj (Option.some.inj heq)).1]
      exact ⟨h.body, h.outer⟩
    · rw [← (Prod.mk.inj (Option.some.inj hs)).1]
      exact ⟨h.body, h.outer⟩
  · obtain ⟨p, -, heq⟩ := Option.bind_eq_some_iff.1 hs
    rw [← (Prod.mk.inj (Option.some.inj heq)).1]
    exact ⟨h.body, h.outer⟩

/-- **A token keeps the limits in order.** -/
theorem step (h : s.WellFormed) (hs : s.step cs = some (s', rest)) : s'.WellFormed := by
  rw [PatternState.step] at hs
  split at hs
  · exact h.readToken hs
  · exact h.readInBracket hs

end WellFormed

end PatternState

end FormEngine
