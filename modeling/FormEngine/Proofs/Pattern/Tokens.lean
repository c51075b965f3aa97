import FormEngine.Pattern.Parser
import FormEngine.Proofs.Pattern.Brackets
/-!
# Tokens at the end of a text

Each token is read by a reader of its own, and outside of brackets these stop before the end of a text or
spill over. Two kinds of tokens are not so strict: an item of a bracket, and a word boundary with an open
brace behind it that nothing follows. Both depend on whether a parenthesis comes next, but do not take it,
and where they leave the text without it no reading comes to its end.
-/

namespace FormEngine

open Reader

namespace PatternFlags

/-! ## Lists of flags -/

/-- A list of flags, with the character that ends it. -/
def readChange (c : Change) (cs : List Char) : Option ((Change × Char) × List Char) :=
  (read? c cs).map fun p => ((p.1, p.2.1), p.2.2)

/-- A character ends the list, is one that may not stand there, or makes it longer. -/
theorem readChange_cases (c : Change) (ch : Char) :
    (∀ rest, readChange c (ch :: rest) = none) ∨ (∀ rest, readChange c (ch :: rest) = some ((c, ch), rest)) ∨
      ∃ c', ∀ rest, readChange c (ch :: rest) = readChange c' rest := by
  by_cases hend : (decide (ch = ':') || decide (ch = ')')) = true
  · by_cases hdangling : (c.hyphen && c.off.isEmpty) = true
    · left
      intro rest
      rw [readChange, read?, if_pos hend, if_pos hdangling, Option.map_none]
    · right; left
      intro rest
      rw [readChange, read?, if_pos hend, if_neg hdangling, Option.map_some]
  · by_cases hhyphen : ch = '-'
    · by_cases htwice : c.hyphen = true
      · left
        intro rest
        rw [readChange, read?, if_neg hend, if_pos hhyphen, if_pos htwice, Option.map_none]
      · refine .inr (.inr ⟨{ c with hyphen := true }, fun rest => ?_⟩)
        rw [readChange, read?, if_neg hend, if_pos hhyphen, if_neg htwice, readChange]
    · cases hflag : (PatternFlag.ofLetter? ch).bind c.add? with
      | none =>
        left
        intro rest
        rw [readChange, read?, if_neg hend, if_neg hhyphen, hflag]
        rfl
      | some c' =>
        refine .inr (.inr ⟨c', fun rest => ?_⟩)
        rw [readChange, read?, if_neg hend, if_neg hhyphen, hflag]
        rfl

theorem readChange_suffix {c : Change} {ch : Char} {cs rest : List Char} {x : Change × Char}
    (h : readChange c (ch :: cs) = some (x, rest)) : rest <:+ cs := by
  induction cs generalizing c ch with
  | nil =>
    rcases readChange_cases c ch with hnone | hend | ⟨c', hmore⟩
    · rw [hnone] at h
      contradiction
    · rw [hend] at h
      rw [← (Prod.mk.inj (Option.some.inj h)).2]
    · rw [hmore] at h
      contradiction
  | cons d cs ih =>
    rcases readChange_cases c ch with hnone | hend | ⟨c', hmore⟩
    · rw [hnone] at h
      contradiction
    · rw [hend] at h
      rw [← (Prod.mk.inj (Option.some.inj h)).2]
    · rw [hmore] at h
      exact (ih h).trans (List.suffix_cons d cs)

theorem local_readChange (c : Change) : Local (readChange c) := by
  refine ⟨?_, fun cs => ?_⟩
  · intro cs x rest hread
    cases cs with
    | nil => contradiction
    | cons ch cs => exact (readChange_suffix hread).trans (List.suffix_cons ch cs)
  · induction cs generalizing c with
    | nil => exact .inr ⟨fun _ _ _ => readChange_suffix, fun x rest hread => by contradiction⟩
    | cons ch cs ih =>
      rcases readChange_cases c ch with hnone | hend | ⟨c', hmore⟩
      · exact .fail (hnone cs) fun tail => hnone _
      · exact .inl ⟨(c, ch), cs, hend cs, fun tail => hend _⟩
      · exact (ih c').congr (hmore cs) fun tail => hmore _

end PatternFlags

namespace PatternState

variable (s : PatternState)

/-! ## Groups -/

/-- The name of a group that is written so. -/
def nameOf? : List Char → Option String
  | [] => none
  | c :: name =>
    if isNameChar true c && name.all (isNameChar false) then some (String.ofList (c :: name)) else none

theorem readName_of_bracket {name : List Char} (hname : '>' ∉ name) (after : List Char) :
    readName (name ++ '>' :: after) = (nameOf? name).map (·, after) := by
  have hpos : ∀ c ∈ name, (c != '>') = true := by
    intro c hc
    rw [bne_iff_ne]
    rintro rfl
    exact hname hc
  rw [readName, List.dropWhile_append_of_pos hpos, List.takeWhile_append_of_pos hpos,
    List.dropWhile_cons_of_neg (by decide), List.takeWhile_cons_of_neg (by decide), List.append_nil]
  cases name with
  | nil => rfl
  | cons c name =>
    rw [nameOf?, apply_ite (Option.map _)]
    rfl

theorem isNameChar_parenthesis (first : Bool) : isNameChar first ')' = false := by
  revert first
  decide +kernel

theorem notMem_of_nameOf? {cs : List Char} {name : String} (h : nameOf? cs = some name) : ')' ∉ cs := by
  intro hmem
  cases cs with
  | nil => contradiction
  | cons c cs =>
    rw [nameOf?] at h
    split at h
    · rename_i hchars
      rw [Bool.and_eq_true, List.all_eq_true] at hchars
      rcases List.mem_cons.1 hmem with rfl | hmem
      · rw [isNameChar_parenthesis] at hchars
        exact Bool.false_ne_true hchars.1
      · have hlater := hchars.2 _ hmem
        rw [isNameChar_parenthesis] at hlater
        exact Bool.false_ne_true hlater
    · contradiction

theorem readName_eq_none {cs : List Char} (h : '>' ∉ cs) : readName cs = none := by
  have hdrop : cs.dropWhile (· != '>') = [] := by
    rw [List.dropWhile_eq_nil_iff]
    intro c hc
    rw [bne_iff_ne]
    rintro rfl
    exact h hc
  rw [readName, hdrop]
  split
  · contradiction
  · rfl

theorem local_readName : Local readName := by
  refine ⟨?_, fun cs => ?_⟩
  · intro cs name rest hread
    by_cases hbracket : '>' ∈ cs
    · obtain ⟨before, after, rfl, hbefore⟩ := List.eq_append_cons_of_mem hbracket
      rw [readName_of_bracket hbefore] at hread
      obtain ⟨text, -, heq⟩ := Option.map_eq_some_iff.1 hread
      rw [← (Prod.mk.inj heq).2]
      exact (List.suffix_cons '>' after).trans (List.suffix_append before _)
    · rw [readName_eq_none hbracket] at hread
      contradiction
  · by_cases hbracket : '>' ∈ cs
    · obtain ⟨name, after, rfl, hname⟩ := List.eq_append_cons_of_mem hbracket
      have hfollowed : ∀ tail, readName ((name ++ '>' :: after) ++ ')' :: tail) =
          (nameOf? name).map (·, after ++ ')' :: tail) := by
        intro tail
        rw [List.append_assoc, List.cons_append, readName_of_bracket hname]
      cases hof : nameOf? name with
      | none =>
        refine .fail ?_ fun tail => ?_
        · rw [readName_of_bracket hname, hof, Option.map_none]
        · rw [hfollowed tail, hof, Option.map_none]
      | some text =>
        refine .inl ⟨text, after, ?_, fun tail => ?_⟩
        · rw [readName_of_bracket hname, hof, Option.map_some]
        · rw [hfollowed tail, hof, Option.map_some]
    · refine .fail (readName_eq_none hbracket) fun tail => ?_
      by_cases hlater : '>' ∈ tail
      · -- a name that ends behind the text has the parenthesis in it
        obtain ⟨name, after, rfl, hname⟩ := List.eq_append_cons_of_mem hlater
        have hall : '>' ∉ cs ++ ')' :: name := by
          rw [List.mem_append, List.mem_cons]
          rintro (hmem | heq | hmem)
          · exact hbracket hmem
          · exact absurd heq (by decide)
          · exact hname hmem
        rw [show cs ++ ')' :: (name ++ '>' :: after) = (cs ++ ')' :: name) ++ '>' :: after by simp,
          readName_of_bracket hall, Option.map_eq_none_iff, Option.eq_none_iff_forall_ne_some]
        intro text htext
        exact notMem_of_nameOf? htext (List.mem_append_right _ List.mem_cons_self)
      · apply readName_eq_none
        rw [List.mem_append, List.mem_cons]
        rintro (hmem | heq | hmem)
        · exact hbracket hmem
        · exact absurd heq (by decide)
        · exact hlater hmem

theorem local_openNamed? : Local s.openNamed? := by
  refine local_readName.bind (g := fun name rest => if s.names.contains name then none
    else some ({ s.openGroup s.flags true with names := name :: s.names }, rest)) fun name => ?_
  by_cases hused : s.names.contains name = true
  · simp only [if_pos hused]
    exact .fail
  · simp only [if_neg hused]
    exact .done _

/-- What a list of flags makes of the state. -/
def setFlags? (s : PatternState) (change : PatternFlags.Change) (terminator : Char) :
    Option PatternState :=
  if terminator = ':' then some (s.openGroup (s.flags.apply change) false)
  else if change.isEmpty then none
  else some { s with
    flags := s.flags.apply change
    body := s.body.add { pattern := .empty, isDirective := true } }

theorem openFlagged?_eq (cs : List Char) : s.openFlagged? cs =
    (PatternFlags.readChange {} cs).bind fun p =>
      (s.setFlags? p.1.1 p.1.2).bind fun s' => some (s', p.2) := by
  rw [openFlagged?, PatternFlags.readChange]
  rcases PatternFlags.read? {} cs with _ | ⟨change, terminator, rest⟩
  · rfl
  · rw [Option.map_some, Option.bind_some, setFlags?, apply_ite (Option.bind · _),
      apply_ite (Option.bind · _)]
    rfl

theorem local_openFlagged? : Local s.openFlagged? := by
  rw [show s.openFlagged? = _ from funext s.openFlagged?_eq]
  exact (PatternFlags.local_readChange {}).bind fun p => .guarded (o := s.setFlags? p.1 p.2) fun s' => .done s'

/-- A group with a name in angle brackets. There is no looking behind. -/
def openAngled? (s : PatternState) : Reader PatternState :=
  onHead '=' (fun _ => none) (onHead '!' (fun _ => none) s.openNamed?)

/-- What an opening parenthesis with a question mark behind it begins. -/
def openMarked? (s : PatternState) : Reader PatternState :=
  onHead '<' s.openAngled? (onHead 'P' (onHead '<' s.openNamed? fun _ => none) s.openFlagged?)

/-- What an opening parenthesis begins, behind what may be skipped. -/
def opened? (s : PatternState) : Reader PatternState :=
  onHead '?' s.openMarked? fun cs => some (s.openGroup s.flags true, cs)

theorem local_opened? : Local s.opened? := by
  have hangled : Local s.openAngled? := .onHead (by decide) .fail (.onHead (by decide) .fail s.local_openNamed?)
  have hlettered := Local.onHead (c := '<') (by decide) s.local_openNamed? .fail
  have hmarked : Local s.openMarked? :=
    .onHead (by decide) hangled (.onHead (by decide) hlettered s.local_openFlagged?)
  exact .onHead (by decide) hmarked (.done (s.openGroup s.flags true))

theorem readGroup_eq (cs : List Char) : s.readGroup cs = s.opened? (s.flags.skip cs) := by
  rw [readGroup]
  generalize s.flags.skip cs = rest
  split
  · rfl
  · rfl
  · rfl
  · rfl
  · rfl
  · rename_i rest heq hbang
    show s.openNamed? rest = s.openAngled? rest
    rw [openAngled?, onHead_of_ne heq, onHead_of_ne hbang]
  · rename_i rest _ _ _ _ hnamed hangle
    show s.openFlagged? rest = s.openMarked? rest
    rw [openMarked?, onHead_of_ne hangle]
    by_cases hletter : rest.head? = some 'P'
    · obtain ⟨rest, rfl⟩ := List.head?_eq_some_iff.1 hletter
      show s.openFlagged? ('P' :: rest) = onHead '<' s.openNamed? (fun _ => none) rest
      rw [onHead_of_ne]
      · rfl
      · rintro rest' rfl
        exact hnamed rest' rfl
    · rw [onHead_of_ne]
      rintro rest' rfl
      exact hletter rfl
  · rename_i hmark
    rw [opened?, onHead_of_ne hmark]

theorem local_readGroup : Local s.readGroup :=
  (s.local_opened?.after_skip s.flags).congr s.readGroup_eq

/-! ## Repetition -/

/-- What comes after a repetition that is complete. -/
theorem local_dropLazy (s : PatternState) : Local fun cs => some (s, dropLazy cs) := by
  refine (Local.onHead (c := '?') (by decide) (.done s) (.done s)).congr fun cs => ?_
  rw [dropLazy.eq_def]
  split
  · rfl
  · rename_i hne
    rw [onHead_of_ne hne]

/-- The end of the limits of a repetition. -/
def endLimits? (min max : Option Nat) : Reader (Nat × Option Nat) :=
  onHead '}' (fun rest => min.bind fun m => max.bind fun n =>
    if m ≤ n then some ((m, some n), rest) else none) fun _ => none

/-- The upper limit of a repetition. -/
def readMax? (f : PatternFlags) (min : Option Nat) : Reader (Nat × Option Nat) :=
  onHead '}' (fun rest => min.bind fun m => some ((m, none), rest)) fun cs =>
    (some (f.readDecimal cs)).bind fun p => endLimits? min p.1 p.2

/-- What follows the lower limit of a repetition. -/
def readUpper? (f : PatternFlags) (min : Option Nat) : Reader (Nat × Option Nat) :=
  onHead '}' (fun rest => min.bind fun m => some ((m, some m), rest))
    (onHead ',' (fun rest => readMax? f min (f.skip rest)) fun _ => none)

theorem local_readUpper? (f : PatternFlags) (min : Option Nat) : Local (readUpper? f min) := by
  have hend : ∀ max, Local (endLimits? min max) := by
    intro max
    refine .onHead (by decide) (.guarded fun m => .guarded fun n => ?_) .fail
    by_cases hle : m ≤ n
    · simp only [if_pos hle]
      exact .done (m, some n)
    · simp only [if_neg hle]
      exact .fail
  have hmax : Local (readMax? f min) :=
    .onHead (by decide) (.guarded fun m => .done (m, none)) ((f.local_readDecimal).bind hend)
  exact .onHead (by decide) (.guarded fun m => .done (m, some m))
    (.onHead (by decide) (hmax.after_skip f) .fail)

theorem readLimits_eq (f : PatternFlags) (cs : List Char) : readLimits f cs =
    (some (f.readDecimal (f.skip cs))).bind fun p => readUpper? f p.1 p.2 := by
  rw [readLimits]
  rcases f.readDecimal (f.skip cs) with ⟨min, rest⟩
  rw [Option.bind_some]
  dsimp only
  split
  · cases min <;> rfl
  · rename_i rest
    show _ = readMax? f min (f.skip rest)
    split
    · rename_i heq
      rw [heq]
      cases min <;> rfl
    · rename_i hne
      rw [readMax?, onHead_of_ne hne, Option.bind_some]
      generalize f.readDecimal (f.skip rest) = upper
      rcases upper with ⟨max, rest⟩
      split
      · rename_i m n rest heq
        obtain ⟨rfl, rfl⟩ := Prod.mk.inj heq
        rfl
      · rename_i lower _ _ hne
        by_cases hbrace : rest.head? = some '}'
        · obtain ⟨rest, rfl⟩ := List.head?_eq_some_iff.1 hbrace
          rcases lower with _ | m
          · rfl
          · rcases max with _ | n
            · rfl
            · exact (hne m n _ rfl rfl).elim
        · rw [endLimits?, onHead_of_ne]
          rintro rest' rfl
          exact hbrace rfl
  · rename_i hbrace hcomma
    rw [readUpper?, onHead_of_ne hbrace, onHead_of_ne hcomma]

theorem readLimits_eq_none {f : PatternFlags} {cs : List Char} (h : f.skip cs = []) :
    readLimits f cs = none := by
  have hdecimal : f.readDecimal [] = (none, []) := by
    simp [PatternFlags.readDecimal, PatternFlags.takeWhile_nil]
  rw [readLimits_eq, h, hdecimal]
  rfl

theorem local_readLimits (f : PatternFlags) : Local (readLimits f) :=
  (((f.local_readDecimal).bind (local_readUpper? f)).after_skip f).congr (readLimits_eq f)

/-- The limits of a repetition are in order. -/
theorem le_of_readLimits {f : PatternFlags} {cs rest : List Char} {min : Nat} {max : Option Nat}
    (h : readLimits f cs = some ((min, max), rest)) : ∀ n ∈ max, min ≤ n := by
  intro n hn
  rw [readLimits_eq, Option.bind_some, readUpper?] at h
  rcases onHead_eq_some h with hread | h
  · obtain ⟨m, -, heq⟩ := Option.bind_eq_some_iff.1 hread
    simp only [Option.some.injEq, Prod.mk.injEq] at heq
    obtain ⟨⟨rfl, rfl⟩, -⟩ := heq
    rw [Option.some.inj hn]
  rcases onHead_eq_some h with h | h
  · rcases onHead_eq_some h with hread | h
    · obtain ⟨m, -, heq⟩ := Option.bind_eq_some_iff.1 hread
      simp only [Option.some.injEq, Prod.mk.injEq] at heq
      obtain ⟨⟨rfl, rfl⟩, -⟩ := heq
      contradiction
    rw [Option.bind_some] at h
    rcases onHead_eq_some h with hread | h
    · obtain ⟨l, -, hread⟩ := Option.bind_eq_some_iff.1 hread
      obtain ⟨u, -, hread⟩ := Option.bind_eq_some_iff.1 hread
      split at hread
      · rename_i hle
        simp only [Option.some.injEq, Prod.mk.injEq] at hread
        obtain ⟨⟨rfl, rfl⟩, -⟩ := hread
        rw [← Option.some.inj hn]
        exact hle
      · contradiction
    · contradiction
  · contradiction

/-! ## Tokens outside of brackets -/

/-- The characters with a meaning of their own outside of brackets. -/
def signs : List Char := ['(', ')', '|', '[', '?', '*', '+', '{', '\\', '.', '^', '$']

theorem readToken_cons {c : Char} (hc : c ∉ signs) (rest : List Char) :
    s.readToken (c :: rest) = (literal? s.flags c false).bind fun p => some (s.add p, rest) := by
  have hall : ∀ d ∈ signs, c ≠ d := by
    rintro d hd rfl
    exact hc hd
  rw [readToken]
  · rfl
  all_goals exact hall _ (by decide)

/-- A token that is no escape, with its first character taken. -/
theorem local_readToken_cons {c : Char} (hc : c ≠ '\\') : Local fun rest => s.readToken (c :: rest) := by
  by_cases hsign : c ∈ signs
  · have hrepeat : ∀ min max, Local fun rest => (s.repeatLast? min max).map (·, dropLazy rest) := by
      intro min max
      cases s.repeatLast? min max with
      | none => exact .fail
      | some s' => exact local_dropLazy s'
    simp only [signs, List.mem_cons, List.not_mem_nil, or_false] at hsign
    rcases hsign with rfl | rfl | rfl | rfl | rfl | rfl | rfl | rfl | rfl | rfl | rfl | rfl
    case inl => exact s.local_readGroup
    · exact .given s.closeGroup?
    · exact .done _
    · exact (Bracket.local_start s.flags).bind fun b => .done { s with brackets := [b] }
    · exact hrepeat 0 (some 1)
    · exact hrepeat 0 none
    · exact hrepeat 1 none
    · exact (local_readLimits s.flags).bind fun p => .guarded (o := s.repeatLast? p.1 p.2) fun s' =>
        (local_dropLazy s').after_skip s.flags
    · contradiction
    · exact .guarded (o := dot? s.flags) fun p => .done (s.add p)
    · exact .done _
    · exact .done _
  · simp only [s.readToken_cons hsign]
    exact .guarded fun p => .done (s.add p)

/-- An escape outside of brackets. -/
def readEscaped? (s : PatternState) (cs : List Char) : Option (PatternState × List Char) :=
  (s.flags.readEscape cs).bind fun p => (escaped? s.flags p.1).bind fun q => some (s.add q, p.2)

theorem readEscaped?_suffix {cs rest : List Char} {s' : PatternState}
    (h : s.readEscaped? cs = some (s', rest)) : rest <:+ cs := by
  obtain ⟨p, hescape, hread⟩ := Option.bind_eq_some_iff.1 h
  obtain ⟨q, -, heq⟩ := Option.bind_eq_some_iff.1 hread
  rw [← (Prod.mk.inj (Option.some.inj heq)).2]
  exact s.flags.readEscape_suffix hescape

theorem readToken_suffix {c : Char} {cs rest : List Char} {s' : PatternState}
    (h : s.readToken (c :: cs) = some (s', rest)) : rest <:+ cs := by
  by_cases hc : c = '\\'
  · subst hc
    exact s.readEscaped?_suffix h
  · exact (s.local_readToken_cons hc).suffix cs s' rest h

/-- What an escape comes to that is no word boundary. -/
theorem local_readEscaped?_cons {c : Char} (hc : c ≠ 'b') : Local fun cs => s.readEscaped? (c :: cs) :=
  (s.flags.local_readEscape_cons hc).bind fun e => .guarded (o := escaped? s.flags e) fun q =>
    .done (s.add q)

/-! ## Tokens inside of brackets -/

section InBracket

variable (b : Bracket) (outer : List Bracket)

/-- The operator that two of a character are. -/
def operator? : Char → Option SetOperator
  | '&' => some .inter
  | '-' => some .diff
  | '~' => some .symmDiff
  | _ => none

/-- An item inside of brackets. -/
def readSet? (s : PatternState) (b : Bracket) (outer : List Bracket) (cs : List Char) :
    Option (PatternState × List Char) :=
  (Bracket.readRange s.flags cs).bind fun p =>
    some ({ s with brackets := b.add { set := p.1 } :: outer }, p.2)

theorem readInBracket_operator {c : Char} {op : SetOperator} (hop : operator? c = some op)
    (rest : List Char) : s.readInBracket b outer (c :: c :: rest) =
      some ({ s with brackets := b.operate s.flags op :: outer }, rest) := by
  rw [operator?.eq_def] at hop
  split at hop
  all_goals
    cases hop
    try rfl

theorem readInBracket_set {c : Char} {rest : List Char} (hclose : c ≠ ']') (hopen : c ≠ '[')
    (hsingle : operator? c ≠ none → rest.head? ≠ some c) :
    s.readInBracket b outer (c :: rest) = s.readSet? b outer (c :: rest) := by
  have hdouble : ∀ d, operator? d ≠ none → ∀ rest', c :: rest = d :: d :: rest' → False := by
    rintro d hd rest' heq
    obtain ⟨rfl, rfl⟩ := List.cons.inj heq
    exact hsingle hd rfl
  rw [readInBracket]
  · rfl
  · exact hdouble '&' (by decide)
  · exact hdouble '-' (by decide)
  · exact hdouble '~' (by decide)
  · intro rest' heq
    exact hclose (List.cons.inj heq).1
  · intro rest' heq
    exact hopen (List.cons.inj heq).1

/-- A bracket inside of brackets. -/
def openInner? (s : PatternState) (b : Bracket) (outer : List Bracket) (cs : List Char) :
    Option (PatternState × List Char) :=
  (some (Bracket.start s.flags cs)).bind fun p => some ({ s with brackets := p.1 :: b :: outer }, p.2)

theorem local_openInner? : Local (s.openInner? b outer) := by
  refine (Bracket.local_start s.flags).bind (g := fun inner rest =>
    some ({ s with brackets := inner :: b :: outer }, rest)) fun inner => ?_
  exact .done { s with brackets := inner :: b :: outer }

theorem readInBracket_class {cs rest : List Char} {set : Option CharSet}
    (h : Bracket.readClass? s.flags cs = some (set, rest)) : s.readInBracket b outer ('[' :: cs) =
      set.bind fun set => some ({ s with brackets := b.add { set } :: outer }, rest) := by
  rw [readInBracket, h]
  rfl

theorem readInBracket_open {cs : List Char} (h : Bracket.readClass? s.flags cs = none) :
    s.readInBracket b outer ('[' :: cs) = s.openInner? b outer cs := by
  rw [readInBracket, h]
  rfl

theorem local_readInBracket_open : Local fun rest => s.readInBracket b outer ('[' :: rest) := by
  refine ⟨?_, fun cs => ?_⟩
  · intro cs s' rest hread
    cases hclass : Bracket.readClass? s.flags cs with
    | none =>
      rw [readInBracket_open s b outer hclass] at hread
      exact (s.local_openInner? b outer).suffix cs s' rest hread
    | some p =>
      rw [readInBracket_class s b outer hclass] at hread
      obtain ⟨set, -, heq⟩ := Option.bind_eq_some_iff.1 hread
      rw [← (Prod.mk.inj (Option.some.inj heq)).2]
      exact Bracket.readClass?_suffix s.flags hclass
  · cases hclass : Bracket.readClass? s.flags cs with
    | none =>
      refine ((s.local_openInner? b outer).at_end cs).congr (readInBracket_open s b outer hclass) fun tail => ?_
      apply readInBracket_open
      rw [Bracket.readClass?_append, hclass, Option.map_none]
    | some p =>
      obtain ⟨set, rest⟩ := p
      have hfollowed : ∀ tail, Bracket.readClass? s.flags (cs ++ ')' :: tail) =
          some (set, rest ++ ')' :: tail) := by
        intro tail
        rw [Bracket.readClass?_append, hclass, Option.map_some]
      cases set with
      | none => exact .fail (readInBracket_class s b outer hclass) fun tail =>
          readInBracket_class s b outer (hfollowed tail)
      | some set => exact .inl ⟨_, rest, readInBracket_class s b outer hclass, fun tail =>
          readInBracket_class s b outer (hfollowed tail)⟩

theorem readInBracket_suffix {c : Char} {cs rest : List Char} {s' : PatternState}
    (h : s.readInBracket b outer (c :: cs) = some (s', rest)) : rest <:+ cs := by
  by_cases hclose : c = ']'
  · subst hclose
    obtain ⟨s'', -, heq⟩ := Option.map_eq_some_iff.1 h
    rw [← (Prod.mk.inj heq).2]
  · by_cases hopen : c = '['
    · subst hopen
      exact (s.local_readInBracket_open b outer).suffix cs s' rest h
    · by_cases hdouble : operator? c ≠ none ∧ cs.head? = some c
      · obtain ⟨op, hop⟩ := Option.ne_none_iff_exists'.1 hdouble.1
        obtain ⟨cs, rfl⟩ := List.head?_eq_some_iff.1 hdouble.2
        rw [s.readInBracket_operator b outer hop] at h
        rw [← (Prod.mk.inj (Option.some.inj h)).2]
        exact List.suffix_cons c cs
      · rw [s.readInBracket_set b outer hclose hopen fun hop hhead => hdouble ⟨hop, hhead⟩] at h
        obtain ⟨p, hset, heq⟩ := Option.bind_eq_some_iff.1 h
        rw [← (Prod.mk.inj (Option.some.inj heq)).2]
        exact Bracket.readRange_suffix s.flags hset

end InBracket

/-! ## Tokens -/

/-- Reading does not come to its end from here: a bracket is still open, or there is no token. -/
def Stuck (s : PatternState) (cs : List Char) : Prop :=
  (s.flags.skip cs = [] ∧ s.brackets ≠ []) ∨ s.flags.skip cs ≠ [] ∧ s.step (s.flags.skip cs) = none

/-- A token at this text does not stop before the end. With a parenthesis behind the text it takes the
parenthesis, or leaves a state that would be stuck without it. Without the parenthesis there is no token,
or a bracket is open after it, or it ends in a comment. -/
structure Overruns (s : PatternState) (cs : List Char) : Prop where
  followed : ∀ tail s' rest, s.step (cs ++ ')' :: tail) = some (s', rest) →
    rest <:+ tail ∨ ∃ cs', rest = cs' ++ ')' :: tail ∧ s'.Stuck cs'
  alone : ∀ s' rest, s.step cs = some (s', rest) → rest = [] ∧ (s'.brackets ≠ [] ∨
    ∀ tail, '\n' ∉ tail → s.step (cs ++ ')' :: tail) = some (s', []))

/-- At this text a token stops before the end or overruns it. -/
def TokenAt (s : PatternState) (cs : List Char) : Prop :=
  (∃ s' rest, Stops s.step cs s' rest) ∨ s.Overruns cs

variable {s}

theorem TokenAt.of_local {cs : List Char} (h : LocalAt s.step cs) : s.TokenAt cs := by
  refine h.imp_right fun hspills => ⟨?_, ?_⟩
  · intro tail s' rest hstep
    exact .inl (hspills.into tail s' rest hstep)
  · intro s' rest hstep
    obtain ⟨hnil, hcomment⟩ := hspills.alone s' rest hstep
    exact ⟨hnil, .inr hcomment⟩

/-- A token that may leave the parenthesis behind it where it stands, and then with a bracket open. -/
theorem TokenAt.of_loose {read : Reader PatternState} {cs : List Char} (h : LooseAt read cs)
    (hopen : ∀ cs s' rest, read cs = some (s', rest) → s'.brackets ≠ []) (halone : s.step cs = read cs)
    (hfollowed : ∀ tail, s.step (cs ++ ')' :: tail) = read (cs ++ ')' :: tail)) : s.TokenAt cs := by
  rcases h with ⟨s', rest, hstops⟩ | ⟨hinto, hnil⟩
  · exact .inl ⟨s', rest, halone.trans hstops.alone, fun tail => (hfollowed tail).trans (hstops.followed tail)⟩
  · refine .inr ⟨?_, ?_⟩
    · intro tail s' rest hstep
      rw [hfollowed tail] at hstep
      rcases List.suffix_cons_iff.1 (hinto tail s' rest hstep) with rfl | hsuffix
      · refine .inr ⟨[], rfl, .inl ⟨?_, hopen _ s' _ hstep⟩⟩
        exact List.suffix_nil.1 (s'.flags.skip_suffix [])
      · exact .inl hsuffix
    · intro s' rest hstep
      rw [halone] at hstep
      exact ⟨hnil s' rest hstep, .inl (hopen cs s' rest hstep)⟩

/-- A token inside of brackets. -/
theorem tokenAt_of_bracket {b : Bracket} {outer : List Bracket} (h : s.brackets = b :: outer)
    (cs : List Char) : s.TokenAt cs := by
  have hstep : s.step = s.readInBracket b outer := by
    funext cs
    rw [step, h]
  have hset : s.step cs = s.readSet? b outer cs →
      (∀ tail, s.step (cs ++ ')' :: tail) = s.readSet? b outer (cs ++ ')' :: tail)) → s.TokenAt cs := by
    refine TokenAt.of_loose ((Bracket.looseAt_readRange s.flags cs).map fun set =>
      ({ s with brackets := b.add { set } :: outer } : PatternState)) ?_
    intro cs s' rest hread
    obtain ⟨p, -, heq⟩ := Option.bind_eq_some_iff.1 hread
    rw [← (Prod.mk.inj (Option.some.inj heq)).1]
    exact List.cons_ne_nil _ _
  cases cs with
  | nil =>
    refine hset ?_ fun tail => ?_
    · rw [hstep]
      rfl
    · rw [hstep]
      exact s.readInBracket_set b outer (by decide) (by decide) fun hop => absurd rfl hop
  | cons c cs =>
    by_cases hclose : c = ']'
    · subst hclose
      apply TokenAt.of_local
      rw [hstep]
      exact ((Local.given (s.closeBracket? b outer)).at_end cs).congr rfl fun _ => rfl
    · by_cases hopen : c = '['
      · subst hopen
        apply TokenAt.of_local
        rw [hstep]
        exact ((s.local_readInBracket_open b outer).at_end cs).congr rfl fun _ => rfl
      · by_cases hdouble : operator? c ≠ none ∧ cs.head? = some c
        · obtain ⟨op, hop⟩ := Option.ne_none_iff_exists'.1 hdouble.1
          obtain ⟨cs, rfl⟩ := List.head?_eq_some_iff.1 hdouble.2
          rw [TokenAt, hstep]
          exact .inl ⟨_, cs, s.readInBracket_operator b outer hop cs, fun tail =>
            s.readInBracket_operator b outer hop _⟩
        · refine hset ?_ fun tail => ?_
          · rw [hstep]
            exact s.readInBracket_set b outer hclose hopen fun hop hhead => hdouble ⟨hop, hhead⟩
          · rw [hstep]
            refine s.readInBracket_set b outer hclose hopen fun hop hhead => hdouble ⟨hop, ?_⟩
            cases cs with
            | nil =>
              obtain rfl := Option.some.inj hhead
              exact absurd rfl hop
            | cons d cs => exact hhead

/-- A word boundary outside of brackets. -/
theorem tokenAt_of_boundary (h : s.brackets = []) (cs : List Char) : s.TokenAt ('\\' :: 'b' :: cs) := by
  have hstep : ∀ cs, s.step ('\\' :: 'b' :: cs) = (s.flags.readBoundary cs).bind fun p =>
      (escaped? s.flags p.1).bind fun q => some (s.add q, p.2) := by
    intro cs
    rw [step, h]
    rfl
  rcases s.flags.readBoundary_cases cs with hlocal | ⟨inside, rfl, hinside, hnone, hinto⟩
  · apply TokenAt.of_local
    have hnext : ∀ e, Local fun cs => (escaped? s.flags e).bind fun q => some (s.add q, cs) :=
      fun e => .guarded fun q => .done (s.add q)
    exact (hlocal.bind (fun e => (hnext e).suffix) fun e rest _ => (hnext e).at_end rest).congr (hstep cs)
      fun tail => hstep _
  · -- behind the boundary there is no count of repetitions
    refine .inr ⟨?_, ?_⟩
    · intro tail s' rest hread
      rw [List.cons_append, List.cons_append, hstep] at hread
      obtain ⟨p, hp, hread⟩ := Option.bind_eq_some_iff.1 hread
      obtain ⟨q, -, heq⟩ := Option.bind_eq_some_iff.1 hread
      obtain ⟨rfl, rfl⟩ := Prod.mk.inj (Option.some.inj heq)
      refine (hinto tail p.1 p.2 hp).imp_right fun hrest => ⟨'{' :: inside, hrest, .inr ?_⟩
      have hbrace := s.flags.skip_of_word (c := '{') (by decide) (by decide) inside
      refine ⟨?_, ?_⟩
      · show s.flags.skip ('{' :: inside) ≠ []
        rw [hbrace]
        exact List.cons_ne_nil _ _
      · show (s.add q).step (s.flags.skip ('{' :: inside)) = none
        rw [hbrace, step, show (s.add q).brackets = [] from h]
        show (readLimits s.flags inside).bind _ = none
        rw [readLimits_eq_none hinside, Option.bind_none]
    · intro s' rest hread
      rw [hstep, hnone, Option.bind_none] at hread
      contradiction

/-- **A token stops before the end of the text or overruns it.** -/
theorem tokenAt (s : PatternState) (cs : List Char) : s.TokenAt cs := by
  cases hbrackets : s.brackets with
  | cons b outer => exact tokenAt_of_bracket hbrackets cs
  | nil =>
    have hstep : s.step = s.readToken := by
      funext cs
      rw [step, hbrackets]
    cases cs with
    | nil =>
      apply TokenAt.of_local
      rw [hstep]
      exact .nil rfl (s.local_readToken_cons (by decide))
    | cons c cs =>
      by_cases hc : c = '\\'
      · subst hc
        cases cs with
        | nil =>
          apply TokenAt.of_local
          rw [hstep]
          exact (LocalAt.nil rfl (s.local_readEscaped?_cons (by decide))).congr rfl fun _ => rfl
        | cons d cs =>
          by_cases hd : d = 'b'
          · subst hd
            exact tokenAt_of_boundary hbrackets cs
          · apply TokenAt.of_local
            rw [hstep]
            exact ((s.local_readEscaped?_cons hd).at_end cs).congr rfl fun _ => rfl
      · apply TokenAt.of_local
        rw [hstep]
        exact ((s.local_readToken_cons hc).at_end cs).congr rfl fun _ => rfl

theorem step_suffix {c : Char} {cs rest : List Char} {s' : PatternState}
    (h : s.step (c :: cs) = some (s', rest)) : rest <:+ cs := by
  rw [step] at h
  split at h
  · exact s.readToken_suffix h
  · exact s.readInBracket_suffix _ _ h

end PatternState

end FormEngine
