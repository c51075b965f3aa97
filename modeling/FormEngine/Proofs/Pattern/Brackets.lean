import FormEngine.Proofs.Pattern.Reader
import Mathlib.Data.List.TakeWhile
/-!
# Brackets at the end of a text

The readers of a bracket are those of the text outside, but for one thing: an item is only taken where
something follows it, since a hyphen could. At the end of a text an item fails therefore, and is taken if
a parenthesis follows, though not with the parenthesis.
-/

namespace FormEngine

namespace Reader

variable {α β γ : Type} {cs : List Char} {read : Reader α}

/-- At this text the reader stops before the end. Or else it leaves nothing of the text, nor of it and a
parenthesis that follows but at most what follows. -/
def LooseAt (read : Reader α) (cs : List Char) : Prop :=
  (∃ x rest, Stops read cs x rest) ∨
    (∀ tail x rest, read (cs ++ ')' :: tail) = some (x, rest) → rest <:+ ')' :: tail) ∧
      ∀ x rest, read cs = some (x, rest) → rest = []

theorem LocalAt.loose (h : LocalAt read cs) : LooseAt read cs := by
  refine h.imp_right fun hspills => ⟨?_, ?_⟩
  · intro tail x rest hread
    exact (hspills.into tail x rest hread).trans (List.suffix_cons _ tail)
  · intro x rest hread
    exact (hspills.alone x rest hread).1

theorem LooseAt.congr {read' : Reader α} {cs' : List Char} (h : LooseAt read' cs')
    (halone : read cs = read' cs')
    (hfollowed : ∀ tail, read (cs ++ ')' :: tail) = read' (cs' ++ ')' :: tail)) :
    LooseAt read cs := by
  rcases h with ⟨x, rest, hstops⟩ | ⟨hinto, hnil⟩
  · exact .inl ⟨x, rest, halone.trans hstops.alone, fun tail => (hfollowed tail).trans (hstops.followed tail)⟩
  · refine .inr ⟨?_, ?_⟩
    · intro tail x rest hread
      exact hinto tail x rest ((hfollowed tail).symm.trans hread)
    · intro x rest hread
      exact hnil x rest (halone.symm.trans hread)

theorem LooseAt.map (h : LooseAt read cs) (g : α → β) :
    LooseAt (fun cs => (read cs).bind fun p => some (g p.1, p.2)) cs := by
  rcases h with ⟨x, rest, hstops⟩ | ⟨hinto, hnil⟩
  · refine .inl ⟨g x, rest, ?_, fun tail => ?_⟩
    · rw [hstops.alone, Option.bind_some]
    · rw [hstops.followed tail, Option.bind_some]
  · refine .inr ⟨?_, ?_⟩
    · intro tail y rest hread
      obtain ⟨p, hp, heq⟩ := Option.bind_eq_some_iff.1 hread
      rw [← (Prod.mk.inj (Option.some.inj heq)).2]
      exact hinto tail p.1 p.2 hp
    · intro y rest hread
      obtain ⟨p, hp, heq⟩ := Option.bind_eq_some_iff.1 hread
      rw [← (Prod.mk.inj (Option.some.inj heq)).2]
      exact hnil p.1 p.2 hp

theorem LocalAt.bind_loose {g : α → Reader β} (h : LocalAt read cs)
    (hsuffix : ∀ x cs y rest, g x cs = some (y, rest) → rest <:+ cs)
    (hnext : ∀ x rest, read cs = some (x, rest) → LooseAt (g x) rest) :
    LooseAt (fun cs => (read cs).bind fun p => g p.1 p.2) cs := by
  rcases h with ⟨x, rest, hstops⟩ | hspills
  · refine (hnext x rest hstops.alone).congr ?_ ?_
    · rw [hstops.alone, Option.bind_some]
    · intro tail
      rw [hstops.followed tail, Option.bind_some]
  · refine .inr ⟨?_, ?_⟩
    · intro tail y rest hread
      obtain ⟨p, hp, hrest⟩ := Option.bind_eq_some_iff.1 hread
      have hinto := hspills.into tail p.1 p.2 hp
      exact (hsuffix _ _ _ _ hrest).trans (hinto.trans (List.suffix_cons _ tail))
    · intro y rest hread
      obtain ⟨p, hp, hrest⟩ := Option.bind_eq_some_iff.1 hread
      rw [(hspills.alone p.1 p.2 hp).1] at hrest
      exact List.suffix_nil.1 (hsuffix _ _ _ _ hrest)

end Reader

open Reader

namespace Bracket

variable (f : PatternFlags)

/-! ## The begin of a bracket -/

/-- The caret that negates a bracket. -/
def readCaret (f : PatternFlags) (cs : List Char) : Bool × List Char :=
  match cs with
  | '^' :: rest => (true, f.skip rest)
  | _ => (false, cs)

/-- The bracket that begins with the hyphens. -/
def begin (f : PatternFlags) (negated : Bool) (hyphens cs : List Char) : Bracket × List Char :=
  let items := hyphens.map fun c => { set := .single c : SetPiece }
  match hyphens, cs with
  | [], ']' :: rest => ({ negated, items := [{ set := .single ']' }] }, f.skip rest)
  | _, _ => ({ negated, items }, cs)

theorem local_readCaret : Local fun cs => some (readCaret f cs) := by
  refine (Local.onHead (c := '^') (by decide) (.skipped f true) (.done false)).congr fun cs => ?_
  rw [readCaret.eq_def]
  split
  · rfl
  · rename_i hne
    rw [onHead_of_ne hne]

theorem local_begin (negated : Bool) (hyphens : List Char) :
    Local fun cs => some (begin f negated hyphens cs) := by
  cases hyphens with
  | cons c hyphens => exact .done _
  | nil =>
    have hclosing : Local fun cs =>
        some (({ negated, items := [{ set := .single ']' }] } : Bracket), f.skip cs) := .skipped f _
    have hother : Local fun cs => some (({ negated, items := [] } : Bracket), cs) := .done _
    refine (Local.onHead (c := ']') (by decide) hclosing hother).congr fun cs => ?_
    rw [begin.eq_def]
    split
    · rfl
    · rename_i hne
      rw [onHead_of_ne (hne · rfl)]
      rfl

theorem local_start : Local fun cs => some (start f cs) := by
  have hhyphen : (')' == '-') = false := by decide
  have hall := (local_readCaret f).bind fun negated =>
    (f.local_takeWhile (p := (· == '-')) hhyphen).bind fun hyphens => local_begin f negated hyphens
  exact hall.after_skip f

/-! ## Classes by name -/

theorem notMem_of_named? {s : String} {set : CharSet} (h : CharSet.named? s = some set) :
    ')' ∉ s.toList := by
  unfold CharSet.named? at h
  split at h
  case h_15 => contradiction
  all_goals decide

/-- The class with the name that stands in front of a colon. -/
def readClassName (f : PatternFlags) (negated : Bool) (cs : List Char) :
    Option (Option CharSet × List Char) :=
  match cs.dropWhile (· != ':'), CharSet.named? (String.ofList (cs.takeWhile (· != ':'))) with
  | ':' :: ']' :: rest, some s => some (f.negate? negated (f.fold s), rest)
  | _, _ => none

theorem readClassName_of_colon {name : List Char} (hname : ':' ∉ name) (negated : Bool)
    (after : List Char) : readClassName f negated (name ++ ':' :: after) =
      (CharSet.named? (String.ofList name)).bind fun s =>
        onHead ']' (fun rest => some (f.negate? negated (f.fold s), rest)) (fun _ => none) after := by
  have hpos : ∀ c ∈ name, (c != ':') = true := by
    intro c hc
    rw [bne_iff_ne]
    rintro rfl
    exact hname hc
  rw [readClassName, List.dropWhile_append_of_pos hpos, List.takeWhile_append_of_pos hpos,
    List.dropWhile_cons_of_neg (by decide), List.takeWhile_cons_of_neg (by decide), List.append_nil]
  split
  · rename_i rest s heq hs
    obtain rfl := (List.cons.inj heq).2
    rw [hs]
    rfl
  · rename_i hne
    cases hs : CharSet.named? (String.ofList name) with
    | none => rfl
    | some s =>
      rw [Option.bind_some, onHead_of_ne]
      rintro rest rfl
      exact hne rest s rfl hs

theorem readClassName_append (negated : Bool) (cs tail : List Char) :
    readClassName f negated (cs ++ ')' :: tail) =
      (readClassName f negated cs).map fun p => (p.1, p.2 ++ ')' :: tail) := by
  by_cases hcolon : ':' ∈ cs
  · obtain ⟨name, after, rfl, hname⟩ := List.eq_append_cons_of_mem hcolon
    rw [List.append_assoc, List.cons_append, readClassName_of_colon f hname,
      readClassName_of_colon f hname]
    cases CharSet.named? (String.ofList name) with
    | none => rfl
    | some s =>
      rcases after with _ | ⟨c, after⟩
      · rfl
      · by_cases hc : c = ']'
        · subst hc
          rfl
        · have hne : ∀ after rest, c :: after = ']' :: rest → False := by
            intro after rest heq
            exact hc (List.cons.inj heq).1
          rw [Option.bind_some, Option.bind_some, List.cons_append, onHead_of_ne (hne _),
            onHead_of_ne (hne _)]
          rfl
  · -- a name that the colon behind the text ends has the parenthesis in it
    have hpos : ∀ c ∈ cs, (c != ':') = true := by
      intro c hc
      rw [bne_iff_ne]
      rintro rfl
      exact hcolon hc
    have halone : readClassName f negated cs = none := by
      rw [readClassName, List.dropWhile_eq_nil_iff.2 hpos]
    have hname : CharSet.named? (String.ofList ((cs ++ ')' :: tail).takeWhile (· != ':'))) = none := by
      rw [Option.eq_none_iff_forall_ne_some]
      intro s hs
      apply notMem_of_named? hs
      rw [String.toList_ofList, List.takeWhile_append_of_pos hpos]
      exact List.mem_append_right _ List.mem_cons_self
    rw [halone, readClassName, hname]
    split
    · contradiction
    · rfl

theorem readClass?_eq_none {cs : List Char} (h : cs.head? ≠ some ':') : readClass? f cs = none := by
  rw [readClass?]
  rintro rest rfl
  exact h rfl

theorem readClass?_colon {cs : List Char} (h : cs.head? ≠ some '^') :
    readClass? f (':' :: cs) = readClassName f false cs := by
  rw [readClass?]
  · rfl
  · rintro rest rfl
    exact h rfl

/-- **Classes by name are not misled by what follows the text.** -/
theorem readClass?_append (cs tail : List Char) : readClass? f (cs ++ ')' :: tail) =
    (readClass? f cs).map fun p => (p.1, p.2 ++ ')' :: tail) := by
  rcases cs with _ | ⟨c, cs⟩
  · exact readClass?_eq_none f (by simp)
  · by_cases hc : c = ':'
    · subst hc
      by_cases hcaret : cs.head? = some '^'
      · obtain ⟨cs, rfl⟩ := List.head?_eq_some_iff.1 hcaret
        exact readClassName_append f true cs tail
      · have hfollowed : (cs ++ ')' :: tail).head? ≠ some '^' := by
          cases cs with
          | nil => simp
          | cons d cs => simpa using hcaret
        rw [List.cons_append, readClass?_colon f hcaret, readClass?_colon f hfollowed]
        exact readClassName_append f false cs tail
    · have hhead : ∀ cs, (c :: cs).head? ≠ some ':' := fun _ heq => hc (Option.some.inj heq)
      rw [readClass?_eq_none f (hhead cs), List.cons_append, readClass?_eq_none f (hhead _)]
      rfl

theorem readClass?_suffix {cs rest : List Char} {set : Option CharSet}
    (h : readClass? f cs = some (set, rest)) : rest <:+ cs := by
  have hname : ∀ negated cs, readClassName f negated cs = some (set, rest) → rest <:+ cs := by
    intro negated cs hread
    rw [readClassName] at hread
    split at hread
    · rename_i rest' _ hdrop _
      have hafter : ':' :: ']' :: rest' <:+ cs := hdrop ▸ List.dropWhile_suffix _
      rw [← (Prod.mk.inj (Option.some.inj hread)).2]
      exact (List.suffix_append [':', ']'] rest').trans hafter
    · contradiction
  by_cases hcolon : cs.head? = some ':'
  · obtain ⟨after, rfl⟩ := List.head?_eq_some_iff.1 hcolon
    refine List.IsSuffix.trans ?_ (List.suffix_cons ':' after)
    by_cases hcaret : after.head? = some '^'
    · obtain ⟨after, rfl⟩ := List.head?_eq_some_iff.1 hcaret
      exact (hname true after h).trans (List.suffix_cons '^' after)
    · rw [readClass?_colon f hcaret] at h
      exact hname false after h
  · rw [readClass?_eq_none f hcolon] at h
    contradiction

/-! ## Items and ranges -/

theorem exists_anchor_of_readBoundary {cs rest : List Char} {e : Escape}
    (h : f.readBoundary cs = some (e, rest)) : ∃ a, e = .anchor a := by
  have hname : ∀ cs, f.readBoundaryName cs = some (e, rest) → ∃ a, e = .anchor a := by
    intro cs hread
    rw [PatternFlags.readBoundaryName] at hread
    split at hread
    · obtain ⟨a, -, heq⟩ := Option.bind_eq_some_iff.1 hread
      exact ⟨a, (Prod.mk.inj (Option.some.inj heq)).1.symm⟩
    · contradiction
  by_cases hbrace : cs.head? = some '{'
  · obtain ⟨inside, rfl⟩ := List.head?_eq_some_iff.1 hbrace
    rw [f.readBoundary_brace] at h
    split at h
    · contradiction
    · split at h
      · exact hname _ h
      · exact ⟨_, (Prod.mk.inj (Option.some.inj h)).1.symm⟩
  · rw [f.readBoundary_of_ne hbrace] at h
    exact ⟨_, (Prod.mk.inj (Option.some.inj h)).1.symm⟩

/-- An item that is put to a use which there is none of for anchors, with its first character taken. -/
theorem local_readItem_cons {β : Type} {g : Escape → Option β} (hg : ∀ a, g (.anchor a) = none) (c : Char) :
    Local fun rest => (readItem f (c :: rest)).bind fun p => (g p.1).bind fun y => some (y, p.2) := by
  by_cases hc : c = '\\'
  · subst hc
    have hescape : Local fun cs => (f.readEscape cs).bind fun p => (g p.1).bind fun y => some (y, p.2) := by
      refine .of_cons rfl fun d => ?_
      by_cases hd : d = 'b'
      · subst hd
        have hnone : (fun rest => (f.readEscape ('b' :: rest)).bind fun p =>
            (g p.1).bind fun y => some (y, p.2)) = fun _ => none := by
          funext rest
          rw [Option.bind_eq_none_iff]
          rintro ⟨e, rest'⟩ hread
          obtain ⟨a, rfl⟩ := exists_anchor_of_readBoundary f hread
          rw [hg, Option.bind_none]
        rw [hnone]
        exact .fail
      · exact (f.local_readEscape_cons hd).bind fun e => .guarded (o := g e) fun y => .done y
    exact hescape
  · have hitem : ∀ rest, readItem f (c :: rest) = some (.literal c false, rest) := by
      intro rest
      rw [readItem]
      rintro rfl
      exact hc rfl
    simp only [hitem, Option.bind_some]
    exact .guarded fun y => .done y

theorem local_readItem {β : Type} {g : Escape → Option β} (hg : ∀ a, g (.anchor a) = none) :
    Local fun cs => (readItem f cs).bind fun p => (g p.1).bind fun y => some (y, p.2) :=
  .of_cons rfl (local_readItem_cons f hg)

/-- The character is one that a hyphen makes no range in front of. -/
def isRangeEnd (c? : Option Char) : Bool := c? == some ']' || c? == some '-'

/-- A hyphen in front of this text makes no range. -/
def endsRange (f : PatternFlags) (cs : List Char) : Bool := isRangeEnd (peek f cs)

theorem isRangeEnd_of_isBlank {c : Char} (h : Text.isBlank c = true) :
    isRangeEnd (some c) = false := by
  by_contra hend
  rw [Bool.not_eq_false, isRangeEnd, Bool.or_eq_true, beq_iff_eq, beq_iff_eq, Option.some.injEq,
    Option.some.injEq] at hend
  rcases hend with rfl | rfl
  · exact absurd h (by decide)
  · exact absurd h (by decide)

/-- In front of nothing but blanks, or of the sign of a comment behind blanks, stands no end of a range. -/
theorem isRangeEnd_head? {cs : List Char}
    (h : ∀ c, (cs.dropWhile Text.isBlank).head? = some c → c = '#') :
    isRangeEnd cs.head? = false := by
  cases cs with
  | nil => rfl
  | cons c cs =>
    by_cases hblank : Text.isBlank c = true
    · exact isRangeEnd_of_isBlank hblank
    · rw [List.dropWhile_cons_of_neg hblank] at h
      obtain rfl := h c rfl
      rfl

theorem peek_of_word {c : Char} {cs rest : List Char} (hverbose : f.verbose = true)
    (hdrop : cs.dropWhile Text.isBlank = c :: rest) (hc : c ≠ '#') : peek f cs = some c := by
  rw [peek, if_pos hverbose, hdrop]
  split
  · rename_i heq
    exact absurd (List.cons.inj heq).1 hc
  · rename_i heq
    rw [(List.cons.inj heq).1]
  · contradiction

theorem endsRange_append (cs tail : List Char) :
    endsRange f (cs ++ ')' :: tail) = endsRange f cs := by
  have hblank : Text.isBlank ')' = false := by decide
  have hdrop := PatternFlags.dropWhile_append_parenthesis hblank cs tail
  rw [endsRange, endsRange]
  by_cases hverbose : f.verbose = true
  · cases hcs : cs.dropWhile Text.isBlank with
    | nil =>
      have halone : isRangeEnd cs.head? = false := isRangeEnd_head? (by rw [hcs]; simp)
      rw [hcs] at hdrop
      rw [peek_of_word f hverbose hdrop (by decide), peek, if_pos hverbose, hcs]
      exact halone.symm
    | cons c rest =>
      rw [hcs] at hdrop
      by_cases hc : c = '#'
      · subst hc
        have halone : isRangeEnd cs.head? = false := isRangeEnd_head? (by rw [hcs]; simp)
        rw [peek, if_pos hverbose, hdrop, peek, if_pos hverbose, hcs]
        simp only [List.cons_append, PatternFlags.dropWhile_append_parenthesis hblank]
        cases rest.dropWhile Text.isBlank with
        | nil => exact halone.symm
        | cons d rest => rfl
      · rw [peek_of_word f hverbose hdrop hc, peek_of_word f hverbose hcs hc]
  · rw [peek, if_neg hverbose, peek, if_neg hverbose]
    cases cs with
    | nil => rfl
    | cons c cs => rfl

/-- The set of an item or a range, behind the item that comes first and what may be skipped. -/
def endRange (f : PatternFlags) (first : Escape) : Reader CharSet
  | [] => none
  | '-' :: after =>
    if endsRange f after then (itemSet? f first).bind fun s => some (s, '-' :: after)
    else (readItem f (f.skip after)).bind fun p => (rangeSet? f first p.1).bind fun s => some (s, p.2)
  | rest => (itemSet? f first).bind fun s => some (s, rest)

theorem readRange_eq (cs : List Char) :
    readRange f cs = (readItem f cs).bind fun p => endRange f p.1 (f.skip p.2) := rfl

theorem endRange_of_ne {c : Char} (hc : c ≠ '-') (first : Escape) (rest : List Char) :
    endRange f first (c :: rest) = (itemSet? f first).bind fun s => some (s, c :: rest) := by
  rw [endRange]
  · intro h
    contradiction
  · rintro after heq
    exact hc (List.cons.inj heq).1

theorem endRange_anchor (a : Anchor) (cs : List Char) : endRange f (.anchor a) cs = none := by
  rw [endRange.eq_def]
  split
  · rfl
  · split
    · rfl
    · rw [Option.bind_eq_none_iff]
      intro p _
      rfl
  · rfl

/-- The end of a range. -/
theorem local_last (first : Escape) : Local fun cs => (readItem f (f.skip cs)).bind fun p =>
    (rangeSet? f first p.1).bind fun s => some (s, p.2) := by
  have hanchor : ∀ a, rangeSet? f first (.anchor a) = none := by
    intro a
    cases first <;> rfl
  exact (local_readItem f hanchor).after_skip f

theorem endRange_suffix {first : Escape} {cs rest : List Char} {s : CharSet}
    (h : endRange f first cs = some (s, rest)) : rest <:+ cs := by
  have hitem : ∀ {rest' : List Char}, ((itemSet? f first).bind fun s => some (s, rest')) = some (s, rest) →
      rest <:+ rest' := by
    intro rest' hread
    obtain ⟨s', -, hs⟩ := Option.bind_eq_some_iff.1 hread
    rw [(Prod.mk.inj (Option.some.inj hs)).2]
  rw [endRange.eq_def] at h
  split at h
  · contradiction
  · rename_i after
    split at h
    · exact hitem h
    · exact ((local_last f first).suffix _ _ _ h).trans (List.suffix_cons _ after)
  · exact hitem h

theorem looseAt_endRange (first : Escape) (cs : List Char) : LooseAt (endRange f first) cs := by
  have hitem : ∀ c rest,
      (∀ more, endRange f first (c :: more) = (itemSet? f first).bind fun s => some (s, c :: more)) →
      LooseAt (endRange f first) (c :: rest) := by
    intro c rest hread
    cases hset : itemSet? f first with
    | none =>
      simp only [hset, Option.bind_none] at hread
      exact (LocalAt.fail (hread rest) fun tail => hread _).loose
    | some s =>
      simp only [hset, Option.bind_some] at hread
      exact .inl ⟨s, c :: rest, hread rest, fun tail => hread _⟩
  cases cs with
  | nil =>
    -- the one place where a parenthesis makes a difference without being taken
    refine .inr ⟨?_, ?_⟩
    · intro tail s rest hread
      exact endRange_suffix f hread
    · intro s rest hread
      contradiction
  | cons c rest =>
    by_cases hc : c = '-'
    · subst hc
      by_cases hends : endsRange f rest = true
      · have hfollowed : ∀ tail, endsRange f (rest ++ ')' :: tail) = true := by
          intro tail
          rw [endsRange_append, hends]
        cases hset : itemSet? f first with
        | none =>
          refine (LocalAt.fail ?_ fun tail => ?_).loose
          · rw [endRange, if_pos hends, hset, Option.bind_none]
          · rw [List.cons_append, endRange, if_pos (hfollowed tail), hset, Option.bind_none]
        | some s =>
          refine .inl ⟨s, '-' :: rest, ?_, fun tail => ?_⟩
          · rw [endRange, if_pos hends, hset, Option.bind_some]
          · rw [List.cons_append, endRange, if_pos (hfollowed tail), hset, Option.bind_some]
      · refine ((local_last f first).at_end rest).loose.congr ?_ fun tail => ?_
        · rw [endRange, if_neg hends]
        · rw [List.cons_append, endRange, endsRange_append, if_neg hends]
    · exact hitem c rest fun more => endRange_of_ne f hc first more

/-- What an item means unless it is an anchor. -/
def plain? : Escape → Option Escape
  | .anchor _ => none
  | e => some e

theorem readRange_eq_bind : readRange f = fun cs => ((readItem f cs).bind fun p =>
    (plain? p.1).bind fun e => some (e, p.2)).bind fun p => endRange f p.1 (f.skip p.2) := by
  funext cs
  rw [readRange_eq]
  rcases readItem f cs with _ | ⟨_ | _ | a, rest⟩
  · rfl
  · rfl
  · rfl
  · exact endRange_anchor f a _

theorem readRange_suffix {c : Char} {cs rest : List Char} {set : CharSet}
    (h : readRange f (c :: cs) = some (set, rest)) : rest <:+ cs := by
  rw [readRange_eq_bind] at h
  obtain ⟨p, hitem, hend⟩ := Option.bind_eq_some_iff.1 h
  have htaken := (local_readItem_cons f (fun _ => rfl) c).suffix cs p.1 p.2 hitem
  exact (endRange_suffix f hend).trans ((f.skip_suffix p.2).trans htaken)

/-- **An item or a range** stops before the end of the text, or takes no parenthesis behind it unless it
spills over. -/
theorem looseAt_readRange (cs : List Char) : LooseAt (readRange f) cs := by
  have hplain : Local fun cs => (readItem f cs).bind fun p =>
      (plain? p.1).bind fun e => some (e, p.2) := local_readItem f fun _ => rfl
  rw [readRange_eq_bind]
  refine (hplain.at_end cs).bind_loose (g := fun e cs => endRange f e (f.skip cs)) ?_ ?_
  · intro e cs s rest hend
    exact (endRange_suffix f hend).trans (f.skip_suffix cs)
  · intro e rest _
    have hskip := f.local_skip.at_end rest
    exact hskip.bind_loose (g := fun _ => endRange f e) (fun _ _ _ _ => endRange_suffix f) fun _ rest _ =>
      looseAt_endRange f e rest

end Bracket

end FormEngine
