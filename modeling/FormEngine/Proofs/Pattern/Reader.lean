import FormEngine.Pattern.Bracket
import Mathlib.Data.List.Infix
/-!
# Readers at the end of a text

A reader takes a part off the front of a text. When a closing parenthesis and more text follow the end,
one of two things happens. Either the reader stops before the end, and what follows makes no difference
to it. Or it spills over: whatever it takes then ends behind the parenthesis. A reader that has come to
the end of the text without what follows has then skipped a comment, which takes in the rest of the line.
-/

namespace FormEngine

/-- A reader of part of a text: what the part means, and what follows it. -/
abbrev Reader (α : Type) := List Char → Option (α × List Char)

namespace Reader

variable {α β γ : Type} {cs rest : List Char} {read : Reader α}

/-- The reader stops before the end of the text, whether a parenthesis follows or not. -/
structure Stops (read : Reader α) (cs : List Char) (x : α) (rest : List Char) : Prop where
  alone : read cs = some (x, rest)
  followed : ∀ tail, read (cs ++ ')' :: tail) = some (x, rest ++ ')' :: tail)

/-- A parenthesis that follows the text is inside of what the reader takes. Without it the reader fails,
or is at the end of the text and in a comment. -/
structure Spills (read : Reader α) (cs : List Char) : Prop where
  into : ∀ tail x rest, read (cs ++ ')' :: tail) = some (x, rest) → rest <:+ tail
  alone : ∀ x rest, read cs = some (x, rest) →
    rest = [] ∧ ∀ tail, '\n' ∉ tail → read (cs ++ ')' :: tail) = some (x, [])

/-- At this text the reader stops before the end or spills over. -/
def LocalAt (read : Reader α) (cs : List Char) : Prop :=
  (∃ x rest, Stops read cs x rest) ∨ Spills read cs

/-- What follows a part is the rest of the text, and at each text the reader stops before the end or
spills over. -/
structure Local (read : Reader α) : Prop where
  suffix : ∀ cs x rest, read cs = some (x, rest) → rest <:+ cs
  at_end : ∀ cs, LocalAt read cs

/-! ## Putting readers together -/

theorem LocalAt.congr {read' : Reader α} {cs' : List Char} (h : LocalAt read' cs')
    (halone : read cs = read' cs')
    (hfollowed : ∀ tail, read (cs ++ ')' :: tail) = read' (cs' ++ ')' :: tail)) :
    LocalAt read cs := by
  rcases h with ⟨x, rest, hstops⟩ | hspills
  · exact .inl ⟨x, rest, halone.trans hstops.alone, fun tail => (hfollowed tail).trans (hstops.followed tail)⟩
  · refine .inr ⟨?_, ?_⟩
    · intro tail x rest hread
      exact hspills.into tail x rest ((hfollowed tail).symm.trans hread)
    · intro x rest hread
      obtain ⟨hrest, hcomment⟩ := hspills.alone x rest (halone.symm.trans hread)
      exact ⟨hrest, fun tail htail => (hfollowed tail).trans (hcomment tail htail)⟩

theorem LocalAt.fail (hnone : read cs = none) (hfollowed : ∀ tail, read (cs ++ ')' :: tail) = none) :
    LocalAt read cs := by
  refine .inr ⟨?_, ?_⟩
  · intro tail x rest hread
    rw [hfollowed tail] at hread
    contradiction
  · intro x rest hread
    rw [hnone] at hread
    contradiction

theorem LocalAt.nil (hnil : read [] = none) (h : Local fun rest => read (')' :: rest)) :
    LocalAt read [] := by
  refine .inr ⟨fun tail => h.suffix tail, fun x rest hread => ?_⟩
  rw [hnil] at hread
  contradiction

/-- One reader after the other. -/
theorem LocalAt.bind {g : α → Reader β} (h : LocalAt read cs)
    (hsuffix : ∀ x cs y rest, g x cs = some (y, rest) → rest <:+ cs)
    (hnext : ∀ x rest, read cs = some (x, rest) → LocalAt (g x) rest) :
    LocalAt (fun cs => (read cs).bind fun p => g p.1 p.2) cs := by
  rcases h with ⟨x, rest, hstops⟩ | hspills
  · refine (hnext x rest hstops.alone).congr ?_ ?_
    · rw [hstops.alone, Option.bind_some]
    · intro tail
      rw [hstops.followed tail, Option.bind_some]
  · refine .inr ⟨?_, ?_⟩
    · intro tail y rest hread
      obtain ⟨p, hp, hrest⟩ := Option.bind_eq_some_iff.1 hread
      exact (hsuffix _ _ _ _ hrest).trans (hspills.into tail p.1 p.2 hp)
    · intro y rest hread
      obtain ⟨p, hp, hrest⟩ := Option.bind_eq_some_iff.1 hread
      obtain ⟨hnil, hcomment⟩ := hspills.alone p.1 p.2 hp
      rw [hnil] at hrest
      obtain rfl := List.suffix_nil.1 (hsuffix _ _ _ _ hrest)
      refine ⟨rfl, ?_⟩
      intro tail htail
      rw [hcomment tail htail, Option.bind_some]
      exact hrest

namespace Local

theorem fail : Local fun _ => (none : Option (α × List Char)) :=
  ⟨fun cs x rest hread => by contradiction, fun _ => .fail rfl fun _ => rfl⟩

theorem done (x : α) : Local fun cs => some (x, cs) := by
  refine ⟨?_, fun cs => .inl ⟨x, cs, rfl, fun _ => rfl⟩⟩
  intro cs x' rest hread
  obtain ⟨-, rfl⟩ := Prod.mk.inj (Option.some.inj hread)
  exact List.suffix_rfl

theorem bind {g : α → Reader β} (h : Local read) (hnext : ∀ x, Local (g x)) :
    Local fun cs => (read cs).bind fun p => g p.1 p.2 := by
  refine ⟨?_, fun cs => (h.at_end cs).bind (fun x => (hnext x).suffix) fun x rest _ =>
    (hnext x).at_end rest⟩
  intro cs y rest hread
  obtain ⟨p, hp, hrest⟩ := Option.bind_eq_some_iff.1 hread
  exact ((hnext p.1).suffix _ _ _ hrest).trans (h.suffix _ _ _ hp)

theorem congr {read' : Reader α} (h : Local read') (heq : ∀ cs, read cs = read' cs) : Local read := by
  rw [funext heq]
  exact h

/-- A reader that depends on something there may be none of. -/
theorem guarded {o : Option γ} {g : γ → Reader β} (h : ∀ y, Local (g y)) :
    Local fun cs => o.bind fun y => g y cs := by
  cases o with
  | none => exact fail
  | some y => exact h y

/-- A reader that takes nothing and means something there may be none of. -/
theorem given (o : Option α) : Local fun cs => o.map (·, cs) := by
  cases o with
  | none => exact fail
  | some x => exact done x

/-- A reader that takes at least one character. -/
theorem of_cons (hnil : read [] = none) (hcons : ∀ c, Local fun rest => read (c :: rest)) :
    Local read := by
  refine ⟨?_, ?_⟩
  · intro cs x rest hread
    cases cs with
    | nil =>
      rw [hnil] at hread
      contradiction
    | cons c cs => exact ((hcons c).suffix cs x rest hread).trans (List.suffix_cons c cs)
  · intro cs
    cases cs with
    | nil => exact .nil hnil (hcons ')')
    | cons c cs => exact ((hcons c).at_end cs).congr rfl fun _ => rfl

end Local

/-- What a reader does behind one character, and what it does in front of anything else. -/
def onHead (c : Char) (here other : Reader α) : Reader α := fun cs =>
  if cs.head? = some c then here cs.tail else other cs

theorem onHead_of_ne {c : Char} {here other : Reader α} (h : ∀ rest, cs = c :: rest → False) :
    onHead c here other cs = other cs := by
  refine if_neg fun hhead => ?_
  obtain ⟨rest, rfl⟩ := List.head?_eq_some_iff.1 hhead
  exact h rest rfl

theorem onHead_eq_some {c : Char} {here other : Reader α} {r : α × List Char}
    (h : onHead c here other cs = some r) : here cs.tail = some r ∨ other cs = some r := by
  rw [onHead] at h
  split at h
  · exact .inl h
  · exact .inr h

theorem Local.onHead {c : Char} (hc : c ≠ ')') {here other : Reader α} (hhere : Local here)
    (hother : Local other) : Local (onHead c here other) := by
  refine ⟨?_, ?_⟩
  · intro cs x rest hread
    rw [Reader.onHead] at hread
    split at hread
    · exact (hhere.suffix cs.tail x rest hread).trans (List.tail_suffix cs)
    · exact hother.suffix cs x rest hread
  · intro cs
    cases cs with
    | nil =>
      refine (hother.at_end []).congr rfl fun tail => onHead_of_ne ?_
      rintro rest heq
      exact hc (List.cons.inj heq).1.symm
    | cons d cs =>
      by_cases hd : d = c
      · subst hd
        exact (hhere.at_end cs).congr (if_pos rfl) fun tail => if_pos rfl
      · have hother' : ∀ cs, Reader.onHead c here other (d :: cs) = other (d :: cs) := by
          intro cs
          apply onHead_of_ne
          rintro rest heq
          exact hd (List.cons.inj heq).1
        exact (hother.at_end (d :: cs)).congr (hother' cs) fun tail => hother' _

end Reader

open Reader

namespace PatternFlags

/-! ## White space and comments -/

theorem skipComment_eq_nil {cs : List Char} (h : '\n' ∉ cs) : skipComment cs = [] := by
  induction cs with
  | nil => rw [skipComment]
  | cons c cs ih =>
    rw [List.mem_cons, not_or] at h
    rw [skipComment, if_neg (Ne.symm h.1), ih h.2]

mutual

theorem skipBlanks_suffix (cs : List Char) : skipBlanks cs <:+ cs := by
  match cs with
  | [] => rw [skipBlanks]
  | c :: rest =>
    rw [skipBlanks]
    split
    · exact (skipBlanks_suffix rest).trans (List.suffix_cons c rest)
    · split
      · exact (skipComment_suffix rest).trans (List.suffix_cons c rest)
      · exact List.suffix_rfl

theorem skipComment_suffix (cs : List Char) : skipComment cs <:+ cs := by
  match cs with
  | [] => rw [skipComment]
  | c :: rest =>
    rw [skipComment]
    split
    · exact (skipBlanks_suffix rest).trans (List.suffix_cons c rest)
    · exact (skipComment_suffix rest).trans (List.suffix_cons c rest)

end

theorem skipBlanks_of_word {c : Char} (hblank : Text.isBlank c = false) (hsign : c ≠ '#')
    (cs : List Char) : skipBlanks (c :: cs) = c :: cs := by
  rw [skipBlanks, hblank, if_neg Bool.false_ne_true, if_neg hsign]

mutual

theorem localAt_skipBlanks (cs : List Char) : LocalAt (fun cs => some ((), skipBlanks cs)) cs := by
  match cs with
  | [] =>
    refine .inl ⟨(), [], by rw [skipBlanks], fun tail => ?_⟩
    rw [List.nil_append, skipBlanks_of_word (by decide) (by decide)]
  | c :: rest =>
    by_cases hblank : Text.isBlank c = true
    · refine (localAt_skipBlanks rest).congr ?_ fun tail => ?_
      · rw [skipBlanks, if_pos hblank]
      · rw [List.cons_append, skipBlanks, if_pos hblank]
    · by_cases hsign : c = '#'
      · refine (localAt_skipComment rest).congr ?_ fun tail => ?_
        · rw [skipBlanks, if_neg hblank, if_pos hsign]
        · rw [List.cons_append, skipBlanks, if_neg hblank, if_pos hsign]
      · rw [Bool.not_eq_true] at hblank
        refine .inl ⟨(), c :: rest, ?_, fun tail => ?_⟩
        · rw [skipBlanks_of_word hblank hsign]
        · rw [List.cons_append, skipBlanks_of_word hblank hsign]

theorem localAt_skipComment (cs : List Char) : LocalAt (fun cs => some ((), skipComment cs)) cs := by
  match cs with
  | [] =>
    refine .inr ⟨?_, ?_⟩
    · intro tail x rest hread
      obtain ⟨-, rfl⟩ := Prod.mk.inj (Option.some.inj hread)
      rw [List.nil_append, skipComment, if_neg (by decide)]
      exact skipComment_suffix tail
    · intro x rest hread
      obtain ⟨-, rfl⟩ := Prod.mk.inj (Option.some.inj hread)
      rw [skipComment]
      refine ⟨rfl, fun tail htail => ?_⟩
      rw [List.nil_append, skipComment, if_neg (by decide), skipComment_eq_nil htail]
  | c :: rest =>
    by_cases hline : c = '\n'
    · refine (localAt_skipBlanks rest).congr ?_ fun tail => ?_
      · rw [skipComment, if_pos hline]
      · rw [List.cons_append, skipComment, if_pos hline]
    · refine (localAt_skipComment rest).congr ?_ fun tail => ?_
      · rw [skipComment, if_neg hline]
      · rw [List.cons_append, skipComment, if_neg hline]

end

variable (f : PatternFlags)

theorem skip_suffix (cs : List Char) : f.skip cs <:+ cs := by
  rw [skip]
  split
  · exact skipBlanks_suffix cs
  · exact List.suffix_rfl

theorem skip_of_word {c : Char} (hblank : Text.isBlank c = false) (hsign : c ≠ '#') (cs : List Char) :
    f.skip (c :: cs) = c :: cs := by
  rw [skip, skipBlanks_of_word hblank hsign, ite_self]

theorem local_skip : Local fun cs => some ((), f.skip cs) := by
  refine ⟨?_, ?_⟩
  · intro cs x rest hread
    obtain ⟨-, rfl⟩ := Prod.mk.inj (Option.some.inj hread)
    exact f.skip_suffix cs
  · intro cs
    cases hverbose : f.verbose with
    | false =>
      refine ((Local.done ()).at_end cs).congr ?_ fun tail => ?_
      · rw [skip, hverbose, if_neg Bool.false_ne_true]
      · rw [skip, hverbose, if_neg Bool.false_ne_true]
    | true =>
      refine (localAt_skipBlanks cs).congr ?_ fun tail => ?_
      · rw [skip, hverbose, if_pos rfl]
      · rw [skip, hverbose, if_pos rfl]

/-- What is skipped at the end of a text, with a parenthesis behind it. -/
theorem skip_cases (cs : List Char) :
    (∀ tail, f.skip (cs ++ ')' :: tail) = f.skip cs ++ ')' :: tail) ∨
      f.skip cs = [] ∧ ∀ tail, f.skip (cs ++ ')' :: tail) <:+ tail ∧
        ('\n' ∉ tail → f.skip (cs ++ ')' :: tail) = []) := by
  rcases f.local_skip.at_end cs with ⟨x, rest, hstops⟩ | hspills
  · left
    intro tail
    have halone := (Prod.mk.inj (Option.some.inj hstops.alone)).2
    rw [halone]
    exact (Prod.mk.inj (Option.some.inj (hstops.followed tail))).2
  · obtain ⟨hnil, hcomment⟩ := hspills.alone () (f.skip cs) rfl
    refine .inr ⟨hnil, fun tail => ⟨hspills.into tail () _ rfl, fun htail => ?_⟩⟩
    exact (Prod.mk.inj (Option.some.inj (hcomment tail htail))).2

end PatternFlags

/-- What may be skipped comes in front of a reader. -/
theorem Reader.Local.after_skip {α : Type} {read : Reader α} (h : Local read) (f : PatternFlags) :
    Local fun cs => read (f.skip cs) :=
  f.local_skip.bind fun _ => h

/-- What may be skipped comes after a reader. -/
theorem Reader.Local.skipped {α : Type} (f : PatternFlags) (x : α) :
    Local fun cs => some (x, f.skip cs) :=
  f.local_skip.bind fun _ => .done x

namespace PatternFlags

/-! ## Stretches of characters -/

variable (f : PatternFlags) {p : Char → Bool}

theorem takeWhile_nil : f.takeWhile p [] = ([], []) := by
  rw [takeWhile]

theorem takeWhile_cons_of_pos {c : Char} (h : p c = true) (cs : List Char) :
    f.takeWhile p (c :: cs) =
      (c :: (f.takeWhile p (f.skip cs)).1, (f.takeWhile p (f.skip cs)).2) := by
  rw [takeWhile, if_pos h]

theorem takeWhile_cons_of_neg {c : Char} (h : p c = false) (cs : List Char) :
    f.takeWhile p (c :: cs) = ([], c :: cs) := by
  rw [takeWhile, h, if_neg Bool.false_ne_true]

theorem takeWhile_suffix (p : Char → Bool) (cs : List Char) :
    (f.takeWhile p cs).2 <:+ cs := by
  induction cs using takeWhile.induct f p with
  | case1 => rw [takeWhile_nil]
  | case2 c cs htest _ _ _ ih =>
    rw [f.takeWhile_cons_of_pos htest]
    exact ih.trans ((f.skip_suffix cs).trans (List.suffix_cons c cs))
  | case3 c cs htest =>
    rw [Bool.not_eq_true] at htest
    rw [f.takeWhile_cons_of_neg htest]

/-- A stretch that a parenthesis is no part of. -/
theorem local_takeWhile (hp : p ')' = false) :
    Local fun cs => some (f.takeWhile p cs) := by
  refine ⟨?_, fun cs => ?_⟩
  · intro cs x rest hread
    obtain rfl := (Prod.mk.inj (Option.some.inj hread)).2
    exact f.takeWhile_suffix p cs
  · induction cs using takeWhile.induct f p with
    | case1 =>
      refine .inl ⟨[], [], ?_, fun tail => ?_⟩
      · rw [takeWhile_nil]
      · rw [List.nil_append, f.takeWhile_cons_of_neg hp]
    | case2 c cs hc _ _ _ ih =>
      have hrest : LocalAt (fun cs => some (c :: (f.takeWhile p cs).1, (f.takeWhile p cs).2))
          (f.skip cs) := ih.bind (fun x => (Local.done (c :: x)).suffix) fun x rest _ =>
        (Local.done (c :: x)).at_end rest
      have hall := (f.local_skip.at_end cs).bind (g := fun _ cs =>
          some (c :: (f.takeWhile p cs).1, (f.takeWhile p cs).2)) ?_ ?_
      · refine hall.congr ?_ fun tail => ?_
        · rw [f.takeWhile_cons_of_pos hc, Option.bind_some]
        · rw [List.cons_append, f.takeWhile_cons_of_pos hc, Option.bind_some]
      · intro _ cs x rest hread
        obtain rfl := (Prod.mk.inj (Option.some.inj hread)).2
        exact f.takeWhile_suffix p cs
      · intro _ rest hskip
        obtain rfl := (Prod.mk.inj (Option.some.inj hskip)).2
        exact hrest
    | case3 c cs hc =>
      rw [Bool.not_eq_true] at hc
      refine .inl ⟨[], c :: cs, ?_, fun tail => ?_⟩
      · rw [f.takeWhile_cons_of_neg hc]
      · rw [List.cons_append, f.takeWhile_cons_of_neg hc]

theorem dropWhile_append_parenthesis (hp : p ')' = false) (cs tail : List Char) :
    (cs ++ ')' :: tail).dropWhile p = cs.dropWhile p ++ ')' :: tail := by
  rw [List.dropWhile_append]
  split
  · rename_i hnil
    have hneg : ¬p ')' = true := by
      rw [hp]
      exact Bool.false_ne_true
    rw [List.isEmpty_iff.1 hnil, List.dropWhile_cons_of_neg hneg, List.nil_append]
  · rfl

theorem local_dropWhile (hp : p ')' = false) : Local fun cs => some ((), cs.dropWhile p) := by
  refine ⟨?_, fun cs => .inl ⟨(), cs.dropWhile p, rfl, fun tail => ?_⟩⟩
  · intro cs x rest hread
    obtain rfl := (Prod.mk.inj (Option.some.inj hread)).2
    exact List.dropWhile_suffix p
  · rw [dropWhile_append_parenthesis hp]

/-- The number that the digits write, if it is below `2 ^ 32`. -/
def decimalValue? (digits : List Char) : Option Nat :=
  let value := digits.foldl (fun n c => n * 10 + (c.toNat - '0'.toNat)) 0
  if digits.isEmpty || Nat.pow 2 32 ≤ value then none else some value

theorem local_readDecimal : Local fun cs => some (f.readDecimal cs) :=
  have hblank : Text.isBlank ')' = false := by decide
  have hdigit : Char.isDigit ')' = false := by decide
  (local_dropWhile hblank).bind fun _ => (f.local_takeWhile hdigit).bind fun digits =>
    (f.local_takeWhile hblank).bind fun _ => .done (decimalValue? digits)

theorem local_readMany (n : Nat) : Local (f.readMany n) := by
  induction n with
  | zero => exact .done []
  | succ n ih =>
    refine .of_cons rfl fun c => ?_
    exact (ih.after_skip f).bind fun taken => .done (c :: taken)

/-- What stands up to a closing brace, without what may be skipped in front. -/
def readToBrace (f : PatternFlags) (cs : List Char) : Option (List Char × List Char) :=
  match f.takeWhile (· != '}') cs with
  | (_, []) => none
  | (inside, _ :: rest) => some (inside, rest)

theorem readToBrace_cons {c : Char} (hc : (c != '}') = true) (cs : List Char) :
    f.readToBrace (c :: cs) = (f.readToBrace (f.skip cs)).bind fun p => some (c :: p.1, p.2) := by
  rw [readToBrace, f.takeWhile_cons_of_pos (p := (· != '}')) hc, readToBrace]
  rcases f.takeWhile (· != '}') (f.skip cs) with ⟨taken, _ | ⟨d, rest⟩⟩ <;> rfl

theorem readToBrace_brace (cs : List Char) : f.readToBrace ('}' :: cs) = some ([], cs) := by
  rw [readToBrace, f.takeWhile_cons_of_neg (p := (· != '}')) (by decide)]

theorem readToBrace_suffix {cs x rest : List Char} (h : f.readToBrace cs = some (x, rest)) :
    ∃ c, c :: rest <:+ cs := by
  have hsuffix := f.takeWhile_suffix (· != '}') cs
  rw [readToBrace] at h
  split at h
  · contradiction
  · rename_i inside c rest' heq
    obtain rfl := (Prod.mk.inj (Option.some.inj h)).2
    rw [heq] at hsuffix
    exact ⟨c, hsuffix⟩

theorem local_readToBrace : Local f.readToBrace := by
  have hsuffix : ∀ cs x rest, f.readToBrace cs = some (x, rest) → rest <:+ cs := by
    intro cs x rest hread
    obtain ⟨c, hc⟩ := f.readToBrace_suffix hread
    exact (List.suffix_cons c rest).trans hc
  refine ⟨hsuffix, fun cs => ?_⟩
  induction cs using takeWhile.induct f (· != '}') with
  | case1 =>
    have hnil : f.readToBrace [] = none := by
      rw [readToBrace, takeWhile_nil]
    refine .inr ⟨fun tail x rest hread => ?_, fun x rest hread => ?_⟩
    · obtain ⟨c, hc⟩ := f.readToBrace_suffix hread
      exact (List.suffix_cons_iff.1 hc).elim (fun heq => (List.cons.inj heq).2 ▸ List.suffix_rfl)
        (List.suffix_cons c rest).trans
    · rw [hnil] at hread
      contradiction
  | case2 c cs hc _ _ _ ih =>
    have hall := (f.local_skip.at_end cs).bind
      (g := fun _ cs => (f.readToBrace cs).bind fun p => some (c :: p.1, p.2)) ?_ ?_
    · refine hall.congr (f.readToBrace_cons hc cs) fun tail => ?_
      rw [List.cons_append, f.readToBrace_cons hc, Option.bind_some]
    · intro _ cs x rest hread
      obtain ⟨p, hp, hrest⟩ := Option.bind_eq_some_iff.1 hread
      obtain rfl := (Prod.mk.inj (Option.some.inj hrest)).2
      exact hsuffix cs p.1 p.2 hp
    · intro _ rest hskip
      obtain rfl := (Prod.mk.inj (Option.some.inj hskip)).2
      exact ih.bind (fun x => (Local.done (c :: x)).suffix) fun x rest _ =>
        (Local.done (c :: x)).at_end rest
  | case3 c cs hc =>
    obtain rfl : c = '}' := by simpa using hc
    refine .inl ⟨[], cs, f.readToBrace_brace cs, fun tail => ?_⟩
    exact f.readToBrace_brace _

theorem local_readBraced : Local f.readBraced :=
  f.local_readToBrace.after_skip f

/-! ## Escapes -/

theorem local_readHex (digits : Nat) : Local (f.readHex digits) := by
  have hbraced : Local fun cs => (f.readBraced cs).bind fun p =>
      (charOfHex? p.1).bind fun c => some (Escape.literal c false, f.skip p.2) :=
    f.local_readBraced.bind fun inside => .guarded (o := charOfHex? inside) fun c =>
      .skipped f (Escape.literal c false)
  have hdigits : Local fun cs => (f.readMany digits cs).bind fun p =>
      (charOfHex? p.1).bind fun c => some (Escape.literal c (digits == 2), p.2) :=
    (f.local_readMany digits).bind fun taken => .guarded (o := charOfHex? taken) fun c =>
      .done (Escape.literal c (digits == 2))
  refine ((Local.onHead (c := '{') (by decide) hbraced hdigits).after_skip f).congr fun cs => ?_
  rw [readHex]
  split
  · rename_i heq
    rw [heq]
    rfl
  · rename_i hne
    rw [onHead_of_ne hne]
    rfl

theorem local_readProperty (negated : Bool) : Local (f.readProperty negated) := by
  have hbraced : Local fun cs => (f.readBraced cs).bind fun p =>
      (f.propertySet? negated p.1).bind fun s => some (Escape.set s, p.2) :=
    f.local_readBraced.bind fun name => .guarded (o := f.propertySet? negated name) fun s =>
      .done (Escape.set s)
  have hletter : Local fun cs : List Char => cs.head?.bind fun c => if c = '\\' then none else
      (f.propertySet? negated [c]).bind fun s => some (Escape.set s, f.skip cs.tail) := by
    refine .of_cons rfl fun c => ?_
    by_cases hc : c = '\\'
    · simp only [List.head?_cons, Option.bind_some, if_pos hc]
      exact .fail
    · simp only [List.head?_cons, Option.bind_some, if_neg hc]
      exact .guarded fun s => .skipped f (Escape.set s)
  refine ((Local.onHead (c := '{') (by decide) hbraced hletter).after_skip f).congr fun cs => ?_
  rw [readProperty]
  split
  · rename_i heq
    rw [heq]
    rfl
  · rename_i heq
    rw [heq]
    rfl
  · rename_i hne heq
    rw [heq, onHead_of_ne]
    · rfl
    · intro rest hcons
      exact hne (List.cons.inj hcons).1

/-- The characters after a backslash with a meaning of their own, the word boundary apart. -/
def namedEscapes : List Char :=
  ['x', 'u', 'U', 'p', 'P', 'd', 'D', 's', 'S', 'w', 'W', 'a', 'f', 't', 'n', 'r', 'v', 'A', 'z', 'B',
    '<', '>']

theorem readEscape_cons {c : Char} (hc : c ≠ 'b') (hnamed : c ∉ namedEscapes) (rest : List Char) :
    f.readEscape (c :: rest) = if isEscapable c then some (.literal c false, rest) else none := by
  have hall : ∀ d ∈ 'b' :: namedEscapes, c ≠ d := by
    rintro d hd rfl
    exact (List.mem_cons.1 hd).elim hc hnamed
  rw [readEscape]
  all_goals exact hall _ (by decide)

/-- An escape that is no word boundary. -/
theorem local_readEscape_cons {c : Char} (hc : c ≠ 'b') :
    Local fun rest => f.readEscape (c :: rest) := by
  by_cases hnamed : c ∈ namedEscapes
  · simp only [namedEscapes, List.mem_cons, List.not_mem_nil, or_false] at hnamed
    rcases hnamed with rfl | rfl | rfl | rfl | rfl | rfl | rfl | rfl | rfl | rfl | rfl | rfl | rfl | rfl |
      rfl | rfl | rfl | rfl | rfl | rfl | rfl | rfl
    · exact f.local_readHex 2
    · exact f.local_readHex 4
    · exact f.local_readHex 8
    · exact f.local_readProperty false
    · exact f.local_readProperty true
    all_goals first | exact .given _ | exact .done _
  · simp only [f.readEscape_cons hc hnamed]
    split
    · exact .done (Escape.literal c false)
    · exact .fail

/-- The name of a word boundary, up to its closing brace. -/
def readBoundaryName (f : PatternFlags) (cs : List Char) : Option (Escape × List Char) :=
  match f.takeWhile isBoundaryNameChar cs with
  | (name, '}' :: rest) => (f.wordAnchor? name).bind fun a => some (.anchor a, rest)
  | _ => none

theorem local_readBoundaryName : Local f.readBoundaryName := by
  have hname : isBoundaryNameChar ')' = false := by decide
  have hbrace : ∀ name, Local (onHead '}' (fun rest =>
      (f.wordAnchor? name).bind fun a => some (Escape.anchor a, rest)) fun _ => none) := by
    intro name
    exact .onHead (by decide) (.guarded fun a => .done (Escape.anchor a)) .fail
  refine ((f.local_takeWhile hname).bind hbrace).congr fun cs => ?_
  rw [readBoundaryName, Option.bind_some]
  rcases f.takeWhile isBoundaryNameChar cs with ⟨name, rest⟩
  split
  · rename_i heq
    obtain ⟨rfl, rfl⟩ := Prod.mk.inj heq
    rfl
  · rename_i hne
    rw [onHead_of_ne]
    rintro rest' rfl
    exact hne name rest' rfl

theorem readBoundary_brace (inside : List Char) : f.readBoundary ('{' :: inside) =
    match f.skip inside with
    | [] => none
    | c :: rest => if isBoundaryNameChar c then f.readBoundaryName (c :: rest)
      else some (.anchor (.wordBoundary f.unicode), '{' :: inside) := rfl

theorem readBoundary_of_ne {cs : List Char} (h : cs.head? ≠ some '{') :
    f.readBoundary cs = some (.anchor (.wordBoundary f.unicode), cs) := by
  rw [readBoundary]
  rintro inside rfl
  exact h rfl

theorem readBoundary_suffix {cs rest : List Char} {e : Escape} (h : f.readBoundary cs = some (e, rest)) :
    rest <:+ cs := by
  by_cases hhead : cs.head? = some '{'
  · obtain ⟨inside, rfl⟩ := List.head?_eq_some_iff.1 hhead
    rw [readBoundary_brace] at h
    split at h
    · contradiction
    · rename_i c rest' heq
      split at h
      · have hinside : c :: rest' <:+ inside := heq ▸ f.skip_suffix inside
        have hname := f.local_readBoundaryName.suffix _ _ _ h
        exact hname.trans (hinside.trans (List.suffix_cons '{' inside))
      · rw [(Prod.mk.inj (Option.some.inj h)).2]
  · rw [f.readBoundary_of_ne hhead] at h
    rw [(Prod.mk.inj (Option.some.inj h)).2]

theorem readEscape_suffix {cs rest : List Char} {e : Escape} (h : f.readEscape cs = some (e, rest)) :
    rest <:+ cs := by
  cases cs with
  | nil => contradiction
  | cons c cs =>
    by_cases hc : c = 'b'
    · subst hc
      exact (f.readBoundary_suffix h).trans (List.suffix_cons 'b' cs)
    · exact ((f.local_readEscape_cons hc).suffix cs e rest h).trans (List.suffix_cons c cs)

/-- A word boundary stops before the end or spills over, unless a brace is opened after it that nothing
follows. Then it fails, but does not if a parenthesis follows; the brace is left where it stands. -/
theorem readBoundary_cases (cs : List Char) : LocalAt f.readBoundary cs ∨
    ∃ inside, cs = '{' :: inside ∧ f.skip inside = [] ∧ f.readBoundary cs = none ∧
      ∀ tail x rest, f.readBoundary (cs ++ ')' :: tail) = some (x, rest) →
        rest <:+ tail ∨ rest = cs ++ ')' :: tail := by
  by_cases hhead : cs.head? = some '{'
  · obtain ⟨inside, rfl⟩ := List.head?_eq_some_iff.1 hhead
    have hparenthesis : isBoundaryNameChar ')' = false := by decide
    rcases f.skip_cases inside with hstops | ⟨hnil, hspills⟩
    · cases hskip : f.skip inside with
      | nil =>
        refine .inr ⟨inside, rfl, hskip, ?_, ?_⟩
        · rw [readBoundary_brace, hskip]
        · intro tail x rest hread
          rw [List.cons_append, readBoundary_brace, hstops, hskip] at hread
          simp only [List.nil_append, hparenthesis, Bool.false_eq_true, if_false, Option.some.injEq,
            Prod.mk.injEq] at hread
          exact .inr hread.2.symm
      | cons c rest =>
        left
        by_cases hname : isBoundaryNameChar c = true
        · refine (f.local_readBoundaryName.at_end (c :: rest)).congr ?_ fun tail => ?_
          · rw [readBoundary_brace, hskip]
            exact if_pos hname
          · rw [List.cons_append, readBoundary_brace, hstops, hskip]
            exact if_pos hname
        · refine .inl ⟨.anchor (.wordBoundary f.unicode), '{' :: inside, ?_, fun tail => ?_⟩
          · rw [readBoundary_brace, hskip]
            exact if_neg hname
          · rw [List.cons_append, readBoundary_brace, hstops, hskip]
            exact if_neg hname
    · refine .inr ⟨inside, rfl, hnil, ?_, ?_⟩
      · rw [readBoundary_brace, hnil]
      · intro tail x rest hread
        have hinto := (hspills tail).1
        rw [List.cons_append, readBoundary_brace] at hread
        split at hread
        · contradiction
        · rename_i c rest' heq
          rw [heq] at hinto
          split at hread
          · exact .inl ((f.local_readBoundaryName.suffix _ _ _ hread).trans hinto)
          · exact .inr (Prod.mk.inj (Option.some.inj hread)).2.symm
  · refine .inl (.inl ⟨_, cs, f.readBoundary_of_ne hhead, fun tail => ?_⟩)
    apply f.readBoundary_of_ne
    cases cs with
    | nil => simp
    | cons c cs => simpa using hhead

end PatternFlags

end FormEngine
