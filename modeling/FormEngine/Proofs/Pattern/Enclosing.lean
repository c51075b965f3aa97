import FormEngine.Config.Path
import FormEngine.Proofs.Pattern.Reading
/-!
# Patterns in a group between two anchors

A matcher puts the text of its pattern into a group, between an anchor for the begin and one for the end
of a path, and reads the whole. A pattern that ends in the group keeps its meaning there, so the matcher
accepts the paths that it matches from end to end. A comment at the end of the text takes the closing
parenthesis in, and then no path is accepted. A text that closes the group itself is no pattern, but the
whole can be one, which is found in paths that have nothing to do with the text.
-/

namespace FormEngine

namespace Gap

/-! ## The two ends of a text -/

theorem sides_of_listFrom {before : Option Char} {cs : List Char} {i : Nat} {g : Gap}
    (h : (listFrom before cs)[i]? = some g) :
    (g.before = if i = 0 then before else cs[i - 1]?) ∧ g.after = cs[i]? := by
  induction cs generalizing before i with
  | nil =>
    rw [listFrom, List.getElem?_singleton] at h
    split at h
    · rename_i hi
      obtain rfl := Option.some.inj h
      rw [if_pos hi]
      exact ⟨rfl, rfl⟩
    · contradiction
  | cons c cs ih =>
    cases i with
    | zero =>
      obtain rfl := Option.some.inj h
      exact ⟨rfl, rfl⟩
    | succ i =>
      have hrest : (listFrom (some c) cs)[i]? = some g := h
      obtain ⟨hbefore, hafter⟩ := ih hrest
      refine ⟨?_, hafter⟩
      rw [hbefore]
      cases i <;> rfl

variable {s : String} {i : Nat} {g : Gap}

theorem textEnd_holds_iff [PatternEngine] (h : (list s)[i]? = some g) :
    Anchor.textEnd.holds g = true ↔ i = s.toList.length := by
  have hlt := (List.getElem?_eq_some_iff.1 h).1
  rw [length_list] at hlt
  rw [Anchor.holds, Option.isNone_iff_eq_none, (sides_of_listFrom h).2, List.getElem?_eq_none_iff]
  omega

end Gap

namespace Pattern

open PatternState

variable {p : Pattern}

/-- What a text means, however deep or large that is. -/
def piece? (text : String) : Option Piece :=
  (PatternState.run text.toList.length {} text.toList).bind PatternState.finish?

theorem ofText?_eq_some_iff [PatternEngine] {text : String} : ofText? text = some p ↔
    ∃ piece, piece? text = some piece ∧ piece.depth ≤ depthLimit ∧
      PatternEngine.compiles piece.pattern = true ∧ piece.pattern = p := by
  have heq : ofText? text = (piece? text).bind fun piece =>
      if piece.depth ≤ depthLimit && PatternEngine.compiles piece.pattern then some piece.pattern else none := by
    rw [ofText?, piece?]
    cases PatternState.run text.toList.length {} text.toList <;> rfl
  rw [heq, Option.bind_eq_some_iff]
  refine exists_congr fun piece => and_congr_right fun _ => ?_
  simp [and_assoc]

theorem piece?_eq_some_iff {text : String} {piece : Piece} : piece? text = some piece ↔
    ∃ e, Ends {} text.toList e ∧ e.outer = [] ∧ e.brackets = [] ∧ e.body.close = piece := by
  rw [piece?, Option.bind_eq_some_iff]
  refine exists_congr fun e => and_congr (run_eq_some_iff (Nat.le_refl _)) ?_
  rw [finish?]
  simp [and_assoc]

/-- The text has a meaning by itself, and a closing parenthesis behind it is no part of that. -/
structure Closed (text : String) (piece : Piece) : Prop where
  alone : piece? text = some piece
  followed : piece? (text ++ ")") = none

theorem Closed.exists_strays {text : String} {piece : Piece} (h : Closed text piece) :
    ∃ e, e.body.close = piece ∧ ∀ tail, Strays {} (text.toList ++ ')' :: tail) e tail := by
  obtain ⟨e, hends, houter, hbrackets, hpiece⟩ := piece?_eq_some_iff.1 h.alone
  refine ⟨e, hpiece, ?_⟩
  rcases hends.followed hbrackets houter with hstrays | hcomment
  · exact hstrays
  · have hpiece' : piece? (text ++ ")") = some piece := by
      refine piece?_eq_some_iff.2 ⟨e, ?_, houter, hbrackets, hpiece⟩
      rw [String.toList_append]
      exact hcomment [] List.not_mem_nil
    rw [h.followed] at hpiece'
    contradiction

/-- The text has a closing parenthesis that no group is open for. -/
def BreaksOut (text : String) : Prop := ∃ q r piece, text = q ++ ")" ++ r ∧ Closed q piece

/-- A text that breaks out has no meaning by itself. -/
theorem BreaksOut.piece?_eq_none {text : String} (h : BreaksOut text) : piece? text = none := by
  obtain ⟨q, r, piece, rfl, hq⟩ := h
  obtain ⟨e, -, hstrays⟩ := hq.exists_strays
  rw [Option.eq_none_iff_forall_ne_some]
  intro piece' hpiece
  obtain ⟨e', hends, -⟩ := piece?_eq_some_iff.1 hpiece
  rw [String.toList_append, String.toList_append, List.append_assoc] at hends
  exact (hstrays r.toList).not_ends hends

/-! ## The text of a matcher -/

/-- The group that the text of a pattern is put into, with the anchor in front of it. -/
def opening : GroupBody × PatternFlags := ({ pieces := [{ pattern := .anchor .textStart }] }, {})

theorem toList_anchored (text : String) : (PathMatcher.anchored text).toList =
    '^' :: '(' :: '?' :: ':' :: (text.toList ++ [')', '$']) := by
  rw [PathMatcher.anchored, String.toList_append, String.toList_append, List.append_assoc]
  rfl

theorem ends_opening_iff {cs : List Char} {e : PatternState} :
    Ends {} ('^' :: '(' :: '?' :: ':' :: cs) e ↔ Ends (within opening {}) cs e := by
  have hcaret : ({} : PatternState).step ('^' :: '(' :: '?' :: ':' :: cs) =
      some (({} : PatternState).add (.anchor .textStart), '(' :: '?' :: ':' :: cs) := rfl
  have hgroup : (({} : PatternState).add (.anchor .textStart)).step ('(' :: '?' :: ':' :: cs) =
      some (within opening {}, cs) := rfl
  rw [ends_iff_of_step rfl hcaret, ends_iff_of_step rfl hgroup]

end Pattern

namespace Piece

/-- A piece behind the anchor for the begin, or an empty group in front of that for the end. -/
def barred (p : Piece) : Piece :=
  { pattern :=
      .choice (.sequence (.anchor .textStart) p.pattern) (.sequence (.capture .empty) (.anchor .textEnd))
    depth := p.depth + 3 }

end Piece

namespace Pattern

open PatternState

variable {text : String} {piece : Piece}

/-- The state after a bar, an empty group and the anchor for the end, behind the group. -/
def barred (e : PatternState) : PatternState :=
  { (e.closedInto opening) with
    body :=
      { branches := (e.closedInto opening).body.bar.branches
        pieces := [{ pattern := .anchor .textEnd }, ({ captures := true } : GroupBody).close.nested] } }

theorem ends_barred {e : PatternState} (hbrackets : e.brackets = []) :
    Ends (e.closedInto opening) ['|', '(', ')', '$'] (barred e) := by
  obtain ⟨flags, body, outer, brackets, names⟩ := e
  subst hbrackets
  rw [ends_iff_of_step rfl rfl, ends_iff_of_step rfl rfl, ends_iff_of_step rfl rfl,
    ends_iff_of_step rfl rfl, ends_iff_of_nil rfl]
  rfl

/-- What is read of the text of a matcher if a bar and a group that stays open follow a closed text. -/
theorem Closed.piece?_anchored_bar (h : Closed text piece) :
    piece? (PathMatcher.anchored (text ++ ")|(")) = some piece.barred := by
  obtain ⟨e, rfl, hstrays⟩ := h.exists_strays
  obtain ⟨hbrackets, houter⟩ := (hstrays []).closed
  refine piece?_eq_some_iff.2 ⟨barred e, ?_, rfl, hbrackets, ?_⟩
  · rw [toList_anchored, ends_opening_iff, String.toList_append, List.append_assoc]
    exact (hstrays ['|', '(', ')', '$']).ends_within (ends_barred hbrackets)
  · have hdepth : max (max 0 (max (e.body.close.depth + 1) 0) + 1) (max (max 1 (max 0 0) + 1) 0) + 1 =
        e.body.close.depth + 3 := by
      omega
    exact congrArg (fun depth => ({ pattern := e.body.close.barred.pattern, depth } : Piece)) hdepth

section Engine

variable [PatternEngine]

theorem ofText?_eq_none_of_breaksOut (h : BreaksOut text) : ofText? text = none := by
  rw [Option.eq_none_iff_forall_ne_some]
  intro p hp
  obtain ⟨piece, hpiece, -⟩ := ofText?_eq_some_iff.1 hp
  rw [h.piece?_eq_none] at hpiece
  contradiction

end Engine

theorem wellFormed_of_piece? (h : piece? text = some piece) : piece.pattern.WellFormed := by
  obtain ⟨e, hends, -, -, rfl⟩ := piece?_eq_some_iff.1 h
  exact (hends.wellFormed .init).body.close

end Pattern

namespace PathMatcher

open Pattern

section Engine

variable [PatternEngine] {m : PathMatcher}

end Engine

/-- **Breaking out.** No text that ends in a bar and an open parenthesis behind a closed text is a pattern,
and if there is room for it a matcher with this text accepts every path. -/
theorem accepts_of_breaksOut [PatternEngine] {m : PathMatcher} {q : String} {piece : Piece}
    (hq : Closed q piece) (hdepth : piece.depth + 3 ≤ depthLimit)
    (hcompiles : PatternEngine.compiles piece.barred.pattern = true) (hm : m.pathInfo = q ++ ")|(") :
    ofText? m.pathInfo = none ∧ ∀ path, m.accepts path = true := by
  have hbreaks : BreaksOut m.pathInfo := by
    refine ⟨q, "|(", piece, ?_, hq⟩
    rw [hm, String.append_assoc]
    rfl
  refine ⟨ofText?_eq_none_of_breaksOut hbreaks, fun path => ?_⟩
  have hread := hq.piece?_anchored_bar
  have hpattern := ofText?_eq_some_iff.2 ⟨_, hread, hdepth, hcompiles, rfl⟩
  rw [accepts, hm, hpattern, Option.any_some, isFoundIn_iff (wellFormed_of_piece? hread)]
  have hlast := List.getElem?_eq_getElem (l := Gap.list path) (i := path.toList.length) (by
    rw [Gap.length_list]
    omega)
  have hempty : Matches (Gap.list path) (.capture .empty) path.toList.length path.toList.length :=
    .capture (.empty _ (List.getElem?_eq_some_iff.1 hlast).1)
  have hend := (Gap.textEnd_holds_iff hlast).2 rfl
  exact ⟨path.toList.length, path.toList.length, .choiceRight (.sequence hempty (.anchor hlast hend))⟩

example : ({ pathInfo := "a)|(" } : PathMatcher).accepts "none of it" = true := by decide +kernel

end PathMatcher

end FormEngine
