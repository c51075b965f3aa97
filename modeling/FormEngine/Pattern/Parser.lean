import FormEngine.Pattern.Bracket
import FormEngine.Pattern.Engine
import FormEngine.Unicode.Property
/-!
# Reading patterns

A pattern is read from left to right, one token at a time. The state of the reader is what has
been read of the innermost group, below it the groups around it, and the brackets that are
still open. A text is a pattern when every token can be read, when no group and no bracket is
left open, when the pattern is not nested too deeply and when the engine compiles it.
-/

namespace FormEngine

/-- A part of a pattern, with the number of levels of its deepest part. -/
structure Piece where
  pattern : Pattern
  depth : Nat := 0
  /-- It sets flags, and matches nothing that could be repeated. -/
  isDirective : Bool := false
  deriving DecidableEq, Repr, Inhabited

namespace Piece

/-- The depth of a level over some pieces; a single piece needs none. -/
def depthOver (pieces : List Piece) : Nat :=
  match pieces with
  | [] => 0
  | [p] => p.depth
  | _ => (pieces.map (·.depth)).foldr max 0 + 1

def sequence (pieces : List Piece) : Piece :=
  { pattern := .sequenceOf (pieces.map (·.pattern)), depth := depthOver pieces }

def choice (pieces : List Piece) : Piece :=
  { pattern := .choiceOf (pieces.map (·.pattern)), depth := depthOver pieces }

/-- The piece one level down. -/
def nested (p : Piece) : Piece := { pattern := p.pattern, depth := p.depth + 1 }

/-- The piece remembered. -/
def capture (p : Piece) : Piece := { pattern := .capture p.pattern, depth := p.depth }

end Piece

/-- What has been read of a group: the branches before the last bar, and the pieces after it,
both with the last one first. -/
structure GroupBody where
  /-- What the group matches is remembered. -/
  captures : Bool := false
  branches : List Piece := []
  pieces : List Piece := []
  deriving DecidableEq, Repr, Inhabited

namespace GroupBody

def add (b : GroupBody) (p : Piece) : GroupBody := { b with pieces := p :: b.pieces }

/-- The pieces since the last bar become a branch. -/
def bar (b : GroupBody) : GroupBody :=
  { b with branches := Piece.sequence b.pieces.reverse :: b.branches, pieces := [] }

/-- The piece of a group that is complete. -/
def close (b : GroupBody) : Piece :=
  let piece := Piece.choice b.bar.branches.reverse
  if b.captures then piece.capture else piece

/-- The last piece repeated, where there is one that can be. -/
def repeatLast? (b : GroupBody) (min : Nat) (max : Option Nat) : Option GroupBody :=
  match b.pieces with
  | [] => none
  | p :: rest =>
    if p.isDirective then none
    else some
      { b with pieces := { pattern := .repetition p.pattern min max, depth := p.depth + 1 } :: rest }

end GroupBody

/-- The state of the reader. -/
structure PatternState where
  flags : PatternFlags := {}
  body : GroupBody := {}
  /-- The groups around the innermost one, with the flags that hold again after it. -/
  outer : List (GroupBody × PatternFlags) := []
  /-- The open brackets, the innermost first. -/
  brackets : List Bracket := []
  /-- The names of groups. -/
  names : List String := []
  deriving DecidableEq, Repr, Inhabited

namespace PatternState

def add (s : PatternState) (p : Pattern) : PatternState := { s with body := s.body.add { pattern := p } }

/-! ## Groups -/

/-- A group is opened, with flags of its own. -/
def openGroup (s : PatternState) (flags : PatternFlags) (captures : Bool) : PatternState :=
  { s with flags, body := { captures }, outer := (s.body, s.flags) :: s.outer }

/-- The innermost group is closed, if one is open. -/
def closeGroup? (s : PatternState) : Option PatternState :=
  match s.outer with
  | [] => none
  | (body, flags) :: outer => some { s with flags, body := body.add s.body.close.nested, outer }

/-- The first character of a name of a group, or one after it. -/
def isNameChar (first : Bool) (c : Char) : Bool :=
  if first then c == '_' || Unicode.isAlphabetic c
  else ['_', '.', '[', ']'].contains c || Unicode.isAlphabetic c || Unicode.isNumeric c

/-- The name of a group up to its angle bracket, and what follows. -/
def readName (cs : List Char) : Option (String × List Char) :=
  match cs.takeWhile (· != '>'), cs.dropWhile (· != '>') with
  | c :: name, _ :: rest =>
    if isNameChar true c && name.all (isNameChar false) then some (String.ofList (c :: name), rest)
    else none
  | _, _ => none

/-- A group with a name, after the angle bracket. No two groups have one name. -/
def openNamed? (s : PatternState) (cs : List Char) : Option (PatternState × List Char) := do
  let (name, rest) ← readName cs
  if s.names.contains name then none
  else return ({ s.openGroup s.flags true with names := name :: s.names }, rest)

/-- Flags, for a group of their own or for the rest of the innermost group. -/
def openFlagged? (s : PatternState) (cs : List Char) : Option (PatternState × List Char) := do
  let (change, terminator, rest) ← PatternFlags.read? {} cs
  if terminator = ':' then return (s.openGroup (s.flags.apply change) false, rest)
  else if change.isEmpty then none
  else
    return ({ s with
      flags := s.flags.apply change
      body := s.body.add { pattern := .empty, isDirective := true } }, rest)

/-- What an opening parenthesis begins. There is no looking ahead or behind. -/
def readGroup (s : PatternState) (cs : List Char) : Option (PatternState × List Char) :=
  match s.flags.skip cs with
  | '?' :: '=' :: _ | '?' :: '!' :: _ => none
  | '?' :: '<' :: '=' :: _ | '?' :: '<' :: '!' :: _ => none
  | '?' :: 'P' :: '<' :: rest => s.openNamed? rest
  | '?' :: '<' :: rest => s.openNamed? rest
  | '?' :: rest => s.openFlagged? rest
  | rest => some (s.openGroup s.flags true, rest)

/-! ## Repetition -/

/-- The rest without a question mark at its begin, which makes a repetition take as little as it
can. -/
def dropLazy (cs : List Char) : List Char :=
  match cs with
  | '?' :: rest => rest
  | _ => cs

def repeatLast? (s : PatternState) (min : Nat) (max : Option Nat) : Option PatternState :=
  (s.body.repeatLast? min max).map fun body => { s with body }

/-- The limits of a repetition, up to its closing brace, and what follows the brace. -/
def readLimits (f : PatternFlags) (cs : List Char) : Option ((Nat × Option Nat) × List Char) :=
  let (min, rest) := f.readDecimal (f.skip cs)
  match rest with
  | '}' :: rest => min.map fun n => ((n, some n), rest)
  | ',' :: rest =>
    match f.skip rest with
    | '}' :: rest => min.map fun n => ((n, none), rest)
    | rest =>
      match min, f.readDecimal rest with
      | some m, (some n, '}' :: rest) => if m ≤ n then some ((m, some n), rest) else none
      | _, _ => none
  | _ => none

/-! ## Tokens -/

/-- A character outside of brackets. In bytes, one beyond ASCII is no character. -/
def literal? (f : PatternFlags) (c : Char) (isByte : Bool) : Option Pattern :=
  if isByte && !f.unicode && 128 ≤ c.toNat then none
  else some (.char (f.fold (.single c)))

/-- The pattern of a full stop: any character, with or without the ends of lines. -/
def dot? (f : PatternFlags) : Option Pattern :=
  if !f.unicode then none
  else if f.dotAll then some (.char (.complement .none))
  else if f.crlf then some (.char (.complement (.union (.single '\r') (.single '\n'))))
  else some (.char (.complement (.single '\n')))

/-- The pattern of a caret. -/
def caret (f : PatternFlags) : Pattern :=
  .anchor (if !f.multiLine then .textStart else if f.crlf then .crlfLineStart else .lineStart)

/-- The pattern of a dollar sign. -/
def dollar (f : PatternFlags) : Pattern :=
  .anchor (if !f.multiLine then .textEnd else if f.crlf then .crlfLineEnd else .lineEnd)

/-- The pattern of an escape outside of brackets. -/
def escaped? (f : PatternFlags) : Escape → Option Pattern
  | .literal c isByte => literal? f c isByte
  | .set s => some (.char s)
  | .anchor a => some (.anchor a)

/-- One token outside of brackets. -/
def readToken (s : PatternState) : List Char → Option (PatternState × List Char)
  | [] => none
  | c :: rest =>
    match c with
    | '(' => s.readGroup rest
    | ')' => s.closeGroup?.map (·, rest)
    | '|' => some ({ s with body := s.body.bar }, rest)
    | '[' =>
      let (bracket, rest) := Bracket.start s.flags rest
      some ({ s with brackets := [bracket] }, rest)
    | '?' => (s.repeatLast? 0 (some 1)).map (·, dropLazy rest)
    | '*' => (s.repeatLast? 0 none).map (·, dropLazy rest)
    | '+' => (s.repeatLast? 1 none).map (·, dropLazy rest)
    | '{' => do
      let ((min, max), rest) ← readLimits s.flags rest
      return (← s.repeatLast? min max, dropLazy (s.flags.skip rest))
    | '\\' => do
      let (escape, rest) ← s.flags.readEscape rest
      return (s.add (← escaped? s.flags escape), rest)
    | '.' => do return (s.add (← dot? s.flags), rest)
    | '^' => some (s.add (caret s.flags), rest)
    | '$' => some (s.add (dollar s.flags), rest)
    | c => do return (s.add (← literal? s.flags c false), rest)

/-- The innermost bracket is closed, and its set is an item of the bracket around it or a piece
of the pattern. -/
def closeBracket? (s : PatternState) (b : Bracket) (outer : List Bracket) : Option PatternState := do
  let piece ← b.close? s.flags
  match outer with
  | [] =>
    return { s with
      brackets := [], body := s.body.add { pattern := .char piece.set, depth := piece.depth } }
  | o :: outer => return { s with brackets := o.add piece :: outer }

/-- One token inside of brackets. -/
def readInBracket (s : PatternState) (b : Bracket) (outer : List Bracket) (cs : List Char) :
    Option (PatternState × List Char) :=
  let operate (op : SetOperator) : PatternState :=
    { s with brackets := b.operate s.flags op :: outer }
  match cs with
  | '&' :: '&' :: rest => some (operate .inter, rest)
  | '-' :: '-' :: rest => some (operate .diff, rest)
  | '~' :: '~' :: rest => some (operate .symmDiff, rest)
  | ']' :: rest => (s.closeBracket? b outer).map (·, rest)
  | '[' :: rest =>
    match Bracket.readClass? s.flags rest with
    | some (set, rest) => do
      return ({ s with brackets := b.add { set := ← set } :: outer }, rest)
    | none =>
      let (inner, rest) := Bracket.start s.flags rest
      some ({ s with brackets := inner :: b :: outer }, rest)
  | cs => do
    let (set, rest) ← Bracket.readRange s.flags cs
    return ({ s with brackets := b.add { set } :: outer }, rest)

/-- One token. -/
def step (s : PatternState) (cs : List Char) : Option (PatternState × List Char) :=
  match s.brackets with
  | [] => s.readToken cs
  | b :: outer => s.readInBracket b outer cs

/-- At most so many tokens, up to the end of the text. -/
def run : Nat → PatternState → List Char → Option PatternState
  | fuel, s, cs =>
    match s.flags.skip cs with
    | [] => some s
    | cs =>
      match fuel with
      | 0 => none
      | fuel + 1 =>
        match s.step cs with
        | none => none
        | some (s, rest) => run fuel s rest

/-- The piece of a text that has come to its end. -/
def finish? (s : PatternState) : Option Piece :=
  if s.outer.isEmpty && s.brackets.isEmpty then some s.body.close else none

end PatternState

namespace Pattern

/-- The most levels that a pattern may have. -/
def depthLimit : Nat := 250

/-- The pattern of a text, if it is one. No token is without a character, so the text has no
more tokens than characters. -/
def ofText? [PatternEngine] (text : String) : Option Pattern := do
  let cs := text.toList
  let piece ← (← PatternState.run cs.length {} cs).finish?
  if piece.depth ≤ depthLimit && PatternEngine.compiles piece.pattern then some piece.pattern else none

end Pattern

end FormEngine
