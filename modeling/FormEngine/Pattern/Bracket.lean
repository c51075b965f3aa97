import FormEngine.Pattern.Escape
/-!
# Bracketed sets

A set in brackets is the union of its items, which are characters, ranges, sets by name and
bracketed sets again. The operators for intersection, difference and symmetric difference take
everything before them in the brackets as their left side. Brackets that are still open stand
in a stack, the innermost first, and each step of reading takes one item or one bracket.
-/

namespace FormEngine

inductive SetOperator where
  | inter
  | diff
  | symmDiff
  deriving DecidableEq, Repr, Inhabited

def SetOperator.apply : SetOperator → CharSet → CharSet → CharSet
  | .inter, a, b => .inter a b
  | .diff, a, b => .diff a b
  | .symmDiff, a, b => .symmDiff a b

/-- A set with the number of levels of its deepest part. -/
structure SetPiece where
  set : CharSet
  depth : Nat := 0
  deriving DecidableEq, Repr, Inhabited

/-- The union of some pieces, which is a level of its own for two pieces or more. -/
def SetPiece.union : List SetPiece → SetPiece
  | [] => { set := .none }
  | [p] => p
  | pieces =>
    { set := .unionOf (pieces.map (·.set)), depth := (pieces.map (·.depth)).foldr max 0 + 1 }

/-- A bracket that is still open. -/
structure Bracket where
  negated : Bool
  /-- The operator that waits for its right side, with its left side. -/
  pending : Option (SetOperator × SetPiece) := none
  /-- The items since the bracket or the operator, the last one first. -/
  items : List SetPiece := []
  deriving DecidableEq, Repr, Inhabited

namespace Bracket

def add (b : Bracket) (p : SetPiece) : Bracket := { b with items := p :: b.items }

/-- The set of what has been read. -/
def total (f : PatternFlags) (b : Bracket) : SetPiece :=
  let right := SetPiece.union b.items.reverse
  match b.pending with
  | none => right
  | some (op, left) =>
    { set := op.apply (f.fold left.set) (f.fold right.set), depth := max left.depth right.depth + 1 }

/-- Everything so far becomes the left side of an operator. -/
def operate (f : PatternFlags) (op : SetOperator) (b : Bracket) : Bracket :=
  { b with pending := some (op, b.total f), items := [] }

/-- The set of a bracket that is closed. -/
def close? (f : PatternFlags) (b : Bracket) : Option SetPiece := do
  let piece := b.total f
  return { set := ← f.negate? b.negated (f.fold piece.set), depth := piece.depth + 1 }

/-- A bracket is opened: the caret that negates it, any number of hyphens, or one closing
bracket, stand for themselves at its begin. -/
def start (f : PatternFlags) (cs : List Char) : Bracket × List Char :=
  let cs := f.skip cs
  let (negated, cs) :=
    match cs with
    | '^' :: rest => (true, f.skip rest)
    | _ => (false, cs)
  let (hyphens, cs) := f.takeWhile (· == '-') cs
  let items := hyphens.map fun c => { set := .single c : SetPiece }
  match hyphens, cs with
  | [], ']' :: rest => ({ negated, items := [{ set := .single ']' }] }, f.skip rest)
  | _, _ => ({ negated, items }, cs)

/-! ## Items -/

/-- An ASCII class between `[:` and `:]`, after its opening bracket. What looks like one but has
no name of a class is no class. -/
def readClass? (f : PatternFlags) : List Char → Option (Option CharSet × List Char)
  | ':' :: rest =>
    let (negated, rest) :=
      match rest with
      | '^' :: rest => (true, rest)
      | _ => (false, rest)
    let name := rest.takeWhile (· != ':')
    match rest.dropWhile (· != ':'), CharSet.named? (String.ofList name) with
    | ':' :: ']' :: rest, some s => some (f.negate? negated (f.fold s), rest)
    | _, _ => none
  | _ => none

/-- An item as it is written: a character, or an escape. -/
def readItem (f : PatternFlags) : List Char → Option (Escape × List Char)
  | [] => none
  | '\\' :: rest => f.readEscape rest
  | c :: rest => some (.literal c false, rest)

/-- The character of an item that is one. Outside of Unicode it is an ASCII character. -/
def literal? (f : PatternFlags) (c : Char) : Option Char :=
  if f.unicode || c.toNat < 128 then some c else none

/-- The set of an item. An anchor is none. -/
def itemSet? (f : PatternFlags) : Escape → Option CharSet
  | .literal c _ => (literal? f c).map .single
  | .set s => some s
  | .anchor _ => none

/-- The set between two items. Both have to be characters, the first one no greater. -/
def rangeSet? (f : PatternFlags) : Escape → Escape → Option CharSet
  | .literal first _, .literal last _ => do
    let first ← literal? f first
    let last ← literal? f last
    if first ≤ last then some (.range first last) else none
  | _, _ => none

/-- The character that comes first after blanks and, in a verbose pattern, the sign of a comment
and blanks after that. -/
def peek (f : PatternFlags) (cs : List Char) : Option Char :=
  if f.verbose then
    match cs.dropWhile Text.isBlank with
    | '#' :: rest => ((rest.dropWhile Text.isBlank).head?).or cs.head?
    | c :: _ => some c
    | [] => cs.head?
  else cs.head?

/-- An item or a range. A hyphen makes a range unless it stands before a hyphen or before the
end of the brackets. -/
def readRange (f : PatternFlags) (cs : List Char) : Option (CharSet × List Char) := do
  let (first, rest) ← readItem f cs
  match f.skip rest with
  | [] => none
  | '-' :: after =>
    if peek f after == some ']' || peek f after == some '-' then
      return (← itemSet? f first, '-' :: after)
    else
      let (last, rest) ← readItem f (f.skip after)
      return (← rangeSet? f first last, rest)
  | rest => return (← itemSet? f first, rest)

end Bracket

end FormEngine
