import FormEngine.Pattern.CharSet
/-!
# Patterns

A pattern describes texts. It is built of single characters, anchors, which match at a gap
between characters and take none, and of sequence, choice and repetition.
-/

namespace FormEngine

/-- A condition on a gap. -/
inductive Anchor where
  | textStart
  | textEnd
  | lineStart
  | lineEnd
  /-- Lines end at a carriage return, a line feed, or the two together. -/
  | crlfLineStart
  | crlfLineEnd
  | wordBoundary (unicode : Bool)
  | noWordBoundary (unicode : Bool)
  | wordStart (unicode : Bool)
  | wordEnd (unicode : Bool)
  /-- No word goes on to the left of the gap. -/
  | wordStartHalf (unicode : Bool)
  /-- No word goes on to the right of the gap. -/
  | wordEndHalf (unicode : Bool)
  deriving DecidableEq, Repr, Inhabited

inductive Pattern where
  | empty
  | char (set : CharSet)
  | anchor (a : Anchor)
  | sequence (p q : Pattern)
  | choice (p q : Pattern)
  /-- A part that is remembered. It matches as it does without that, but takes more room. -/
  | capture (p : Pattern)
  /-- At least `min` times, and at most `max` times where there is a limit. -/
  | repetition (p : Pattern) (min : Nat) (max : Option Nat)
  deriving DecidableEq, Repr, Inhabited

namespace Pattern

/-- The properties of characters that the pattern is about. -/
def queries : Pattern → List PropertyQuery
  | .empty | .anchor _ => []
  | .char set => set.queries
  | .sequence p q | .choice p q => p.queries ++ q.queries
  | .capture p | .repetition p _ _ => p.queries

/-- The sequence of some patterns. -/
def sequenceOf : List Pattern → Pattern
  | [] => .empty
  | [p] => p
  | p :: rest => .sequence p (sequenceOf rest)

/-- The choice between some patterns. -/
def choiceOf : List Pattern → Pattern
  | [] => .empty
  | [p] => p
  | p :: rest => .choice p (choiceOf rest)

end Pattern

end FormEngine
