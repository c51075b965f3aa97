import FormEngine.Pattern.Syntax
/-!
# Engines

What a pattern matches lies between two gaps of a text. Some of that is not said by the pattern, but is
up to the engine that compiles it: which properties of characters it has tables for, which
characters it takes to differ in case alone, and how large an automaton may become. All this is
left open here. An engine compiles a pattern if it has the tables and the automaton is not too
large.
-/

namespace FormEngine

/-- What the engine knows about characters, and the limit it sets. -/
class PatternEngine where
  /-- The characters that have a property, if there is a table of it. -/
  table? : PropertyQuery → Option (Char → Bool)
  /-- The characters that differ from a character in case at most. -/
  caseVariants : Char → List Char
  /-- The automaton of the pattern keeps to the limit. -/
  fits : Pattern → Bool

namespace PatternEngine

variable [PatternEngine]

/-- There is a table of the property. -/
def knows (q : PropertyQuery) : Bool := (table? q).isSome

/-- The character has the property. -/
def holds (q : PropertyQuery) (c : Char) : Bool := (table? q).any (· c)

/-- The engine can use the pattern. -/
def compiles (p : Pattern) : Bool := p.queries.all knows && fits p

end PatternEngine

/-- A gap of a text, by the characters on its two sides. -/
structure Gap where
  before : Option Char
  after : Option Char
  deriving DecidableEq, Repr, Inhabited

namespace Gap

/-- The gaps of a text that follows a character or begins. -/
def listFrom (before : Option Char) : List Char → List Gap
  | [] => [⟨before, none⟩]
  | c :: cs => ⟨before, some c⟩ :: listFrom (some c) cs

/-- The gaps of a text: one before each character and one at the end. -/
def list (s : String) : List Gap := listFrom none s.toList

theorem length_listFrom (before : Option Char) (cs : List Char) :
    (listFrom before cs).length = cs.length + 1 := by
  induction cs generalizing before with
  | nil => rfl
  | cons c cs ih => simp [listFrom, ih]

end Gap

section Engine

variable [PatternEngine]

/-- The character is in the set. -/
def CharSet.mem : CharSet → Char → Bool
  | none, _ => false
  | range first last, c => first ≤ c && c ≤ last
  | property q, c => PatternEngine.holds q c
  | union a b, c => a.mem c || b.mem c
  | inter a b, c => a.mem c && b.mem c
  | diff a b, c => a.mem c && !b.mem c
  | symmDiff a b, c => a.mem c != b.mem c
  | complement a, c => !a.mem c
  | folded a, c => (PatternEngine.caseVariants c).any a.mem
  | asciiFolded a, c => [c.toLower, c.toUpper].any a.mem

/-- The character is one of a word. -/
def isWordFor (unicode : Bool) (c : Char) : Bool :=
  CharSet.mem (if unicode then .property .word else .words) c

/-- The anchor matches at the gap. -/
def Anchor.holds (g : Gap) : Anchor → Bool
  | textStart => g.before.isNone
  | textEnd => g.after.isNone
  | lineStart => g.before.all (· == '\n')
  | lineEnd => g.after.all (· == '\n')
  | crlfLineStart => g.before.all (· == '\n') || (g.before == some '\r' && g.after != some '\n')
  | crlfLineEnd => g.after.all (· == '\r') || (g.after == some '\n' && g.before != some '\r')
  | wordBoundary u => g.before.any (isWordFor u) != g.after.any (isWordFor u)
  | noWordBoundary u => g.before.any (isWordFor u) == g.after.any (isWordFor u)
  | wordStart u => !g.before.any (isWordFor u) && g.after.any (isWordFor u)
  | wordEnd u => g.before.any (isWordFor u) && !g.after.any (isWordFor u)
  | wordStartHalf u => !g.before.any (isWordFor u)
  | wordEndHalf u => !g.after.any (isWordFor u)

namespace Pattern

/-- The pattern matches from the gap with the first number to the gap with the second. -/
inductive Matches (gaps : List Gap) : Pattern → Nat → Nat → Prop
  | empty (i : Nat) : i < gaps.length → Matches gaps .empty i i
  | char {set : CharSet} {i : Nat} {g : Gap} {c : Char} :
    gaps[i]? = some g → g.after = some c → set.mem c = true → Matches gaps (.char set) i (i + 1)
  | anchor {a : Anchor} {i : Nat} {g : Gap} :
    gaps[i]? = some g → a.holds g = true → Matches gaps (.anchor a) i i
  | sequence {p q : Pattern} {i j k : Nat} :
    Matches gaps p i j → Matches gaps q j k → Matches gaps (.sequence p q) i k
  | choiceLeft {p q : Pattern} {i j : Nat} : Matches gaps p i j → Matches gaps (.choice p q) i j
  | choiceRight {p q : Pattern} {i j : Nat} : Matches gaps q i j → Matches gaps (.choice p q) i j
  | capture {p : Pattern} {i j : Nat} : Matches gaps p i j → Matches gaps (.capture p) i j
  | repeatNone {p : Pattern} {max : Option Nat} {i : Nat} :
    i < gaps.length → Matches gaps (.repetition p 0 max) i i
  | repeatOnce {p : Pattern} {min : Nat} {max : Option Nat} {i j k : Nat} :
    max ≠ some 0 → Matches gaps p i j →
    Matches gaps (.repetition p (min - 1) (max.map (· - 1))) j k →
    Matches gaps (.repetition p min max) i k

end Pattern

end Engine

end FormEngine
