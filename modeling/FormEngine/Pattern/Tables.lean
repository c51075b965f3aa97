import FormEngine.Pattern.Engine
import FormEngine.Unicode.CaseFold
import FormEngine.Unicode.Property
/-!
# The engine at hand

An engine with tables of Unicode 16: general categories, scripts, and the properties for letters,
their case and white space. It builds no automaton, but counts the states that one would have, by
an estimate for characters beyond ASCII. It stands in for a larger engine, so nothing that is said
of patterns in general depends on it.
-/

namespace FormEngine

namespace Unicode

/-- The property that a pattern asks for, if there is a table of it here. -/
def CharProperty.ofQuery? : PropertyQuery → Option CharProperty
  | .digit => some (.categoryIn ["Nd"])
  | .space => some .whiteSpace
  | .word => some .wordChar
  | .named name => ofName? name
  | .valued name value => ofNameValue? name value

/-- The number of stretches of code points that have the property. -/
def CharProperty.stretches : CharProperty → Nat
  | .any | .ascii => 1
  | .assigned => categoryStretches (· != "Cn")
  | .alphabetic => categoryStretches letterCategories.contains + yesStretches otherAlphabeticRuns
  | .lowercase => categoryStretches (· == "Ll") + yesStretches otherLowercaseRuns
  | .uppercase => categoryStretches (· == "Lu") + yesStretches otherUppercaseRuns
  | .whiteSpace => 10
  | .wordChar => categoryStretches (letterCategories ++ joiningCategories).contains
  | .categoryIn names => categoryStretches names.contains
  | .scriptIs name => Unicode.stretches (· == name) false scriptRuns
where
  categoryStretches (test : String → Bool) : Nat := Unicode.stretches test false categoryRuns
  yesStretches (runs : List Run) : Nat := Unicode.stretches (· == "Y") false runs

end Unicode

namespace CharSet

/-- The states for one character of the set. -/
def states : CharSet → Nat
  | .none => 1
  | .range first last => if first = last then first.utf8Size else if last.toNat < 128 then 1 else 8
  | .property q => ((Unicode.CharProperty.ofQuery? q).map (·.stretches)).getD 0 + 6
  | .union a b | .inter a b | .diff a b | .symmDiff a b => max a.states b.states
  | .complement a => a.states + 7
  | .folded a | .asciiFolded a => a.states + 1

end CharSet

namespace Pattern

/-- The states of the automaton of the pattern. -/
def states : Pattern → Nat
  | .empty | .anchor _ => 1
  | .char set => set.states
  | .sequence p q => p.states + q.states
  | .choice p q => p.states + q.states + 2
  | .capture p => p.states + 2
  | .repetition p min none => max min 1 * p.states + 1
  | .repetition p min (some max) => min * p.states + (max - min) * (p.states + 1) + 1

/-- The states that fit the ten mebibytes of an automaton, at thirty-two bytes each. -/
def stateLimit : Nat := 10 * Nat.pow 2 20 / 32

end Pattern

instance unicodeEngine : PatternEngine where
  table? q := (Unicode.CharProperty.ofQuery? q).map (·.holds)
  caseVariants := Unicode.caseVariants
  fits p := p.states ≤ Pattern.stateLimit

end FormEngine
