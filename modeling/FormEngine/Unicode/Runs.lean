/-!
# Runs of a property

A property of characters is written as the runs of one value in the order of the code points,
from zero on: the name of the value, which begins with a capital letter, and the number of code
points, which is left out where it is one. So `Cc32ZsPo3` says that thirty-two control
characters come first, then a blank, then three marks of punctuation.
-/

namespace FormEngine.Unicode

/-- A run: a value and the number of code points that have it. -/
abbrev Run := String × Nat

/-- The runs of a text, given the name and the number of the run at hand, both in part. -/
def readRuns (name : List Char) (count : Nat) : List Char → List Run
  | [] => [(String.ofList name.reverse, max count 1)]
  | c :: rest =>
    if c.isDigit then readRuns name (count * 10 + (c.toNat - '0'.toNat)) rest
    else if c.isUpper && !name.isEmpty then
      (String.ofList name.reverse, max count 1) :: readRuns [c] 0 rest
    else readRuns (c :: name) count rest

/-- The runs of a text in lines. -/
def runsOf (lines : List String) : List Run := readRuns [] 0 (lines.flatMap String.toList)

/-- The value of a code point. -/
def valueAt? : List Run → Nat → Option String
  | [], _ => none
  | (value, count) :: rest, n => if n < count then some value else valueAt? rest (n - count)

/-- The number of stretches of code points whose value passes a test, after a code point that passes it
or does not. -/
def stretches (test : String → Bool) (inside : Bool) : List Run → Nat
  | [] => 0
  | (value, _) :: rest =>
    (if test value && !inside then 1 else 0) + stretches test (test value) rest

end FormEngine.Unicode
