/-!
# Sets of characters

The sets that patterns are about: ranges, properties of characters, and what the operations on
sets make of them. A property is kept as it is asked for. Which properties there are, and which
characters have them, is left to the engine.
-/

namespace FormEngine

/-- A property of characters as a pattern asks for it. -/
inductive PropertyQuery where
  /-- The classes of one letter, for decimal digits, white space and the characters of words. -/
  | digit
  | space
  | word
  | named (name : String)
  /-- A value of a property that has more than two. -/
  | valued (name value : String)
  deriving DecidableEq, Repr, Inhabited

inductive CharSet where
  | none
  | range (first last : Char)
  | property (q : PropertyQuery)
  | union (a b : CharSet)
  | inter (a b : CharSet)
  | diff (a b : CharSet)
  | symmDiff (a b : CharSet)
  | complement (a : CharSet)
  /-- The characters that differ from a member in case at most. -/
  | folded (a : CharSet)
  /-- The same, where only ASCII letters have case. -/
  | asciiFolded (a : CharSet)
  deriving DecidableEq, Repr, Inhabited

namespace CharSet

/-- The properties that the set is about. -/
def queries : CharSet → List PropertyQuery
  | none | range _ _ => []
  | property q => [q]
  | union a b | inter a b | diff a b | symmDiff a b => a.queries ++ b.queries
  | complement a | folded a | asciiFolded a => a.queries

/-- The set of one character. -/
def single (c : Char) : CharSet := range c c

/-- The union of some sets. -/
def unionOf (sets : List CharSet) : CharSet := sets.foldr union none

/-- The characters from `first` to `last`, pair by pair. -/
def ranges (pairs : List (Char × Char)) : CharSet := unionOf (pairs.map fun p => range p.1 p.2)

/-! ## Classes with a name -/

def digits : CharSet := range '0' '9'

def spaces : CharSet := ranges [('\t', '\r'), (' ', ' ')]

def words : CharSet := ranges [('0', '9'), ('A', 'Z'), ('_', '_'), ('a', 'z')]

/-- The ASCII classes that stand between `[:` and `:]`. -/
def named? : String → Option CharSet
  | "alnum" => some (ranges [('0', '9'), ('A', 'Z'), ('a', 'z')])
  | "alpha" => some (ranges [('A', 'Z'), ('a', 'z')])
  | "ascii" => some (range '\x00' '\x7f')
  | "blank" => some (ranges [('\t', '\t'), (' ', ' ')])
  | "cntrl" => some (ranges [('\x00', '\x1f'), ('\x7f', '\x7f')])
  | "digit" => some digits
  | "graph" => some (range '!' '~')
  | "lower" => some (range 'a' 'z')
  | "print" => some (range ' ' '~')
  | "punct" => some (ranges [('!', '/'), (':', '@'), ('[', '\x60'), ('\x7b', '~')])
  | "space" => some spaces
  | "upper" => some (range 'A' 'Z')
  | "word" => some words
  | "xdigit" => some (ranges [('0', '9'), ('A', 'F'), ('a', 'f')])
  | _ => Option.none

end CharSet

end FormEngine
