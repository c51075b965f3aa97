import FormEngine.Pattern.Flags
import FormEngine.Pattern.Syntax
/-!
# Escapes and numbers

What stands after a backslash: a character by its number or for itself, a set of characters by
its name, or an anchor.
-/

namespace FormEngine

/-- The meaning of an escape. -/
inductive Escape where
  /-- A character, which may have been written as a byte in two digits. -/
  | literal (c : Char) (isByte : Bool)
  | set (s : CharSet)
  | anchor (a : Anchor)
  deriving DecidableEq, Repr, Inhabited

namespace PatternFlags

/-- A set under the flags, with the case variants of its members where case is ignored. -/
def fold (f : PatternFlags) (s : CharSet) : CharSet :=
  if f.ignoreCase then if f.unicode then .folded s else .asciiFolded s else s

/-- The complement of a set of Unicode characters. Outside of Unicode a pattern matches bytes,
and a complement would hold bytes that are no characters. -/
def complement? (f : PatternFlags) (s : CharSet) : Option CharSet :=
  if f.unicode then some (.complement s) else none

/-- The set or its complement. -/
def negate? (f : PatternFlags) (negated : Bool) (s : CharSet) : Option CharSet :=
  if negated then f.complement? s else some s

/-! ## Numbers -/

/-- A decimal number below `2 ^ 32`, with white space around it. -/
def readDecimal (f : PatternFlags) (cs : List Char) : Option Nat × List Char :=
  let (digits, rest) := f.takeWhile Char.isDigit (cs.dropWhile Text.isBlank)
  let (_, rest) := f.takeWhile Text.isBlank rest
  let value := digits.foldl (fun n c => n * 10 + (c.toNat - '0'.toNat)) 0
  (if digits.isEmpty || Nat.pow 2 32 ≤ value then none else some value, rest)

/-- The value of a hexadecimal digit. -/
def hexValue? (c : Char) : Option Nat :=
  if '0' ≤ c ∧ c ≤ '9' then some (c.toNat - '0'.toNat)
  else if 'a' ≤ c ∧ c ≤ 'f' then some (c.toNat - 'a'.toNat + 10)
  else if 'A' ≤ c ∧ c ≤ 'F' then some (c.toNat - 'A'.toNat + 10)
  else none

/-- The character with the number that the digits write. -/
def charOfHex? (digits : List Char) : Option Char := do
  let values ← digits.mapM hexValue?
  let n := values.foldl (fun n v => n * 16 + v) 0
  if digits.isEmpty then none
  else if h : n.isValidChar then some (Char.ofNatAux n h)
  else none

/-- A given number of characters. -/
def readMany (f : PatternFlags) : Nat → List Char → Option (List Char × List Char)
  | 0, cs => some ([], cs)
  | _ + 1, [] => none
  | n + 1, c :: rest => do
    let (taken, rest) ← f.readMany n (f.skip rest)
    return (c :: taken, rest)

/-- What stands up to a closing brace, and what follows the brace. -/
def readBraced (f : PatternFlags) (cs : List Char) : Option (List Char × List Char) :=
  match f.takeWhile (· != '}') (f.skip cs) with
  | (_, []) => none
  | (inside, _ :: rest) => some (inside, rest)

/-- The character of a number in hexadecimal: so many digits, or as many as are in braces. -/
def readHex (f : PatternFlags) (digits : Nat) (cs : List Char) : Option (Escape × List Char) :=
  match f.skip cs with
  | '{' :: rest => do
    let (inside, rest) ← f.readBraced rest
    return (.literal (← charOfHex? inside) false, f.skip rest)
  | cs => do
    let (taken, rest) ← f.readMany digits cs
    return (.literal (← charOfHex? taken) (digits == 2), rest)

/-! ## Sets by name -/

/-- A text cut at the first occurrence of a separator. -/
def cut? (separator : List Char) : List Char → Option (List Char × List Char)
  | [] => none
  | c :: rest =>
    if separator.isPrefixOf (c :: rest) then some ([], (c :: rest).drop separator.length)
    else (cut? separator rest).map fun (before, after) => (c :: before, after)

/-- A Unicode property as it is written: a name alone, or a name and a value around `!=`, which
negates, or a colon or an equals sign. With it stands whether it is negated. -/
def property (negated : Bool) (name : List Char) : Bool × PropertyQuery :=
  let valued (parts : List Char × List Char) : PropertyQuery :=
    .valued (String.ofList parts.1) (String.ofList parts.2)
  match cut? ['!', '='] name, cut? [':'] name, cut? ['='] name with
  | some parts, _, _ => (!negated, valued parts)
  | none, some parts, _ => (negated, valued parts)
  | none, none, some parts => (negated, valued parts)
  | none, none, none => (negated, .named (String.ofList name))

/-- The set of a Unicode property, which there is in Unicode patterns alone. -/
def propertySet? (f : PatternFlags) (negated : Bool) (name : List Char) : Option CharSet :=
  let (negated, q) := property negated name
  if f.unicode then f.negate? negated (f.fold (.property q)) else none

/-- The property after `\p` or `\P`: one letter, or a name in braces. -/
def readProperty (f : PatternFlags) (negated : Bool) (cs : List Char) :
    Option (Escape × List Char) :=
  match f.skip cs with
  | [] => none
  | '{' :: rest => do
    let (name, rest) ← f.readBraced rest
    return (.set (← f.propertySet? negated name), rest)
  | c :: rest =>
    if c = '\\' then none
    else do return (.set (← f.propertySet? negated [c]), f.skip rest)

/-- A class of one letter. It is closed under changes of case. -/
def letterSet? (f : PatternFlags) (negated : Bool) (ascii : CharSet) (q : PropertyQuery) :
    Option Escape :=
  (f.negate? negated (if f.unicode then .property q else ascii)).map .set

/-! ## Anchors -/

/-- The kinds of word boundaries that have a name. -/
def wordAnchor? (f : PatternFlags) (name : List Char) : Option Anchor :=
  match String.ofList name with
  | "start" => some (.wordStart f.unicode)
  | "end" => some (.wordEnd f.unicode)
  | "start-half" => some (.wordStartHalf f.unicode)
  | "end-half" => some (.wordEndHalf f.unicode)
  | _ => none

def isBoundaryNameChar (c : Char) : Bool := c.isAlpha || c == '-'

/-- A word boundary, which may have a name in braces. Braces that begin otherwise are left for a
count of repetitions. -/
def readBoundary (f : PatternFlags) (cs : List Char) : Option (Escape × List Char) :=
  match cs with
  | '{' :: inside =>
    match f.skip inside with
    | [] => none
    | c :: rest =>
      if isBoundaryNameChar c then
        match f.takeWhile isBoundaryNameChar (c :: rest) with
        | (name, '}' :: rest) => do return (.anchor (← f.wordAnchor? name), rest)
        | _ => none
      else some (.anchor (.wordBoundary f.unicode), cs)
  | _ => some (.anchor (.wordBoundary f.unicode), cs)

/-! ## Escapes -/

/-- The character stands for itself after a backslash: an ASCII character that is no letter, no
digit and no angle bracket. -/
def isEscapable (c : Char) : Bool :=
  c.toNat < 128 && !c.isAlphanum && c != '<' && c != '>'

/-- The escape after a backslash. -/
def readEscape (f : PatternFlags) : List Char → Option (Escape × List Char)
  | [] => none
  | c :: rest =>
    match c with
    | 'x' => f.readHex 2 rest
    | 'u' => f.readHex 4 rest
    | 'U' => f.readHex 8 rest
    | 'p' => f.readProperty false rest
    | 'P' => f.readProperty true rest
    | 'd' => (f.letterSet? false .digits .digit).map (·, rest)
    | 'D' => (f.letterSet? true .digits .digit).map (·, rest)
    | 's' => (f.letterSet? false .spaces .space).map (·, rest)
    | 'S' => (f.letterSet? true .spaces .space).map (·, rest)
    | 'w' => (f.letterSet? false .words .word).map (·, rest)
    | 'W' => (f.letterSet? true .words .word).map (·, rest)
    | 'a' => some (.literal '\x07' false, rest)
    | 'f' => some (.literal '\x0c' false, rest)
    | 't' => some (.literal '\t' false, rest)
    | 'n' => some (.literal '\n' false, rest)
    | 'r' => some (.literal '\r' false, rest)
    | 'v' => some (.literal '\x0b' false, rest)
    | 'A' => some (.anchor .textStart, rest)
    | 'z' => some (.anchor .textEnd, rest)
    | 'b' => f.readBoundary rest
    | 'B' => some (.anchor (.noWordBoundary f.unicode), rest)
    | '<' => some (.anchor (.wordStart f.unicode), rest)
    | '>' => some (.anchor (.wordEnd f.unicode), rest)
    | c => if isEscapable c then some (.literal c false, rest) else none

end PatternFlags

end FormEngine
