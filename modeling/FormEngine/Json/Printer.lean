import FormEngine.Json.Value
/-!
# Writing JSON

The compact form: no blanks, members in the order of the value, and in strings an escape only
for the quote, the backslash and the control characters below `0x20`. Text is written as its
UTF-8 bytes; since every byte of a longer sequence is above the ASCII range, escaping byte by
byte escapes exactly the characters named.
-/

namespace FormEngine.Json

/-- The lower-case hexadecimal digit of a value below sixteen. -/
def hexSymbol (n : Nat) : UInt8 :=
  UInt8.ofNat (if n < 10 then 48 + n else 87 + n)

/-- A byte of a string as it is written between quotes. -/
def escapeByte (b : UInt8) : List UInt8 :=
  if b = 0x22 then [0x5C, 0x22]
  else if b = 0x5C then [0x5C, 0x5C]
  else if 0x20 ≤ b then [b]
  else if b = 0x08 then [0x5C, 0x62]
  else if b = 0x09 then [0x5C, 0x74]
  else if b = 0x0A then [0x5C, 0x6E]
  else if b = 0x0C then [0x5C, 0x66]
  else if b = 0x0D then [0x5C, 0x72]
  else [0x5C, 0x75, 0x30, 0x30, hexSymbol (b.toNat / 16), hexSymbol (b.toNat % 16)]

/-- A text between quotes. -/
def writeText (s : String) : List UInt8 :=
  0x22 :: s.toUTF8.data.toList.flatMap escapeByte ++ [0x22]

/-- The decimal digits of a natural number. -/
def writeNat (n : Nat) : List UInt8 :=
  (Nat.toDigits 10 n).map fun c => UInt8.ofNat c.toNat

/-- A minus sign when it is due. -/
def writeSign (negative : Bool) : List UInt8 :=
  if negative then [0x2D] else []

/-- A number literal. -/
def writeNumber : Number → List UInt8
  | .integer negative m => writeSign negative ++ writeNat m
  | .decimal negative m e =>
    writeSign negative ++ writeNat m ++ 0x65 :: writeSign (decide (e < 0)) ++ writeNat e.natAbs

mutual

/-- A value in compact form. A string without text is written as the empty string. -/
def write : Value → List UInt8
  | .null => [0x6E, 0x75, 0x6C, 0x6C]
  | .bool true => [0x74, 0x72, 0x75, 0x65]
  | .bool false => [0x66, 0x61, 0x6C, 0x73, 0x65]
  | .number n => writeNumber n
  | .string t => writeText (t.getD "")
  | .array items => 0x5B :: writeItems items
  | .object members => 0x7B :: writeMembers members

/-- The elements of an array with the closing bracket. -/
def writeItems : List Value → List UInt8
  | [] => [0x5D]
  | [v] => write v ++ [0x5D]
  | v :: rest => write v ++ 0x2C :: writeItems rest

/-- The members of an object with the closing brace. -/
def writeMembers : List (Option String × Value) → List UInt8
  | [] => [0x7D]
  | [(key, v)] => writeText (key.getD "") ++ 0x3A :: write v ++ [0x7D]
  | (key, v) :: rest => writeText (key.getD "") ++ 0x3A :: write v ++ 0x2C :: writeMembers rest

end

end FormEngine.Json
