import FormEngine.Json.Value
/-!
# Reading JSON

`Json.read?` takes the first value off a list of bytes and returns what follows it. The syntax
is the strict one: no leading zeros, no trailing commas, no control characters in strings.
Bytes that are not UTF-8 and halves of surrogate pairs leave a string without text but do not
stop the reader.
-/

namespace FormEngine.Json

/-- The bytes without the blanks of JSON at their start. -/
def skipBlanks : List UInt8 → List UInt8
  | [] => []
  | b :: rest => if b = 0x20 ∨ b = 0x0A ∨ b = 0x09 ∨ b = 0x0D then skipBlanks rest else b :: rest

/-- The value of a hexadecimal digit of either case. -/
def hexDigit? (b : UInt8) : Option Nat :=
  let n := b.toNat
  if 48 ≤ n ∧ n ≤ 57 then some (n - 48)
  else if 97 ≤ n ∧ n ≤ 102 then some (n - 87)
  else if 65 ≤ n ∧ n ≤ 70 then some (n - 55)
  else none

/-- The code unit of four hexadecimal digits. -/
def hexUnit? (a b c d : UInt8) : Option Nat := do
  return (← hexDigit? a) * 4096 + (← hexDigit? b) * 256 + (← hexDigit? c) * 16 + (← hexDigit? d)

/-- The byte that an escape of one letter stands for. -/
def shortEscape? (b : UInt8) : Option UInt8 :=
  if b = 0x22 ∨ b = 0x5C ∨ b = 0x2F then some b
  else if b = 0x62 then some 0x08
  else if b = 0x66 then some 0x0C
  else if b = 0x6E then some 0x0A
  else if b = 0x72 then some 0x0D
  else if b = 0x74 then some 0x09
  else none

/-- What has been read of a string: its bytes, newest first, the first half of a surrogate
pair that still waits for the second, and whether all before it is sound. -/
structure PartialText where
  bytes : List UInt8 := []
  pending : Option Nat := none
  sound : Bool := true

/-- A byte joins the text. A waiting half of a pair is thereby lost. -/
def PartialText.push (t : PartialText) (b : UInt8) : PartialText :=
  ⟨b :: t.bytes, none, t.sound && t.pending.isNone⟩

/-- A code point joins the text. -/
def PartialText.pushCode (t : PartialText) (code : Nat) : PartialText :=
  ⟨(String.utf8EncodeChar (Char.ofNat code)).reverse ++ t.bytes, none, t.sound⟩

/-- A code unit joins the text, a second half completing the first. -/
def PartialText.pushUnit (t : PartialText) (u : Nat) : PartialText :=
  if 0xD800 ≤ u ∧ u < 0xDC00 then { t with pending := some u, sound := t.sound && t.pending.isNone }
  else if 0xDC00 ≤ u ∧ u < 0xE000 then
    match t.pending with
    | some high => t.pushCode (0x10000 + (high - 0xD800) * 0x400 + (u - 0xDC00))
    | none => { t with sound := false }
  else { t with sound := t.sound && t.pending.isNone }.pushCode u

/-- The text, when the bytes are sound and are UTF-8. -/
def PartialText.finish (t : PartialText) : Option String :=
  if t.sound && t.pending.isNone then String.fromUTF8? ⟨t.bytes.reverse.toArray⟩ else none

/-- The rest of a string literal, up to and with its closing quote. -/
def readText? (t : PartialText) : List UInt8 → Option (Option String × List UInt8)
  | [] => none
  | b :: rest =>
    if b = 0x22 then some (t.finish, rest)
    else if b < 0x20 then none
    else if b ≠ 0x5C then readText? (t.push b) rest
    else
      match rest with
      | 0x75 :: a :: b :: c :: d :: rest =>
        match hexUnit? a b c d with
        | some u => readText? (t.pushUnit u) rest
        | none => none
      | e :: rest =>
        match shortEscape? e with
        | some b => readText? (t.push b) rest
        | none => none
      | [] => none

/-- The longest run of decimal digits at the start. -/
def takeDigits : List UInt8 → List UInt8 × List UInt8
  | bytes => bytes.span fun b => 48 ≤ b && b ≤ 57

/-- The value of a run of decimal digits. -/
def digitsValue (digits : List UInt8) : Nat :=
  digits.foldl (fun n b => 10 * n + (b.toNat - 48)) 0

/-- The digits after the point, if there is one. -/
def readFraction? : List UInt8 → Option (Option (List UInt8) × List UInt8)
  | 0x2E :: rest =>
    match takeDigits rest with
    | ([], _) => none
    | (digits, rest) => some (some digits, rest)
  | bytes => some (none, bytes)

/-- The exponent, if there is one. -/
def readExponent? : List UInt8 → Option (Option Int × List UInt8)
  | b :: rest =>
    if b = 0x65 ∨ b = 0x45 then
      let (negative, rest) :=
        match rest with
        | 0x2D :: rest => (true, rest)
        | 0x2B :: rest => (false, rest)
        | rest => (false, rest)
      match takeDigits rest with
      | ([], _) => none
      | (digits, rest) =>
        let n : Int := digitsValue digits
        some (some (if negative then -n else n), rest)
    else some (none, b :: rest)
  | [] => some (none, [])

/-- A number literal without its sign. -/
def readUnsigned? (negative : Bool) (bytes : List UInt8) : Option (Number × List UInt8) := do
  let (whole, rest) ←
    match takeDigits bytes with
    | ([], _) => none
    | (0x30 :: more, rest) => some ([0x30], more ++ rest)
    | (digits, rest) => some (digits, rest)
  let (fraction, rest) ← readFraction? rest
  let (exponent, rest) ← readExponent? rest
  match fraction, exponent with
  | none, none => return (.integer negative (digitsValue whole), rest)
  | _, _ =>
    let places := fraction.getD []
    return (.decimal negative (digitsValue (whole ++ places)) (exponent.getD 0 - places.length), rest)

/-- A number literal. -/
def readNumber? : List UInt8 → Option (Number × List UInt8)
  | 0x2D :: rest => readUnsigned? true rest
  | bytes => readUnsigned? false bytes

/-- The bytes after a given word. -/
def dropWord? : List UInt8 → List UInt8 → Option (List UInt8)
  | [], rest => some rest
  | w :: word, b :: rest => if w = b then dropWord? word rest else none
  | _ :: _, [] => none

mutual

/-- The value at the start of the bytes. Every byte of a value pays for at most one step, so
fuel beyond the number of bytes is never used. -/
def readValue? (fuel : Nat) (bytes : List UInt8) : Option (Value × List UInt8) :=
  match fuel with
  | 0 => none
  | fuel + 1 =>
    match skipBlanks bytes with
    | 0x22 :: rest => do
      let (text, rest) ← readText? {} rest
      return (.string text, rest)
    | 0x5B :: rest =>
      match skipBlanks rest with
      | 0x5D :: rest => some (.array [], rest)
      | rest => do
        let (items, rest) ← readItems? fuel rest
        return (.array items, rest)
    | 0x7B :: rest =>
      match skipBlanks rest with
      | 0x7D :: rest => some (.object [], rest)
      | rest => do
        let (members, rest) ← readMembers? fuel rest
        return (.object members, rest)
    | 0x6E :: rest => (dropWord? [0x75, 0x6C, 0x6C] rest).map fun rest => (.null, rest)
    | 0x74 :: rest => (dropWord? [0x72, 0x75, 0x65] rest).map fun rest => (.bool true, rest)
    | 0x66 :: rest => (dropWord? [0x61, 0x6C, 0x73, 0x65] rest).map fun rest => (.bool false, rest)
    | rest => (readNumber? rest).map fun (n, rest) => (.number n, rest)

/-- The elements of an array that has at least one, up to and with its closing bracket. -/
def readItems? (fuel : Nat) (bytes : List UInt8) : Option (List Value × List UInt8) :=
  match fuel with
  | 0 => none
  | fuel + 1 => do
    let (v, rest) ← readValue? fuel bytes
    match skipBlanks rest with
    | 0x2C :: rest =>
      let (items, rest) ← readItems? fuel rest
      return (v :: items, rest)
    | 0x5D :: rest => return ([v], rest)
    | _ => none

/-- The members of an object that has at least one, up to and with its closing brace. -/
def readMembers? (fuel : Nat) (bytes : List UInt8) :
    Option (List (Option String × Value) × List UInt8) :=
  match fuel with
  | 0 => none
  | fuel + 1 => do
    let (key, rest) ←
      match skipBlanks bytes with
      | 0x22 :: rest => readText? {} rest
      | _ => none
    let rest ←
      match skipBlanks rest with
      | 0x3A :: rest => some rest
      | _ => none
    let (v, rest) ← readValue? fuel rest
    match skipBlanks rest with
    | 0x2C :: rest =>
      let (members, rest) ← readMembers? fuel rest
      return ((key, v) :: members, rest)
    | 0x7D :: rest => return ([(key, v)], rest)
    | _ => none

end

/-- The value at the start of the bytes, with the bytes after it. -/
def read? (bytes : List UInt8) : Option (Value × List UInt8) :=
  readValue? (bytes.length + 1) bytes

/-- The value that a text holds, with nothing but blanks after it. -/
def readAll? (bytes : List UInt8) : Option Value := do
  let (v, rest) ← read? bytes
  if (skipBlanks rest).isEmpty then some v else none

/-- The value that a text holds. -/
def ofText? (text : String) : Option Value :=
  readAll? text.toUTF8.data.toList

end FormEngine.Json
