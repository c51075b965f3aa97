/-!
# Decimal numerals

A numeral is an optional sign and at least one ASCII digit; leading zeros are allowed, and
nothing else may stand around the digits. A signed numeral may start with `+` or `-` and denotes
a value only when that value fits sixty-four bits in two's complement. An unsigned numeral may
start with `+` and has to fit thirty-two bits.
-/

namespace FormEngine.Text

/-- The value of a non-empty list of ASCII digits. -/
def digitsValue? (cs : List Char) : Option Nat :=
  if cs.isEmpty || !cs.all Char.isDigit then none
  else some (cs.foldl (fun n c => 10 * n + (c.toNat - 48)) 0)

/-- The least and the greatest integer of sixty-four bits. -/
def minInt64 : Int := -Int.ofNat (Nat.pow 2 63)

@[inherit_doc minInt64]
def maxInt64 : Int := Int.ofNat (Nat.pow 2 63) - 1

/-- The integer that a signed numeral denotes, when it fits sixty-four bits. -/
def readInt64? (s : String) : Option Int :=
  let value? : Option Int :=
    match s.toList with
    | '+' :: digits => (digitsValue? digits).map Int.ofNat
    | '-' :: digits => (digitsValue? digits).map fun n => -Int.ofNat n
    | digits => (digitsValue? digits).map Int.ofNat
  value?.filter fun n => decide (minInt64 ≤ n) && decide (n ≤ maxInt64)

/-- The natural number that an unsigned numeral denotes, when it fits thirty-two bits. -/
def readNat32? (s : String) : Option Nat :=
  let value? :=
    match s.toList with
    | '+' :: digits => digitsValue? digits
    | digits => digitsValue? digits
  value?.filter fun n => decide (n < Nat.pow 2 32)

end FormEngine.Text
