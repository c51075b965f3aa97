/-!
# Base64 for URLs

Bytes as text over the sixty-four characters `A`–`Z`, `a`–`z`, `0`–`9`, `-`, `_`, six bits a
character, most significant bits first and without padding. A group of three bytes takes four
characters; a last group of one or two bytes takes two or three, and the bits that such a
group leaves over are zero. Reading accepts exactly what writing produces: a foreign
character, a lone last character and a left-over bit that is not zero are refused.
-/

namespace FormEngine.Text.Base64Url

/-- The character of a six-bit value. -/
def symbol (n : Nat) : Char :=
  if n < 26 then Char.ofNat (65 + n)
  else if n < 52 then Char.ofNat (97 + (n - 26))
  else if n < 62 then Char.ofNat (48 + (n - 52))
  else if n = 62 then '-' else '_'

/-- The six-bit value of a character of the alphabet. -/
def value? (c : Char) : Option Nat :=
  let n := c.toNat
  if 65 ≤ n && n ≤ 90 then some (n - 65)
  else if 97 ≤ n && n ≤ 122 then some (n - 97 + 26)
  else if 48 ≤ n && n ≤ 57 then some (n - 48 + 52)
  else if c = '-' then some 62
  else if c = '_' then some 63
  else none

/-- Bytes as characters of the alphabet. -/
def encode : List UInt8 → List Char
  | [] => []
  | [a] =>
    let n := a.toNat
    [symbol (n / 4), symbol (n % 4 * 16)]
  | [a, b] =>
    let n := a.toNat * 256 + b.toNat
    [symbol (n / 1024), symbol (n / 16 % 64), symbol (n % 16 * 4)]
  | a :: b :: c :: rest =>
    let n := a.toNat * 65536 + b.toNat * 256 + c.toNat
    symbol (n / 262144) :: symbol (n / 4096 % 64) :: symbol (n / 64 % 64) :: symbol (n % 64) ::
      encode rest

/-- The bytes that a text in the alphabet stands for. -/
def decode : List Char → Option (List UInt8)
  | [] => some []
  | [_] => none
  | [c, d] => do
    let n := (← value? c) * 64 + (← value? d)
    guard (n % 16 = 0)
    return [UInt8.ofNat (n / 16)]
  | [c, d, e] => do
    let n := (← value? c) * 4096 + (← value? d) * 64 + (← value? e)
    guard (n % 4 = 0)
    return [UInt8.ofNat (n / 1024), UInt8.ofNat (n / 4 % 256)]
  | c :: d :: e :: f :: rest => do
    let n := (← value? c) * 262144 + (← value? d) * 4096 + (← value? e) * 64 + (← value? f)
    let bytes ← decode rest
    return UInt8.ofNat (n / 65536) :: UInt8.ofNat (n / 256 % 256) :: UInt8.ofNat (n % 256) :: bytes

end FormEngine.Text.Base64Url
