/-!
# State tokens

A client names a state by a token. A direct token is the encoded state itself. An indirect one
is a key in a store, and the first five bytes, of which the last is a colon, are the mark that
says in which store.
-/

namespace FormEngine

/-- A state as a client names it. -/
inductive StateToken where
  | direct (encoded : String)
  | indirect (mark key : String)
  deriving DecidableEq, Repr

namespace StateToken

/-- The mark of the store that outlives sessions. -/
def persistentMark : String := "pers:"

/-- The mark of the store of a session. -/
def sessionMark : String := "sess:"

/-- The number of bytes of a mark before its colon. -/
def colonOffset : Nat := 4

/-- A text cut after its first `n` bytes of UTF-8, where a character ends there. -/
def splitAtByte? : Nat → List Char → Option (List Char × List Char)
  | 0, cs => some ([], cs)
  | _ + 1, [] => none
  | n + 1, c :: cs =>
    if c.utf8Size ≤ n + 1 then
      (splitAtByte? (n + 1 - c.utf8Size) cs).map fun (head, rest) => (c :: head, rest)
    else none

/-- A cut loses no character. -/
theorem append_of_splitAtByte? {n : Nat} {cs head rest : List Char}
    (h : splitAtByte? n cs = some (head, rest)) : head ++ rest = cs := by
  fun_induction splitAtByte? n cs generalizing head rest with
  | case1 => simp_all
  | case2 => simp at h
  | case3 n c cs _ ih =>
    simp only [Option.map_eq_some_iff, Prod.exists, Prod.mk.injEq] at h
    obtain ⟨head', rest', h', rfl, rfl⟩ := h
    simp [ih h']
  | case4 => simp at h

/-- The token of a text. -/
def parse (token : String) : StateToken :=
  match splitAtByte? colonOffset token.toList with
  | some (head, ':' :: key) => .indirect (String.ofList (head ++ [':'])) (String.ofList key)
  | _ => .direct token

def isIndirect : StateToken → Bool
  | .direct _ => false
  | .indirect _ _ => true

/-- The mark of an indirect token. -/
def mark? : StateToken → Option String
  | .direct _ => none
  | .indirect mark _ => some mark

/-- The key of an indirect token, and all of a direct one. -/
def key : StateToken → String
  | .direct encoded => encoded
  | .indirect _ key => key

/-- Only a request of a session can name a state by this token. -/
def needsSession (t : StateToken) : Bool :=
  t.mark? == some persistentMark || t.mark? == some sessionMark

end StateToken

end FormEngine
