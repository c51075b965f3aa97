/-!
# JSON values

A value keeps what its text says and no more: members stand in the order in which they were
written, repeated keys included, and a number is the literal that was written, not the float
it denotes. A string literal may fail to denote Unicode text, because it holds half of a
surrogate pair or bytes that are not UTF-8; such a literal is `none`. It does no harm in a
value that nobody looks at, and `isStrict` finds it in one that somebody does.
-/

namespace FormEngine.Json

/-- A number literal: an integer, or a significand with a decimal exponent. -/
inductive Number where
  | integer (negative : Bool) (magnitude : Nat)
  | decimal (negative : Bool) (significand : Nat) (exponent : Int)
  deriving DecidableEq, Repr, Inhabited

/-- A JSON value. -/
inductive Value where
  | null
  | bool (b : Bool)
  | number (n : Number)
  | string (text : Option String)
  | array (items : List Value)
  | object (members : List (Option String × Value))
  deriving Repr, Inhabited

/-! ## Building values -/

/-- The value of a text. -/
def Value.text (s : String) : Value := .string (some s)

/-- The value of a natural number. -/
def Value.nat (n : Nat) : Value := .number (.integer false n)

/-- The value of an integer. -/
def Value.int (n : Int) : Value := .number (.integer (decide (n < 0)) n.natAbs)

/-- An object with the given members. -/
def Value.record (members : List (String × Value)) : Value :=
  .object (members.map fun m => (some m.1, m.2))

/-- An optional value, `null` when there is none. -/
def Value.ofOption {α : Type} (f : α → Value) : Option α → Value
  | none => .null
  | some a => f a

/-- An array of the images of a list's elements. -/
def Value.list {α : Type} (f : α → Value) (xs : List α) : Value := .array (xs.map f)

/-! ## Numbers in range -/

/-- The least magnitude that rounds to an infinite double. -/
def overflowThreshold : Nat := Nat.pow 2 1024 - Nat.pow 2 970

/-- The literal denotes a finite double. -/
def Number.isFinite : Number → Bool
  | .integer _ m => decide (m < overflowThreshold)
  | .decimal _ m e =>
    if m = 0 then true
    else if 0 ≤ e then decide (e ≤ 308) && decide (m * Nat.pow 10 e.toNat < overflowThreshold)
    else if (m.log2 : Int) < -e * 3 then true
    else decide (m < overflowThreshold * Nat.pow 10 (-e).toNat)

mutual

/-- Every string and key of the value is text and every number is finite. -/
def Value.isStrict : Value → Bool
  | .null | .bool _ => true
  | .number n => n.isFinite
  | .string t => t.isSome
  | .array items => areStrict items
  | .object members => membersAreStrict members

@[inherit_doc Value.isStrict]
def areStrict : List Value → Bool
  | [] => true
  | v :: rest => v.isStrict && areStrict rest

@[inherit_doc Value.isStrict]
def membersAreStrict : List (Option String × Value) → Bool
  | [] => true
  | (key, v) :: rest => key.isSome && v.isStrict && membersAreStrict rest

end

mutual

/-- The number of arrays and objects that the deepest part of a value stands in. -/
def Value.depth : Value → Nat
  | .null | .bool _ | .number _ | .string _ => 0
  | .array items => depthOfItems items + 1
  | .object members => depthOfMembers members + 1

@[inherit_doc Value.depth]
def depthOfItems : List Value → Nat
  | [] => 0
  | v :: rest => max v.depth (depthOfItems rest)

@[inherit_doc Value.depth]
def depthOfMembers : List (Option String × Value) → Nat
  | [] => 0
  | (_, v) :: rest => max v.depth (depthOfMembers rest)

end

/-! ## Taking values apart -/

/-- The text of a string. -/
def Value.asText? : Value → Option String
  | .string t => t
  | _ => none

/-- The boolean. -/
def Value.asBool? : Value → Option Bool
  | .bool b => some b
  | _ => none

/-- The natural number, when it is below `bound`. A zero with a minus sign is none. -/
def Value.asNatBelow? (bound : Nat) : Value → Option Nat
  | .number (.integer false m) => if m < bound then some m else none
  | _ => none

/-- The integer, when it fits sixty-four bits. A zero with a minus sign is none. -/
def Value.asInt64? : Value → Option Int
  | .number (.integer false m) => if m < Nat.pow 2 63 then some m else none
  | .number (.integer true m) => if 0 < m ∧ m ≤ Nat.pow 2 63 then some (-(m : Int)) else none
  | _ => none

/-- The elements of an array, each taken apart by `f`. -/
def Value.asList? {α : Type} (f : Value → Option α) : Value → Option (List α)
  | .array items => items.mapM f
  | _ => none

/-- `null` or what `f` takes. -/
def Value.asNullable? {α : Type} (f : Value → Option α) : Value → Option (Option α)
  | .null => some none
  | v => (f v).map some

/-- The values of the members with a given key, in order. -/
def valuesOf (name : String) (members : List (Option String × Value)) : List Value :=
  (members.filter fun m => m.1 == some name).map Prod.snd

/-- The one value under a key: `some none` when the key does not occur, `none` when it
occurs twice. -/
def onlyValue? (name : String) (members : List (Option String × Value)) : Option (Option Value) :=
  match valuesOf name members with
  | [] => some none
  | [v] => some (some v)
  | _ => none

/-- The fields of a record by name. A record is written as an object, where members under
other keys are passed over and a field must not occur twice, or as an array of the fields in
order, where fields at the end may be left out. -/
def Value.fields? (names : List String) : Value → Option (List (Option Value))
  | .object members =>
    if members.all fun m => m.1.isSome then names.mapM fun name => onlyValue? name members
    else none
  | .array items =>
    if items.length ≤ names.length then
      some (items.map some ++ List.replicate (names.length - items.length) none)
    else none
  | _ => none

/-- An association with the value of a key replaced where it stands, or put at the end. -/
def assign {α : Type} (key : String) (value : α) : List (String × α) → List (String × α)
  | [] => [(key, value)]
  | (k, v) :: rest => if k = key then (k, value) :: rest else (k, v) :: assign key value rest

/-- The entries of an object, each value taken apart by `f`. The last value of a repeated key
counts, at the place of the first. -/
def Value.asMap? {α : Type} (f : Value → Option α) : Value → Option (List (String × α))
  | .object members =>
    members.foldlM (fun entries m => do return assign (← m.1) (← f m.2) entries) []
  | _ => none

/-- A field that has to be there. -/
def required {α : Type} (f : Value → Option α) : Option Value → Option α
  | some v => f v
  | none => none

/-- A field that may be left out. -/
def optional {α : Type} (f : Value → Option α) (default : α) : Option Value → Option α
  | some v => f v
  | none => some default

end FormEngine.Json
