import FormEngine.Json.Printer
import FormEngine.Json.Reader
import Mathlib.Data.List.TakeDrop
/-!
# The reader takes back what the printer wrote

A value whose strings and keys are texts is read back from its compact form, whatever follows
it, as long as what follows does not go on with a number. Strings are taken byte by byte, numbers
as a run of digits, arrays and objects by one induction over the value. The reader spends fuel
on every level and every item, and the length of the text pays for all of it.
-/

namespace FormEngine.Json

/-! ## Strings -/

theorem readText?_plain (t : PartialText) {b : UInt8} (rest : List UInt8) (hlow : 0x20 ≤ b)
    (hquote : b ≠ 0x22) (hslash : b ≠ 0x5C) :
    readText? t (b :: rest) = readText? (t.push b) rest := by
  have hnot : ¬ b < 0x20 := UInt8.not_lt.2 hlow
  rw [readText?.eq_def]
  simp [hquote, hslash, hnot]

theorem readText?_short (t : PartialText) {e b : UInt8} (rest : List UInt8)
    (hshort : shortEscape? e = some b) (hunit : e ≠ 0x75) :
    readText? t (0x5C :: e :: rest) = readText? (t.push b) rest := by
  rw [readText?.eq_def]
  simp [hshort, hunit]

theorem readText?_unit (t : PartialText) {a b c d : UInt8} {u : Nat} (rest : List UInt8)
    (hunit : hexUnit? a b c d = some u) :
    readText? t (0x5C :: 0x75 :: a :: b :: c :: d :: rest) = readText? (t.pushUnit u) rest := by
  rw [readText?.eq_def]
  simp [hunit]

/-- The code unit of a control character is the character itself. -/
theorem pushUnit_of_lt {t : PartialText} {b : UInt8} (hpending : t.pending = none)
    (hlow : b < 0x20) : t.pushUnit b.toNat = t.push b := by
  have hlt : b.toNat < 32 := UInt8.lt_iff_toNat_lt.1 hlow
  have hall : ∀ n : Fin 32, String.utf8EncodeChar (Char.ofNat n) = [UInt8.ofNat n] := by decide
  have hbyte : String.utf8EncodeChar (Char.ofNat b.toNat) = [b] := by
    have h := hall ⟨b.toNat, hlt⟩
    simpa using h
  have hlead : ¬ (0xD800 ≤ b.toNat ∧ b.toNat < 0xDC00) := by omega
  have htrail : ¬ (0xDC00 ≤ b.toNat ∧ b.toNat < 0xE000) := by omega
  simp [PartialText.pushUnit, PartialText.pushCode, PartialText.push, hlead, htrail, hbyte,
    hpending]

/-- A byte of a string is read back, and nothing else of the string changes. -/
theorem readText?_escapeByte (t : PartialText) (b : UInt8) (rest : List UInt8)
    (hpending : t.pending = none) :
    readText? t (escapeByte b ++ rest) = readText? (t.push b) rest := by
  unfold escapeByte
  split
  · subst b
    exact readText?_short t rest rfl (by decide)
  split
  · subst b
    exact readText?_short t rest rfl (by decide)
  split
  · exact readText?_plain t rest ‹_› ‹_› ‹_›
  -- What is left are the control characters, most of them without a letter of their own.
  split
  · subst b
    exact readText?_short t rest rfl (by decide)
  split
  · subst b
    exact readText?_short t rest rfl (by decide)
  split
  · subst b
    exact readText?_short t rest rfl (by decide)
  split
  · subst b
    exact readText?_short t rest rfl (by decide)
  split
  · subst b
    exact readText?_short t rest rfl (by decide)
  · rename_i hhigh _ _ _ _ _
    have hlow : b < 0x20 := UInt8.not_le.1 hhigh
    have hall : ∀ n : Fin 32,
        hexUnit? 0x30 0x30 (hexSymbol (n / 16)) (hexSymbol (n % 16)) = some n.val := by decide
    have hunit := hall ⟨b.toNat, UInt8.lt_iff_toNat_lt.1 hlow⟩
    rw [← pushUnit_of_lt hpending hlow]
    exact readText?_unit t rest hunit

/-- The text after more bytes. -/
def PartialText.pushAll (t : PartialText) (bytes : List UInt8) : PartialText :=
  bytes.foldl PartialText.push t

theorem readText?_escaped (t : PartialText) (bytes rest : List UInt8) (hpending : t.pending = none) :
    readText? t (bytes.flatMap escapeByte ++ rest) = readText? (t.pushAll bytes) rest := by
  induction bytes generalizing t with
  | nil => rfl
  | cons b bytes ih =>
    rw [List.flatMap_cons, List.append_assoc, readText?_escapeByte t b _ hpending, ih _ rfl]
    rfl

theorem pushAll_of_sound {t : PartialText} (bytes : List UInt8) (hpending : t.pending = none)
    (hsound : t.sound = true) : t.pushAll bytes = ⟨bytes.reverse ++ t.bytes, none, true⟩ := by
  induction bytes generalizing t with
  | nil => cases t; simp_all [PartialText.pushAll]
  | cons b bytes ih =>
    have h := ih (t := t.push b) rfl (by simp [PartialText.push, hsound, hpending])
    simp only [PartialText.pushAll, List.foldl_cons] at h ⊢
    rw [h]
    simp [PartialText.push]

/-- The bytes of a text are the bytes of that text. -/
theorem fromUTF8?_toUTF8 (s : String) :
    String.fromUTF8? ⟨s.toUTF8.data.toList.toArray⟩ = some s := by
  have hbytes : (⟨s.toUTF8.data.toList.toArray⟩ : ByteArray) = s.toByteArray := by simp
  rw [hbytes, String.fromUTF8?, dif_pos s.isValidUTF8]
  rfl

/-- The bytes of a text after its opening quote. -/
def quoted (s : String) : List UInt8 := s.toUTF8.data.toList.flatMap escapeByte ++ [0x22]

theorem writeText_eq (s : String) : writeText s = 0x22 :: quoted s := rfl

/-- **A text is read back** from between its quotes. -/
theorem readText?_quoted (s : String) (rest : List UInt8) :
    readText? {} (quoted s ++ rest) = some (some s, rest) := by
  rw [quoted, List.append_assoc, List.singleton_append]
  rw [readText?_escaped _ _ _ rfl, readText?.eq_def]
  simp only [if_true, pushAll_of_sound _ (t := {}) rfl rfl]
  have h := fromUTF8?_toUTF8 s
  simpa [PartialText.finish] using h

/-! ## Numbers -/

/-- The byte is a decimal digit. -/
def isDigitByte (b : UInt8) : Bool := 48 ≤ b && b ≤ 57

/-- The bytes go on with nothing that a number could go on with. -/
def EndsNumber (rest : List UInt8) : Prop :=
  ∀ b ∈ rest.head?, isDigitByte b = false ∧ b ≠ 0x2E ∧ b ≠ 0x65 ∧ b ≠ 0x45

theorem endsNumber_nil : EndsNumber [] := by
  intro b hb
  simp at hb

theorem endsNumber_cons {b : UInt8} (rest : List UInt8)
    (h : isDigitByte b = false ∧ b ≠ 0x2E ∧ b ≠ 0x65 ∧ b ≠ 0x45) : EndsNumber (b :: rest) := by
  intro c hc
  simp only [List.head?_cons, Option.mem_some_iff] at hc
  exact hc ▸ h

/-- The digit of a value below ten. -/
def digitByte (n : Nat) : UInt8 := UInt8.ofNat (n.digitChar).toNat

theorem digitByte_spec {n : Nat} (h : n < 10) :
    isDigitByte (digitByte n) = true ∧ (digitByte n).toNat - 48 = n ∧
      (digitByte n = 0x30 → n = 0) := by
  have hall : ∀ m : Fin 10, isDigitByte (digitByte m) = true ∧ (digitByte m).toNat - 48 = m.val ∧
      (digitByte m = 0x30 → m.val = 0) := by decide
  exact hall ⟨n, h⟩

theorem writeNat_of_lt {n : Nat} (h : n < 10) : writeNat n = [digitByte n] := by
  simp [writeNat, Nat.toDigits_of_lt_base h, digitByte]

theorem writeNat_of_ge {n : Nat} (h : 10 ≤ n) :
    writeNat n = writeNat (n / 10) ++ [digitByte (n % 10)] := by
  simp [writeNat, Nat.toDigits_of_base_le (by decide) h, digitByte]

/-- A number is written in digits. -/
theorem isDigitByte_of_mem_writeNat {n : Nat} {b : UInt8} (h : b ∈ writeNat n) :
    isDigitByte b = true := by
  induction n using Nat.strongRecOn with
  | _ n ih =>
    by_cases hlt : n < 10
    · rw [writeNat_of_lt hlt, List.mem_singleton] at h
      exact h ▸ (digitByte_spec hlt).1
    · rw [writeNat_of_ge (by omega), List.mem_append, List.mem_singleton] at h
      rcases h with h | rfl
      · exact ih (n / 10) (by omega) h
      · exact (digitByte_spec (by omega)).1

theorem writeNat_ne_nil (n : Nat) : writeNat n ≠ [] := by
  simp [writeNat]

theorem digitsValue_concat (digits : List UInt8) (b : UInt8) :
    digitsValue (digits ++ [b]) = 10 * digitsValue digits + (b.toNat - 48) := by
  simp [digitsValue]

/-- The digits of a number have its value. -/
theorem digitsValue_writeNat (n : Nat) : digitsValue (writeNat n) = n := by
  induction n using Nat.strongRecOn with
  | _ n ih =>
    by_cases hlt : n < 10
    · have h := (digitByte_spec hlt).2.1
      simp [writeNat_of_lt hlt, digitsValue, h]
    · have h := (digitByte_spec (n := n % 10) (by omega)).2.1
      rw [writeNat_of_ge (by omega), digitsValue_concat, ih (n / 10) (by omega), h]
      omega

/-- Only the number zero begins with a zero. -/
theorem writeNat_of_zero_cons {n : Nat} {more : List UInt8} (h : writeNat n = 0x30 :: more) :
    more = [] := by
  induction n using Nat.strongRecOn generalizing more with
  | _ n ih =>
    by_cases hlt : n < 10
    · rw [writeNat_of_lt hlt] at h
      exact (List.cons.inj h).2.symm
    · rw [writeNat_of_ge (by omega)] at h
      cases hfirst : writeNat (n / 10) with
      | nil => exact absurd hfirst (writeNat_ne_nil _)
      | cons b digits =>
        rw [hfirst, List.cons_append, List.cons.injEq] at h
        rw [h.1] at hfirst
        -- all but the last digit begin with the zero, so they are the zero, though `10 ≤ n`
        have hnil := ih (n / 10) (by omega) hfirst
        have hvalue := digitsValue_writeNat (n / 10)
        rw [hfirst, hnil] at hvalue
        have hzero : digitsValue [0x30] = 0 := by decide
        omega

theorem takeDigits_append {digits rest : List UInt8} (hdigits : ∀ b ∈ digits, isDigitByte b = true)
    (hrest : ∀ b ∈ rest.head?, isDigitByte b = false) :
    takeDigits (digits ++ rest) = (digits, rest) := by
  change (digits ++ rest).span isDigitByte = _
  rw [List.span_eq_takeWhile_dropWhile, List.takeWhile_append_of_pos hdigits,
    List.dropWhile_append_of_pos hdigits]
  cases rest with
  | nil => simp
  | cons b rest =>
    have hb := hrest b rfl
    simp [hb]

theorem takeDigits_writeNat (n : Nat) {rest : List UInt8} (hrest : EndsNumber rest) :
    takeDigits (writeNat n ++ rest) = (writeNat n, rest) :=
  takeDigits_append (fun _ => isDigitByte_of_mem_writeNat) fun b hb => (hrest b hb).1

theorem readFraction?_of_ne {rest : List UInt8} (h : ∀ b ∈ rest.head?, b ≠ 0x2E) :
    readFraction? rest = some (none, rest) := by
  unfold readFraction?
  split
  · exact absurd rfl (h _ rfl)
  · rfl

theorem readExponent?_of_ne {rest : List UInt8} (h : ∀ b ∈ rest.head?, b ≠ 0x65 ∧ b ≠ 0x45) :
    readExponent? rest = some (none, rest) := by
  cases rest with
  | nil => rfl
  | cons b rest =>
    have hb := h b rfl
    simp [readExponent?, hb.1, hb.2]

/-- The exponent that the printer writes. -/
theorem readExponent?_written (e : Int) {rest : List UInt8} (hrest : EndsNumber rest) :
    readExponent? (0x65 :: (writeSign (decide (e < 0)) ++ (writeNat e.natAbs ++ rest))) =
      some (some e, rest) := by
  have hdigits := takeDigits_writeNat e.natAbs hrest
  have hvalue := digitsValue_writeNat e.natAbs
  cases hw : writeNat e.natAbs with
  | nil => exact absurd hw (writeNat_ne_nil _)
  | cons b digits =>
    have hb : isDigitByte b = true := isDigitByte_of_mem_writeNat (hw ▸ List.mem_cons_self)
    -- after `e` the reader looks for a sign first, and a digit is none
    have hsign : b ≠ 0x2D ∧ b ≠ 0x2B := by
      constructor <;> rintro rfl <;> exact absurd hb (by decide)
    rw [hw, List.cons_append] at hdigits
    rw [hw] at hvalue
    by_cases hneg : e < 0
    · have habs : -((e.natAbs : Nat) : Int) = e := by omega
      simp only [readExponent?, writeSign, hneg, List.cons_append, List.nil_append, decide_true,
        if_true, true_or, hdigits, hvalue, habs]
    · have habs : ((e.natAbs : Nat) : Int) = e := by omega
      simp [readExponent?, writeSign, hneg, hsign.1, hsign.2, hdigits, hvalue, habs]

/-- The digits of a number are taken whole, also when the first of them is a zero; then come the
fraction and the exponent. -/
theorem readUnsigned?_writeNat (negative : Bool) (m : Nat) {rest rest' : List UInt8}
    {exponent : Option Int} (hrest : ∀ b ∈ rest.head?, isDigitByte b = false ∧ b ≠ 0x2E)
    (hexponent : readExponent? rest = some (exponent, rest')) :
    readUnsigned? negative (writeNat m ++ rest) =
      some (match exponent with
        | none => (.integer negative m, rest')
        | some e => (.decimal negative m e, rest')) := by
  have htake := takeDigits_append (fun _ => isDigitByte_of_mem_writeNat (n := m))
    fun b hb => (hrest b hb).1
  have hfraction := readFraction?_of_ne fun b hb => (hrest b hb).2
  have hvalue := digitsValue_writeNat m
  unfold readUnsigned?
  rw [htake]
  split
  · rename_i h
    exact absurd (congrArg Prod.fst h) (writeNat_ne_nil m)
  · rename_i more _ h
    obtain ⟨hdigits, rfl⟩ := Prod.mk.inj h
    -- a zero ends the integer at once, which is right because nothing but `0` begins with it
    obtain rfl := writeNat_of_zero_cons hdigits
    rw [hdigits] at hvalue
    cases exponent <;> simp [hfraction, hexponent, hvalue]
  · rename_i h
    obtain ⟨rfl, rfl⟩ := Prod.mk.inj h
    cases exponent <;> simp [hfraction, hexponent, hvalue]

/-- **A number is read back**, whatever follows that does not go on with it. -/
theorem readNumber?_writeNumber (n : Number) {rest : List UInt8} (hrest : EndsNumber rest) :
    readNumber? (writeNumber n ++ rest) = some (n, rest) := by
  -- without a sign the digits come first, and no digit is a minus
  have hsigned : ∀ negative m tail,
      readNumber? (writeSign negative ++ (writeNat m ++ tail)) =
        readUnsigned? negative (writeNat m ++ tail) := by
    intro negative m tail
    cases negative with
    | true => rfl
    | false =>
      cases hw : writeNat m with
      | nil => exact absurd hw (writeNat_ne_nil m)
      | cons b digits =>
        have hb : isDigitByte b = true := isDigitByte_of_mem_writeNat (hw ▸ List.mem_cons_self)
        have hsign : b ≠ 0x2D := by
          rintro rfl
          exact absurd hb (by decide)
        simp [readNumber?, writeSign, hsign]
  cases n with
  | integer negative m =>
    have hexponent : readExponent? rest = some (none, rest) :=
      readExponent?_of_ne fun b hb => ⟨(hrest b hb).2.2.1, (hrest b hb).2.2.2⟩
    rw [writeNumber, List.append_assoc, hsigned,
      readUnsigned?_writeNat negative m (fun b hb => ⟨(hrest b hb).1, (hrest b hb).2.1⟩) hexponent]
  | decimal negative m e =>
    have hexponent := readExponent?_written e hrest
    simp only [writeNumber, List.append_assoc, List.cons_append]
    rw [hsigned, readUnsigned?_writeNat negative m (by simp; decide) hexponent]

/-! ## Values -/

/-- The byte is one that JSON skips between two tokens. -/
def IsSkipped (b : UInt8) : Prop := b = 0x20 ∨ b = 0x0A ∨ b = 0x09 ∨ b = 0x0D

theorem skipBlanks_cons {b : UInt8} (rest : List UInt8) (h : ¬ IsSkipped b) :
    skipBlanks (b :: rest) = b :: rest := by
  rw [skipBlanks]
  exact if_neg h

/-- A byte that a value begins with: no blank and no closing bracket. -/
def BeginsValue (b : UInt8) : Prop := ¬ IsSkipped b ∧ b ≠ 0x5D ∧ b ≠ 0x7D

instance (b : UInt8) : Decidable (BeginsValue b) := by
  unfold BeginsValue IsSkipped
  infer_instance

/-- A number begins with a minus sign or a digit, and by this byte the reader knows it. -/
def BeginsNumber (b : UInt8) : Prop := b = 0x2D ∨ isDigitByte b = true

theorem BeginsNumber.ne {b c : UInt8} (h : BeginsNumber b) (hc : c ≠ 0x2D)
    (hdigit : isDigitByte c = false) : b ≠ c := by
  rintro rfl
  rcases h with h | h
  · exact hc h
  · rw [hdigit] at h
    contradiction

theorem BeginsNumber.beginsValue {b : UInt8} (h : BeginsNumber b) : BeginsValue b := by
  refine ⟨?_, h.ne (by decide) (by decide), h.ne (by decide) (by decide)⟩
  rintro (rfl | rfl | rfl | rfl) <;> revert h <;> unfold BeginsNumber <;> decide

theorem writeNumber_head (n : Number) :
    ∃ b more, writeNumber n = b :: more ∧ BeginsNumber b := by
  have hsigned : ∀ negative m tail, ∃ b more,
      writeSign negative ++ (writeNat m ++ tail) = b :: more ∧ BeginsNumber b := by
    intro negative m tail
    cases negative with
    | true => exact ⟨0x2D, _, rfl, .inl rfl⟩
    | false =>
      cases hw : writeNat m with
      | nil => exact absurd hw (writeNat_ne_nil m)
      | cons b digits =>
        exact ⟨b, digits ++ tail, rfl, .inr (isDigitByte_of_mem_writeNat (hw ▸ List.mem_cons_self))⟩
  cases n with
  | integer negative m =>
    have h := hsigned negative m []
    rwa [List.append_nil] at h
  | decimal negative m e =>
    have h := hsigned negative m (0x65 :: (writeSign (decide (e < 0)) ++ writeNat e.natAbs))
    simpa [writeNumber] using h

theorem write_head (v : Value) : ∃ b more, write v = b :: more ∧ BeginsValue b := by
  cases v with
  | null => exact ⟨_, _, rfl, by decide⟩
  | bool b => cases b <;> exact ⟨_, _, rfl, by decide⟩
  | number n =>
    obtain ⟨b, more, hw, hb⟩ := writeNumber_head n
    exact ⟨b, more, hw, hb.beginsValue⟩
  | string t => exact ⟨_, _, rfl, by decide⟩
  | array items => exact ⟨_, _, rfl, by decide⟩
  | object members => exact ⟨_, _, rfl, by decide⟩

theorem readValue?_of_number {b : UInt8} (h : BeginsNumber b) (fuel : Nat) (rest : List UInt8) :
    readValue? (fuel + 1) (b :: rest) =
      (readNumber? (b :: rest)).map fun (n, rest) => (.number n, rest) := by
  have h₁ := h.ne (c := 0x22) (by decide) (by decide)
  have h₂ := h.ne (c := 0x5B) (by decide) (by decide)
  have h₃ := h.ne (c := 0x7B) (by decide) (by decide)
  have h₄ := h.ne (c := 0x6E) (by decide) (by decide)
  have h₅ := h.ne (c := 0x74) (by decide) (by decide)
  have h₆ := h.ne (c := 0x66) (by decide) (by decide)
  rw [readValue?, skipBlanks_cons rest h.beginsValue.1]
  simp [h₁, h₂, h₃, h₄, h₅, h₆]

/-- Anything that follows a value inside a container ends a number. -/
theorem endsNumber_separator (rest : List UInt8) :
    EndsNumber (0x2C :: rest) ∧ EndsNumber (0x5D :: rest) ∧ EndsNumber (0x7D :: rest) :=
  ⟨endsNumber_cons rest (by decide), endsNumber_cons rest (by decide),
    endsNumber_cons rest (by decide)⟩

/-- The members of an object begin with a quote or are none. -/
theorem writeMembers_cons (key : Option String) (v : Value) (members : List (Option String × Value)) :
    writeMembers ((key, v) :: members) =
      writeText (key.getD "") ++ 0x3A :: (write v ++
        match members with
        | [] => [0x7D]
        | _ :: _ => 0x2C :: writeMembers members) := by
  cases members <;> simp [writeMembers]

theorem writeItems_cons (v : Value) (items : List Value) :
    writeItems (v :: items) =
      write v ++
        match items with
        | [] => [0x5D]
        | _ :: _ => 0x2C :: writeItems items := by
  cases items <;> simp [writeItems]

/-! ### Steps of the reader inside containers -/

theorem readValue?_array {b : UInt8} (h : BeginsValue b) (fuel : Nat) (rest : List UInt8) :
    readValue? (fuel + 1) (0x5B :: b :: rest) =
      (readItems? fuel (b :: rest)).map fun (items, rest) => (.array items, rest) := by
  have hskip := skipBlanks_cons rest h.1
  have hopen : skipBlanks (0x5B :: b :: rest) = 0x5B :: b :: rest := rfl
  rw [readValue?, hopen]
  simp only [hskip]
  split
  · exact absurd (List.cons.inj ‹_›).1 h.2.1
  · cases readItems? fuel (b :: rest) <;> rfl

theorem readValue?_object (fuel : Nat) (rest : List UInt8) :
    readValue? (fuel + 1) (0x7B :: 0x22 :: rest) =
      (readMembers? fuel (0x22 :: rest)).map fun (members, rest) => (.object members, rest) := by
  have hopen : skipBlanks (0x7B :: 0x22 :: rest) = 0x7B :: 0x22 :: rest := rfl
  have hskip : skipBlanks (0x22 :: rest) = 0x22 :: rest := rfl
  rw [readValue?, hopen]
  simp only [hskip]
  split
  · exact absurd (List.cons.inj ‹_›).1 (by decide)
  · cases readMembers? fuel (0x22 :: rest) <;> rfl

theorem readItems?_last {v : Value} {fuel : Nat} {bytes rest : List UInt8}
    (h : readValue? fuel bytes = some (v, 0x5D :: rest)) :
    readItems? (fuel + 1) bytes = some ([v], rest) := by
  have hskip : skipBlanks (0x5D :: rest) = 0x5D :: rest := rfl
  rw [readItems?, h]
  simp only [Option.bind_eq_bind, Option.bind_some, hskip]
  rfl

theorem readItems?_more {v : Value} {items : List Value} {fuel : Nat}
    {bytes rest rest' : List UInt8} (h : readValue? fuel bytes = some (v, 0x2C :: rest))
    (hmore : readItems? fuel rest = some (items, rest')) :
    readItems? (fuel + 1) bytes = some (v :: items, rest') := by
  have hskip : skipBlanks (0x2C :: rest) = 0x2C :: rest := rfl
  rw [readItems?, h]
  simp only [Option.bind_eq_bind, Option.bind_some, hskip, hmore]
  rfl

theorem readMembers?_last {key : String} {v : Value} {fuel : Nat} {bytes rest : List UInt8}
    (h : readValue? fuel bytes = some (v, 0x7D :: rest)) :
    readMembers? (fuel + 1) (0x22 :: (quoted key ++ 0x3A :: bytes)) =
      some ([(some key, v)], rest) := by
  have hopen : skipBlanks (0x22 :: (quoted key ++ 0x3A :: bytes)) =
      0x22 :: (quoted key ++ 0x3A :: bytes) := rfl
  have hcolon : skipBlanks (0x3A :: bytes) = 0x3A :: bytes := rfl
  have hclose : skipBlanks (0x7D :: rest) = 0x7D :: rest := rfl
  rw [readMembers?, hopen]
  simp only [readText?_quoted, Option.bind_eq_bind, Option.bind_some, hcolon, h, hclose]
  rfl

theorem readMembers?_more {key : String} {v : Value} {members : List (Option String × Value)}
    {fuel : Nat} {bytes rest rest' : List UInt8}
    (h : readValue? fuel bytes = some (v, 0x2C :: rest))
    (hmore : readMembers? fuel rest = some (members, rest')) :
    readMembers? (fuel + 1) (0x22 :: (quoted key ++ 0x3A :: bytes)) =
      some ((some key, v) :: members, rest') := by
  have hopen : skipBlanks (0x22 :: (quoted key ++ 0x3A :: bytes)) =
      0x22 :: (quoted key ++ 0x3A :: bytes) := rfl
  have hcolon : skipBlanks (0x3A :: bytes) = 0x3A :: bytes := rfl
  have hcomma : skipBlanks (0x2C :: rest) = 0x2C :: rest := rfl
  rw [readMembers?, hopen]
  simp only [readText?_quoted, Option.bind_eq_bind, Option.bind_some, hcolon, h, hcomma, hmore]
  rfl

/-! ### All values -/

mutual

/-- **A strict value is read back.** -/
theorem readValue?_write : ∀ (v : Value) (fuel : Nat) (rest : List UInt8),
    v.isStrict = true → EndsNumber rest → (write v).length ≤ fuel →
      readValue? fuel (write v ++ rest) = some (v, rest)
  | .null, fuel + 1, rest, _, _, _ => by rfl
  | .bool true, fuel + 1, rest, _, _, _ => by rfl
  | .bool false, fuel + 1, rest, _, _, _ => by rfl
  | .number n, fuel + 1, rest, _, hrest, _ => by
    obtain ⟨b, more, hw, hb⟩ := writeNumber_head n
    have hread := readNumber?_writeNumber n hrest
    rw [hw, List.cons_append] at hread
    rw [write, hw, List.cons_append, readValue?_of_number hb, hread]
    rfl
  | .string (some s), fuel + 1, rest, _, _, _ => by
    have hopen : skipBlanks (0x22 :: (quoted s ++ rest)) = 0x22 :: (quoted s ++ rest) := rfl
    rw [write, Option.getD_some, writeText_eq, List.cons_append, readValue?, hopen]
    simp only [readText?_quoted]
    rfl
  | .array [], fuel + 1, rest, _, _, _ => by rfl
  | .array (v :: items), fuel + 1, rest, hstrict, _, hfuel => by
    have hlength : (writeItems (v :: items)).length ≤ fuel := by
      simp only [write, List.length_cons] at hfuel
      omega
    have hread := readItems?_write v items fuel rest hstrict hlength
    obtain ⟨b, more, hw, hb⟩ := write_head v
    rw [writeItems_cons, hw, List.cons_append, List.cons_append] at hread
    rw [write, writeItems_cons, hw, List.cons_append, List.cons_append, List.cons_append,
      readValue?_array hb, hread]
    rfl
  | .object [], fuel + 1, rest, _, _, _ => by rfl
  | .object ((key, v) :: members), fuel + 1, rest, hstrict, _, hfuel => by
    have hlength : (writeMembers ((key, v) :: members)).length ≤ fuel := by
      simp only [write, List.length_cons] at hfuel
      omega
    have hread := readMembers?_write key v members fuel rest hstrict hlength
    rw [writeMembers_cons, writeText_eq, List.cons_append, List.cons_append] at hread
    rw [write, writeMembers_cons, writeText_eq, List.cons_append, List.cons_append,
      List.cons_append, readValue?_object, hread]
    rfl
  | .string none, _, _, hstrict, _, _ => by simp [Value.isStrict] at hstrict
  | v, 0, _, _, _, hfuel => by
    obtain ⟨b, more, hw, -⟩ := write_head v
    simp [hw] at hfuel

theorem readItems?_write : ∀ (v : Value) (items : List Value) (fuel : Nat) (rest : List UInt8),
    areStrict (v :: items) = true → (writeItems (v :: items)).length ≤ fuel →
      readItems? fuel (writeItems (v :: items) ++ rest) = some (v :: items, rest)
  | v, items, 0, rest, hstrict, hfuel => by
    obtain ⟨b, more, hw, -⟩ := write_head v
    simp [writeItems_cons, hw] at hfuel
  | v, [], fuel + 1, rest, hstrict, hfuel => by
    rw [writeItems_cons] at hfuel ⊢
    simp only [List.length_append, List.length_singleton] at hfuel
    simp only [areStrict, Bool.and_eq_true] at hstrict
    have hread := readValue?_write v fuel (0x5D :: rest) hstrict.1 (endsNumber_separator rest).2.1
      (by omega)
    rw [List.append_assoc, List.singleton_append]
    exact readItems?_last hread
  | v, w :: items, fuel + 1, rest, hstrict, hfuel => by
    rw [writeItems_cons] at hfuel ⊢
    simp only [List.length_append, List.length_cons] at hfuel
    rw [areStrict, Bool.and_eq_true] at hstrict
    have hread := readValue?_write v fuel (0x2C :: (writeItems (w :: items) ++ rest)) hstrict.1
      (endsNumber_separator _).1 (by omega)
    have hitems := readItems?_write w items fuel rest hstrict.2 (by omega)
    rw [List.append_assoc, List.cons_append]
    exact readItems?_more hread hitems

theorem readMembers?_write : ∀ (key : Option String) (v : Value)
    (members : List (Option String × Value)) (fuel : Nat) (rest : List UInt8),
    membersAreStrict ((key, v) :: members) = true →
      (writeMembers ((key, v) :: members)).length ≤ fuel →
        readMembers? fuel (writeMembers ((key, v) :: members) ++ rest) =
          some ((key, v) :: members, rest)
  | none, v, members, fuel, rest, hstrict, _ => by simp [membersAreStrict] at hstrict
  | some key, v, members, 0, rest, hstrict, hfuel => by
    simp [writeMembers_cons, writeText_eq] at hfuel
  | some key, v, [], fuel + 1, rest, hstrict, hfuel => by
    rw [writeMembers_cons, writeText_eq] at hfuel ⊢
    simp only [List.length_append, List.length_cons, List.length_nil] at hfuel
    simp only [membersAreStrict, Bool.and_eq_true] at hstrict
    have hread := readValue?_write v fuel (0x7D :: rest) hstrict.1.2 (endsNumber_separator rest).2.2
      (by omega)
    simp only [Option.getD_some, List.cons_append, List.append_assoc, List.nil_append]
    exact readMembers?_last hread
  | some key, v, m :: members, fuel + 1, rest, hstrict, hfuel => by
    obtain ⟨k, w⟩ := m
    rw [writeMembers_cons, writeText_eq] at hfuel ⊢
    simp only [List.length_append, List.length_cons] at hfuel
    rw [membersAreStrict, Bool.and_eq_true, Bool.and_eq_true] at hstrict
    have hread := readValue?_write v fuel (0x2C :: (writeMembers ((k, w) :: members) ++ rest))
      hstrict.1.2 (endsNumber_separator _).1 (by omega)
    have hmembers := readMembers?_write k w members fuel rest hstrict.2 (by omega)
    simp only [Option.getD_some, List.cons_append, List.append_assoc]
    exact readMembers?_more hread hmembers

end

/-- **The value of a text that the printer wrote**, with what follows it. -/
theorem read?_write {v : Value} (hstrict : v.isStrict = true) {rest : List UInt8}
    (hrest : EndsNumber rest) : read? (write v ++ rest) = some (v, rest) := by
  refine readValue?_write v _ rest hstrict hrest ?_
  rw [List.length_append]
  omega

end FormEngine.Json
