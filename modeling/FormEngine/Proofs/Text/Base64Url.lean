import FormEngine.Text.Base64Url
import FormEngine.Text.Blank
import Mathlib.Data.Option.Basic
/-!
# Base64 gives back what it was given

Reading undoes writing, group by group. What is written stays inside the alphabet, which has
neither a blank nor a full stop, so a text in base64 can be cut off at the first full stop and
blanks around it can go.
-/

namespace FormEngine.Text.Base64Url

/-! ## Symbols -/

/-- Every six-bit value is read back from its character. -/
theorem value?_symbol {n : Nat} (h : n < 64) : value? (symbol n) = some n := by
  have hall : ∀ m : Fin 64, value? (symbol m) = some m.val := by decide
  exact hall ⟨n, h⟩

/-- The characters of the alphabet. -/
def IsSymbol (c : Char) : Prop := ∃ n < 64, c = symbol n

theorem isSymbol_symbol {n : Nat} (h : n < 64) : IsSymbol (symbol n) := ⟨n, h, rfl⟩

theorem IsSymbol.ne_stop {c : Char} (h : IsSymbol c) : c ≠ '.' := by
  obtain ⟨n, hn, rfl⟩ := h
  have hall : ∀ m : Fin 64, symbol m ≠ '.' := by decide
  exact hall ⟨n, hn⟩

theorem IsSymbol.not_blank {c : Char} (h : IsSymbol c) : isBlank c = false := by
  obtain ⟨n, hn, rfl⟩ := h
  have hall : ∀ m : Fin 64, isBlank (symbol m) = false := by decide
  exact hall ⟨n, hn⟩

/-! ## Texts -/

/-- Only characters of the alphabet are written. -/
theorem isSymbol_of_mem_encode {bytes : List UInt8} {c : Char} (h : c ∈ encode bytes) :
    IsSymbol c := by
  fun_induction encode bytes with
  | case1 => simp at h
  | case2 a n =>
    have ha := a.toNat_lt
    simp only [List.mem_cons, List.not_mem_nil, or_false] at h
    rcases h with rfl | rfl <;> exact isSymbol_symbol (by omega)
  | case3 a b n =>
    have ha := a.toNat_lt
    have hb := b.toNat_lt
    simp only [List.mem_cons, List.not_mem_nil, or_false] at h
    rcases h with rfl | rfl | rfl <;> exact isSymbol_symbol (by omega)
  | case4 a b c' rest n ih =>
    have ha := a.toNat_lt
    have hb := b.toNat_lt
    have hc := c'.toNat_lt
    simp only [List.mem_cons] at h
    rcases h with rfl | rfl | rfl | rfl | h
    iterate 4 exact isSymbol_symbol (by omega)
    exact ih h

/-- A byte is found again in the number of its group. -/
theorem ofNat_eq_of_toNat {a : UInt8} {n : Nat} (h : n = a.toNat) : UInt8.ofNat n = a := by
  rw [h, UInt8.ofNat_toNat]

/-- **Reading undoes writing.** -/
theorem decode_encode (bytes : List UInt8) : decode (encode bytes) = some bytes := by
  fun_induction encode bytes with
  | case1 => rfl
  | case2 a n =>
    have ha := a.toNat_lt
    have h₁ := value?_symbol (n := n / 4) (by omega)
    have h₂ := value?_symbol (n := n % 4 * 16) (by omega)
    have hsum : n / 4 * 64 + n % 4 * 16 = n * 16 := by omega
    have hbyte : UInt8.ofNat (n * 16 / 16) = a := ofNat_eq_of_toNat (by omega)
    -- the reader refuses bits beyond the last byte, and the writer has left them zero
    have hguard : n * 16 % 16 = 0 := by omega
    simp only [decode, h₁, h₂, hsum, hguard, hbyte, Option.bind_eq_bind, Option.bind_some]
    rfl
  | case3 a b n =>
    have ha := a.toNat_lt
    have hb := b.toNat_lt
    have h₁ := value?_symbol (n := n / 1024) (by omega)
    have h₂ := value?_symbol (n := n / 16 % 64) (by omega)
    have h₃ := value?_symbol (n := n % 16 * 4) (by omega)
    have hsum : n / 1024 * 4096 + n / 16 % 64 * 64 + n % 16 * 4 = n * 4 := by omega
    have hbyte₁ : UInt8.ofNat (n * 4 / 1024) = a := ofNat_eq_of_toNat (by omega)
    have hbyte₂ : UInt8.ofNat (n * 4 / 4 % 256) = b := ofNat_eq_of_toNat (by omega)
    have hguard : n * 4 % 4 = 0 := by omega
    simp only [decode, h₁, h₂, h₃, hsum, hguard, hbyte₁, hbyte₂, Option.bind_eq_bind,
      Option.bind_some]
    rfl
  | case4 a b c rest n ih =>
    have ha := a.toNat_lt
    have hb := b.toNat_lt
    have hc := c.toNat_lt
    have h₁ := value?_symbol (n := n / 262144) (by omega)
    have h₂ := value?_symbol (n := n / 4096 % 64) (by omega)
    have h₃ := value?_symbol (n := n / 64 % 64) (by omega)
    have h₄ := value?_symbol (n := n % 64) (by omega)
    have hsum : n / 262144 * 262144 + n / 4096 % 64 * 4096 + n / 64 % 64 * 64 + n % 64 = n := by
      omega
    have hbyte₁ : UInt8.ofNat (n / 65536) = a := ofNat_eq_of_toNat (by omega)
    have hbyte₂ : UInt8.ofNat (n / 256 % 256) = b := ofNat_eq_of_toNat (by omega)
    have hbyte₃ : UInt8.ofNat (n % 256) = c := ofNat_eq_of_toNat (by omega)
    simp [decode, h₁, h₂, h₃, h₄, hsum, hbyte₁, hbyte₂, hbyte₃, ih]

/-- There is nothing to trim. -/
theorem trimList_encode (bytes : List UInt8) : trimList (encode bytes) = encode bytes := by
  have hdrop : ∀ cs : List Char, (∀ c ∈ cs, isBlank c = false) → cs.dropWhile isBlank = cs := by
    intro cs h
    cases cs with
    | nil => rfl
    | cons c rest => simp [h c]
  have hclean : ∀ c ∈ encode bytes, isBlank c = false :=
    fun c hc => (isSymbol_of_mem_encode hc).not_blank
  unfold trimList
  rw [hdrop _ hclean, hdrop _ fun c hc => hclean c (List.mem_reverse.1 hc), List.reverse_reverse]

end FormEngine.Text.Base64Url
