import FormEngine.Proofs.State.Pool
import FormEngine.Proofs.Token
import FormEngine.State.Token
/-!
# Static states that were made

A static state comes from a form document or from a token, and after that it is analysed and written
out. Whatever it went through, its token is spelled with few characters: those of base64, the full
stop before a signature, and blanks around a payload that was read. So no token has a colon, by which
the keys of a store are known, or a bar, by which pairs of texts are joined.
-/

namespace FormEngine

/-! ## Characters that are read -/

/-- Only characters of the alphabet are read. -/
theorem Text.Base64Url.isSome_value?_of_decode {cs : List Char} {bytes : List UInt8}
    (h : decode cs = some bytes) : ∀ c ∈ cs, (value? c).isSome = true := by
  fun_induction decode cs generalizing bytes with
  | case1 => simp
  | case2 => contradiction
  | case3 c d =>
    simp only [Option.bind_eq_bind, Option.bind_eq_some_iff] at h
    obtain ⟨x, hx, y, hy, -⟩ := h
    simp [hx, hy]
  | case4 c d e =>
    simp only [Option.bind_eq_bind, Option.bind_eq_some_iff] at h
    obtain ⟨x, hx, y, hy, z, hz, -⟩ := h
    simp [hx, hy, hz]
  | case5 c d e f rest ih =>
    simp only [Option.bind_eq_bind, Option.bind_eq_some_iff] at h
    obtain ⟨x, hx, y, hy, z, hz, w, hw, bytes', hrest, -⟩ := h
    have htail := ih hrest
    simpa [hx, hy, hz, hw] using htail

/-- Trimming drops nothing but blanks. -/
theorem Text.isBlank_or_mem_trimList {cs : List Char} {c : Char} (h : c ∈ cs) :
    isBlank c = true ∨ c ∈ trimList cs := by
  have hdrop : ∀ l : List Char, c ∈ l → isBlank c = true ∨ c ∈ l.dropWhile isBlank := by
    intro l hl
    rw [← List.takeWhile_append_dropWhile (p := isBlank) (l := l), List.mem_append] at hl
    exact hl.imp_left List.mem_takeWhile_imp
  rcases hdrop cs h with hblank | hmem
  · exact .inl hblank
  · exact (hdrop _ (List.mem_reverse.2 hmem)).imp_right List.mem_reverse.2

theorem Text.mem_of_mem_trimList {cs : List Char} {c : Char} (h : c ∈ trimList cs) : c ∈ cs := by
  have hmem := (List.dropWhile_sublist isBlank).subset (List.mem_reverse.1 h)
  exact (List.dropWhile_sublist isBlank).subset (List.mem_reverse.1 hmem)

/-! ## Plain tokens -/

namespace Token

/-- A character that a token can have: one of base64, the full stop, or a blank. -/
def IsPlainChar (c : Char) : Prop :=
  (Text.Base64Url.value? c).isSome = true ∨ c = '.' ∨ Text.isBlank c = true

/-- A token with such characters only. -/
def IsPlain (token : String) : Prop := ∀ c ∈ token.toList, IsPlainChar c

theorem isPlainChar_of_mem_encode {bytes : List UInt8} {c : Char}
    (h : c ∈ Text.Base64Url.encode bytes) : IsPlainChar c := by
  obtain ⟨n, hn, rfl⟩ := Text.Base64Url.isSymbol_of_mem_encode h
  exact .inl (by rw [Text.Base64Url.value?_symbol hn]; rfl)

/-- What is written is plain. -/
theorem isPlain_encode (d : Document) (password : Option String) : IsPlain (encode d password) := by
  have hpayload : ∀ c ∈ (payload d).toList, IsPlainChar c := by
    intro c hc
    rw [payload, String.toList_ofList] at hc
    exact isPlainChar_of_mem_encode hc
  cases password with
  | none => exact hpayload
  | some password =>
    intro c hc
    rw [encode_some, String.toList_append, String.toList_append, List.mem_append,
      List.mem_append] at hc
    rcases hc with (hc | hc) | hc
    · exact hpayload c hc
    · exact .inr (.inl (List.mem_singleton.1 hc))
    · rw [signature, String.toList_ofList] at hc
      exact isPlainChar_of_mem_encode hc

/-- A token that is cut has nothing but the full stop between the two parts. -/
theorem toList_of_split? {token payload signature : String}
    (h : split? token = some (payload, signature)) :
    token.toList = payload.toList ++ '.' :: signature.toList := by
  unfold split? at h
  dsimp only at h
  split at h
  · contradiction
  · rename_i stop rest hdrop
    obtain ⟨rfl, rfl⟩ := Prod.mk.inj (Option.some.inj h)
    have hstop : stop = '.' := by
      have hne := List.head?_dropWhile_not (· != '.') token.toList
      rw [hdrop] at hne
      simpa using hne
    subst hstop
    rw [String.toList_ofList, String.toList_ofList, ← hdrop, List.takeWhile_append_dropWhile]

theorem isPlain_of_readPayload {payload : String} {d : Document}
    (h : readPayload payload = .ok d) : IsPlain payload := by
  unfold readPayload at h
  split at h
  · contradiction
  · rename_i bytes hbytes
    intro c hc
    rcases Text.isBlank_or_mem_trimList hc with hblank | hmem
    · exact .inr (.inr hblank)
    · exact .inl (Text.Base64Url.isSome_value?_of_decode hbytes c hmem)

theorem isPlain_of_verifySignature {password payload signature : String}
    (h : verifySignature password payload signature = .ok ()) : IsPlain signature := by
  unfold verifySignature at h
  split at h
  · contradiction
  · rename_i bytes hbytes
    exact fun c hc => .inl (Text.Base64Url.isSome_value?_of_decode hbytes c hc)

/-- What is read is plain. -/
theorem isPlain_of_decode {token : String} {password : Option String} {d : Document}
    (h : decode token password = .ok d) : IsPlain token := by
  unfold decode at h
  split at h
  · rename_i payload signature password hsplit
    obtain ⟨⟨⟩, hverify, hread⟩ := ok_of_bind h
    intro c hc
    rw [toList_of_split? hsplit, List.mem_append, List.mem_cons] at hc
    rcases hc with hc | rfl | hc
    · exact isPlain_of_readPayload hread c hc
    · exact .inr (.inl rfl)
    · exact isPlain_of_verifySignature hverify c hc
  · contradiction
  · contradiction
  · exact isPlain_of_readPayload h

theorem IsPlain.trim {token : String} (h : IsPlain token) : IsPlain (Text.trim token) := by
  intro c hc
  rw [Text.trim, String.toList_ofList] at hc
  exact h c (Text.mem_of_mem_trimList hc)

theorem IsPlain.notMem_colon {token : String} (h : IsPlain token) : ':' ∉ token.toList := by
  intro hmem
  have hnot : ¬ IsPlainChar ':' := by unfold IsPlainChar; decide
  exact hnot (h _ hmem)

theorem IsPlain.notMem_bar {token : String} (h : IsPlain token) : '|' ∉ token.toList := by
  intro hmem
  have hnot : ¬ IsPlainChar '|' := by unfold IsPlainChar; decide
  exact hnot (h _ hmem)

end Token

/-- A plain token is direct. -/
theorem Token.IsPlain.parse_eq {token : String} (h : IsPlain token) :
    StateToken.parse token = .direct token := by
  unfold StateToken.parse
  split
  · rename_i head key hsplit
    refine absurd ?_ h.notMem_colon
    rw [← StateToken.append_of_splitAtByte? hsplit]
    exact List.mem_append_right _ List.mem_cons_self
  · rfl

/-! ## Making -/

namespace StaticState

/-- A state that was made of a form document or of a token, and what analysis and writing out make
of it. -/
inductive Made : StaticState → Prop where
  | ofDocument {uuid : String} {d : Document} {supplied : Option Document} {config : EngineConfig}
      {s : StaticState} (h : ofDocument uuid d supplied config = .ok s) : Made s
  | ofEncoded {uuid token : String} {origin : TokenOrigin} {config : EngineConfig}
      {s : StaticState} (h : ofEncoded uuid token origin config = .ok s) : Made s
  | analyze {s s' : StaticState} {performed : Bool} (hs : Made s)
      (h : s.analyze = .ok (performed, s')) : Made s'
  | serialize {s : StaticState} (hs : Made s) : Made s.serialize

/-- **The token of a state that was made is plain**: a state that is still a document writes its
token, and any other has the one that it was read from. -/
theorem Made.isPlain {s : StaticState} (h : s.Made) : Token.IsPlain s.token := by
  induction h with
  | ofDocument h =>
    obtain ⟨p, -, h⟩ := ok_of_bind h
    obtain rfl := Except.ok.inj h
    exact Token.isPlain_encode _ _
  | ofEncoded h =>
    rw [(spec_of_ofEncoded h).2]
    obtain ⟨d, hdecode, -⟩ := ok_of_bind h
    exact Token.isPlain_of_decode (ok_of_mapError hdecode)
  | analyze hs h ih =>
    rw [(sameFace_analyze h).token]
    exact ih
  | serialize hs ih => exact ih

/-- A form without controls, for the client to hold. -/
def clientForm : Document :=
  { nodes :=
      #[{ kind := .element (.plain "static-state") [], children := [1] },
        { kind := .element (.plain "properties") [⟨.plain "state-handling", "client"⟩]
          parent := some 0 }]
    root := 0 }

/-- The state of `clientForm` for a host without a password. -/
def clientState : StaticState :=
  match ofDocument "s0" clientForm none {} with
  | .ok s => s
  | .error _ => default

theorem ofDocument_clientForm : ofDocument "s0" clientForm none {} = .ok clientState := rfl

theorem made_clientState : clientState.Made := .ofDocument ofDocument_clientForm

theorem isClientHandled_clientState : clientState.isClientHandled = true := rfl

theorem token_clientState : clientState.token = Token.payload clientForm := rfl

end StaticState

/-- A pool with the state of `clientForm`. -/
def clientPool : StatePool := { states := #[StaticState.clientState], uuids := fun _ => "s1" }

end FormEngine
