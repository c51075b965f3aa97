import FormEngine.Proofs.State.Signature
import Mathlib.Algebra.GroupWithZero.Nat
/-!
# Documents without a session

A document whose state the server holds belongs to a session, so a request without one should not
get it. The manager asks for a session by the spelling of the static token: the two marks of the
stores need one, and nothing else does. The document cache is asked by the key that is left when
the mark is gone, and a bare key, or a key behind any other mark, leaves the same. So the marks
decide: a server document in the cache is kept from requests without a session exactly when the
request spells its key with one of the two.
-/

namespace FormEngine

/-! ## Spellings of a key -/

namespace StateToken

/-- A cut after the bytes of `head` gives `head` back. -/
theorem splitAtByte?_append (head rest : List Char) :
    splitAtByte? (head.map Char.utf8Size).sum (head ++ rest) = some (head, rest) := by
  induction head with
  | nil => cases rest <;> rfl
  | cons c head ih =>
    have hpos := c.utf8Size_pos
    obtain ⟨n, hn⟩ : ∃ n, c.utf8Size + (head.map Char.utf8Size).sum = n + 1 :=
      ⟨c.utf8Size + (head.map Char.utf8Size).sum - 1, by omega⟩
    have hle : c.utf8Size ≤ n + 1 := by omega
    have hrest : n + 1 - c.utf8Size = (head.map Char.utf8Size).sum := by omega
    rw [List.map_cons, List.sum_cons, hn, List.cons_append, splitAtByte?, if_pos hle, hrest, ih]
    rfl

/-- Four bytes and a colon are a mark, whatever they say. -/
theorem parse_append (head : List Char) (hhead : (head.map Char.utf8Size).sum = colonOffset)
    (key : String) :
    parse (String.ofList (head ++ [':']) ++ key) = .indirect (String.ofList (head ++ [':'])) key := by
  have htext : (String.ofList (head ++ [':']) ++ key).toList = head ++ ':' :: key.toList := by
    simp [String.toList_append]
  rw [parse, htext, ← hhead, splitAtByte?_append]
  simp

/-- An indirect token is its mark and its key. -/
theorem eq_append_of_parse {token mark key : String} (h : parse token = .indirect mark key) :
    token = mark ++ key := by
  unfold parse at h
  split at h
  · rename_i head rest hsplit
    obtain ⟨rfl, rfl⟩ := StateToken.indirect.inj h
    rw [← String.ofList_append, List.append_assoc, List.singleton_append,
      append_of_splitAtByte? hsplit, String.ofList_toList]
  · contradiction

theorem parse_persistent (key : String) :
    parse (persistentMark ++ key) = .indirect persistentMark key :=
  parse_append ['p', 'e', 'r', 's'] (by decide) key

theorem parse_session (key : String) : parse (sessionMark ++ key) = .indirect sessionMark key :=
  parse_append ['s', 'e', 's', 's'] (by decide) key

/-- **The spellings of a key that need a session**: the key behind the mark of a store. -/
theorem needsSession_parse_iff {token : String} :
    (parse token).needsSession = true ↔
      token = persistentMark ++ (parse token).key ∨ token = sessionMark ++ (parse token).key := by
  constructor
  · intro h
    cases hparse : parse token with
    | direct encoded => rw [hparse] at h; contradiction
    | indirect mark key =>
      have htoken := eq_append_of_parse hparse
      simp only [hparse, needsSession, mark?, Bool.or_eq_true, beq_iff_eq, Option.some.injEq] at h
      rcases h with rfl | rfl
      · exact .inl htoken
      · exact .inr htoken
  · intro h
    rcases h with h | h
    · rw [h, parse_persistent]; rfl
    · rw [h, parse_session]; rfl

end StateToken

namespace StateManager

open LiveDocument StateToken

variable {D : Type}

/-! ## Cached documents -/

/-- **The answer where the cache has a document**: the document, unless the spelling of the static
token asks for a session that is not there. -/
theorem findOrRestore_of_cached (m : StateManager D) {request : Document} {static dynamic : String}
    (session : Option Session) (factory : DocumentFactory D)
    (htokens : request.requestTokens = .ok (static, dynamic)) {document : D}
    (hcached : m.cached? static dynamic = some document) :
    (m.findOrRestore request session factory).1 =
      if session.isNone && (parse static).needsSession then .error .noSession else .ok document := by
  simp only [findOrRestore, htokens, findByTokens]
  split
  · rfl
  · rw [← takeDocument_fst] at hcached
    split <;> rename_i htake
    · rw [htake] at hcached
      exact congrArg Except.ok (Option.some.inj hcached)
    · rw [htake] at hcached
      contradiction

section Run

variable [LiveDocument D] (digest : String → String) (uuids : Nat → String) (config : EngineConfig)

/-- Some call of a run kept a document, whose state the server held then, under its keys. -/
def ServerKept (calls : List (Call D)) (keys : StatePair) (document : D) : Prop :=
  ∃ before call after, calls = before ++ call :: after ∧ call.kept? = some document ∧
    ((run digest uuids config before).stateOf document).isClientHandled = false ∧
    (run digest uuids config before).keysOf document = keys

/-- **When a server document needs a session**: after any run, the server documents in the cache
are kept from requests with two tokens and no session exactly if the static token spells its key
with the mark of a store, or no server document lies in the cache for the tokens. Whatever lies
there was kept by an earlier call of the run, under a pair with the fingerprint of the keys of the
tokens. -/
theorem session_of_server_document_iff (calls : List (Call D)) {request : Document}
    {static dynamic : String} (htokens : request.requestTokens = .ok (static, dynamic)) :
    ((∀ document keys, ServerKept digest uuids config calls keys document →
        (run digest uuids config calls).cached? static dynamic = some document →
        ∀ session factory,
          ((run digest uuids config calls).findOrRestore request session factory).1 = .ok document →
            session.isSome = true) ↔
      (static = persistentMark ++ (parse static).key ∨ static = sessionMark ++ (parse static).key ∨
        ∀ document keys, (run digest uuids config calls).cached? static dynamic = some document →
          ¬ ServerKept digest uuids config calls keys document)) ∧
    ∀ document, (run digest uuids config calls).cached? static dynamic = some document →
      ∃ pair, fingerprint digest config pair =
          fingerprint digest config (requestPair static dynamic) ∧
        KeptUnder digest uuids config calls pair document := by
  refine ⟨?_, fun document hcached => keptUnder_of_cached? hcached⟩
  rw [← or_assoc, ← needsSession_parse_iff]
  constructor
  · intro hsession
    by_cases hneeds : (parse static).needsSession = true
    · exact .inl hneeds
    · refine .inr fun document keys hcached hkept => ?_
      -- without a session the spelling lets the request through to the cached document
      have hfound := hsession document keys hkept hcached none fun _ _ _ => .error .noSession
      rw [findOrRestore_of_cached _ none _ htokens hcached, Bool.eq_false_iff.2 hneeds] at hfound
      exact absurd (hfound rfl) (by decide)
  · rintro (hneeds | hnone) document keys hkept hcached session factory hfound
    · rw [findOrRestore_of_cached _ session factory htokens hcached, hneeds, Bool.and_true] at hfound
      cases session with
      | none => contradiction
      | some session => rfl
    · exact absurd hkept (hnone document keys hcached)

end Run

/-! ## Bare keys -/

section BareKeys

/-- The document of `keptRun` is a document of the server. -/
theorem serverKept_keptRun (digest : String → String) (uuids : Nat → String)
    (config : EngineConfig) :
    ServerKept digest uuids config keptRun { staticState := "s0", dynamicState := "d1" }
      { state := 0, key := "d1" } :=
  ⟨[.host (lonePool "s0") (.ofSize 10) none], .afterInitialResponse { state := 0, key := "d1" }, [],
    rfl, rfl, rfl, rfl⟩

/-- **A server document without a session**: after `keptRun` a request without a session gets the
document of the server for the bare keys of its states, and for the keys behind a mark that no store
has. -/
theorem server_document_without_session :
    ServerKept Digest.sha256Hex (fun _ => "s0") {} keptRun
        { staticState := "s0", dynamicState := "d1" } { state := 0, key := "d1" } ∧
      ((run Digest.sha256Hex (fun _ => "s0") {} keptRun).findOrRestore
        (requestOf "s0" "d1") none refusal).1 = .ok { state := 0, key := "d1" } ∧
      ((run Digest.sha256Hex (fun _ => "s0") {} keptRun).findOrRestore
        (requestOf "none:s0" "none:d1") none refusal).1 = .ok { state := 0, key := "d1" } := by
  have hbare : (requestOf "s0" "d1").requestTokens = .ok ("s0", "d1") := by decide
  have hmarked : (requestOf "none:s0" "none:d1").requestTokens = .ok ("none:s0", "none:d1") := by
    decide
  refine ⟨serverKept_keptRun _ _ _, ?_, ?_⟩
  · exact findOrRestore_of_cached _ none refusal hbare
      (cached?_keptRun_of_keys _ _ rfl (by decide))
  · exact findOrRestore_of_cached _ none refusal hmarked
      (cached?_keptRun_of_keys _ _ rfl (by decide))

/-- The law at `keptRun` and the bare keys, which are spelled with no mark of a store. -/
theorem session_of_server_document_iff_keptRun :
    (requestOf "s0" "d1").requestTokens = .ok ("s0", "d1") ∧
      ¬ ∀ document keys, ServerKept Digest.sha256Hex (fun _ => "s0") {} keptRun keys document →
        (run Digest.sha256Hex (fun _ => "s0") {} keptRun).cached? "s0" "d1" = some document →
        ∀ session factory,
          ((run Digest.sha256Hex (fun _ => "s0") {} keptRun).findOrRestore (requestOf "s0" "d1")
            session factory).1 = .ok document → session.isSome = true := by
  have htokens : (requestOf "s0" "d1").requestTokens = .ok ("s0", "d1") := by decide
  refine ⟨htokens, fun hsession => ?_⟩
  rcases (session_of_server_document_iff _ _ _ keptRun htokens).1.1 hsession with h | h | h
  · exact absurd h (by decide)
  · exact absurd h (by decide)
  · exact h _ _ (cached?_keptRun_of_keys _ _ rfl (by decide)) (serverKept_keptRun _ _ _)

end BareKeys

end StateManager

end FormEngine
