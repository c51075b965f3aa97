import FormEngine.Digest.Sha256
import FormEngine.Proofs.State.Run
import FormEngine.Proofs.Token
/-!
# Unsigned static tokens

A manager with a password promises to read nothing from a direct static token that is not
signed. Restoring keeps the promise: the token is verified before the static state cache and the
decoder see it. The document cache does not: it is asked first, and by a fingerprint. A document
whose state the server holds lies there under the bare identifiers of its states, so whoever
spells an identifier as a direct token is handed the document without a signature.
-/

namespace FormEngine

namespace StateManager

open LiveDocument

variable {D : Type}

/-! ## Restoring -/

/-- A direct token stands for itself. -/
theorem decodeStates_of_direct (m : StateManager D) {static : String} (dynamic : String)
    (session : Option Session) (hdirect : (StateToken.parse static).isIndirect = false) :
    m.decodeStates static dynamic session =
      (.ok { staticState := static, dynamicState := dynamic }, m) := by
  unfold decodeStates
  split
  · rfl
  · rename_i h
    rw [h] at hdirect
    contradiction

/-- **Restoring verifies first**: an unsigned direct token ends with the fault of its signature,
whatever the caches hold and whatever the token would decode to. -/
theorem restoreDocument_of_unsigned (m : StateManager D) {static password : String}
    (dynamic : String) (session : Option Session) (factory : DocumentFactory D)
    (hpassword : m.config.password = some password)
    (hdirect : (StateToken.parse static).isIndirect = false)
    (hunsigned : Token.verify static password ≠ .ok ()) :
    (m.restoreDocument static dynamic session factory).1 =
      .error (.analysis (.token .badSignature)) := by
  have horigin : originOf static = .request := by simp [originOf, hdirect]
  have hverify : StaticStateCache.verify static .request m.config =
      .error (.token .badSignature) := by
    simp only [StaticStateCache.verify, hpassword]
    cases h : Token.verify static password with
    | error e => rw [Token.verify_eq_error h]; rfl
    | ok => exact absurd h hunsigned
  simp [restoreDocument, decodeStates_of_direct m dynamic session hdirect, restoreStatic,
    StaticStateCache.getOrRestore, horigin, hverify]

/-! ## Finding -/

/-- No direct token needs a session. -/
theorem needsSession_of_direct {static : String}
    (hdirect : (StateToken.parse static).isIndirect = false) :
    (StateToken.parse static).needsSession = false := by
  cases h : StateToken.parse static with
  | direct encoded => rfl
  | indirect mark key => simp [h, StateToken.isIndirect] at hdirect

/-- A request with a direct token gets the cached document, or a restored one when there is
none. -/
theorem findOrRestore_of_direct (m : StateManager D) {request : Document} {static dynamic : String}
    (session : Option Session) (factory : DocumentFactory D)
    (htokens : request.requestTokens = .ok (static, dynamic))
    (hdirect : (StateToken.parse static).isIndirect = false) :
    (m.findOrRestore request session factory).1 =
      match m.cached? static dynamic with
      | some document => .ok document
      | none =>
        ((m.takeDocument static dynamic).2.restoreDocument static dynamic session factory).1 := by
  simp only [findOrRestore, htokens, findByTokens, needsSession_of_direct hdirect, Bool.and_false,
    Bool.false_eq_true, if_false, ← takeDocument_fst]
  split
  · rename_i h
    rw [h]
  · rename_i h
    rw [h]

/-- **The answer to an unsigned direct token is the lookup in the document cache**, and the fault
of the signature where there is nothing. -/
theorem findOrRestore_of_unsigned (m : StateManager D) {request : Document}
    {static dynamic password : String} (session : Option Session) (factory : DocumentFactory D)
    (hpassword : m.config.password = some password)
    (htokens : request.requestTokens = .ok (static, dynamic))
    (hdirect : (StateToken.parse static).isIndirect = false)
    (hunsigned : Token.verify static password ≠ .ok ()) :
    (m.findOrRestore request session factory).1 =
      match m.cached? static dynamic with
      | some document => .ok document
      | none => .error (.analysis (.token .badSignature)) := by
  have hconfig : (m.takeDocument static dynamic).2.config = m.config := by
    unfold takeDocument
    split <;> rfl
  rw [findOrRestore_of_direct m session factory htokens hdirect,
    restoreDocument_of_unsigned _ dynamic session factory (hconfig ▸ hpassword) hdirect hunsigned]

section Run

variable [LiveDocument D]

/-- **When a direct token needs its signature**: after any run, a request with a direct static
token that gets a document shows a signed token exactly if the token is signed or the document
cache has nothing under the fingerprint of the two tokens. A document that an unsigned token
gets was kept by an earlier call of the run, under a pair with the same fingerprint. -/
theorem signed_of_found_iff (digest : String → String) (uuids : Nat → String)
    (config : EngineConfig) {password : String} (hpassword : config.password = some password)
    (calls : List (Call D)) {request : Document} {static dynamic : String}
    (htokens : request.requestTokens = .ok (static, dynamic))
    (hdirect : (StateToken.parse static).isIndirect = false)
    (session : Option Session) (factory : DocumentFactory D) :
    ((∀ document,
        ((run digest uuids config calls).findOrRestore request session factory).1 = .ok document →
          Token.verify static password = .ok ()) ↔
      (Token.verify static password = .ok () ∨
        (run digest uuids config calls).cached? static dynamic = none)) ∧
    ∀ document,
      ((run digest uuids config calls).findOrRestore request session factory).1 = .ok document →
        Token.verify static password = .ok () ∨
          ∃ pair, fingerprint digest config pair =
              fingerprint digest config (requestPair static dynamic) ∧
            KeptUnder digest uuids config calls pair document := by
  have hconfig : (run digest uuids config calls).config.password = some password := by
    rw [(history_run calls).config_eq, hpassword]
  by_cases hsigned : Token.verify static password = .ok ()
  · exact ⟨⟨fun _ => .inl hsigned, fun _ _ _ => hsigned⟩, fun _ _ => .inl hsigned⟩
  · rw [findOrRestore_of_unsigned _ session factory hconfig htokens hdirect hsigned]
    cases hcached : (run digest uuids config calls).cached? static dynamic with
    | none => simp
    | some document =>
      refine ⟨⟨fun h => absurd (h document rfl) hsigned, ?_⟩, ?_⟩
      · rintro (h | h)
        · exact absurd h hsigned
        · contradiction
      · rintro found ⟨rfl⟩
        exact .inr (keptUnder_of_cached? hcached)

end Run

/-! ## The hole -/

section Hole

/-- A live document that is no more than its static state and the key of its dynamic state. -/
structure KeyedDocument where
  state : StateId
  key : String
  deriving DecidableEq

instance : LiveDocument KeyedDocument where
  staticState document := document.state
  dynamicUuid document := document.key
  encodeDynamic document := .ok document.key
  isDirty _ := false
  refreshDynamic document := document

/-- A request with two tokens. -/
def requestOf (static dynamic : String) : Document :=
  { nodes :=
      #[{ kind := .element (.plain "request") [], children := [1, 2] },
        { kind := .element { uri := Namespace.xxforms, localName := "static-state" } []
          parent := some 0, children := [3] },
        { kind := .element { uri := Namespace.xxforms, localName := "dynamic-state" } []
          parent := some 0, children := [4] },
        { kind := .text static, parent := some 1 },
        { kind := .text dynamic, parent := some 2 }]
    root := 0 }

/-- A pool with one state, which the server holds. -/
def lonePool (uuid : String) : StatePool :=
  { states := #[{ (default : StaticState) with uuid }], uuids := fun _ => uuid }

/-- A configuration with a password. -/
def guardedConfig : EngineConfig := { password := some "secret" }

/-- The host makes a static state `s0`, and a document of it with the dynamic state `d1` is kept
after the first response. -/
def keptRun : List (Call KeyedDocument) :=
  [.host (lonePool "s0") (.ofSize 10) none, .afterInitialResponse { state := 0, key := "d1" }]

/-- The document of `keptRun` lies in the cache for any two tokens that have its keys. -/
theorem cached?_keptRun_of_keys (digest : String → String) (uuids : Nat → String)
    {config : EngineConfig} (hcache : config.cache.cacheDocument = true) {static dynamic : String}
    (hkeys : requestPair static dynamic = { staticState := "s0", dynamicState := "d1" }) :
    (run digest uuids config keptRun).cached? static dynamic =
      some { state := 0, key := "d1" } := by
  have hserver : ((lonePool "s0").state 0).isClientHandled = false := by decide
  exact cached?_keep _ _ hcache hserver rfl hkeys

/-- The document of `keptRun` is handed out for the bare identifiers of its states. -/
theorem cached?_keptRun (digest : String → String) (uuids : Nat → String) :
    (run digest uuids guardedConfig keptRun).cached? "s0" "d1" =
      some { state := 0, key := "d1" } :=
  cached?_keptRun_of_keys digest uuids rfl (by decide)

theorem requestTokens_keptRun : (requestOf "s0" "d1").requestTokens = .ok ("s0", "d1") := by
  decide

/-- A factory that rebuilds nothing. -/
def refusal : DocumentFactory KeyedDocument := fun _ _ _ => .error (.restore "refused")

/-- **An unsigned token gets a document**: after `keptRun` the identifiers of the two states,
spelled as direct tokens of a request without a session, get the document that was kept. -/
theorem unsigned_found_after_keptRun :
    ((run Digest.sha256Hex (fun _ => "s0") guardedConfig keptRun).findOrRestore
        (requestOf "s0" "d1") none refusal).1 = .ok { state := 0, key := "d1" } ∧
      guardedConfig.password = some "secret" ∧ StateToken.parse "s0" = .direct "s0" ∧
      Token.verify "s0" "secret" ≠ .ok () := by
  have hunsigned : Token.verify "s0" "secret" ≠ .ok () := by decide
  refine ⟨?_, rfl, by decide, hunsigned⟩
  have hpassword : (run Digest.sha256Hex (fun _ => "s0") guardedConfig keptRun).config.password =
      some "secret" := by rw [(history_run keptRun).config_eq]; rfl
  rw [findOrRestore_of_unsigned _ none refusal hpassword requestTokens_keptRun (by decide) hunsigned,
    cached?_keptRun]

/-- The law at `keptRun`, whose document its identifiers ask for. -/
theorem signed_of_found_iff_keptRun :
    guardedConfig.password = some "secret" ∧
      (requestOf "s0" "d1").requestTokens = .ok ("s0", "d1") ∧
      (StateToken.parse "s0").isIndirect = false ∧
      ((∀ document,
          ((run Digest.sha256Hex (fun _ => "s0") guardedConfig keptRun).findOrRestore
            (requestOf "s0" "d1") none refusal).1 = .ok document →
            Token.verify "s0" "secret" = .ok ()) ↔
        (Token.verify "s0" "secret" = .ok () ∨
          (run Digest.sha256Hex (fun _ => "s0") guardedConfig keptRun).cached? "s0" "d1" = none)) :=
  ⟨rfl, by decide, by decide,
    (signed_of_found_iff _ _ guardedConfig rfl keptRun requestTokens_keptRun (by decide) none
      refusal).1⟩

end Hole

end StateManager

end FormEngine
