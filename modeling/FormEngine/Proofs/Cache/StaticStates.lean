import FormEngine.Cache.StaticStates
import FormEngine.Digest.Sha256
import FormEngine.Proofs.Cache.Recency
import FormEngine.Proofs.State.Pool
import FormEngine.Proofs.StaticState.Restore
import Mathlib.Data.List.Induction
import Mathlib.Data.Set.Function
/-!
# Static states out of the cache

Looking for the static state of a token ends in a state or in a fault. Without the cache the token,
its origin and the configuration decide. A token of a request is verified before it is looked for, so
the cache lets nothing through that would not be read. A token of the store is not verified, because a
state for it is shared, whoever put it in the cache: a signed token, which no state writes for the
store and which is refused where it is read, gets the state that an earlier request brought in under
its signature. This is the one case in which the cache makes a difference.
-/

namespace FormEngine

namespace Token

theorem signed_of_verify {token password : String} (h : verify token password = .ok ()) :
    (split? token).isSome = true := by
  unfold verify at h
  cases hsplit : split? token with
  | none =>
    rw [hsplit] at h
    contradiction
  | some parts => rfl

/-- A signed token is not read without a password. -/
theorem decode_none_of_signed {token : String} (hsigned : (split? token).isSome = true) :
    decode token none = .error .unexpectedSignature := by
  obtain ⟨parts, hparts⟩ := Option.isSome_iff_exists.1 hsigned
  unfold decode
  rw [hparts]
  rfl

end Token

namespace StaticState

/-- The identifier of a state has no part in how its token is read. -/
theorem map_ofEncoded (uuid uuid' token : String) (origin : TokenOrigin) (config : EngineConfig) :
    (ofEncoded uuid token origin config).map (fun _ => ()) =
      (ofEncoded uuid' token origin config).map fun _ => () := by
  unfold ofEncoded
  dsimp only
  generalize (Token.decode token _).mapError AnalysisError.token = decoded
  cases decoded with
  | error e => rfl
  | ok d =>
    change (FormParts.ofDocument d config >>= _).map _ = (FormParts.ofDocument d config >>= _).map _
    cases FormParts.ofDocument d config <;> rfl

/-- A signed token is not read for the store. -/
theorem ofEncoded_of_signed {token : String} (hsigned : (Token.split? token).isSome = true)
    (uuid : String) (config : EngineConfig) :
    ofEncoded uuid token .store config = .error (.token .unexpectedSignature) := by
  unfold ofEncoded
  dsimp only
  rw [Token.decode_none_of_signed hsigned]
  rfl

end StaticState

namespace StaticStateCache

/-! ## Without the cache -/

/-- How looking for the state of a token ends that is not in the cache. -/
def reading (token : String) (origin : TokenOrigin) (config : EngineConfig) :
    Except AnalysisError Unit := do
  verify token origin config
  (StaticState.ofEncoded "" token origin config).map fun _ => ()

theorem reading_of_verify {token : String} {origin : TokenOrigin} {config : EngineConfig}
    (h : verify token origin config = .ok ()) (uuid : String) :
    reading token origin config =
      (StaticState.ofEncoded uuid token origin config).map fun _ => () := by
  unfold reading
  rw [h, StaticState.map_ofEncoded uuid ""]
  rfl

theorem verify_of_reading {token : String} {origin : TokenOrigin} {config : EngineConfig}
    (h : reading token origin config = .ok ()) : verify token origin config = .ok () := by
  obtain ⟨⟨⟩, hverify, -⟩ := ok_of_bind h
  exact hverify

/-- A signed token of the store is refused. -/
theorem reading_of_signed {token : String} (hsigned : (Token.split? token).isSome = true)
    (config : EngineConfig) :
    reading token .store config = .error (.token .unexpectedSignature) := by
  rw [reading_of_verify rfl "", StaticState.ofEncoded_of_signed hsigned]
  rfl

/-- Without a password the origin of a token does not matter. -/
theorem reading_of_no_password {config : EngineConfig} (hnone : config.password = none)
    (token : String) (origin : TokenOrigin) :
    reading token origin config = reading token .store config := by
  cases origin with
  | store => rfl
  | request => simp [reading, verify, StaticState.ofEncoded, hnone]

/-- Under a password a token that a request can have is signed. -/
theorem signed_of_verify {token : String} {config : EngineConfig} {password : String}
    (hpassword : config.password = some password) (h : verify token .request config = .ok ()) :
    (Token.split? token).isSome = true := by
  unfold verify at h
  rw [hpassword] at h
  exact Token.signed_of_verify (ok_of_mapError h)

/-- **What was read for one origin is read for the other**, if it is verified for it, unless it is
signed and comes from the store. -/
theorem reading_of_reading {token : String} {origin origin' : TokenOrigin} {config : EngineConfig}
    (h : reading token origin' config = .ok ()) (hverify : verify token origin config = .ok ())
    (hclean : ¬ (origin = .store ∧ (Token.split? token).isSome = true)) :
    reading token origin config = .ok () := by
  cases hpassword : config.password with
  | none =>
    rw [reading_of_no_password hpassword] at h ⊢
    exact h
  | some password =>
    cases origin with
    | store =>
      cases origin' with
      | store => exact h
      | request =>
        -- under a password only a signed token is read for a request
        exact absurd ⟨rfl, signed_of_verify hpassword (verify_of_reading h)⟩ hclean
    | request =>
      cases origin' with
      | request => exact h
      | store =>
        -- a token that is verified for a request is signed, and so not read for the store
        rw [reading_of_signed (signed_of_verify hpassword hverify)] at h
        contradiction

/-! ## One call -/

variable {c : StaticStateCache} {p : StatePool} {token : String} {origin : TokenOrigin}
  {config : EngineConfig}

/-- How looking for the state of a token ends, whichever state it is. -/
def outcome (c : StaticStateCache) (p : StatePool) (token : String) (origin : TokenOrigin)
    (config : EngineConfig) : Except AnalysisError Unit :=
  (c.getOrRestore p token origin config).1.map fun _ => ()

/-- What a call can do: it fails and leaves everything as it is, it hands out the state of the
cache, or it restores the state and puts it there. -/
theorem getOrRestore_cases (c : StaticStateCache) (p : StatePool) (token : String)
    (origin : TokenOrigin) (config : EngineConfig) :
    (∃ e, c.getOrRestore p token origin config = (.error e, c, p)) ∨
      (∃ id, verify token origin config = .ok () ∧ c.find? token = some id ∧
        c.getOrRestore p token origin config = (.ok id, c.touch token, p)) ∨
      ∃ p', verify token origin config = .ok () ∧ c.find? token = none ∧
        p.restore token origin config = .ok (p.nextId, p') ∧
        c.getOrRestore p token origin config = (.ok p.nextId, c.insert token p.nextId, p') := by
  unfold getOrRestore
  cases hverify : verify token origin config with
  | error e => exact .inl ⟨e, rfl⟩
  | ok _ =>
    cases hfind : c.find? token with
    | some id => exact .inr (.inl ⟨id, rfl, rfl, rfl⟩)
    | none =>
      cases hrestore : p.restore token origin config with
      | error e => exact .inl ⟨e, rfl⟩
      | ok restored =>
        obtain ⟨id, p'⟩ := restored
        obtain rfl := (StatePool.spec_of_restore hrestore).1
        exact .inr (.inr ⟨p', rfl, rfl, rfl, rfl⟩)

theorem getOrRestore_of_error {e : AnalysisError}
    (h : (c.getOrRestore p token origin config).1 = .error e) :
    (c.getOrRestore p token origin config).2 = (c, p) := by
  rcases c.getOrRestore_cases p token origin config with
    ⟨e', heq⟩ | ⟨id, -, -, heq⟩ | ⟨p', -, -, -, heq⟩
  · rw [heq]
  · rw [heq] at h
    contradiction
  · rw [heq] at h
    contradiction

/-- A verified token that was restored is read. -/
theorem reading_of_restore (hverify : verify token origin config = .ok ()) {id : StateId}
    {p' : StatePool} (hrestore : p.restore token origin config = .ok (id, p')) :
    reading token origin config = .ok () := by
  obtain ⟨s, hs, -⟩ := ok_of_bind hrestore
  rw [reading_of_verify hverify p.nextUuid, hs]
  rfl

/-- A token that is not in the cache is read. -/
theorem outcome_of_find?_eq_none (hnone : c.find? token = none) :
    c.outcome p token origin config = reading token origin config := by
  unfold outcome getOrRestore
  cases hverify : verify token origin config with
  | error e =>
    unfold reading
    rw [hverify]
    rfl
  | ok _ =>
    rw [hnone, reading_of_verify hverify p.nextUuid]
    unfold StatePool.restore
    cases StaticState.ofEncoded p.nextUuid token origin config <;> rfl

/-- A token that is in the cache is verified and not read. -/
theorem outcome_of_find?_eq_some {id : StateId} (hsome : c.find? token = some id) :
    c.outcome p token origin config = verify token origin config := by
  unfold outcome getOrRestore
  cases hverify : verify token origin config with
  | error e => rfl
  | ok _ =>
    rw [hsome]
    rfl

/-- A token that was accepted is in the cache. -/
theorem find?_of_outcome_ok (h : c.outcome p token origin config = .ok ()) :
    ((c.getOrRestore p token origin config).2.1.find? token).isSome = true := by
  unfold outcome at h
  rcases c.getOrRestore_cases p token origin config with
    ⟨e, heq⟩ | ⟨id, -, hfind, heq⟩ | ⟨p', -, -, -, heq⟩
  · rw [heq] at h
    contradiction
  · have htouched : (c.touch token).find? token = some id := by
      unfold find? at hfind
      unfold find? touch RecencyTable.touch
      rw [hfind]
      exact List.lookup_cons_self
    rw [heq, htouched]
    rfl
  · have hinserted : (c.insert token p.nextId).find? token = some p.nextId :=
      RecencyTable.find?_push_self _ _ _
    rw [heq, hinserted]
    rfl

theorem find?_ofSize (digest : String → String) (size : Nat) (token : String) :
    (ofSize digest size).find? token = none := rfl

/-! ## A series of calls -/

/-- The cache and the pool after a series of tokens was looked for. -/
def after (config : EngineConfig) (s : StaticStateCache × StatePool)
    (calls : List (String × TokenOrigin)) : StaticStateCache × StatePool :=
  calls.foldl (fun s call => (s.1.getOrRestore s.2 call.1 call.2 config).2) s

/-- Every entry of the cache is the state of a token that a call brought in, and that was read. -/
structure Founded (digest : String → String) (config : EngineConfig)
    (calls : List (String × TokenOrigin)) (c : StaticStateCache) (p : StatePool) : Prop where
  digest_eq : c.digest = digest
  entries : ∀ e ∈ c.table.entries, e.2 < p.size ∧
    ∃ origin, ((p.state e.2).token, origin) ∈ calls ∧ digest (p.state e.2).token = e.1 ∧
      reading (p.state e.2).token origin config = .ok ()

variable {digest : String → String} {calls : List (String × TokenOrigin)}

theorem founded_ofSize (digest : String → String) (size : Nat) (p : StatePool) :
    Founded digest config [] (ofSize digest size) p :=
  ⟨rfl, fun _ he => absurd he List.not_mem_nil⟩

/-- The entries of fewer calls are entries of more. -/
theorem Founded.concat (h : Founded digest config calls c p) (call : String × TokenOrigin) :
    Founded digest config (calls ++ [call]) c p := by
  refine ⟨h.digest_eq, fun e he => ?_⟩
  obtain ⟨hlt, origin, hmem, hrest⟩ := h.entries e he
  exact ⟨hlt, origin, List.mem_append_left _ hmem, hrest⟩

theorem Founded.getOrRestore (h : Founded digest config calls c p) (token : String)
    (origin : TokenOrigin) :
    Founded digest config (calls ++ [(token, origin)])
      (c.getOrRestore p token origin config).2.1 (c.getOrRestore p token origin config).2.2 := by
  have hold := h.concat (token, origin)
  rcases c.getOrRestore_cases p token origin config with
    ⟨e, heq⟩ | ⟨id, -, -, heq⟩ | ⟨p', hverify, -, hrestore, heq⟩
  · rw [heq]
    exact hold
  · rw [heq]
    exact ⟨h.digest_eq, fun e he => hold.entries e (RecencyTable.mem_entries_touch he)⟩
  · rw [heq]
    obtain ⟨-, s, rfl, -, htoken⟩ := StatePool.spec_of_restore hrestore
    refine ⟨h.digest_eq, fun e he => ?_⟩
    rcases RecencyTable.mem_entries_push he with rfl | he
    · dsimp only
      rw [StatePool.state_push_nextId, StatePool.size_push, htoken]
      have hread := reading_of_restore hverify hrestore
      exact ⟨Nat.lt_succ_self _, origin, by simp, by rw [h.digest_eq], hread⟩
    · obtain ⟨hlt, hentry⟩ := hold.entries e he
      rw [StatePool.state_push_of_lt hlt, StatePool.size_push]
      exact ⟨Nat.lt_succ_of_lt hlt, hentry⟩

/-- The cache of a run holds what its calls brought in. -/
theorem founded_after (digest : String → String) (size : Nat) (config : EngineConfig)
    (p : StatePool) (calls : List (String × TokenOrigin)) :
    Founded digest config calls (after config (ofSize digest size, p) calls).1
      (after config (ofSize digest size, p) calls).2 := by
  induction calls using List.reverseRecOn with
  | nil => exact founded_ofSize digest size p
  | append_singleton calls call ih =>
    unfold after at ih ⊢
    rw [List.foldl_concat]
    exact ih.getOrRestore call.1 call.2

/-! ## The cache and the reading of tokens -/

/-- No two of the texts that a series of calls and one more call have meet in one fingerprint. -/
def TellsApart (digest : String → String) (calls : List (String × TokenOrigin)) (token : String) :
    Prop :=
  Set.InjOn digest {text | text = token ∨ ∃ origin, (text, origin) ∈ calls}

theorem tellsApart_singleton (digest : String → String) (token : String) (origin : TokenOrigin) :
    TellsApart digest [(token, origin)] token := by
  have hsame : ∀ text, (text = token ∨ ∃ o, (text, o) ∈ [(token, origin)]) → text = token := by
    rintro text (htext | ⟨o, hmem⟩)
    · exact htext
    · exact (Prod.mk.inj (List.mem_singleton.1 hmem)).1
  intro text htext other hother _
  exact (hsame text htext).trans (hsame other hother).symm

/-- What the cache finds for a token is a state of this token, which an earlier call read. -/
theorem Founded.spec_of_find? (h : Founded digest config calls c p)
    (hdigest : TellsApart digest calls token) {id : StateId} (hfind : c.find? token = some id) :
    (p.state id).token = token ∧
      ∃ origin, (token, origin) ∈ calls ∧ reading token origin config = .ok () := by
  obtain ⟨-, origin, hmem, hkey, hread⟩ := h.entries _ (RecencyTable.mem_of_find? hfind)
  have htoken : (p.state id).token = token :=
    hdigest (.inr ⟨origin, hmem⟩) (.inl rfl) (by rw [hkey, h.digest_eq])
  rw [htoken] at hmem hread
  exact ⟨htoken, origin, hmem, hread⟩

/-- A signed token of the store that is in the cache was brought in by a request under the
password. -/
theorem Founded.requested_of_signed (h : Founded digest config calls c p)
    (hdigest : TellsApart digest calls token) (hsigned : (Token.split? token).isSome = true)
    {id : StateId} (hfind : c.find? token = some id) :
    (token, .request) ∈ calls ∧ config.password.isSome = true := by
  obtain ⟨-, earlier, hmem, hread⟩ := h.spec_of_find? hdigest hfind
  have hrefused := reading_of_signed hsigned config
  constructor
  · cases earlier with
    | request => exact hmem
    | store =>
      rw [hrefused] at hread
      contradiction
  · cases hpassword : config.password with
    | some password => rfl
    | none =>
      rw [reading_of_no_password hpassword, hrefused] at hread
      contradiction

/-- Any other token ends in the cache as it would end in reading. -/
theorem Founded.outcome_eq_reading (h : Founded digest config calls c p)
    (hdigest : TellsApart digest calls token)
    (hclean : ¬ (origin = .store ∧ (Token.split? token).isSome = true ∧
      (c.find? token).isSome = true)) :
    c.outcome p token origin config = reading token origin config := by
  cases hfind : c.find? token with
  | none => exact outcome_of_find?_eq_none hfind
  | some id =>
    obtain ⟨-, earlier, -, hread⟩ := h.spec_of_find? hdigest hfind
    rw [outcome_of_find?_eq_some hfind]
    cases hverify : verify token origin config with
    | error e =>
      unfold reading
      rw [hverify]
      rfl
    | ok _ =>
      refine (reading_of_reading hread hverify ?_).symm
      rintro ⟨hstore, hsigned⟩
      exact hclean ⟨hstore, hsigned, by rw [hfind]; rfl⟩

/-- The state that is handed out is written out as the token that was asked for. -/
theorem Founded.serialize_of_ok (h : Founded digest config calls c p)
    (hdigest : TellsApart digest calls token) {id : StateId}
    (hok : (c.getOrRestore p token origin config).1 = .ok id) :
    ((c.getOrRestore p token origin config).2.2.serialize id).1 = token := by
  rcases c.getOrRestore_cases p token origin config with
    ⟨e, heq⟩ | ⟨id', -, hfind, heq⟩ | ⟨p', -, -, hrestore, heq⟩
  · rw [heq] at hok
    contradiction
  · rw [heq] at hok ⊢
    obtain rfl := Except.ok.inj hok
    exact (h.spec_of_find? hdigest hfind).1
  · rw [heq] at hok ⊢
    obtain rfl := Except.ok.inj hok
    obtain ⟨-, s, rfl, -, htoken⟩ := StatePool.spec_of_restore hrestore
    unfold StatePool.serialize
    rw [StatePool.state_push_nextId]
    exact htoken

/-- **A cache makes no difference to whether a token is accepted, but for a signed token of the
store.** After any series of calls on an empty cache, a call ends as it would on an empty cache,
unless its token is signed and comes from the store while the cache has its state: an earlier
request under the password has brought it in, the call is answered with it, and an empty cache
refuses the token. A call that fails leaves cache and pool as they are, and one that ends well hands
out a state that is written out as the token. -/
theorem outcome_after {size : Nat} {start : StatePool}
    (hrun : after config (ofSize digest size, start) calls = (c, p)) {token : String}
    (hdigest : TellsApart digest calls token) (origin : TokenOrigin) (other : StatePool) :
    (c.outcome p token origin config = (ofSize digest size).outcome other token origin config ↔
        ¬ (origin = .store ∧ (Token.split? token).isSome = true ∧
          (c.find? token).isSome = true)) ∧
      (origin = .store → (Token.split? token).isSome = true → (c.find? token).isSome = true →
        (token, .request) ∈ calls ∧ config.password.isSome = true ∧
          c.outcome p token origin config = .ok () ∧
          (ofSize digest size).outcome other token origin config =
            .error (.token .unexpectedSignature)) ∧
      (∀ e, (c.getOrRestore p token origin config).1 = .error e →
        (c.getOrRestore p token origin config).2 = (c, p)) ∧
      ∀ id, (c.getOrRestore p token origin config).1 = .ok id →
        ((c.getOrRestore p token origin config).2.2.serialize id).1 = token := by
  have hfounded := founded_after digest size config start calls
  rw [hrun] at hfounded
  have hfresh : (ofSize digest size).outcome other token origin config =
      reading token origin config :=
    outcome_of_find?_eq_none (find?_ofSize digest size token)
  rw [hfresh]
  have hexception : origin = .store → (Token.split? token).isSome = true →
      (c.find? token).isSome = true →
      (token, .request) ∈ calls ∧ config.password.isSome = true ∧
        c.outcome p token origin config = .ok () ∧
        reading token origin config = .error (.token .unexpectedSignature) := by
    rintro rfl hsigned hsome
    obtain ⟨id, hfind⟩ := Option.isSome_iff_exists.1 hsome
    obtain ⟨hmem, hpassword⟩ := hfounded.requested_of_signed hdigest hsigned hfind
    exact ⟨hmem, hpassword, outcome_of_find?_eq_some hfind, reading_of_signed hsigned config⟩
  refine ⟨⟨?_, hfounded.outcome_eq_reading hdigest⟩, hexception, ?_,
    fun id hok => hfounded.serialize_of_ok hdigest hok⟩
  · rintro hsame ⟨hstore, hsigned, hsome⟩
    obtain ⟨-, -, hok, herror⟩ := hexception hstore hsigned hsome
    rw [hok, herror] at hsame
    contradiction
  · intro e herror
    exact getOrRestore_of_error herror

/-! ### A signed form -/

/-- The state of `smallForm`, which the client holds under a password. -/
def signedState : StaticState :=
  match StaticState.ofDocument "s0" StaticState.smallForm none StaticState.smallConfig with
  | .ok s => s
  | .error _ => default

theorem ofDocument_smallForm :
    StaticState.ofDocument "s0" StaticState.smallForm none StaticState.smallConfig =
      .ok signedState := rfl

theorem verify_signedState :
    verify signedState.token .request StaticState.smallConfig = .ok () := by
  have hsigned : signedState.token =
      Token.encode (StaticState.foldMatchers signedState.pathMatchers
        (StaticState.foldXhtml signedState.xhtml StaticState.smallForm)) (some "secret") := rfl
  unfold verify
  rw [hsigned]
  dsimp only [StaticState.smallConfig]
  rw [Token.verify_encode]
  rfl

theorem reading_signedState :
    reading signedState.token .request StaticState.smallConfig = .ok () := by
  have hprefixes : (StaticState.smallForm.namespaces.map Prod.fst).Nodup := by decide
  have hsize : StaticState.smallForm.size + StaticState.smallConfig.pathMatchers.length <
      Nat.pow 2 32 := by decide
  have hread := StaticState.ofEncoded_token (by decide) (by decide) hprefixes hsize
    ofDocument_smallForm "s1"
  have horigin : signedState.tokenOrigin = .request := rfl
  rw [horigin] at hread
  rw [reading_of_verify verify_signedState "s1", hread]
  rfl

/-- The cache and the pool after a request with the token of `signedState`. -/
def requested : StaticStateCache × StatePool :=
  after StaticState.smallConfig (ofSize Digest.sha256Hex 4, { uuids := fun _ => "s1" })
    [(signedState.token, .request)]

theorem find?_requested : (requested.1.find? signedState.token).isSome = true := by
  have hread : (ofSize Digest.sha256Hex 4).outcome { uuids := fun _ => "s1" } signedState.token
      .request StaticState.smallConfig = .ok () := by
    rw [outcome_of_find?_eq_none (find?_ofSize _ _ _)]
    exact reading_signedState
  unfold requested after
  rw [List.foldl_cons, List.foldl_nil]
  exact find?_of_outcome_ok hread

/-- A second request with the token ends as the first did. -/
theorem outcome_after_requested :
    after StaticState.smallConfig (ofSize Digest.sha256Hex 4, { uuids := fun _ => "s1" })
        [(signedState.token, .request)] = (requested.1, requested.2) ∧
      TellsApart Digest.sha256Hex [(signedState.token, .request)] signedState.token ∧
      requested.1.outcome requested.2 signedState.token .request StaticState.smallConfig =
        (ofSize Digest.sha256Hex 4).outcome requested.2 signedState.token .request
          StaticState.smallConfig := by
  have hrun : after StaticState.smallConfig (ofSize Digest.sha256Hex 4, { uuids := fun _ => "s1" })
      [(signedState.token, .request)] = (requested.1, requested.2) := by
    rw [Prod.mk.eta, requested]
  have hapart : TellsApart Digest.sha256Hex [(signedState.token, .request)] signedState.token :=
    tellsApart_singleton _ _ _
  refine ⟨hrun, hapart, ?_⟩
  exact (outcome_after hrun hapart .request requested.2).1.2 fun hstore => nomatch hstore.1

/-- For the store the token is answered with the state of the request, where an empty cache refuses
it. -/
theorem accepted_after_request :
    requested.1.outcome requested.2 signedState.token .store StaticState.smallConfig = .ok () ∧
      (ofSize Digest.sha256Hex 4).outcome requested.2 signedState.token .store
        StaticState.smallConfig = .error (.token .unexpectedSignature) := by
  obtain ⟨id, hfind⟩ := Option.isSome_iff_exists.1 find?_requested
  have hsigned := signed_of_verify rfl verify_signedState
  constructor
  · exact outcome_of_find?_eq_some hfind
  · rw [outcome_of_find?_eq_none (find?_ofSize _ _ _)]
    exact reading_of_signed hsigned _

end StaticStateCache

end FormEngine
