import FormEngine.Proofs.Cache.Documents
import FormEngine.Proofs.State.Coherence
import FormEngine.Proofs.State.Session
import Mathlib.Data.Set.Function
/-!
# The key that a document was read from

A request that names two keys of the persistent store gets a document, and the document has a static
state with an identifier of its own. Out of the document cache that identifier is the static key
that the request named. A document that was rebuilt is another matter. The store has the token of
the static state and not the state, and the cache of static states knows a token by its fingerprint,
so all forms that are equal share one state there, and the state that was used last displaces the
others. The document gets that state, or a new one where the cache has forgotten the token: a state
of the same form in any case, but of the same identifier only if it is the one that the cache had.
-/

namespace FormEngine

namespace StatePool

/-- The tokens of the states in a pool. -/
def tokens (p : StatePool) : Set String := {text | ∃ id, id < p.size ∧ (p.state id).token = text}

end StatePool

namespace StateManager

open LiveDocument StateToken

variable {D : Type}

/-! ## The cache of static states -/

/-- The cache of static states refers to states of the pool, each under the fingerprint of its
token. -/
structure Labelled (digest : String → String) (m : StateManager D) : Prop where
  digest_eq : m.staticStates.digest = digest
  valid : ∀ e ∈ m.staticStates.table.entries, e.2 < m.pool.size
  label : ∀ e ∈ m.staticStates.table.entries, e.1 = digest (m.pool.state e.2).token

namespace Labelled

variable {digest : String → String} {m m' : StateManager D}

/-- Entries that were there before keep their labels in a pool that has grown. -/
theorem of_subset (h : m.Labelled digest) (hgrows : m.pool.Grows m'.pool)
    (hdigest : m'.staticStates.digest = m.staticStates.digest)
    (hsubset : ∀ e ∈ m'.staticStates.table.entries, e ∈ m.staticStates.table.entries) :
    m'.Labelled digest where
  digest_eq := hdigest.trans h.digest_eq
  valid := fun e he => hgrows.lt (h.valid e (hsubset e he))
  label := by
    intro e he
    rw [(hgrows.face _ (h.valid e (hsubset e he))).token]
    exact h.label e (hsubset e he)

/-- A state of the pool is put under its token. -/
theorem insert (h : m.Labelled digest) (hgrows : m.pool.Grows m'.pool) {id : StateId}
    (hid : id < m'.pool.size) {token : String} (htoken : (m'.pool.state id).token = token)
    (hinsert : m'.staticStates = m.staticStates.insert token id) : m'.Labelled digest where
  digest_eq := by
    rw [hinsert]
    exact h.digest_eq
  valid := by
    intro e he
    rw [hinsert] at he
    rcases RecencyTable.mem_entries_push he with rfl | he
    · exact hid
    · exact hgrows.lt (h.valid e he)
  label := by
    intro e he
    rw [hinsert] at he
    rcases RecencyTable.mem_entries_push he with rfl | he
    · rw [htoken, h.digest_eq]
    · rw [(hgrows.face _ (h.valid e he)).token]
      exact h.label e he

theorem findOrRestore (h : m.Labelled digest) (request : Document) (session : Option Session)
    (factory : DocumentFactory D) :
    (m.findOrRestore request session factory).2.Labelled digest := by
  have hserved := m.served_findOrRestore request session factory
  rcases hserved.statics with ⟨-, hsame⟩ | ⟨-, token, htouch⟩ | ⟨s, hpush, hinsert⟩
  · refine h.of_subset hserved.grows (by rw [hsame]) fun e he => ?_
    rw [hsame] at he
    exact he
  · refine h.of_subset hserved.grows (by rw [htouch]; rfl) fun e he => ?_
    rw [htouch] at he
    exact RecencyTable.mem_entries_touch he
  · refine h.insert hserved.grows ?_ ?_ hinsert
    · rw [hpush, StatePool.size_push]
      exact Nat.lt_succ_self _
    · rw [hpush, StatePool.state_push_nextId]

/-- **What the cache finds for a token is a state with the token**, if no other token in the pool
has its fingerprint. -/
theorem of_find? (h : m.Labelled digest) (hdigest : Set.InjOn digest m.pool.tokens) {token : String}
    (htoken : token ∈ m.pool.tokens) {id : StateId} (hfind : m.staticStates.find? token = some id) :
    id < m.pool.size ∧ (m.pool.state id).token = token := by
  have hmem := RecencyTable.mem_of_find? hfind
  have hid := h.valid _ hmem
  have hlabel := h.label _ hmem
  rw [h.digest_eq] at hlabel
  exact ⟨hid, (hdigest htoken ⟨id, hid, rfl⟩ hlabel).symm⟩

end Labelled

section Kept

variable [LiveDocument D]

/-- A server document that is kept leaves its static state in the cache. -/
theorem staticStates_keep_of_server (m : StateManager D) {document : D}
    (hserver : (m.stateOf document).isClientHandled = false) :
    (m.keep document).2.staticStates =
      m.staticStates.insert (m.stateOf document).token (staticState document) := by
  rw [m.keep_of_server hserver]
  cases encodeDynamic document <;> rfl

theorem Labelled.keep {digest : String → String} {m : StateManager D} (h : m.Labelled digest)
    {document : D} (hid : staticState document < m.pool.size) :
    (m.keep document).2.Labelled digest := by
  have hgrows := m.grows_keep document
  cases hhandled : (m.stateOf document).isClientHandled with
  | false =>
    exact h.insert hgrows (hgrows.lt hid) (hgrows.face _ hid).token
      (m.staticStates_keep_of_server hhandled)
  | true =>
    obtain ⟨-, hsame⟩ := m.stores_keep_of_client hhandled
    refine h.of_subset hgrows (by rw [hsame]) fun e he => ?_
    rw [hsame] at he
    exact he

theorem labelled_run {digest : String → String} {uuids : Nat → String} {config : EngineConfig}
    {calls : List (Call D)} (hfair : FairRun digest uuids config calls) :
    (run digest uuids config calls).Labelled digest :=
  hfair.induction
    ⟨rfl, fun _ he => absurd he List.not_mem_nil, fun _ he => absurd he List.not_mem_nil⟩
    (fun _ _ _ _ h hgrows _ => h.of_subset hgrows rfl fun _ he => he)
    (fun _ _ h hid => h.keep hid)
    (fun _ request session factory h => h.findOrRestore request session factory)

end Kept

/-! ## Keys of the persistent store -/

theorem requestPair_persistent (s d : String) :
    requestPair (persistentMark ++ s) (persistentMark ++ d) =
      { staticState := s, dynamicState := d } := by
  unfold requestPair
  rw [parse_persistent, parse_persistent]
  rfl

/-- Decoding two keys of the persistent store uses the entry of the dynamic key. -/
theorem decodeStates_persistent (m : StateManager D) (s d : String) (session : Option Session) :
    m.decodeStates (persistentMark ++ s) (persistentMark ++ d) session =
      (match m.persistent.find? { staticState := s, dynamicState := d } with
        | some states => .ok states
        | none => .error (.lostState { staticState := s, dynamicState := d } session),
      { m with persistent := m.persistent.touch { staticState := s, dynamicState := d } }) := by
  unfold decodeStates
  rw [parse_persistent, parse_persistent]
  simp only [mark?, key, Option.getD_some, ne_eq, not_true_eq_false, if_false, store?, updateStore,
    if_true]
  cases m.persistent.find? { staticState := s, dynamicState := d } <;> rfl

/-- **The answer to two keys of the persistent store where the document cache has nothing**: the
fault of lost states, the fault of restoring the static state, or what the factory makes of it. -/
theorem findOrRestore_of_uncached (m : StateManager D) {request : Document} {s d : String}
    (session : Option Session) (factory : DocumentFactory D)
    (htokens : request.requestTokens = .ok (persistentMark ++ s, persistentMark ++ d))
    (hsession : session.isSome = true)
    (hcached : m.cached? (persistentMark ++ s) (persistentMark ++ d) = none) :
    ∃ m₁, Asked m m₁ ∧ m.findOrRestore request session factory =
      match m.persistent.find? { staticState := s, dynamicState := d } with
      | none => (.error (.lostState { staticState := s, dynamicState := d } session), m₁)
      | some stored =>
        match m₁.restoreStatic stored.staticState .store with
        | (.error e, m₂) => (.error (.analysis e), m₂)
        | (.ok id, m₂) => (factory id (m₂.pool.state id) stored.dynamicState, m₂) := by
  have htake := takeDocument_fst m (persistentMark ++ s) (persistentMark ++ d)
  rw [hcached] at htake
  obtain ⟨m₀, hfound⟩ : ∃ m₀, m.takeDocument (persistentMark ++ s) (persistentMark ++ d) =
      (none, m₀) := ⟨_, Prod.ext htake rfl⟩
  have hasked : Asked m m₀ := by
    have h := m.asked_takeDocument (persistentMark ++ s) (persistentMark ++ d)
    rw [hfound] at h
    exact h
  have hstore : m₀.persistent = m.persistent := by
    have h := m.persistent_takeDocument (persistentMark ++ s) (persistentMark ++ d)
    rw [hfound] at h
    exact h
  refine ⟨{ m₀ with persistent := m.persistent.touch { staticState := s, dynamicState := d } },
    ⟨.inr ⟨_, rfl⟩, hasked.pool, hasked.staticStates⟩, ?_⟩
  have horigin : originOf (persistentMark ++ s) = .store := by
    unfold originOf
    rw [parse_persistent]
    rfl
  have hneeds : (session.isNone && (parse (persistentMark ++ s)).needsSession) = false := by
    cases session with
    | none => contradiction
    | some session => rfl
  simp only [findOrRestore, htokens, findByTokens, hneeds, Bool.false_eq_true, if_false, hfound,
    restoreDocument, decodeStates_persistent, hstore, horigin]
  cases m.persistent.find? { staticState := s, dynamicState := d } <;> rfl

/-- Keys of the persistent store need a session. -/
theorem session_of_found (m : StateManager D) {request : Document} {s d : String}
    {session : Option Session} {factory : DocumentFactory D}
    (htokens : request.requestTokens = .ok (persistentMark ++ s, persistentMark ++ d)) {document : D}
    (hfound : (m.findOrRestore request session factory).1 = .ok document) :
    session.isSome = true := by
  cases session with
  | some session => rfl
  | none =>
    have hneeds : (parse (persistentMark ++ s)).needsSession = true := by
      rw [parse_persistent]
      rfl
    simp [findOrRestore, htokens, findByTokens, hneeds] at hfound

/-- What is stored under the keys is handed to the factory, with the state that the cache of static
states has for the token. -/
theorem findOrRestore_of_stored (m : StateManager D) {request : Document} {s d : String}
    {session : Option Session} (factory : DocumentFactory D)
    (htokens : request.requestTokens = .ok (persistentMark ++ s, persistentMark ++ d))
    (hsession : session.isSome = true)
    (hcached : m.cached? (persistentMark ++ s) (persistentMark ++ d) = none) {stored : StatePair}
    (hstored : m.persistent.find? { staticState := s, dynamicState := d } = some stored)
    {id : StateId} (hfind : m.staticStates.find? stored.staticState = some id) :
    (m.findOrRestore request session factory).1 =
        factory id (m.pool.state id) stored.dynamicState ∧
      (m.findOrRestore request session factory).2.pool = m.pool := by
  obtain ⟨m₁, hasked, hanswer⟩ :=
    m.findOrRestore_of_uncached session factory htokens hsession hcached
  rw [hstored] at hanswer
  have hrestore : m₁.restoreStatic stored.staticState .store =
      (.ok id, { m₁ with staticStates := m₁.staticStates.touch stored.staticState }) := by
    rw [← hasked.staticStates] at hfind
    simp [restoreStatic, StaticStateCache.getOrRestore, StaticStateCache.verify, hfind]
  simp only [hrestore, hasked.pool] at hanswer
  rw [hanswer]
  exact ⟨rfl, rfl⟩

/-- The number of a static state for a token, with the pool that it is in: the state that the cache
has for the token, or a new one with the token. -/
def Restores (m : StateManager D) (token : String) (id : StateId) (pool : StatePool) : Prop :=
  (m.staticStates.find? token = some id ∧ pool = m.pool) ∨
    (m.staticStates.find? token = none ∧ id = m.pool.nextId ∧
      ∃ state : StaticState, state.token = token ∧ pool = m.pool.push state)

/-- **A document that was not in the cache was made of what the store has under the keys**, with the
static state for the token. -/
theorem restored_of_found (m : StateManager D) {request : Document} {s d : String}
    {session : Option Session} {factory : DocumentFactory D}
    (htokens : request.requestTokens = .ok (persistentMark ++ s, persistentMark ++ d))
    (hcached : m.cached? (persistentMark ++ s) (persistentMark ++ d) = none) {document : D}
    (hfound : (m.findOrRestore request session factory).1 = .ok document) :
    ∃ stored id, m.persistent.find? { staticState := s, dynamicState := d } = some stored ∧
      (∃ state, factory id state stored.dynamicState = .ok document) ∧
      m.Restores stored.staticState id (m.findOrRestore request session factory).2.pool := by
  obtain ⟨m₁, hasked, hanswer⟩ :=
    m.findOrRestore_of_uncached session factory htokens (m.session_of_found htokens hfound) hcached
  rw [hanswer] at hfound ⊢
  cases hstored : m.persistent.find? { staticState := s, dynamicState := d } with
  | none =>
    rw [hstored] at hfound
    contradiction
  | some stored =>
    rw [hstored] at hfound
    rcases m₁.restoreStatic_cases stored.staticState .store with
      ⟨e, heq⟩ | ⟨id, hfind, heq⟩ | ⟨hfind, state, -, htoken, heq⟩
    · simp only [heq] at hfound
      contradiction
    · simp only [heq] at hfound ⊢
      rw [hasked.staticStates] at hfind
      exact ⟨stored, id, rfl, ⟨_, hfound⟩, .inl ⟨hfind, hasked.pool⟩⟩
    · simp only [heq] at hfound ⊢
      rw [hasked.staticStates] at hfind
      rw [hasked.pool] at hfound ⊢
      exact ⟨stored, m.pool.nextId, rfl, ⟨_, hfound⟩, .inr ⟨hfind, rfl, state, htoken, rfl⟩⟩

/-- **The static state for a token has the token**, wherever it is from, and it is a state that was
there before exactly if the cache has that state for the token. -/
theorem Restores.spec {digest : String → String} {m : StateManager D} {token : String}
    {made : StateId} {pool : StatePool} (h : m.Restores token made pool)
    (hlabelled : m.Labelled digest) (hdigest : Set.InjOn digest m.pool.tokens)
    (htoken : token ∈ m.pool.tokens) :
    made < pool.size ∧ (pool.state made).token = token ∧
      made = (m.staticStates.find? token).getD m.pool.nextId ∧
      ∀ id, id < m.pool.size → (made = id ↔ m.staticStates.find? token = some id) := by
  rcases h with ⟨hfind, rfl⟩ | ⟨hfind, rfl, state, hstate, rfl⟩
  · obtain ⟨hlt, hlabel⟩ := hlabelled.of_find? hdigest htoken hfind
    refine ⟨hlt, hlabel, ?_, fun id _ => ?_⟩
    · rw [hfind, Option.getD_some]
    · rw [hfind, Option.some.injEq]
  · refine ⟨?_, ?_, ?_, fun id hid => ?_⟩
    · rw [StatePool.size_push]
      exact Nat.lt_succ_self _
    · rw [StatePool.state_push_nextId]
      exact hstate
    · rw [hfind, Option.getD_none]
    · rw [hfind]
      exact ⟨fun heq => absurd heq (Nat.ne_of_gt hid), fun hnone => by contradiction⟩

/-! ## Identity -/

/-- The text of a pair that the document cache takes the fingerprint of. -/
def keyText (config : EngineConfig) (pair : StatePair) : String :=
  if config.ajaxTest then pair.staticState else pair.render

/-- The text of a pair gives its static half, where it is known how many bars that has. -/
theorem static_eq_of_keyText {config : EngineConfig} {p q : StatePair}
    (htext : keyText config p = keyText config q)
    (hbars : StatePair.bars p.staticState = StatePair.bars q.staticState) :
    p.staticState = q.staticState := by
  unfold keyText at htext
  split at htext
  · exact htext
  · exact congrArg StatePair.staticState ((StatePair.eq_iff_bars_eq htext).2 hbars)

/-- Bars and fingerprints do not confuse two keys with others: neither the static key nor an
identifier in the pool has a bar, no two tokens in the pool have one fingerprint, and no document of
the server lies in the cache under the fingerprint of the keys with another text. -/
structure TellsApart [LiveDocument D] (digest : String → String) (config : EngineConfig)
    (m : StateManager D) (keys : StatePair) : Prop where
  key : StatePair.bars keys.staticState = 0
  uuids : ∀ id, id < m.pool.size → StatePair.bars (m.pool.state id).uuid = 0
  tokens : Set.InjOn digest m.pool.tokens
  documents : ∀ e ∈ m.documents.table.entries, (m.stateOf e.2).isClientHandled = false →
    fingerprint digest config (m.keysOf e.2) = fingerprint digest config keys →
      keyText config (m.keysOf e.2) = keyText config keys

section Run

variable [LiveDocument D] {digest : String → String} {uuids : Nat → String} {config : EngineConfig}
  {calls : List (Call D)}

/-- A server document that the cache has for two keys has the static key for identifier. -/
theorem uuid_of_cached (hfair : FairRun digest uuids config calls) {s d : String} {document : D}
    (hcached : (run digest uuids config calls).cached? (persistentMark ++ s) (persistentMark ++ d) =
      some document)
    (hserver : ((run digest uuids config calls).stateOf document).isClientHandled = false)
    (hapart : (run digest uuids config calls).TellsApart digest config
      { staticState := s, dynamicState := d }) :
    ((run digest uuids config calls).stateOf document).uuid = s ∧
      staticState document < (run digest uuids config calls).pool.size := by
  have hshelved := shelved_run hfair
  unfold cached? at hcached
  split at hcached
  · rw [requestPair_persistent] at hcached
    have hmem := RecencyTable.mem_of_find? hcached
    have hid := hshelved.valid _ hmem
    have hlabel := hshelved.key_of_server hmem hserver
    rw [(history_run calls).key_eq] at hlabel
    refine ⟨static_eq_of_keyText (hapart.documents _ hmem hserver hlabel.symm) ?_, hid⟩
    exact (hapart.uuids _ hid).trans hapart.key.symm
  · contradiction

/-- **What static state a document has that was found under two keys of the persistent store**,
after any fair run, if the factory keeps the static state that it is given. Out of the document
cache, a document of the server has the state with the static key for identifier. A document that
was rebuilt has a state with the token that the store has under the keys, which is the token of the
state with the static key for identifier; it is the state that the cache of static states has for
the token, and a new one if there is none. So its identifier is the static key exactly if the cache
of static states has the state of that key for the token.

Identifiers have to mean one static state each, and neither bars nor fingerprints may confuse the
keys. -/
theorem static_state_of_found (hfair : FairRun digest uuids config calls) {request : Document}
    {s d : String} {session : Option Session} {factory : DocumentFactory D}
    (htokens : request.requestTokens = .ok (persistentMark ++ s, persistentMark ++ d))
    (hfactory : ∀ id state text document, factory id state text = .ok document →
      staticState document = id)
    (hapart : (run digest uuids config calls).TellsApart digest config
      { staticState := s, dynamicState := d })
    (huuids : ((run digest uuids config calls).findOrRestore request session factory).2.pool.Identified)
    {document : D}
    (hfound : ((run digest uuids config calls).findOrRestore request session factory).1 =
      .ok document) :
    let m := run digest uuids config calls
    let m' := (m.findOrRestore request session factory).2
    (m.cached? (persistentMark ++ s) (persistentMark ++ d) = some document ∧
        ((m.stateOf document).isClientHandled = false → (m'.stateOf document).uuid = s)) ∨
      (m.cached? (persistentMark ++ s) (persistentMark ++ d) = none ∧
        ∃ id stored, id < m.pool.size ∧ (m.pool.state id).uuid = s ∧
          m.persistent.find? { staticState := s, dynamicState := d } = some stored ∧
          (m.pool.state id).token = stored.staticState ∧
          (m'.stateOf document).token = stored.staticState ∧
          staticState document = (m.staticStates.find? stored.staticState).getD m.pool.nextId ∧
          ((m'.stateOf document).uuid = s ↔ m.staticStates.find? stored.staticState = some id)) := by
  intro m m'
  have hgrows : m.pool.Grows m'.pool := (m.served_findOrRestore request session factory).grows
  cases hcached : m.cached? (persistentMark ++ s) (persistentMark ++ d) with
  | some cached =>
    rw [findOrRestore_of_cached _ session factory htokens hcached] at hfound
    split at hfound
    · contradiction
    · obtain rfl := Except.ok.inj hfound
      refine .inl ⟨rfl, fun hserver => ?_⟩
      obtain ⟨huuid, hid⟩ := uuid_of_cached hfair hcached hserver hapart
      exact (hgrows.face _ hid).uuid.trans huuid
  | none =>
    obtain ⟨stored, made, hstored, ⟨state, hmade⟩, hrestores⟩ :=
      m.restored_of_found htokens hcached hfound
    obtain ⟨id, hid, huuid, htoken, -⟩ := (backed_run hfair).of_find? hstored
    have hstate := hfactory _ _ _ _ hmade
    obtain ⟨hlt, hlabel, hmade', hiff⟩ :=
      hrestores.spec (labelled_run hfair) hapart.tokens ⟨id, hid, htoken⟩
    refine .inr ⟨rfl, id, stored, hid, huuid, hstored, htoken, ?_, ?_, ?_⟩
    · unfold stateOf
      rw [hstate]
      exact hlabel
    · rw [hstate]
      exact hmade'
    · have huuid' : (m'.pool.state id).uuid = s := (hgrows.face _ hid).uuid.trans huuid
      unfold stateOf
      rw [← hiff id hid, hstate]
      constructor
      · intro hsame
        exact huuids hlt (hgrows.lt hid) (hsame.trans huuid'.symm)
      · rintro rfl
        exact huuid'

end Run

/-! ## Twins -/

section Twins

/-- Two states of one form, which the server holds. -/
def twinPool : StatePool :=
  { states := #[{ (default : StaticState) with uuid := "s0" },
      { (default : StaticState) with uuid := "s1" }]
    uuids := fun _ => "s2" }

/-- A configuration without a document cache. -/
def storeConfig : EngineConfig := { cache := { cacheDocument := false } }

/-- A document of the one twin is kept, and then a document of the other. -/
def twinRun : List (Call TextDocument) :=
  [.host twinPool (.ofSize 10) none, .afterInitialResponse ⟨0, "d0", "v"⟩,
    .afterInitialResponse ⟨1, "d1", "w"⟩]

/-- A factory that keeps the static state that it is given. -/
def faithful : DocumentFactory TextDocument := fun id _ text => .ok ⟨id, "restored", text⟩

theorem fairRun_twinRun (digest : String → String) (uuids : Nat → String)
    (config : EngineConfig) : FairRun digest uuids config twinRun := by
  refine fairRun_of_kept fun call hcall => ?_
  simp only [List.mem_cons, List.not_mem_nil, or_false] at hcall
  rcases hcall with rfl | rfl
  · exact ⟨_, rfl, Nat.zero_lt_two⟩
  · exact ⟨_, rfl, Nat.one_lt_two⟩

theorem grows_twinRun (digest : String → String) (uuids : Nat → String) (config : EngineConfig) :
    twinPool.Grows (run digest uuids config twinRun).pool :=
  FairRun.grows [.host twinPool (.ofSize 10) none] _ (fairRun_twinRun digest uuids config)

/-- The two states of `twinRun` have one token and an identifier each. -/
theorem state_twinRun (digest : String → String) (uuids : Nat → String) {id : StateId}
    (hid : id < (run digest uuids storeConfig twinRun).pool.size) :
    ((run digest uuids storeConfig twinRun).pool.state id).token = (twinPool.state 0).token ∧
      (id = 0 ∧ ((run digest uuids storeConfig twinRun).pool.state id).uuid = "s0" ∨
        id = 1 ∧ ((run digest uuids storeConfig twinRun).pool.state id).uuid = "s1") := by
  have hsize : (run digest uuids storeConfig twinRun).pool.size = twinPool.size := rfl
  rw [hsize] at hid
  have hface := (grows_twinRun digest uuids storeConfig).face id hid
  rw [hface.token, hface.uuid]
  rcases Nat.le_one_iff_eq_zero_or_eq_one.1 (Nat.lt_succ_iff.1 hid) with rfl | rfl
  · exact ⟨rfl, .inl ⟨rfl, rfl⟩⟩
  · exact ⟨rfl, .inr ⟨rfl, rfl⟩⟩

theorem identified_twinRun (digest : String → String) (uuids : Nat → String) :
    (run digest uuids storeConfig twinRun).pool.Identified := by
  intro id other hid hother heq
  obtain ⟨-, ⟨rfl, huuid⟩ | ⟨rfl, huuid⟩⟩ := state_twinRun digest uuids hid
  · obtain ⟨-, ⟨rfl, -⟩ | ⟨rfl, huuid'⟩⟩ := state_twinRun digest uuids hother
    · rfl
    · rw [huuid, huuid'] at heq
      exact absurd heq (by decide)
  · obtain ⟨-, ⟨rfl, huuid'⟩ | ⟨rfl, -⟩⟩ := state_twinRun digest uuids hother
    · rw [huuid, huuid'] at heq
      exact absurd heq (by decide)
    · rfl

/-- No fingerprints are mistaken: the pool has one token, and no document is cached. -/
theorem tellsApart_twinRun (digest : String → String) (uuids : Nat → String) :
    (run digest uuids storeConfig twinRun).TellsApart digest storeConfig
      { staticState := "s0", dynamicState := "d0" } where
  key := by decide
  uuids := by
    intro id hid
    obtain ⟨-, ⟨-, huuid⟩ | ⟨-, huuid⟩⟩ := state_twinRun digest uuids hid
    · rw [huuid]
      decide
    · rw [huuid]
      decide
  tokens := by
    rintro _ ⟨id, hid, rfl⟩ _ ⟨other, hother, rfl⟩ _
    rw [(state_twinRun digest uuids hid).1, (state_twinRun digest uuids hother).1]
  documents := fun _ he => absurd he List.not_mem_nil

theorem requestTokens_twinRun : (requestOf "pers:s0" "pers:d0").requestTokens =
    .ok (persistentMark ++ "s0", persistentMark ++ "d0") := by
  decide

theorem staticState_of_faithful (id : StateId) (state : StaticState) (text : String)
    (document : TextDocument) (h : faithful id state text = .ok document) :
    staticState document = id := by
  obtain rfl := Except.ok.inj h
  rfl

/-- The store has what was kept of the first twin. -/
theorem stored_twinRun (digest : String → String) (uuids : Nat → String) :
    (run digest uuids storeConfig twinRun).persistent.find?
      { staticState := "s0", dynamicState := "d0" } =
        some { staticState := (twinPool.state 0).token, dynamicState := "v" } := rfl

/-- The cache of static states has the second twin for the token of the first. -/
theorem shared_twinRun (digest : String → String) (uuids : Nat → String) :
    (run digest uuids storeConfig twinRun).staticStates.find? (twinPool.state 0).token = some 1 :=
  RecencyTable.find?_push_self _ _ _

/-- **A document comes back with the other twin**: it was stored under the key of the one, but the
other was used last and has the same token. -/
theorem found_of_twinRun (digest : String → String) (uuids : Nat → String) (session : Session) :
    ((run digest uuids storeConfig twinRun).findOrRestore (requestOf "pers:s0" "pers:d0")
        (some session) faithful).1 = .ok ⟨1, "restored", "v"⟩ ∧
      ((run digest uuids storeConfig twinRun).findOrRestore (requestOf "pers:s0" "pers:d0")
        (some session) faithful).2.pool = (run digest uuids storeConfig twinRun).pool :=
  findOrRestore_of_stored _ faithful requestTokens_twinRun rfl rfl (stored_twinRun digest uuids)
    (shared_twinRun digest uuids)

/-- **A document need not keep the static key that it was read from**, although the host is fair and
the factory keeps the static state that it is given. -/
theorem found_with_other_static_state :
    let found := (run Digest.sha256Hex (fun _ => "s2") storeConfig twinRun).findOrRestore
      (requestOf "pers:s0" "pers:d0") (some { maxInactiveInterval := 1800 }) faithful
    FairRun Digest.sha256Hex (fun _ => "s2") storeConfig twinRun ∧
      (∀ id state text document, faithful id state text = .ok document →
        staticState document = id) ∧
      found.2.pool.Identified ∧
      (requestOf "pers:s0" "pers:d0").requestTokens =
        .ok (persistentMark ++ "s0", persistentMark ++ "d0") ∧
      ∃ document, found.1 = .ok document ∧ (found.2.stateOf document).uuid = "s1" := by
  obtain ⟨hfound, hpool⟩ := found_of_twinRun Digest.sha256Hex (fun _ => "s2")
    { maxInactiveInterval := 1800 }
  have huuids := identified_twinRun Digest.sha256Hex (fun _ => "s2")
  have hsecond := (grows_twinRun Digest.sha256Hex (fun _ => "s2") storeConfig).face 1 Nat.one_lt_two
  rw [← hpool] at huuids hsecond
  exact ⟨fairRun_twinRun _ _ _, staticState_of_faithful, huuids, requestTokens_twinRun, _, hfound,
    hsecond.uuid⟩

/-- The law at `twinRun`: the rebuilt document has a state with the token that was stored, and not
the identifier that was asked for. -/
theorem static_state_of_found_twinRun :
    let m := run Digest.sha256Hex (fun _ => "s2") storeConfig twinRun
    let found := m.findOrRestore (requestOf "pers:s0" "pers:d0")
      (some { maxInactiveInterval := 1800 }) faithful
    FairRun Digest.sha256Hex (fun _ => "s2") storeConfig twinRun ∧
      m.TellsApart Digest.sha256Hex storeConfig { staticState := "s0", dynamicState := "d0" } ∧
      found.2.pool.Identified ∧ found.1 = .ok ⟨1, "restored", "v"⟩ ∧
      (found.2.stateOf (⟨1, "restored", "v"⟩ : TextDocument)).token = (twinPool.state 0).token ∧
      (found.2.stateOf (⟨1, "restored", "v"⟩ : TextDocument)).uuid ≠ "s0" := by
  have hfair := fairRun_twinRun Digest.sha256Hex (fun _ => "s2") storeConfig
  have hapart := tellsApart_twinRun Digest.sha256Hex (fun _ => "s2")
  obtain ⟨hfound, hpool⟩ := found_of_twinRun Digest.sha256Hex (fun _ => "s2")
    { maxInactiveInterval := 1800 }
  have huuids := identified_twinRun Digest.sha256Hex (fun _ => "s2")
  rw [← hpool] at huuids
  have hlaw := static_state_of_found hfair requestTokens_twinRun staticState_of_faithful hapart
    huuids hfound
  refine ⟨hfair, hapart, huuids, hfound, ?_⟩
  have huncached : (run Digest.sha256Hex (fun _ => "s2") storeConfig twinRun).cached?
      (persistentMark ++ "s0") (persistentMark ++ "d0") = none := rfl
  rcases hlaw with ⟨hcached, -⟩ | ⟨-, id, stored, -, huuid, hstored, -, htoken, -, hiff⟩
  · exact absurd (huncached.symm.trans hcached) (Option.some_ne_none _).symm
  · have hpair := hstored.symm.trans (stored_twinRun Digest.sha256Hex (fun _ => "s2"))
    obtain rfl := Option.some.inj hpair
    refine ⟨htoken, fun hsame => ?_⟩
    -- the cache has the second twin for the token, and the key that was asked for is of the first
    have hshared := (hiff.1 hsame).symm.trans (shared_twinRun Digest.sha256Hex (fun _ => "s2"))
    obtain rfl := Option.some.inj hshared
    have hsecond := ((grows_twinRun Digest.sha256Hex (fun _ => "s2") storeConfig).face 1
      Nat.one_lt_two).uuid
    exact absurd (huuid.symm.trans hsecond) (by decide)

end Twins

end StateManager

end FormEngine
