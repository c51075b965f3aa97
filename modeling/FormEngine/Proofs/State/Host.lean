import FormEngine.Proofs.Cache.StaticStates
import FormEngine.Proofs.State.Pool
import FormEngine.Proofs.State.Run
/-!
# Runs under a fair host

A run leaves it open what the host does between two calls. A fair host makes, analyses and
serializes static states, which makes the pool grow; it opens a persistent store that is empty, if
any, and leaves the one that it opened to the manager; and it hands over documents whose static
state it has. The module says once what a call does to the manager, part by part, so that what such
a run keeps can be shown call by call.
-/

namespace FormEngine

namespace StateManager

open LiveDocument
open StateToken (persistentMark)
open StaticState (SameFace)

variable {D : Type}

/-! ## Static states -/

/-- **Looking for a static state has three ends**: a fault, which changes nothing; the state that
the cache has for the token; or a new one, which was read from the token and joins the pool. -/
theorem restoreStatic_cases (m : StateManager D) (token : String) (origin : TokenOrigin) :
    (∃ e, m.restoreStatic token origin = (.error e, m)) ∨
      (∃ id, m.staticStates.find? token = some id ∧ m.restoreStatic token origin =
        (.ok id, { m with staticStates := m.staticStates.touch token })) ∨
      (m.staticStates.find? token = none ∧ ∃ s : StaticState,
        s.uuid = m.pool.nextUuid ∧ s.token = token ∧ m.restoreStatic token origin =
          (.ok m.pool.nextId, { m with
            pool := m.pool.push s, staticStates := m.staticStates.insert token m.pool.nextId })) := by
  unfold restoreStatic
  rcases m.staticStates.getOrRestore_cases m.pool token origin m.config with
    ⟨e, heq⟩ | ⟨id, -, hfind, heq⟩ | ⟨pool, -, hnone, hrestore, heq⟩
  · rw [heq]
    exact .inl ⟨e, rfl⟩
  · rw [heq]
    exact .inr (.inl ⟨id, hfind, rfl⟩)
  · obtain ⟨-, s, rfl, huuid, htoken⟩ := StatePool.spec_of_restore hrestore
    rw [heq]
    exact .inr (.inr ⟨hnone, s, huuid, htoken, rfl⟩)

/-! ## Requests -/

/-- At most a store was used, and nothing else was changed that static states or the persistent
store are found by. -/
structure Asked (m m' : StateManager D) : Prop where
  persistent : m'.persistent = m.persistent ∨ ∃ keys, m'.persistent = m.persistent.touch keys
  pool : m'.pool = m.pool
  staticStates : m'.staticStates = m.staticStates

theorem Asked.refl (m : StateManager D) : Asked m m := ⟨.inl rfl, rfl, rfl⟩

theorem asked_updateStore (m : StateManager D) (mark : String) (keys : StatePair) :
    Asked m (m.updateStore mark (·.touch keys)) := by
  unfold updateStore
  split
  · exact ⟨.inr ⟨keys, rfl⟩, rfl, rfl⟩
  · split
    · exact ⟨.inl rfl, rfl, rfl⟩
    · exact .refl m

theorem asked_decodeStates (m : StateManager D) (static dynamic : String)
    (session : Option Session) : Asked m (m.decodeStates static dynamic session).2 := by
  rcases m.decodeStates_leaves static dynamic session with heq | ⟨mark, keys, heq⟩
  · rw [heq]
    exact .refl m
  · rw [heq]
    exact asked_updateStore m mark keys

theorem asked_takeDocument (m : StateManager D) (static dynamic : String) :
    Asked m (m.takeDocument static dynamic).2 := by
  unfold takeDocument
  split
  · exact ⟨.inl rfl, rfl, rfl⟩
  · exact .refl m

theorem persistent_takeDocument (m : StateManager D) (static dynamic : String) :
    (m.takeDocument static dynamic).2.persistent = m.persistent := by
  unfold takeDocument
  split <;> rfl

/-- What a request leaves of the persistent store, the pool and the cache of static states: the
store is used at most, and at most one static state is looked for. -/
structure Served (m m' : StateManager D) : Prop where
  persistent : m'.persistent = m.persistent ∨ ∃ keys, m'.persistent = m.persistent.touch keys
  statics : (m'.pool = m.pool ∧ m'.staticStates = m.staticStates) ∨
    (m'.pool = m.pool ∧ ∃ token, m'.staticStates = m.staticStates.touch token) ∨
    ∃ s : StaticState, m'.pool = m.pool.push s ∧
      m'.staticStates = m.staticStates.insert s.token m.pool.nextId

theorem Asked.served {m m' : StateManager D} (h : Asked m m') : Served m m' :=
  ⟨h.persistent, .inl ⟨h.pool, h.staticStates⟩⟩

theorem Served.grows {m m' : StateManager D} (h : Served m m') : m.pool.Grows m'.pool := by
  rcases h.statics with ⟨hpool, -⟩ | ⟨hpool, -⟩ | ⟨s, hpool, -⟩
  · rw [hpool]
    exact .refl _
  · rw [hpool]
    exact .refl _
  · rw [hpool]
    exact StatePool.grows_push _ s

/-- Looking for a static state after a store was used. -/
theorem Asked.served_restoreStatic {m m' : StateManager D} (h : Asked m m') (token : String)
    (origin : TokenOrigin) : Served m (m'.restoreStatic token origin).2 := by
  rcases m'.restoreStatic_cases token origin with
    ⟨e, heq⟩ | ⟨id, -, heq⟩ | ⟨-, s, -, rfl, heq⟩
  · rw [heq]
    exact h.served
  · rw [heq]
    refine ⟨h.persistent, .inr (.inl ⟨h.pool, token, ?_⟩)⟩
    rw [← h.staticStates]
  · rw [heq]
    refine ⟨h.persistent, .inr (.inr ⟨s, ?_, ?_⟩)⟩
    · rw [← h.pool]
    · rw [← h.pool, ← h.staticStates]

theorem Asked.trans {m₁ m₂ m₃ : StateManager D} (h₁ : Asked m₁ m₂) (h₂ : Asked m₂ m₃)
    (hpersistent : m₂.persistent = m₁.persistent) : Asked m₁ m₃ where
  persistent := by
    rw [← hpersistent]
    exact h₂.persistent
  pool := h₂.pool.trans h₁.pool
  staticStates := h₂.staticStates.trans h₁.staticStates

/-- **A request uses the persistent store at most, and looks for at most one static state.** -/
theorem served_findOrRestore (m : StateManager D) (request : Document) (session : Option Session)
    (factory : DocumentFactory D) : Served m (m.findOrRestore request session factory).2 := by
  unfold findOrRestore
  split
  · exact (Asked.refl m).served
  · rename_i static dynamic _
    have htake := asked_takeDocument m static dynamic
    have hstore := m.persistent_takeDocument static dynamic
    unfold findByTokens
    split
    · exact (Asked.refl m).served
    · rcases hfound : m.takeDocument static dynamic with ⟨found, m₁⟩
      rw [hfound] at htake hstore
      cases found with
      | some document => exact htake.served
      | none =>
        have hdecode := htake.trans (asked_decodeStates m₁ static dynamic session) hstore
        dsimp only
        unfold restoreDocument
        rcases hanswer : m₁.decodeStates static dynamic session with ⟨answer, m₂⟩
        rw [hanswer] at hdecode
        cases answer with
        | error e => exact hdecode.served
        | ok states =>
          have hstatic := hdecode.served_restoreStatic states.staticState (originOf static)
          dsimp only
          rcases hend : m₂.restoreStatic states.staticState (originOf static) with ⟨answer, m₃⟩
          rw [hend] at hstatic
          cases answer <;> exact hstatic

/-! ## Responses -/

section Kept

variable [LiveDocument D]

theorem staticToken_fst (m : StateManager D) (document : D) :
    (m.staticToken document).1 =
      if (m.stateOf document).isClientHandled then (m.stateOf document).token
      else persistentMark ++ (m.stateOf document).uuid := by
  unfold staticToken
  split <;> rfl

/-- The dynamic token of a client document is the text of its dynamic state. -/
theorem encodeDynamic_of_client {m : StateManager D} {document : D} {text : String}
    (hclient : (m.stateOf document).isClientHandled = true)
    (htoken : m.dynamicToken document = .ok text) : encodeDynamic document = .ok text := by
  unfold dynamicToken at htoken
  rwa [if_pos hclient] at htoken

theorem dynamicToken_of_server {m : StateManager D} {document : D}
    (hserver : (m.stateOf document).isClientHandled = false) :
    m.dynamicToken document = .ok (persistentMark ++ dynamicUuid document) := by
  unfold dynamicToken
  rw [if_neg (by rw [hserver]; decide)]

/-- The manager after the static state of a document is written out and put in the cache of static
states. -/
def noted (m : StateManager D) (document : D) : StateManager D :=
  { m with
    pool := (m.pool.serialize (staticState document)).2
    staticStates := m.staticStates.insert (m.stateOf document).token (staticState document) }

/-- **Keeping a document whose state the server holds**: its static state is noted, and with a text
of its dynamic state the pair of texts is stored under its keys, and the document cached under
them. -/
theorem keep_of_server (m : StateManager D) {document : D}
    (hserver : (m.stateOf document).isClientHandled = false) :
    m.keep document =
      match encodeDynamic document with
      | .error e => (.error e, m.noted document)
      | .ok text => (.ok (), { m.noted document with
          persistent := m.persistent.add (m.keysOf document)
            { staticState := (m.stateOf document).token, dynamicState := text }
          documents :=
            if m.config.cache.cacheDocument then m.documents.store (m.keysOf document) document
            else m.documents }) := by
  obtain ⟨huuid, hhandled⟩ := state_serialize m.pool (staticState document) (staticState document)
  have hserver' : ((m.pool.serialize (staticState document)).2.state
      (staticState document)).isClientHandled = false := hhandled.trans hserver
  unfold keep persist
  rw [if_neg (by rw [hserver]; decide)]
  cases htext : encodeDynamic document with
  | error e => rfl
  | ok text =>
    dsimp only [serialize, cacheDocument]
    by_cases hcache : m.config.cache.cacheDocument = true
    · simp only [hcache, if_true, cacheKey, stateOf, hserver', keysOf, huuid, noted]
      rfl
    · simp only [hcache]
      rfl

/-- **Keeping a document whose state the client holds**: it is cached under the pair of texts. -/
theorem keep_of_client (m : StateManager D) {document : D}
    (hclient : (m.stateOf document).isClientHandled = true) :
    m.keep document =
      if m.config.cache.cacheDocument then
        match encodeDynamic document with
        | .error e => (.error e, { m with pool := (m.pool.serialize (staticState document)).2 })
        | .ok text => (.ok (), { m with
            pool := (m.pool.serialize (staticState document)).2
            documents := m.documents.store
              { staticState := (m.stateOf document).token, dynamicState := text } document })
      else (.ok (), m) := by
  unfold keep persist
  rw [if_pos hclient]
  unfold cacheDocument
  by_cases hcache : m.config.cache.cacheDocument = true
  · simp only [hcache, if_true, cacheKey, hclient, serialize]
    cases encodeDynamic document <;> rfl
  · simp only [hcache]
    rfl

/-- Nothing is stored for a client document, and no static state is put in the cache. -/
theorem stores_keep_of_client (m : StateManager D) {document : D}
    (hclient : (m.stateOf document).isClientHandled = true) :
    (m.keep document).2.persistent = m.persistent ∧
      (m.keep document).2.staticStates = m.staticStates := by
  rw [m.keep_of_client hclient]
  split
  · cases encodeDynamic document <;> exact ⟨rfl, rfl⟩
  · exact ⟨rfl, rfl⟩

theorem grows_keep (m : StateManager D) (document : D) : m.pool.Grows (m.keep document).2.pool := by
  have hserialize := StatePool.grows_serialize m.pool (staticState document)
  cases hhandled : (m.stateOf document).isClientHandled with
  | false =>
    rw [m.keep_of_server hhandled]
    cases encodeDynamic document <;> exact hserialize
  | true =>
    rw [m.keep_of_client hhandled]
    split
    · cases encodeDynamic document <;> exact hserialize
    · exact .refl _

/-- Without a document cache nothing is put in it. -/
theorem documents_keep_of_idle (m : StateManager D) (document : D)
    (hidle : m.config.cache.cacheDocument = false) :
    (m.keep document).2.documents = m.documents := by
  cases hhandled : (m.stateOf document).isClientHandled with
  | false =>
    rw [m.keep_of_server hhandled]
    cases encodeDynamic document with
    | error e => rfl
    | ok text => simp [hidle]
  | true =>
    rw [m.keep_of_client hhandled]
    simp [hidle]

end Kept

/-! ## Fair hosts -/

section Fair

variable [LiveDocument D]

/-- A fair host makes the pool grow, leaves the persistent store alone or opens an empty one, and
hands over documents whose static state is in the pool. -/
def Call.Fair (m : StateManager D) : Call D → Prop
  | .host pool persistent _ =>
    m.pool.Grows pool ∧ (persistent = m.persistent ∨ ∃ size, persistent = .ofSize size)
  | .afterInitialResponse document => staticState document < m.pool.size
  | .afterUpdateResponse document => staticState document < m.pool.size
  | .findOrRestore _ _ _ => True

/-- What a host does with static states is fair: it makes one of a form document or of a token,
analyses one or writes one out. -/
theorem fair_of_host (m : StateManager D) {pool : StatePool}
    (hmade : (∃ d id, m.pool.create d m.config = .ok (id, pool)) ∨
      (∃ token origin id, m.pool.restore token origin m.config = .ok (id, pool)) ∨
      ∃ id, pool = (m.pool.analyze id).2 ∨ pool = (m.pool.serialize id).2) :
    (Call.host (D := D) pool m.persistent m.session).Fair m := by
  refine ⟨?_, .inl rfl⟩
  rcases hmade with ⟨d, id, hcreate⟩ | ⟨token, origin, id, hrestore⟩ | ⟨id, rfl | rfl⟩
  · exact StatePool.grows_create hcreate
  · exact StatePool.grows_restore hrestore
  · exact StatePool.grows_analyze m.pool id
  · exact StatePool.grows_serialize m.pool id

variable (digest : String → String) (uuids : Nat → String) (config : EngineConfig)

/-- Every call of the run is fair to the manager that it finds. -/
def FairRun (calls : List (Call D)) : Prop :=
  ∀ before call after, calls = before ++ call :: after → call.Fair (run digest uuids config before)

variable {digest uuids config}

theorem FairRun.of_concat {calls : List (Call D)} {call : Call D}
    (h : FairRun digest uuids config (calls ++ [call])) :
    FairRun digest uuids config calls ∧ call.Fair (run digest uuids config calls) := by
  constructor
  · rintro before call' after rfl
    exact h before call' (after ++ [call]) (by simp)
  · exact h calls call [] rfl

theorem fairRun_nil : FairRun (D := D) digest uuids config [] := by
  intro before call after h
  exact absurd h.symm (by simp)

theorem FairRun.concat {calls : List (Call D)} (h : FairRun digest uuids config calls)
    (call : Call D) (hcall : call.Fair (run digest uuids config calls)) :
    FairRun digest uuids config (calls ++ [call]) := by
  intro before call' after heq
  rcases List.eq_nil_or_concat after with rfl | ⟨after', last, rfl⟩
  · obtain ⟨rfl, hlast⟩ := List.append_inj' heq rfl
    obtain rfl := List.singleton_inj.1 hlast
    exact hcall
  · rw [List.concat_eq_append, ← List.cons_append, ← List.append_assoc] at heq
    obtain ⟨rfl, -⟩ := List.append_inj' heq rfl
    exact h before call' after' rfl

/-- A fair call makes the pool grow. -/
theorem Call.Fair.grows {m : StateManager D} {call : Call D} (h : call.Fair m) :
    m.pool.Grows (call.apply m).pool := by
  cases call with
  | host pool persistent session => exact h.1
  | afterInitialResponse document => exact m.grows_keep document
  | afterUpdateResponse document => exact m.grows_keep document
  | findOrRestore request session factory =>
    exact (m.served_findOrRestore request session factory).grows

/-- A call that keeps a document does nothing else. -/
theorem Call.apply_of_kept {call : Call D} {document : D} (hkept : call.kept? = some document)
    (m : StateManager D) : call.apply m = (m.keep document).2 := by
  cases call with
  | host pool persistent session => contradiction
  | afterInitialResponse kept =>
    obtain rfl := Option.some.inj hkept
    rfl
  | afterUpdateResponse kept =>
    obtain rfl := Option.some.inj hkept
    rfl
  | findOrRestore request session factory => contradiction

/-- A document that a fair call keeps has its static state in the pool. -/
theorem Call.Fair.lt_of_kept {m : StateManager D} {call : Call D} (hfair : call.Fair m)
    {document : D} (hkept : call.kept? = some document) : staticState document < m.pool.size := by
  cases call with
  | host pool persistent session => contradiction
  | afterInitialResponse kept =>
    obtain rfl := Option.some.inj hkept
    exact hfair
  | afterUpdateResponse kept =>
    obtain rfl := Option.some.inj hkept
    exact hfair
  | findOrRestore request session factory => contradiction

/-- **Nothing leaves the pool in a fair run.** -/
theorem FairRun.grows (before after : List (Call D))
    (h : FairRun digest uuids config (before ++ after)) :
    (run digest uuids config before).pool.Grows (run digest uuids config (before ++ after)).pool := by
  induction after using List.reverseRecOn with
  | nil =>
    rw [List.append_nil]
    exact .refl _
  | append_singleton after call ih =>
    rw [← List.append_assoc] at h ⊢
    obtain ⟨hrest, hcall⟩ := h.of_concat
    rw [run_concat]
    exact (ih hrest).trans hcall.grows

/-- A host that makes its static states first and has documents of them kept after that is fair. -/
theorem fairRun_of_kept {pool : StatePool} {size : Nat} {session : Option StateStore}
    {calls : List (Call D)} (hkept : ∀ call ∈ calls, ∃ document, call.kept? = some document ∧
      staticState document < pool.size) :
    FairRun digest uuids config (.host pool (.ofSize size) session :: calls) := by
  induction calls using List.reverseRecOn with
  | nil =>
    refine fairRun_nil.concat _ ⟨⟨Nat.zero_le _, fun id hid => ?_⟩, .inr ⟨size, rfl⟩⟩
    exact absurd hid (Nat.not_lt_zero id)
  | append_singleton calls call ih =>
    have hearlier := ih fun call hcall => hkept call (List.mem_append_left _ hcall)
    have hgrows := FairRun.grows [.host pool (.ofSize size) session] calls hearlier
    obtain ⟨document, hdocument, hid⟩ := hkept call (List.mem_append_right _ List.mem_cons_self)
    refine hearlier.concat call ?_
    cases call with
    | host pool persistent session => contradiction
    | afterInitialResponse document' =>
      obtain rfl := Option.some.inj hdocument
      exact hgrows.lt hid
    | afterUpdateResponse document' =>
      obtain rfl := Option.some.inj hdocument
      exact hgrows.lt hid
    | findOrRestore request session factory => contradiction

/-- **What every call keeps, a fair run keeps**: the property holds of the empty manager, a fair host
does not disturb it, and neither does keeping a document or answering a request. -/
theorem FairRun.induction {P : StateManager D → Prop} {calls : List (Call D)}
    (h : FairRun digest uuids config calls) (hstart : P (ofConfig digest uuids config))
    (hhost : ∀ (m : StateManager D) pool persistent session, P m → m.pool.Grows pool →
      (persistent = m.persistent ∨ ∃ size, persistent = .ofSize size) →
        P { m with pool, persistent, session })
    (hkeep : ∀ (m : StateManager D) (document : D), P m → staticState document < m.pool.size →
      P (m.keep document).2)
    (hfind : ∀ (m : StateManager D) request session factory, P m →
      P (m.findOrRestore request session factory).2) :
    P (run digest uuids config calls) := by
  -- a run ends with its last call, so the induction takes calls off the end
  induction calls using List.reverseRecOn with
  | nil => exact hstart
  | append_singleton calls call ih =>
    obtain ⟨hcalls, hcall⟩ := h.of_concat
    have hrun := ih hcalls
    rw [run_concat]
    cases call with
    | host pool persistent session => exact hhost _ pool persistent session hrun hcall.1 hcall.2
    | afterInitialResponse document => exact hkeep _ document hrun hcall
    | afterUpdateResponse document => exact hkeep _ document hrun hcall
    | findOrRestore request session factory => exact hfind _ request session factory hrun

end Fair

end StateManager

end FormEngine
