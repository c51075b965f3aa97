import FormEngine.Proofs.Cache.Recency
import FormEngine.State.Manager
import Mathlib.Data.List.Induction
/-!
# Runs of the state manager

A manager lives through calls: documents are kept after responses, requests find them again,
and between the calls the host makes, analyses and serializes static states as it likes. A run
is a list of such calls. The section on the document cache answers where a cached document can
have come from: an earlier call kept it, under the pair that the document had at that moment.
-/

namespace FormEngine

namespace StateManager

open LiveDocument

variable {D : Type}

/-! ## What the calls leave alone -/

/-- The two managers have the same configuration and the same document cache. -/
structure SameCache (m m' : StateManager D) : Prop where
  config : m'.config = m.config
  documents : m'.documents = m.documents

namespace SameCache

theorem refl (m : StateManager D) : SameCache m m := ⟨rfl, rfl⟩

theorem trans {m₁ m₂ m₃ : StateManager D} (h₁ : SameCache m₁ m₂) (h₂ : SameCache m₂ m₃) :
    SameCache m₁ m₃ := ⟨h₂.config.trans h₁.config, h₂.documents.trans h₁.documents⟩

end SameCache

theorem sameCache_updateStore (m : StateManager D) (mark : String) (f : StateStore → StateStore) :
    SameCache m (m.updateStore mark f) := by
  unfold updateStore
  split
  · exact ⟨rfl, rfl⟩
  · split <;> exact ⟨rfl, rfl⟩

theorem sameCache_restoreStatic (m : StateManager D) (token : String) (origin : TokenOrigin) :
    SameCache m (m.restoreStatic token origin).2 := ⟨rfl, rfl⟩

theorem sameCache_serialize (m : StateManager D) (id : StateId) :
    SameCache m (m.serialize id).2 := ⟨rfl, rfl⟩

/-- Decoding two tokens uses the store of their mark at most. -/
theorem decodeStates_leaves (m : StateManager D) (static dynamic : String) (session : Option Session) :
    (m.decodeStates static dynamic session).2 = m ∨ ∃ mark keys,
      (m.decodeStates static dynamic session).2 = m.updateStore mark (·.touch keys) := by
  unfold decodeStates
  split
  · exact .inl rfl
  · dsimp only
    split
    · exact .inl rfl
    · split
      · exact .inl rfl
      · split <;> exact .inr ⟨_, _, rfl⟩

theorem sameCache_decodeStates (m : StateManager D) (static dynamic : String)
    (session : Option Session) : SameCache m (m.decodeStates static dynamic session).2 := by
  rcases m.decodeStates_leaves static dynamic session with heq | ⟨mark, keys, heq⟩
  · rw [heq]
    exact .refl m
  · rw [heq]
    exact sameCache_updateStore m mark _

/-- Rebuilding a document does not look at the cache. -/
theorem sameCache_restoreDocument (m : StateManager D) (static dynamic : String)
    (session : Option Session) (factory : DocumentFactory D) :
    SameCache m (m.restoreDocument static dynamic session factory).2 := by
  have hdecode := sameCache_decodeStates m static dynamic session
  unfold restoreDocument
  split
  · rename_i e m₁ h
    rw [h] at hdecode
    exact hdecode
  · rename_i states m₁ h
    rw [h] at hdecode
    have hstatic := sameCache_restoreStatic m₁ states.staticState (originOf static)
    split <;> rename_i h' <;> rw [h'] at hstatic <;> exact hdecode.trans hstatic

/-- The fingerprint of a pair under a configuration. -/
def fingerprint (digest : String → String) (config : EngineConfig) (pair : StatePair) : String :=
  digest (if config.ajaxTest then pair.staticState else pair.render)

/-- The pair of keys that a request with two tokens asks for. -/
def requestPair (static dynamic : String) : StatePair :=
  { staticState := (StateToken.parse static).key, dynamicState := (StateToken.parse dynamic).key }

/-- The document in the cache for two tokens. -/
def cached? (m : StateManager D) (static dynamic : String) : Option D :=
  if m.config.cache.cacheDocument then m.documents.find? (requestPair static dynamic) else none

/-- A document taken out of the cache is the one that is there. -/
theorem takeDocument_fst (m : StateManager D) (static dynamic : String) :
    (m.takeDocument static dynamic).1 = m.cached? static dynamic := by
  unfold takeDocument cached?
  split <;> rfl

/-! ## Kept documents -/

section Kept

variable [LiveDocument D]

/-- The pair that a document is kept under: the keys of its states where the server holds them,
and the encoded states themselves otherwise. -/
def pairOf (m : StateManager D) (document : D) : Except StateError StatePair :=
  if (m.stateOf document).isClientHandled then
    (encodeDynamic document).map fun dynamic =>
      { staticState := (m.stateOf document).token, dynamicState := dynamic }
  else .ok (m.keysOf document)

/-- Serializing a state keeps its identifier and the side that holds it. -/
theorem state_serialize (p : StatePool) (id other : StateId) :
    ((p.serialize id).2.state other).uuid = (p.state other).uuid ∧
      ((p.serialize id).2.state other).isClientHandled = (p.state other).isClientHandled := by
  simp only [StatePool.serialize, StatePool.update, StatePool.state]
  by_cases hlt : other < p.states.size
  · by_cases heq : id = other
    · subst heq
      simp [Array.getD, hlt, Array.getElem_modify, StaticState.serialize,
        StaticState.isClientHandled]
    · simp [Array.getD, hlt, Array.getElem_modify, heq]
  · simp [Array.getD, hlt]

theorem sameCache_persist (m : StateManager D) (document : D) :
    SameCache m (m.persist document).2 := by
  unfold persist
  split
  · exact .refl m
  · dsimp only [serialize]
    split <;> exact ⟨rfl, rfl⟩

/-- A document whose states were put in the store still has the pair that it had. -/
theorem pairOf_persist (m : StateManager D) (document : D) :
    (m.persist document).2.pairOf document = m.pairOf document := by
  by_cases hclient : (m.stateOf document).isClientHandled
  · simp [persist, hclient]
  · have hstate := state_serialize m.pool (staticState document) (staticState document)
    have hpool : (m.persist document).2.pool = (m.pool.serialize (staticState document)).2 := by
      simp only [persist, hclient, serialize]
      split
      · contradiction
      · split <;> rfl
    simp only [pairOf, keysOf, stateOf, hpool, hstate] at hclient ⊢
    simp [hclient]

/-- The key of a cached document is the pair that the document has. -/
theorem cacheKey_fst (m : StateManager D) (document : D) :
    (m.cacheKey document).1 = m.pairOf document := by
  unfold cacheKey pairOf
  split
  · rfl
  · rfl

theorem sameCache_cacheKey (m : StateManager D) (document : D) :
    SameCache m (m.cacheKey document).2 := by
  unfold cacheKey
  split
  · exact sameCache_serialize m _
  · exact .refl m

/-- **A call that keeps a document changes the cache by that document at most**, which then lies
under the pair that it had before the call. -/
theorem keep_documents (m : StateManager D) (document : D) :
    (m.keep document).2.config = m.config ∧
      ((m.keep document).2.documents = m.documents ∨
        ∃ pair, m.pairOf document = .ok pair ∧
          (m.keep document).2.documents = m.documents.store pair document) := by
  -- persisting and making the key leave the cache alone, so what is stored is the one change
  have hpersist := sameCache_persist m document
  have hpair := pairOf_persist m document
  unfold keep
  split
  · rename_i e m₁ h
    rw [h] at hpersist
    exact ⟨hpersist.config, .inl hpersist.documents⟩
  · rename_i m₁ h
    rw [h] at hpersist hpair
    have hkey := sameCache_cacheKey m₁ document
    have hkeyPair := cacheKey_fst m₁ document
    unfold cacheDocument
    split
    · split
      · rename_i e m₂ h'
        rw [h'] at hkey
        have h := hpersist.trans hkey
        exact ⟨h.config, .inl h.documents⟩
      · rename_i pair m₂ h'
        rw [h'] at hkey hkeyPair
        have h := hpersist.trans hkey
        refine ⟨h.config, .inr ⟨pair, ?_, ?_⟩⟩
        · rw [← hpair]
          exact hkeyPair.symm
        · rw [← h.documents]
    · exact ⟨hpersist.config, .inl hpersist.documents⟩

/-- A document whose state the server holds lies in the cache under the keys of its states, and
so a request finds it with any two tokens that have these keys. -/
theorem cached?_keep (m : StateManager D) (document : D) {static dynamic text : String}
    (hcache : m.config.cache.cacheDocument = true)
    (hserver : (m.stateOf document).isClientHandled = false)
    (htext : encodeDynamic document = .ok text)
    (hkeys : requestPair static dynamic = m.keysOf document) :
    (m.keep document).2.cached? static dynamic = some document := by
  have hpersist := sameCache_persist m document
  have hpair : (m.persist document).2.pairOf document = .ok (m.keysOf document) := by
    rw [pairOf_persist]
    simp [pairOf, hserver]
  have hdone : (m.persist document).1 = .ok () := by simp [persist, hserver, htext]
  rcases h : m.persist document with ⟨answer, m₁⟩
  rw [h] at hpersist hpair hdone
  subst hdone
  rw [← cacheKey_fst] at hpair
  rcases h₁ : m₁.cacheKey document with ⟨key, m₂⟩
  have hkey := sameCache_cacheKey m₁ document
  rw [h₁] at hpair hkey
  subst hpair
  have hconfig : m₂.config = m.config := (hpersist.trans hkey).config
  have hcache₁ : m₁.config.cache.cacheDocument = true := by rw [hpersist.config, hcache]
  simp [keep, h, cacheDocument, hcache₁, h₁, cached?, hconfig, hcache, hkeys, DocumentCache.store,
    DocumentCache.find?, DocumentCache.key]

end Kept

/-! ## Calls and runs -/

/-- A call on a manager, or what the host does between two calls: it makes, analyses and
serializes static states, and chooses the stores. -/
inductive Call (D : Type) where
  | host (pool : StatePool) (persistent : StateStore) (session : Option StateStore)
  | afterInitialResponse (document : D)
  | afterUpdateResponse (document : D)
  | findOrRestore (request : Document) (session : Option Session) (factory : DocumentFactory D)

namespace Call

/-- The document that a call keeps. -/
def kept? : Call D → Option D
  | .afterInitialResponse document => some document
  | .afterUpdateResponse document => some document
  | .host _ _ _ => none
  | .findOrRestore _ _ _ => none

/-- The manager after a call. -/
def apply [LiveDocument D] (m : StateManager D) : Call D → StateManager D
  | .host pool persistent session => { m with pool, persistent, session }
  | .afterInitialResponse document => (m.afterInitialResponse document).2
  | .afterUpdateResponse document => (m.afterUpdateResponse document).2
  | .findOrRestore request session factory => (m.findOrRestore request session factory).2

end Call

/-- A request leaves the configuration, the way the cache makes its fingerprints, and in the
cache only what was there. -/
theorem findOrRestore_documents (m : StateManager D) (request : Document)
    (session : Option Session) (factory : DocumentFactory D) :
    (m.findOrRestore request session factory).2.config = m.config ∧
      (m.findOrRestore request session factory).2.documents.key = m.documents.key ∧
      ∀ e ∈ (m.findOrRestore request session factory).2.documents.table.entries,
        e ∈ m.documents.table.entries := by
  -- taking a document out can only make the cache smaller
  have htake : ∀ static dynamic, (m.takeDocument static dynamic).2.config = m.config ∧
      (m.takeDocument static dynamic).2.documents.key = m.documents.key ∧
      ∀ e ∈ (m.takeDocument static dynamic).2.documents.table.entries,
        e ∈ m.documents.table.entries := by
    intro static dynamic
    unfold takeDocument
    split
    · exact ⟨rfl, rfl, fun e he => RecencyTable.mem_entries_of_mem_erase he⟩
    · exact ⟨rfl, rfl, fun e he => he⟩
  unfold findOrRestore
  split
  · exact ⟨rfl, rfl, fun e he => he⟩
  · rename_i static dynamic _
    have h := htake static dynamic
    unfold findByTokens
    split
    · exact ⟨rfl, rfl, fun e he => he⟩
    · split
      · rename_i document m₁ h₁
        rw [h₁] at h
        exact h
      · rename_i m₁ h₁
        rw [h₁] at h
        have hrestore := sameCache_restoreDocument m₁ static dynamic session factory
        rw [hrestore.config, hrestore.documents]
        exact h

section Run

variable [LiveDocument D] (digest : String → String) (uuids : Nat → String) (config : EngineConfig)

/-- The manager after a run of calls on the empty one. -/
def run (calls : List (Call D)) : StateManager D :=
  calls.foldl Call.apply (ofConfig digest uuids config)

/-- Some call of a run kept a document, under a pair. -/
def KeptUnder (calls : List (Call D)) (pair : StatePair) (document : D) : Prop :=
  ∃ before call after, calls = before ++ call :: after ∧ call.kept? = some document ∧
    (run digest uuids config before).pairOf document = .ok pair

variable {digest uuids config}

theorem run_concat (calls : List (Call D)) (call : Call D) :
    run digest uuids config (calls ++ [call]) = call.apply (run digest uuids config calls) := by
  simp [run]

/-- What was kept in a run is kept in a longer one. -/
theorem KeptUnder.concat {calls : List (Call D)} {pair : StatePair} {document : D}
    (h : KeptUnder digest uuids config calls pair document) (call : Call D) :
    KeptUnder digest uuids config (calls ++ [call]) pair document := by
  obtain ⟨before, kept, after, rfl, hkept, hpair⟩ := h
  exact ⟨before, kept, after ++ [call], by simp, hkept, hpair⟩

variable (digest uuids config)

/-- What a run makes of a manager: the configuration is the one that it began with, and
everything in the document cache was kept by a call of the run. -/
structure History (calls : List (Call D)) (m : StateManager D) : Prop where
  config_eq : m.config = config
  key_eq : m.documents.key = fingerprint digest config
  kept : ∀ e ∈ m.documents.table.entries, ∃ pair,
    fingerprint digest config pair = e.1 ∧ KeptUnder digest uuids config calls pair e.2

variable {digest uuids config}

/-- One more call that keeps a document. -/
theorem History.keep {calls : List (Call D)} {document : D} {call : Call D}
    (h : History digest uuids config calls (run digest uuids config calls))
    (hcall : call.kept? = some document) :
    History digest uuids config (calls ++ [call])
      ((run digest uuids config calls).keep document).2 := by
  -- the new entry is witnessed by this call, the old ones by the calls before it
  obtain ⟨hconfig, hdocuments⟩ := keep_documents (run digest uuids config calls) document
  have hold : ∀ e ∈ (run digest uuids config calls).documents.table.entries, ∃ pair,
      fingerprint digest config pair = e.1 ∧
        KeptUnder digest uuids config (calls ++ [call]) pair e.2 := by
    intro e he
    obtain ⟨pair, hpair, hkept⟩ := h.kept e he
    exact ⟨pair, hpair, hkept.concat call⟩
  rcases hdocuments with hsame | ⟨pair, hpair, hstore⟩
  · exact ⟨hconfig.trans h.config_eq, by rw [hsame, h.key_eq], by rwa [hsame]⟩
  · refine ⟨hconfig.trans h.config_eq, by rw [hstore, ← h.key_eq]; rfl, fun e he => ?_⟩
    rw [hstore] at he
    rcases RecencyTable.mem_entries_push he with rfl | he
    · refine ⟨pair, by rw [← h.key_eq], calls, call, [], rfl, hcall, hpair⟩
    · exact hold e he

/-- **The document cache remembers the run**: whatever lies in it was kept by an earlier call,
under a pair with that fingerprint. -/
theorem history_run (calls : List (Call D)) :
    History digest uuids config calls (run digest uuids config calls) := by
  -- a run ends with its last call, so the induction takes calls off the end
  induction calls using List.reverseRecOn with
  | nil =>
    refine ⟨rfl, rfl, fun e he => ?_⟩
    simp [run, ofConfig, DocumentCache.ofConfig, DocumentCache.ofSize, RecencyTable.ofSize] at he
  | append_singleton calls call ih =>
    rw [run_concat]
    have hold : ∀ e ∈ (run digest uuids config calls).documents.table.entries, ∃ pair,
        fingerprint digest config pair = e.1 ∧
          KeptUnder digest uuids config (calls ++ [call]) pair e.2 := by
      intro e he
      obtain ⟨pair, hpair, hkept⟩ := ih.kept e he
      exact ⟨pair, hpair, hkept.concat call⟩
    cases call with
    | host pool persistent session => exact ⟨ih.config_eq, ih.key_eq, hold⟩
    | afterInitialResponse document => exact ih.keep rfl
    | afterUpdateResponse document => exact ih.keep rfl
    | findOrRestore request session factory =>
      obtain ⟨hconfig, hkey, hmem⟩ :=
        findOrRestore_documents (run digest uuids config calls) request session factory
      exact ⟨hconfig.trans ih.config_eq, hkey.trans ih.key_eq, fun e he => hold e (hmem e he)⟩

/-- A document that a request finds in the cache was kept by an earlier call. -/
theorem keptUnder_of_cached? {calls : List (Call D)} {static dynamic : String} {document : D}
    (h : (run digest uuids config calls).cached? static dynamic = some document) :
    ∃ pair, fingerprint digest config pair =
        fingerprint digest config (requestPair static dynamic) ∧
      KeptUnder digest uuids config calls pair document := by
  have hhistory : History digest uuids config calls _ := history_run calls
  unfold cached? at h
  split at h
  · obtain ⟨pair, hpair, hkept⟩ := hhistory.kept _ (RecencyTable.mem_of_find? h)
    exact ⟨pair, by rw [hpair, hhistory.key_eq], hkept⟩
  · contradiction

end Run

end StateManager

end FormEngine
