import FormEngine.Proofs.State.Backing
import FormEngine.Proofs.State.Signature
/-!
# The cached and the stored copy

A document whose state the server holds is in two places between requests: it is cached itself, and
its states are stored. Several copies of a document can be out at once and come back in any order,
and the cache and the store forget independently of each other. Still they agree: keeping a document
stores and caches under the same keys, so whatever stores under the keys of a cached document later
takes its place in the cache, too. So where both have something for a pair of keys, the store has the
text of the document in the cache. The fingerprints of the cache do not matter for this; a collision
can only make the cache forget.
-/

namespace FormEngine

namespace StateManager

open LiveDocument

variable {D : Type} [LiveDocument D]

/-! ## Where documents lie -/

/-- The documents in the cache have their static states in the pool, and each lies under the
fingerprint of the pair that it would be kept under. Without caching there are none. -/
structure Shelved (m : StateManager D) : Prop where
  idle : m.config.cache.cacheDocument = false → m.documents.table.entries = []
  valid : ∀ e ∈ m.documents.table.entries, staticState e.2 < m.pool.size
  key : ∀ e ∈ m.documents.table.entries, ∃ pair,
    m.pairOf e.2 = .ok pair ∧ e.1 = m.documents.key pair

theorem pairOf_eq {m m' : StateManager D} (h : m.pool.Grows m'.pool) {document : D}
    (hid : staticState document < m.pool.size) : m'.pairOf document = m.pairOf document := by
  have hface := h.face _ hid
  unfold pairOf keysOf stateOf
  rw [hface.isClientHandled, hface.uuid, hface.token]

theorem pairOf_of_server {m : StateManager D} {document : D}
    (hserver : (m.stateOf document).isClientHandled = false) :
    m.pairOf document = .ok (m.keysOf document) := by
  unfold pairOf
  rw [hserver]
  rfl

/-- A server document lies under the fingerprint of its keys. -/
theorem Shelved.key_of_server {m : StateManager D} (h : m.Shelved) {e : String × D}
    (he : e ∈ m.documents.table.entries) (hserver : (m.stateOf e.2).isClientHandled = false) :
    e.1 = m.documents.key (m.keysOf e.2) := by
  obtain ⟨pair, hpair, hkey⟩ := h.key e he
  rw [pairOf_of_server hserver] at hpair
  rw [hkey, Except.ok.inj hpair]

/-- Fewer documents, in a pool that has grown. -/
theorem Shelved.of_subset {m m' : StateManager D} (h : m.Shelved)
    (hgrows : m.pool.Grows m'.pool) (hconfig : m'.config = m.config)
    (hkey : m'.documents.key = m.documents.key)
    (hsubset : ∀ e ∈ m'.documents.table.entries, e ∈ m.documents.table.entries) : m'.Shelved where
  idle := by
    intro hidle
    rw [hconfig] at hidle
    refine List.eq_nil_iff_forall_not_mem.2 fun e he => ?_
    have hmem := hsubset e he
    rw [h.idle hidle] at hmem
    exact List.not_mem_nil hmem
  valid := fun e he => hgrows.lt (h.valid e (hsubset e he))
  key := by
    intro e he
    obtain ⟨pair, hpair, hfingerprint⟩ := h.key e (hsubset e he)
    refine ⟨pair, ?_, ?_⟩
    · rw [pairOf_eq hgrows (h.valid e (hsubset e he)), hpair]
    · rw [hkey, hfingerprint]

theorem Shelved.host {m : StateManager D} (h : m.Shelved) {pool : StatePool}
    (hgrows : m.pool.Grows pool) (persistent : StateStore) (session : Option StateStore) :
    ({ m with pool, persistent, session } : StateManager D).Shelved :=
  h.of_subset hgrows rfl rfl fun _ he => he

theorem Shelved.keep {m : StateManager D} (h : m.Shelved) {document : D}
    (hid : staticState document < m.pool.size) : (m.keep document).2.Shelved := by
  have hgrows := m.grows_keep document
  obtain ⟨hconfig, hsame | ⟨pair, hpair, hstore⟩⟩ := m.keep_documents document
  · refine h.of_subset hgrows hconfig (by rw [hsame]) fun e he => ?_
    rw [hsame] at he
    exact he
  · have hkey : (m.keep document).2.documents.key = m.documents.key := by
      rw [hstore]
      rfl
    refine ⟨?_, ?_, ?_⟩
    · intro hidle
      rw [hconfig] at hidle
      rw [m.documents_keep_of_idle document hidle]
      exact h.idle hidle
    · intro e he
      rw [hstore] at he
      rcases RecencyTable.mem_entries_push he with rfl | he
      · exact hgrows.lt hid
      · exact hgrows.lt (h.valid e he)
    · intro e he
      rw [hstore] at he
      rcases RecencyTable.mem_entries_push he with rfl | he
      · refine ⟨pair, ?_, ?_⟩
        · rw [pairOf_eq hgrows hid, hpair]
        · rw [hkey]
      · obtain ⟨pair', hpair', hfingerprint⟩ := h.key e he
        refine ⟨pair', ?_, ?_⟩
        · rw [pairOf_eq hgrows (h.valid e he), hpair']
        · rw [hkey, hfingerprint]

theorem Shelved.findOrRestore {m : StateManager D} (h : m.Shelved) (request : Document)
    (session : Option Session) (factory : DocumentFactory D) :
    (m.findOrRestore request session factory).2.Shelved := by
  obtain ⟨hconfig, hkey, hsubset⟩ := m.findOrRestore_documents request session factory
  exact h.of_subset (m.served_findOrRestore request session factory).grows hconfig hkey hsubset

variable {digest : String → String} {uuids : Nat → String} {config : EngineConfig}

theorem shelved_ofConfig : (ofConfig digest uuids config : StateManager D).Shelved where
  idle := fun _ => rfl
  valid := fun _ he => absurd he List.not_mem_nil
  key := fun _ he => absurd he List.not_mem_nil

theorem shelved_run {calls : List (Call D)} (hfair : FairRun digest uuids config calls) :
    (run digest uuids config calls).Shelved :=
  hfair.induction shelved_ofConfig
    (fun _ _ persistent session h hgrows _ => h.host hgrows persistent session)
    (fun _ _ h hid => h.keep hid)
    (fun _ request session factory h => h.findOrRestore request session factory)

/-! ## Agreement -/

/-- If the server holds the state of a document, and the store has a dynamic state under its keys,
then the store has the text of the document. -/
def AgreesOn (m : StateManager D) (document : D) : Prop :=
  (m.stateOf document).isClientHandled = false →
    ∀ o, m.persistent.owned.find? (dynamicUuid document) = some o →
      o.owner = (m.stateOf document).uuid → encodeDynamic document = .ok o.encoded

/-- The store agrees with all documents in the cache. -/
def Agrees (m : StateManager D) : Prop := ∀ e ∈ m.documents.table.entries, m.AgreesOn e.2

/-- Agreement lasts as long as the store gets nothing new under the key of the document. -/
theorem AgreesOn.mono {m m' : StateManager D} {document : D} (h : m.AgreesOn document)
    (hid : staticState document < m.pool.size) (hgrows : m.pool.Grows m'.pool)
    (hstored : ∀ o, m'.persistent.owned.find? (dynamicUuid document) = some o →
      m.persistent.owned.find? (dynamicUuid document) = some o) : m'.AgreesOn document := by
  intro hserver o ho howner
  have hface := hgrows.face _ hid
  unfold stateOf at hserver howner
  rw [hface.isClientHandled] at hserver
  rw [hface.uuid] at howner
  exact h hserver o (hstored o ho) howner

theorem Agrees.host {m : StateManager D} (h : m.Agrees) (hshelved : m.Shelved) {pool : StatePool}
    (hgrows : m.pool.Grows pool) {persistent : StateStore}
    (hpersistent : persistent = m.persistent ∨ ∃ size, persistent = .ofSize size)
    (session : Option StateStore) : ({ m with pool, persistent, session } : StateManager D).Agrees := by
  intro e he
  refine (h e he).mono (hshelved.valid e he) hgrows fun o ho => ?_
  rcases hpersistent with rfl | ⟨size, rfl⟩
  · exact ho
  · contradiction

theorem Agrees.findOrRestore {m : StateManager D} (h : m.Agrees) (hbacked : m.Backed)
    (hshelved : m.Shelved) (request : Document) (session : Option Session)
    (factory : DocumentFactory D) : (m.findOrRestore request session factory).2.Agrees := by
  have hserved := m.served_findOrRestore request session factory
  obtain ⟨-, -, hsubset⟩ := m.findOrRestore_documents request session factory
  intro e he
  have he' := hsubset e he
  refine (h e he').mono (hshelved.valid e he') hserved.grows fun o ho => ?_
  rcases hserved.persistent with hsame | ⟨keys, htouch⟩
  · rw [hsame] at ho
    exact ho
  · rw [htouch] at ho
    exact (hbacked.sound.find?_touch _ _).symm.trans ho

/-- A client document that is kept stores nothing, and there is nothing for it to agree with. -/
theorem Agrees.keep_of_client {m : StateManager D} (h : m.Agrees) (hshelved : m.Shelved)
    {document : D} (hid : staticState document < m.pool.size)
    (hclient : (m.stateOf document).isClientHandled = true) : (m.keep document).2.Agrees := by
  have hgrows := m.grows_keep document
  obtain ⟨hpersistent, -⟩ := m.stores_keep_of_client hclient
  have hold : ∀ e ∈ m.documents.table.entries, (m.keep document).2.AgreesOn e.2 := by
    intro e he
    refine (h e he).mono (hshelved.valid e he) hgrows fun o ho => ?_
    rw [hpersistent] at ho
    exact ho
  intro e he
  obtain ⟨-, hsame | ⟨pair, -, hstore⟩⟩ := m.keep_documents document
  · rw [hsame] at he
    exact hold e he
  · rw [hstore] at he
    rcases RecencyTable.mem_entries_push he with rfl | he
    · intro hserver
      have hhandled := (hgrows.face _ hid).isClientHandled
      exact absurd (hserver.symm.trans (hhandled.trans hclient)) (by decide)
    · exact hold e he

/-- The entry that keeping a server document puts in the store. -/
theorem owned_keep (m : StateManager D) {document : D} {text : String}
    (hserver : (m.stateOf document).isClientHandled = false)
    (htext : encodeDynamic document = .ok text) :
    (m.keep document).2.persistent.owned = m.persistent.owned.push (dynamicUuid document)
      { owner := (m.stateOf document).uuid, encoded := text } := by
  rw [m.keep_of_server hserver, htext]
  rfl

/-- The entry that keeping a server document puts in the cache. -/
theorem entries_keep (m : StateManager D) {document : D} {text : String}
    (hcache : m.config.cache.cacheDocument = true)
    (hserver : (m.stateOf document).isClientHandled = false)
    (htext : encodeDynamic document = .ok text) :
    (m.documents.key (m.keysOf document), document) ∈
      (m.keep document).2.documents.table.entries := by
  rw [m.keep_of_server hserver, htext]
  simp only [hcache, if_true]
  exact RecencyTable.mem_of_find? (RecencyTable.find?_push_self _ _ _)

/-- **A server document that is kept takes its copies along**: what it displaces in the store under
its own keys, it displaces in the cache, too. -/
theorem Agrees.keep_of_server {m : StateManager D} (h : m.Agrees) (hbacked : m.Backed)
    (hshelved : m.Shelved) {document : D}
    (hserver : (m.stateOf document).isClientHandled = false) : (m.keep document).2.Agrees := by
  have hgrows := m.grows_keep document
  have hkept := m.keep_of_server hserver
  cases htext : encodeDynamic document with
  | error e =>
    rw [htext] at hkept
    intro e he
    rw [hkept] at he
    refine (h e he).mono (hshelved.valid e he) hgrows fun o ho => ?_
    rw [hkept] at ho
    exact ho
  | ok text =>
    have hstored := m.owned_keep hserver htext
    rw [htext] at hkept
    -- a document under another fingerprint has other keys, so its entry is not displaced by its own
    have hold : ∀ e ∈ m.documents.table.entries, e.1 ≠ m.documents.key (m.keysOf document) →
        (m.keep document).2.AgreesOn e.2 := by
      intro e he hne
      have hid' := hshelved.valid e he
      by_cases hdynamic : dynamicUuid e.2 = dynamicUuid document
      · intro hserver' o ho howner
        have hface := hgrows.face _ hid'
        rw [hdynamic, hstored, RecencyTable.find?_push_self] at ho
        obtain rfl := Option.some.inj ho
        have hkeys : m.keysOf document = m.keysOf e.2 := by
          unfold keysOf
          rw [hdynamic]
          exact congrArg (StatePair.mk · _) (howner.trans hface.uuid)
        refine absurd ?_ hne
        rw [hkeys]
        exact hshelved.key_of_server he (hface.isClientHandled.symm.trans hserver')
      · refine (h e he).mono hid' hgrows fun o ho => ?_
        rw [hstored] at ho
        exact hbacked.sound.find?_of_find?_push hdynamic ho
    intro e he
    rw [hkept] at he
    by_cases hcache : m.config.cache.cacheDocument = true
    · simp only [hcache, if_true] at he
      rcases RecencyTable.mem_entries_push_of_ne he with rfl | ⟨he, hne⟩
      · intro _ o ho _
        rw [hstored, RecencyTable.find?_push_self] at ho
        obtain rfl := Option.some.inj ho
        exact htext
      · exact hold e he hne
    · rw [Bool.not_eq_true] at hcache
      simp only [hcache, Bool.false_eq_true, if_false, hshelved.idle hcache] at he
      contradiction

theorem Agrees.keep {m : StateManager D} (h : m.Agrees) (hbacked : m.Backed)
    (hshelved : m.Shelved) {document : D} (hid : staticState document < m.pool.size) :
    (m.keep document).2.Agrees := by
  cases hhandled : (m.stateOf document).isClientHandled with
  | false => exact h.keep_of_server hbacked hshelved hhandled
  | true => exact h.keep_of_client hshelved hid hhandled

/-- The store and the cache agree after every fair run. -/
theorem agrees_run {calls : List (Call D)} (hfair : FairRun digest uuids config calls) :
    (run digest uuids config calls).Agrees := by
  -- a step needs to know what stands behind the store and how the documents lie, so these go along
  have hall : (run digest uuids config calls).Backed ∧ (run digest uuids config calls).Shelved ∧
      (run digest uuids config calls).Agrees := by
    refine hfair.induction (P := fun m => m.Backed ∧ m.Shelved ∧ m.Agrees) ?_ ?_ ?_ ?_
    · exact ⟨backed_of_ofSize rfl, shelved_ofConfig, fun _ he => absurd he List.not_mem_nil⟩
    · rintro m pool persistent session ⟨hbacked, hshelved, hagrees⟩ hgrows hpersistent
      exact ⟨hbacked.host hgrows hpersistent session, hshelved.host hgrows persistent session,
        hagrees.host hshelved hgrows hpersistent session⟩
    · rintro m document ⟨hbacked, hshelved, hagrees⟩ hid
      exact ⟨hbacked.keep hid, hshelved.keep hid, hagrees.keep hbacked hshelved hid⟩
    · rintro m request session factory ⟨hbacked, hshelved, hagrees⟩
      exact ⟨hbacked.findOrRestore request session factory,
        hshelved.findOrRestore request session factory,
        hagrees.findOrRestore hbacked hshelved request session factory⟩
  exact hall.2.2

/-- **The cached and the stored copy of a pair of keys never disagree**: after any fair run, if a
server document lies in the cache and the persistent store has its dynamic key under its static key,
then the document lies under the fingerprint of its keys, its dynamic state has a text, and the
store finds the token of its static state and that text. Identifiers have to mean one static state
each. Neither the fingerprints nor the sizes of the cache and the store matter. -/
theorem cached_agrees_with_stored {calls : List (Call D)}
    (hfair : FairRun digest uuids config calls)
    (huuids : (run digest uuids config calls).pool.Identified) {fingerprint : String} {document : D}
    (hcached : (fingerprint, document) ∈ (run digest uuids config calls).documents.table.entries)
    (hserver : ((run digest uuids config calls).stateOf document).isClientHandled = false)
    {stored : OwnedState}
    (hstored : (run digest uuids config calls).persistent.owned.find? (dynamicUuid document) =
      some stored)
    (howner : stored.owner = ((run digest uuids config calls).stateOf document).uuid) :
    fingerprint = (run digest uuids config calls).documents.key
        ((run digest uuids config calls).keysOf document) ∧
      ∃ text, encodeDynamic document = .ok text ∧
        (run digest uuids config calls).persistent.find?
            ((run digest uuids config calls).keysOf document) =
          some { staticState := ((run digest uuids config calls).stateOf document).token
                 dynamicState := text } := by
  have hshelved := shelved_run hfair
  obtain ⟨id, hbehind, hfind⟩ := (backed_run hfair).find?_of_owned hstored
  have hsame : id = staticState document :=
    huuids hbehind.1 (hshelved.valid _ hcached) (hbehind.2.1.trans howner)
  refine ⟨hshelved.key_of_server hcached hserver, stored.encoded,
    agrees_run hfair _ hcached hserver stored hstored howner, ?_⟩
  rw [howner, hsame] at hfind
  exact hfind

/-! ## Two copies -/

section Copies

/-- A live document that is no more than its static state, a key and a text. -/
structure TextDocument where
  state : StateId
  key : String
  text : String
  deriving DecidableEq

instance : LiveDocument TextDocument where
  staticState document := document.state
  dynamicUuid document := document.key
  encodeDynamic document := .ok document.text
  isDirty _ := false
  refreshDynamic document := document

/-- A copy of a document comes back with a new text, and then another copy with the old one. -/
def copiesRun : List (Call TextDocument) :=
  [.host (lonePool "s0") (.ofSize 10) none, .afterInitialResponse ⟨0, "d1", "old"⟩,
    .afterUpdateResponse ⟨0, "d1", "new"⟩, .afterUpdateResponse ⟨0, "d1", "old"⟩]

/-- The documents of `copiesRun` have the one static state that the host made. -/
theorem fairRun_copiesRun (digest : String → String) (uuids : Nat → String)
    (config : EngineConfig) : FairRun digest uuids config copiesRun := by
  refine fairRun_of_kept fun call hcall => ?_
  simp only [List.mem_cons, List.not_mem_nil, or_false] at hcall
  rcases hcall with rfl | rfl | rfl
  · exact ⟨_, rfl, Nat.zero_lt_one⟩
  · exact ⟨_, rfl, Nat.zero_lt_one⟩
  · exact ⟨_, rfl, Nat.zero_lt_one⟩

/-- The law at `copiesRun`: the text of the copy that came back last is in both places. -/
theorem cached_agrees_with_stored_copiesRun :
    let m := run Digest.sha256Hex (fun _ => "s0") {} copiesRun
    let document : TextDocument := ⟨0, "d1", "old"⟩
    FairRun Digest.sha256Hex (fun _ => "s0") {} copiesRun ∧ m.pool.Identified ∧
      (m.documents.key (m.keysOf document), document) ∈ m.documents.table.entries ∧
      m.persistent.find? (m.keysOf document) =
        some { staticState := (m.stateOf document).token, dynamicState := "old" } := by
  have hfair := fairRun_copiesRun Digest.sha256Hex (fun _ => "s0") {}
  have hsize : (run Digest.sha256Hex (fun _ => "s0") {} copiesRun).pool.size = 1 := rfl
  have huuids : (run Digest.sha256Hex (fun _ => "s0") {} copiesRun).pool.Identified := by
    intro id other hid hother _
    rw [hsize] at hid hother
    exact (Nat.lt_one_iff.1 hid).trans (Nat.lt_one_iff.1 hother).symm
  -- the last call keeps a server document, which is what is cached and what is stored
  have hserver : ((run Digest.sha256Hex (fun _ => "s0") {} (copiesRun.take 3)).stateOf
      (⟨0, "d1", "old"⟩ : TextDocument)).isClientHandled = false := by decide
  have hcached := entries_keep (run Digest.sha256Hex (fun _ => "s0") {} (copiesRun.take 3)) rfl
    hserver rfl
  have hstored := owned_keep (run Digest.sha256Hex (fun _ => "s0") {} (copiesRun.take 3)) hserver rfl
  obtain ⟨hkey, text, htext, hfind⟩ := cached_agrees_with_stored hfair huuids hcached (by decide)
    ((congrArg (RecencyTable.find? · "d1") hstored).trans (RecencyTable.find?_push_self _ _ _)) rfl
  obtain rfl := Except.ok.inj htext
  refine ⟨hfair, huuids, ?_, hfind⟩
  rw [← hkey]
  exact hcached

end Copies

end StateManager

end FormEngine
