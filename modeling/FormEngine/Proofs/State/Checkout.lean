import FormEngine.Proofs.Cache.Shelf
import FormEngine.Proofs.State.Identity
/-!
# Documents that are checked out

A request takes its document out of the cache, so that at most one request works with it, and
whoever took it puts it back. A document that was stored once is handed out once at most. A request
that ends with a fault has taken nothing: the cache is asked for the document before anything can go
wrong with rebuilding it, and where it has nothing it stays as it is. The persistent store may have
been searched by then, which changes the order of use of its entries and nothing else.
-/

namespace FormEngine

namespace StateManager

variable {D : Type}

/-! ## Requests that end with a fault -/

/-- Taking a document that is not there changes nothing. -/
theorem documents_takeDocument_of_uncached (m : StateManager D) {static dynamic : String}
    (huncached : m.cached? static dynamic = none) :
    (m.takeDocument static dynamic).2.documents = m.documents := by
  unfold takeDocument
  split
  · rename_i hcache
    unfold cached? at huncached
    rw [if_pos hcache] at huncached
    have hothers : m.documents.table.others (m.documents.key (requestPair static dynamic)) =
        m.documents.table.entries := RecencyTable.others_of_find?_eq_none huncached
    have herase : m.documents.erase (requestPair static dynamic) = m.documents := by
      unfold DocumentCache.erase RecencyTable.erase
      rw [hothers]
    exact herase
  · rfl

/-- **A fault leaves the document cache as it is.** -/
theorem documents_findOrRestore_of_error (m : StateManager D) {request : Document}
    {session : Option Session} {factory : DocumentFactory D} {e : StateError}
    (herror : (m.findOrRestore request session factory).1 = .error e) :
    (m.findOrRestore request session factory).2.documents = m.documents := by
  unfold findOrRestore at herror ⊢
  cases hrequest : request.requestTokens with
  | error e' => rfl
  | ok tokens =>
    obtain ⟨static, dynamic⟩ := tokens
    rw [hrequest] at herror
    dsimp only [findByTokens] at herror ⊢
    by_cases hsession : (session.isNone && (StateToken.parse static).needsSession) = true
    · rw [if_pos hsession]
    · rw [if_neg hsession] at herror ⊢
      have hcached := m.takeDocument_fst static dynamic
      have hdocuments : m.cached? static dynamic = none →
          (m.takeDocument static dynamic).2.documents = m.documents :=
        m.documents_takeDocument_of_uncached
      rcases htake : m.takeDocument static dynamic with ⟨found, m₁⟩
      rw [htake] at herror hcached hdocuments
      cases found with
      | some document => contradiction
      | none =>
        have hrestore := sameCache_restoreDocument m₁ static dynamic session factory
        exact hrestore.documents.trans (hdocuments hcached.symm)

/-- **A fault leaves the persistent store what it is, up to the order of use.** -/
theorem persistent_findOrRestore_perm (m : StateManager D) (hsound : m.persistent.owned.Sound)
    (request : Document) (session : Option Session) (factory : DocumentFactory D) :
    (m.findOrRestore request session factory).2.persistent.owned.entries.Perm
        m.persistent.owned.entries ∧
      (m.findOrRestore request session factory).2.persistent.shared = m.persistent.shared := by
  rcases (m.served_findOrRestore request session factory).persistent with hsame | ⟨keys, htouch⟩
  · rw [hsame]
    exact ⟨.refl _, rfl⟩
  · rw [htouch]
    exact ⟨hsound.perm_touch _, rfl⟩

/-! ## Checkout -/

/-- **Documents are checked out one by one.** For every size and every run of calls a document cache
holds what the shelf holds, the other way round, which are no more documents than the size and one at
least, and a take hands out what the shelf has. Those that were stored are, up to order, those that
were handed out, those that were replaced under their own fingerprint, evicted or cleared away, and
those that are held; so each was handed out once at most. And a request to a manager that ends with a
fault leaves the document cache as it is, and the persistent store with the entries that it had. -/
theorem documents_checked_out (digest : String → String) (name : String) (size : Nat)
    (staticOnly : Bool) (calls : List (DocumentCall D)) :
    let empty : DocumentCache D := .ofSize digest name size staticOnly
    let cache := DocumentCache.after digest name size staticOnly calls
    let shelf := Shelf.after empty.key size calls
    (cache.table.entries = shelf.entries.reverse ∧
      shelf.entries.length ≤ max size 1 ∧
      (∀ pair, (cache.take pair).1 = shelf.find? (empty.key pair)) ∧
      (calls.flatMap (Shelf.stored empty.key)).Perm
        (empty.handedAlong calls ++ (Shelf.ofSize size).lostAlong empty.key calls ++
          shelf.entries)) ∧
      ∀ (m : StateManager D) storeSize storeCalls, m.persistent = .after storeSize storeCalls →
        ∀ request session factory e, (m.findOrRestore request session factory).1 = .error e →
          let m' := (m.findOrRestore request session factory).2
          m'.documents = m.documents ∧
            m'.persistent.owned.entries.Perm m.persistent.owned.entries ∧
            m'.persistent.shared = m.persistent.shared := by
  refine ⟨DocumentCache.behaves_as_shelf digest name size staticOnly calls, ?_⟩
  intro m storeSize storeCalls hstore request session factory e herror
  have hsound : m.persistent.owned.Sound := by
    rw [hstore]
    exact ((StateStore.implements_ofSize storeSize).run storeCalls).sound
  exact ⟨m.documents_findOrRestore_of_error herror,
    m.persistent_findOrRestore_perm hsound request session factory⟩

section Examples

/-- What `keptRun` adds to the store. -/
def keptCalls : List StoreCall :=
  [.add { staticState := "s0", dynamicState := "d1" }
    { staticState := ((lonePool "s0").state 0).token, dynamicState := "d1" }]

/-- A request for another dynamic state. -/
def strayRequest : Document := requestOf "pers:s0" "pers:d2"

theorem requestTokens_strayRequest : strayRequest.requestTokens =
    .ok (StateToken.persistentMark ++ "s0", StateToken.persistentMark ++ "d2") := by decide

/-- The law after `keptRun`: the search of the store ends with nothing, and the document stays in the
cache. -/
theorem documents_checked_out_keptRun :
    let m := run (fun text => text) (fun _ => "s0") {} keptRun
    m.persistent = .after 10 keptCalls ∧ m.documents.table.entries.length = 1 ∧
      (m.findOrRestore strayRequest (some { maxInactiveInterval := 1800 }) refusal).1 =
        .error (.unableToRetrieve { staticState := "s0", dynamicState := "d2" }) ∧
      (m.findOrRestore strayRequest (some { maxInactiveInterval := 1800 }) refusal).2.documents =
        m.documents := by
  intro m
  have hstore : m.persistent = .after 10 keptCalls := rfl
  have herror : (m.findOrRestore strayRequest (some { maxInactiveInterval := 1800 }) refusal).1 =
      .error (.unableToRetrieve { staticState := "s0", dynamicState := "d2" }) := by
    obtain ⟨m₁, -, hanswer⟩ := m.findOrRestore_of_uncached (some { maxInactiveInterval := 1800 })
      refusal requestTokens_strayRequest rfl rfl
    rw [hanswer]
    rfl
  obtain ⟨-, hlaw⟩ := documents_checked_out (D := KeyedDocument) (fun text => text) "documents" 0
    false []
  obtain ⟨hdocuments, -, -⟩ := hlaw m 10 keptCalls hstore _ _ _ _ herror
  exact ⟨hstore, rfl, herror, hdocuments⟩

end Examples

end StateManager

end FormEngine
