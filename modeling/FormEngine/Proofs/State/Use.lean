import FormEngine.Proofs.State.Host
import FormEngine.Proofs.State.Marks
import FormEngine.Proofs.State.Recent
/-!
# What a manager asks of its store

Between two calls of a run more can happen to a manager than requests and responses: tokens are
decoded, static states are restored, the host clears caches, and it may go to the persistent store
itself. For the store a use is the calls that it makes there: documents that are kept are added,
and two tokens with the mark of the store are looked up, unless a request ends before that. So the
store after any uses is the store after the calls that they make. What the manager adds under an
identifier is always the token of a static state with that identifier.
-/

namespace FormEngine

namespace StateManager

open LiveDocument StateToken

variable {D : Type}

/-! ## Searches -/

/-- The search of the persistent store for two tokens, where both have its mark. -/
def searches (static dynamic : String) : List StoreCall :=
  if (parse static).mark? = some persistentMark ∧ (parse dynamic).mark? = some persistentMark then
    [.find (requestPair static dynamic)]
  else []

theorem means_searches {token : String → String} (static dynamic : String) :
    ∀ asked ∈ searches static dynamic, asked.Means token := by
  unfold searches
  split
  · exact List.forall_mem_singleton.2 trivial
  · exact fun _ hasked => absurd hasked List.not_mem_nil

theorem persistent_updateStore_of_ne (m : StateManager D) {mark : String}
    (hmark : mark ≠ persistentMark) (f : StateStore → StateStore) :
    (m.updateStore mark f).persistent = m.persistent := by
  unfold updateStore
  rw [if_neg hmark]
  split <;> rfl

/-- A dynamic token without the mark of a static token does not get past the comparison. -/
theorem getD_mark?_ne {mark : String} (hmark : mark ≠ "") {dynamic : String}
    (hother : (parse dynamic).mark? ≠ some mark) : mark ≠ (parse dynamic).mark?.getD "" := by
  cases hdynamic : (parse dynamic).mark? with
  | none => exact hmark
  | some other =>
    rintro rfl
    exact hother hdynamic

/-- **Decoding two tokens searches the persistent store** where both have its mark, and leaves it
alone otherwise. -/
theorem persistent_decodeStates (m : StateManager D) (static dynamic : String)
    (session : Option Session) :
    (m.decodeStates static dynamic session).2.persistent =
      (searches static dynamic).foldl StateStore.apply m.persistent := by
  unfold decodeStates searches requestPair
  cases hstatic : parse static with
  | direct encoded => rfl
  | indirect mark key =>
    dsimp only
    by_cases hmark : mark = persistentMark
    · subst hmark
      by_cases hdynamic : (parse dynamic).mark? = some persistentMark
      · rw [if_neg (by rw [hdynamic]; exact fun hne => hne rfl), if_pos ⟨rfl, hdynamic⟩]
        simp only [store?, updateStore, if_true]
        cases m.persistent.find? { staticState := key, dynamicState := (parse dynamic).key } <;> rfl
      · rw [if_pos (getD_mark?_ne (by decide) hdynamic), if_neg (fun h => hdynamic h.2)]
        rfl
    · have hnone : ¬ ((StateToken.indirect mark key).mark? = some persistentMark ∧
          (parse dynamic).mark? = some persistentMark) := fun h => hmark (Option.some.inj h.1)
      rw [if_neg hnone]
      split
      · rfl
      · split
        · rfl
        · split <;> exact m.persistent_updateStore_of_ne hmark _

/-- The search of the persistent store for a request: none if the request lacks a token or its
session, or if the document is in the cache. -/
def requestSearches (m : StateManager D) (request : Document) (session : Option Session) :
    List StoreCall :=
  match request.requestTokens with
  | .error _ => []
  | .ok (static, dynamic) =>
    if session.isNone && (parse static).needsSession then []
    else if (m.cached? static dynamic).isSome then []
    else searches static dynamic

theorem means_requestSearches {token : String → String} (m : StateManager D) (request : Document)
    (session : Option Session) : ∀ asked ∈ m.requestSearches request session, asked.Means token := by
  unfold requestSearches
  split
  · exact fun _ hasked => absurd hasked List.not_mem_nil
  · split
    · exact fun _ hasked => absurd hasked List.not_mem_nil
    · split
      · exact fun _ hasked => absurd hasked List.not_mem_nil
      · exact means_searches _ _

/-- Rebuilding a document searches the store as decoding its tokens does. -/
theorem persistent_restoreDocument (m : StateManager D) (static dynamic : String)
    (session : Option Session) (factory : DocumentFactory D) :
    (m.restoreDocument static dynamic session factory).2.persistent =
      (searches static dynamic).foldl StateStore.apply m.persistent := by
  rw [← m.persistent_decodeStates static dynamic session]
  unfold restoreDocument
  rcases m.decodeStates static dynamic session with ⟨answer, m₁⟩
  cases answer with
  | error e => rfl
  | ok states =>
    dsimp only
    have hkept : (m₁.restoreStatic states.staticState (originOf static)).2.persistent =
        m₁.persistent := rfl
    rcases hrestore : m₁.restoreStatic states.staticState (originOf static) with ⟨answer, m₂⟩
    rw [hrestore] at hkept
    cases answer <;> exact hkept

/-- **A request searches the persistent store** where it comes to decoding its tokens. -/
theorem persistent_findOrRestore (m : StateManager D) (request : Document)
    (session : Option Session) (factory : DocumentFactory D) :
    (m.findOrRestore request session factory).2.persistent =
      (m.requestSearches request session).foldl StateStore.apply m.persistent := by
  unfold findOrRestore requestSearches
  cases request.requestTokens with
  | error e => rfl
  | ok tokens =>
    obtain ⟨static, dynamic⟩ := tokens
    have hcached := m.takeDocument_fst static dynamic
    have hstore := m.persistent_takeDocument static dynamic
    dsimp only [findByTokens]
    by_cases hsession : (session.isNone && (parse static).needsSession) = true
    · rw [if_pos hsession, if_pos hsession]
      rfl
    · rw [if_neg hsession, if_neg hsession]
      rcases htake : m.takeDocument static dynamic with ⟨found, m₁⟩
      rw [htake] at hcached hstore
      rw [← hcached, ← hstore]
      cases found with
      | some document => rfl
      | none => exact m₁.persistent_restoreDocument static dynamic session factory

/-! ## Additions -/

section Kept

variable [LiveDocument D]

/-- What keeping a document adds to the persistent store: its states under its keys, if the server
holds them and the dynamic one has a text. -/
def additions (m : StateManager D) (document : D) : List StoreCall :=
  if (m.stateOf document).isClientHandled then []
  else
    match encodeDynamic document with
    | .error _ => []
    | .ok text =>
      [.add (m.keysOf document)
        { staticState := (m.stateOf document).token, dynamicState := text }]

/-- What is added under an identifier is the token of the state with the identifier. -/
theorem means_additions {m : StateManager D} {document : D}
    (hid : staticState document < m.pool.size) {p : StatePool} (hgrows : m.pool.Grows p)
    {token : String → String}
    (hpool : ∀ id, id < p.size → (p.state id).token = token (p.state id).uuid) :
    ∀ asked ∈ m.additions document, asked.Means token := by
  have hface := hgrows.face _ hid
  have htoken := hpool _ (hgrows.lt hid)
  rw [hface.token, hface.uuid] at htoken
  unfold additions
  split
  · exact fun _ hasked => absurd hasked List.not_mem_nil
  · split
    · exact fun _ hasked => absurd hasked List.not_mem_nil
    · exact List.forall_mem_singleton.2 htoken

/-- **Keeping a document adds its states to the persistent store**, if the server holds them. -/
theorem persistent_keep (m : StateManager D) (document : D) :
    (m.keep document).2.persistent =
      (m.additions document).foldl StateStore.apply m.persistent := by
  unfold additions
  cases hhandled : (m.stateOf document).isClientHandled with
  | true => exact (m.stores_keep_of_client hhandled).1
  | false =>
    rw [m.keep_of_server hhandled]
    cases encodeDynamic document <;> rfl

end Kept

/-! ## Uses -/

/-- What can happen to a manager: a call of a run, two tokens decoded or a static state restored by
themselves, and what the host does with the caches or with the persistent store. -/
inductive Use (D : Type) where
  | call (made : Call D)
  | decode (static dynamic : String) (session : Option Session)
  | restore (token : String) (origin : TokenOrigin)
  | caches (documents : DocumentCache D) (staticStates : StaticStateCache)
  | store (asked : StoreCall)

section Uses

variable [LiveDocument D]

namespace Use

/-- The manager after a use. -/
def apply (m : StateManager D) : Use D → StateManager D
  | .call made => made.apply m
  | .decode static dynamic session => (m.decodeStates static dynamic session).2
  | .restore token origin => (m.restoreStatic token origin).2
  | .caches documents staticStates => { m with documents, staticStates }
  | .store asked => { m with persistent := m.persistent.apply asked }

/-- A fair use: the calls are fair, and the persistent store stays the one that the manager began
with. -/
def Fair (m : StateManager D) : Use D → Prop
  | .call made => made.Fair m ∧ ∀ pool persistent session,
      made = .host pool persistent session → persistent = m.persistent
  | .decode _ _ _ => True
  | .restore _ _ => True
  | .caches _ _ => True
  | .store _ => True

/-- The calls that a use makes on the persistent store. -/
def storeCalls (m : StateManager D) : Use D → List StoreCall
  | .call (.host _ _ _) => []
  | .call (.afterInitialResponse document) => m.additions document
  | .call (.afterUpdateResponse document) => m.additions document
  | .call (.findOrRestore request session _) => m.requestSearches request session
  | .decode static dynamic _ => searches static dynamic
  | .restore _ _ => []
  | .caches _ _ => []
  | .store asked => [asked]

/-- **The persistent store after a use** is the store after the calls that the use makes there. -/
theorem persistent_apply {m : StateManager D} {use : Use D} (hfair : use.Fair m) :
    (use.apply m).persistent = (use.storeCalls m).foldl StateStore.apply m.persistent := by
  cases use with
  | call made =>
    cases made with
    | host pool persistent session => exact hfair.2 pool persistent session rfl
    | afterInitialResponse document => exact m.persistent_keep document
    | afterUpdateResponse document => exact m.persistent_keep document
    | findOrRestore request session factory =>
      exact m.persistent_findOrRestore request session factory
  | decode static dynamic session => exact m.persistent_decodeStates static dynamic session
  | restore token origin => rfl
  | caches documents staticStates => rfl
  | store asked => rfl

/-- Nothing leaves the pool in a fair use. -/
theorem grows_apply {m : StateManager D} {use : Use D} (hfair : use.Fair m) :
    m.pool.Grows (use.apply m).pool := by
  cases use with
  | call made => exact hfair.1.grows
  | decode static dynamic session =>
    have hasked := m.asked_decodeStates static dynamic session
    exact hasked.served.grows
  | restore token origin => exact ((Asked.refl m).served_restoreStatic token origin).grows
  | caches documents staticStates => exact .refl _
  | store asked => exact .refl _

/-- Identifiers mean one token each: that of the states in a pool with the identifier, and the text
that the host adds under it itself. -/
structure Meaning (token : String → String) (p : StatePool) (uses : List (Use D)) : Prop where
  pool : ∀ id, id < p.size → (p.state id).token = token (p.state id).uuid
  added : ∀ keys states, .store (.add keys states) ∈ uses →
    states.staticState = token keys.staticState

/-- **What a fair use adds under an identifier is its token**, where the pool that it leads to says
what identifiers mean. -/
theorem Meaning.storeCalls {token : String → String} {p : StatePool} {use : Use D}
    {uses : List (Use D)} (h : Meaning token p (use :: uses)) {m : StateManager D}
    (hfair : use.Fair m) (hgrows : m.pool.Grows p) :
    ∀ asked ∈ use.storeCalls m, asked.Means token := by
  have hnone : ∀ asked ∈ ([] : List StoreCall), asked.Means token :=
    fun _ hasked => absurd hasked List.not_mem_nil
  cases use with
  | call made =>
    cases made with
    | host pool persistent session => exact hnone
    | afterInitialResponse document => exact means_additions hfair.1 hgrows h.pool
    | afterUpdateResponse document => exact means_additions hfair.1 hgrows h.pool
    | findOrRestore request session factory => exact means_requestSearches m request session
  | decode static dynamic session => exact means_searches static dynamic
  | restore token origin => exact hnone
  | caches documents staticStates => exact hnone
  | store asked =>
    refine List.forall_mem_singleton.2 ?_
    cases asked with
    | add keys states => exact h.added keys states List.mem_cons_self
    | find keys => trivial

end Use

/-! ## Histories -/

/-- The manager after uses. -/
def after (m : StateManager D) (uses : List (Use D)) : StateManager D := uses.foldl Use.apply m

/-- The manager after a use with uses before and behind it. -/
theorem after_append_cons (m : StateManager D) (uses : List (Use D)) (use : Use D)
    (later : List (Use D)) : m.after (uses ++ use :: later) = (use.apply (m.after uses)).after later :=
  List.foldl_append

/-- Every use is fair to the manager that it finds. -/
def FairUses (m : StateManager D) : List (Use D) → Prop
  | [] => True
  | use :: uses => use.Fair m ∧ FairUses (use.apply m) uses

/-- The calls that uses make on the persistent store. -/
def storeTrace (m : StateManager D) : List (Use D) → List StoreCall
  | [] => []
  | use :: uses => use.storeCalls m ++ storeTrace (use.apply m) uses

theorem FairUses.of_append {m : StateManager D} {uses later : List (Use D)}
    (h : m.FairUses (uses ++ later)) : m.FairUses uses ∧ (m.after uses).FairUses later := by
  induction uses generalizing m with
  | nil => exact ⟨trivial, h⟩
  | cons use uses ih =>
    obtain ⟨huses, hlater⟩ := ih h.2
    exact ⟨⟨h.1, huses⟩, hlater⟩

/-- **The persistent store after any fair uses** is the store after the calls that they make. -/
theorem FairUses.persistent_after {m : StateManager D} {uses : List (Use D)}
    (h : m.FairUses uses) :
    (m.after uses).persistent = (m.storeTrace uses).foldl StateStore.apply m.persistent := by
  induction uses generalizing m with
  | nil => rfl
  | cons use uses ih =>
    show ((use.apply m).after uses).persistent = _
    rw [ih h.2, Use.persistent_apply h.1, storeTrace, List.foldl_append]

theorem FairUses.grows {m : StateManager D} {uses : List (Use D)} (h : m.FairUses uses) :
    m.pool.Grows (m.after uses).pool := by
  induction uses generalizing m with
  | nil => exact .refl _
  | cons use uses ih => exact (Use.grows_apply h.1).trans (ih h.2)

/-- **What fair uses add under an identifier is its token.** -/
theorem FairUses.means {m : StateManager D} {uses : List (Use D)} (h : m.FairUses uses)
    {p : StatePool} (hgrows : (m.after uses).pool.Grows p) {token : String → String}
    (hmeaning : Use.Meaning token p uses) : ∀ asked ∈ m.storeTrace uses, asked.Means token := by
  induction uses generalizing m with
  | nil => exact fun _ hasked => absurd hasked List.not_mem_nil
  | cons use uses ih =>
    have hrest : Use.Meaning token p uses :=
      ⟨hmeaning.pool, fun keys states hmem =>
        hmeaning.added keys states (List.mem_cons_of_mem _ hmem)⟩
    refine List.forall_mem_append.2 ⟨?_, ih h.2 hgrows hrest⟩
    exact hmeaning.storeCalls h.1 (h.grows.trans hgrows)

end Uses

end StateManager

end FormEngine
