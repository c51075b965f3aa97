import FormEngine.Cache.Documents
import FormEngine.Cache.StaticStates
import FormEngine.State.Request
import FormEngine.State.Store
import FormEngine.State.Token
/-!
# The state manager

Between two requests a live document is in the document cache, or it is only there as a pair
of encoded states, which the client holds or a store. A request names its document by two
tokens. The manager looks in the cache first and rebuilds the document from its states
otherwise. After a response it keeps the document under the tokens of the next request.

Each operation gives its answer with the manager as it leaves it, also when the answer is a
fault.
-/

namespace FormEngine

/-- What the manager asks of a live document. -/
class LiveDocument (D : Type) where
  /-- The static state that the document shares. -/
  staticState : D → StateId
  /-- The key of the dynamic state as it is now. -/
  dynamicUuid : D → String
  /-- The dynamic state as a text. -/
  encodeDynamic : D → Except StateError String
  /-- The dynamic state changed since the last response. -/
  isDirty : D → Bool
  /-- The dynamic state gets a key of its own, and the document is clean. -/
  refreshDynamic : D → D

/-- Rebuilds a document from its static state and the text of its dynamic state. -/
abbrev DocumentFactory (D : Type) : Type :=
  StateId → StaticState → String → Except StateError D

structure StateManager (D : Type) where
  config : EngineConfig
  pool : StatePool
  documents : DocumentCache D
  staticStates : StaticStateCache
  /-- Outlives sessions. -/
  persistent : StateStore
  /-- Ends with the session; there need not be one. -/
  session : Option StateStore := none

namespace StateManager

open LiveDocument

variable {D : Type}

/-- A manager that holds nothing, with a fingerprint of texts for the caches and a supply of
identifiers for static states. -/
def ofConfig (digest : String → String) (uuids : Nat → String) (config : EngineConfig) :
    StateManager D :=
  { config, pool := { uuids }, documents := .ofConfig digest config
    staticStates := .ofSize digest config.cache.staticStateCacheSize
    persistent := .ofSize config.cache.stateStoreSize }

/-! ## Stores -/

/-- The store of a mark. -/
def store? (m : StateManager D) (mark : String) : Option StateStore :=
  if mark = StateToken.persistentMark then some m.persistent
  else if mark = StateToken.sessionMark then m.session
  else none

/-- What a store of a mark has become. -/
def updateStore (m : StateManager D) (mark : String) (f : StateStore → StateStore) : StateManager D :=
  if mark = StateToken.persistentMark then { m with persistent := f m.persistent }
  else if mark = StateToken.sessionMark then { m with session := m.session.map f }
  else m

/-! ## Static states -/

/-- The static state of a token, shared by all documents with the token. -/
def restoreStatic (m : StateManager D) (token : String) (origin : TokenOrigin) :
    Except AnalysisError StateId × StateManager D :=
  let (answer, staticStates, pool) := m.staticStates.getOrRestore m.pool token origin m.config
  (answer, { m with staticStates, pool })

/-- The token of a static state. -/
def serialize (m : StateManager D) (id : StateId) : String × StateManager D :=
  let (token, pool) := m.pool.serialize id
  (token, { m with pool })

/-! ## Requests -/

/-- The encoded states behind two tokens. A direct static token stands for itself with whatever
the other token is; an indirect one asks for another with the same mark. -/
def decodeStates (m : StateManager D) (staticToken dynamicToken : String)
    (session : Option Session) : Except StateError StatePair × StateManager D :=
  match StateToken.parse staticToken with
  | .direct _ => (.ok { staticState := staticToken, dynamicState := dynamicToken }, m)
  | .indirect mark key =>
    let dynamic := StateToken.parse dynamicToken
    let dynamicMark := dynamic.mark?.getD ""
    if mark ≠ dynamicMark then (.error (.inconsistentMarks mark dynamicMark), m)
    else
      let keys : StatePair := { staticState := key, dynamicState := dynamic.key }
      match m.store? mark with
      | none => (.error (.unknownMark mark), m)
      | some store =>
        let m := m.updateStore mark (·.touch keys)
        match store.find? keys with
        | some states => (.ok states, m)
        | none => (.error (.lostState keys session), m)

/-- Only the client can have made up a direct token. -/
def originOf (staticToken : String) : TokenOrigin :=
  if (StateToken.parse staticToken).isIndirect then .store else .request

/-- The document behind two tokens, rebuilt from its states. -/
def restoreDocument (m : StateManager D) (staticToken dynamicToken : String)
    (session : Option Session) (factory : DocumentFactory D) :
    Except StateError D × StateManager D :=
  match m.decodeStates staticToken dynamicToken session with
  | (.error e, m) => (.error e, m)
  | (.ok states, m) =>
    match m.restoreStatic states.staticState (originOf staticToken) with
    | (.error e, m) => (.error (.analysis e), m)
    | (.ok id, m) => (factory id (m.pool.state id) states.dynamicState, m)

/-- The document behind two tokens, taken out of the cache. -/
def takeDocument (m : StateManager D) (staticToken dynamicToken : String) :
    Option D × StateManager D :=
  if m.config.cache.cacheDocument then
    let (document, documents) := m.documents.take
      { staticState := (StateToken.parse staticToken).key
        dynamicState := (StateToken.parse dynamicToken).key }
    (document, { m with documents })
  else (none, m)

/-- The document behind two tokens. -/
def findByTokens (m : StateManager D) (staticToken dynamicToken : String)
    (session : Option Session) (factory : DocumentFactory D) :
    Except StateError D × StateManager D :=
  if session.isNone && (StateToken.parse staticToken).needsSession then (.error .noSession, m)
  else
    match m.takeDocument staticToken dynamicToken with
    | (some document, m) => (.ok document, m)
    | (none, m) => m.restoreDocument staticToken dynamicToken session factory

/-- The document that a request is about. -/
def findOrRestore (m : StateManager D) (request : Document) (session : Option Session)
    (factory : DocumentFactory D) : Except StateError D × StateManager D :=
  match request.requestTokens with
  | .error e => (.error e, m)
  | .ok (staticToken, dynamicToken) => m.findByTokens staticToken dynamicToken session factory

/-! ## Responses -/

variable [LiveDocument D]

/-- The static state of a document. -/
def stateOf (m : StateManager D) (document : D) : StaticState := m.pool.state (staticState document)

/-- The keys of a document whose state the server holds. -/
def keysOf (m : StateManager D) (document : D) : StatePair :=
  { staticState := (m.stateOf document).uuid, dynamicState := dynamicUuid document }

/-- The static token of the next response. -/
def staticToken (m : StateManager D) (document : D) : String × StateManager D :=
  if (m.stateOf document).isClientHandled then m.serialize (staticState document)
  else (StateToken.persistentMark ++ (m.stateOf document).uuid, m)

/-- The dynamic token of the next response. -/
def dynamicToken (m : StateManager D) (document : D) : Except StateError String :=
  if (m.stateOf document).isClientHandled then encodeDynamic document
  else .ok (StateToken.persistentMark ++ dynamicUuid document)

/-- A state that the server holds is put in the persistent store. The static state is in the
cache from then on, also when the dynamic one turns out to have no text. -/
def persist (m : StateManager D) (document : D) : Except StateError Unit × StateManager D :=
  if (m.stateOf document).isClientHandled then (.ok (), m)
  else
    let keys := m.keysOf document
    let (static, m) := m.serialize (staticState document)
    let m := { m with staticStates := m.staticStates.insert static (staticState document) }
    match encodeDynamic document with
    | .error e => (.error e, m)
    | .ok dynamic =>
      let states : StatePair := { staticState := static, dynamicState := dynamic }
      (.ok (), { m with persistent := m.persistent.add keys states })

/-- The pair that the next request finds a document under: the keys of its states where the
server holds them, and the encoded states otherwise. -/
def cacheKey (m : StateManager D) (document : D) : Except StateError StatePair × StateManager D :=
  if (m.stateOf document).isClientHandled then
    let (static, m) := m.serialize (staticState document)
    ((encodeDynamic document).map fun dynamic =>
      { staticState := static, dynamicState := dynamic }, m)
  else (.ok (m.keysOf document), m)

/-- A document is put in the cache, where documents are cached. -/
def cacheDocument (m : StateManager D) (document : D) : Except StateError Unit × StateManager D :=
  if m.config.cache.cacheDocument then
    match m.cacheKey document with
    | (.error e, m) => (.error e, m)
    | (.ok pair, m) => (.ok (), { m with documents := m.documents.store pair document })
  else (.ok (), m)

/-- A document is kept for the next request: its states first, then itself. -/
def keep (m : StateManager D) (document : D) : Except StateError Unit × StateManager D :=
  match m.persist document with
  | (.error e, m) => (.error e, m)
  | (.ok (), m) => m.cacheDocument document

/-- A document is kept after the response that shows its form. -/
def afterInitialResponse (m : StateManager D) (document : D) :
    Except StateError Unit × StateManager D := m.keep document

/-- A document is kept after a response to an update. -/
def afterUpdateResponse (m : StateManager D) (document : D) :
    Except StateError Unit × StateManager D := m.keep document

/-- A dirty document gets a new dynamic state before it is sent, and a clean one keeps its. -/
def beforeUpdateResponse (document : D) : D :=
  if isDirty document then refreshDynamic document else document

/-- The milliseconds of a heartbeat for each second that a session may be inactive. -/
def heartbeatFactor : Int := 800

/-- The milliseconds between two heartbeats, reckoned in sixty-four bits, or `-1` where none are
needed. -/
def heartbeatDelay (m : StateManager D) (document : D) (session : Option Session) : Int :=
  let state := m.stateOf document
  match session with
  | none => -1
  | some session =>
    if !state.isClientHandled && (state.properties.boolean? Property.sessionHeartbeat).getD false then
      (session.maxInactiveInterval * heartbeatFactor).bmod (Nat.pow 2 64)
    else -1

end StateManager

end FormEngine
