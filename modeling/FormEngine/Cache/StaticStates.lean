import FormEngine.Cache.Recency
import FormEngine.State.Pool
/-!
# The static state cache

Documents that come back with the same token share one static state. The cache finds it by the
fingerprint of the token. A token of a request could have been made up, so it is verified
before it is looked for.
-/

namespace FormEngine

structure StaticStateCache where
  /-- The fingerprint of a text. -/
  digest : String → String
  table : RecencyTable StateId

namespace StaticStateCache

/-- The empty cache of a size. -/
def ofSize (digest : String → String) (size : Nat) : StaticStateCache :=
  { digest, table := .ofSize size }

def size (c : StaticStateCache) : Nat := c.table.size

/-- The state of a token. -/
def find? (c : StaticStateCache) (token : String) : Option StateId := c.table.find? (c.digest token)

/-- The state of a token is used. -/
def touch (c : StaticStateCache) (token : String) : StaticStateCache :=
  { c with table := c.table.touch (c.digest token) }

/-- The state of a token is used and handed out. -/
def get (c : StaticStateCache) (token : String) : Option StateId × StaticStateCache :=
  (c.find? token, c.touch token)

/-- A state is put under its token. -/
def insert (c : StaticStateCache) (token : String) (id : StateId) : StaticStateCache :=
  { c with table := c.table.push (c.digest token) id }

/-- A token of a request is signed, where there is a password. -/
def verify (token : String) (origin : TokenOrigin) (config : EngineConfig) :
    Except AnalysisError Unit :=
  match origin, config.password with
  | .request, some password => (Token.verify token password).mapError .token
  | _, _ => .ok ()

/-- The state of a token, out of the cache or restored and put there. -/
def getOrRestore (c : StaticStateCache) (pool : StatePool) (token : String) (origin : TokenOrigin)
    (config : EngineConfig) : Except AnalysisError StateId × StaticStateCache × StatePool :=
  match verify token origin config with
  | .error e => (.error e, c, pool)
  | .ok () =>
    match c.find? token with
    | some id => (.ok id, c.touch token, pool)
    | none =>
      match pool.restore token origin config with
      | .error e => (.error e, c, pool)
      | .ok (id, pool) => (.ok id, c.insert token id, pool)

end StaticStateCache

end FormEngine
