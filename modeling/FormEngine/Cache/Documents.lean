import FormEngine.Cache.Recency
import FormEngine.Config.Basic
import FormEngine.State.Pair
/-!
# The document cache

Live documents wait here between two requests, each under the fingerprint of its pair of
states. Taking a document removes it, so that at most one request works with it; whoever took
it puts it back.
-/

namespace FormEngine

structure DocumentCache (D : Type) where
  name : String
  /-- A document is found by its static state alone. -/
  staticOnly : Bool := false
  /-- The fingerprint of a text. -/
  digest : String → String
  table : RecencyTable D

namespace DocumentCache

variable {D : Type}

/-- The empty cache of a name and size. -/
def ofSize (digest : String → String) (name : String) (size : Nat) (staticOnly : Bool) :
    DocumentCache D :=
  { name, staticOnly, digest, table := .ofSize size }

/-- The empty cache of a configuration. -/
def ofConfig (digest : String → String) (config : EngineConfig) : DocumentCache D :=
  .ofSize digest config.cache.documentCacheName config.cache.documentCacheSize config.ajaxTest

def size (c : DocumentCache D) : Nat := c.table.size

def capacity (c : DocumentCache D) : Nat := c.table.capacity

/-- The fingerprint of a pair. -/
def key (c : DocumentCache D) (pair : StatePair) : String :=
  c.digest (if c.staticOnly then pair.staticState else pair.render)

/-- A document is put under its pair, in place of one that is there already. -/
def store (c : DocumentCache D) (pair : StatePair) (document : D) : DocumentCache D :=
  { c with table := c.table.push (c.key pair) document }

/-- The document under a pair. -/
def find? (c : DocumentCache D) (pair : StatePair) : Option D := c.table.find? (c.key pair)

/-- The cache without the document under a pair. -/
def erase (c : DocumentCache D) (pair : StatePair) : DocumentCache D :=
  { c with table := c.table.erase (c.key pair) }

/-- The document under a pair is taken out. -/
def take (c : DocumentCache D) (pair : StatePair) : Option D × DocumentCache D :=
  (c.find? pair, c.erase pair)

/-- The cache without any document. -/
def clear (c : DocumentCache D) : DocumentCache D := { c with table := c.table.clear }

end DocumentCache

end FormEngine
