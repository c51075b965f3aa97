import FormEngine.Config.Path
import FormEngine.Json.Reader
import FormEngine.Property.Registry
/-!
# Configuration

Everything that a host can tune. In JSON each field may be left out and then has its default;
unknown fields are passed over, and a repeated field is refused.
-/

namespace FormEngine

open Json

structure FeatureFlags where
  noscript : Bool := false
  xpathAnalysis : Bool := false
  deriving DecidableEq, Repr, Inhabited

structure CacheConfig where
  /-- Documents are cached between requests. -/
  cacheDocument : Bool := true
  documentCacheName : String := "xforms.cache.documents"
  documentCacheSize : Nat := 10
  staticStateCacheSize : Nat := 50
  /-- The dynamic states that the persistent store keeps in memory. -/
  stateStoreSize : Nat := 1000
  deriving DecidableEq, Repr, Inhabited

structure EngineConfig where
  /-- Values of properties where a form does not declare them. -/
  globalProperties : List (String × PropertyValue) := []
  features : FeatureFlags := {}
  cache : CacheConfig := {}
  /-- Cached documents are found by their static state alone. -/
  ajaxTest : Bool := false
  /-- Signs the tokens that clients hold. -/
  password : Option String := none
  /-- The versioned paths, recorded into every static state. -/
  pathMatchers : List PathMatcher := []
  deriving DecidableEq, Repr, Inhabited

/-! ## Reading -/

/-- A boolean, a string or an integer of sixty-four bits. -/
def PropertyValue.ofJson? : Value → Option PropertyValue
  | .bool b => some (.boolean b)
  | .string t => t.map .string
  | v => v.asInt64?.map .integer

def PathMatcher.ofJson? (v : Value) : Option PathMatcher := do
  match ← v.fields? ["pathInfo", "mimeType", "versioned"] with
  | [pathInfo, mimeType, versioned] =>
    return { pathInfo := ← required Value.asText? pathInfo
             mimeType := ← optional (Value.asNullable? Value.asText?) none mimeType
             versioned := ← optional Value.asBool? false versioned }
  | _ => none

def FeatureFlags.ofJson? (v : Value) : Option FeatureFlags := do
  match ← v.fields? ["noscript", "xpathAnalysis"] with
  | [noscript, xpathAnalysis] =>
    return { noscript := ← optional Value.asBool? false noscript
             xpathAnalysis := ← optional Value.asBool? false xpathAnalysis }
  | _ => none

/-- Sizes fit sixty-four bits. -/
def sizeOfJson? (v : Value) : Option Nat := v.asNatBelow? (Nat.pow 2 64)

def CacheConfig.ofJson? (v : Value) : Option CacheConfig := do
  match ← v.fields? ["cacheDocument", "documentCacheName", "documentCacheSize",
      "staticStateCacheSize", "stateStoreSize"] with
  | [cacheDocument, documentCacheName, documentCacheSize, staticStateCacheSize, stateStoreSize] =>
    let default : CacheConfig := {}
    return {
      cacheDocument := ← optional Value.asBool? default.cacheDocument cacheDocument
      documentCacheName := ← optional Value.asText? default.documentCacheName documentCacheName
      documentCacheSize := ← optional sizeOfJson? default.documentCacheSize documentCacheSize
      staticStateCacheSize := ← optional sizeOfJson? default.staticStateCacheSize staticStateCacheSize
      stateStoreSize := ← optional sizeOfJson? default.stateStoreSize stateStoreSize }
  | _ => none

def EngineConfig.ofJson? (v : Value) : Option EngineConfig := do
  match ← v.fields? ["globalProperties", "features", "cache", "ajaxTest", "password",
      "pathMatchers"] with
  | [globalProperties, features, cache, ajaxTest, password, pathMatchers] =>
    return {
      globalProperties := ← optional (Value.asMap? PropertyValue.ofJson?) [] globalProperties
      features := ← optional FeatureFlags.ofJson? {} features
      cache := ← optional CacheConfig.ofJson? {} cache
      ajaxTest := ← optional Value.asBool? false ajaxTest
      password := ← optional (Value.asNullable? Value.asText?) none password
      pathMatchers := ← optional (Value.asList? PathMatcher.ofJson?) [] pathMatchers }
  | _ => none

/-- The configuration of a JSON text. -/
def EngineConfig.ofText? (text : String) : Option EngineConfig :=
  (Json.ofText? text).bind ofJson?

/-! ## Writing -/

def PropertyValue.toJson : PropertyValue → Value
  | .string s => .text s
  | .boolean b => .bool b
  | .integer n => .int n

def PathMatcher.toJson (m : PathMatcher) : Value :=
  .record [("pathInfo", .text m.pathInfo), ("mimeType", .ofOption .text m.mimeType),
    ("versioned", .bool m.versioned)]

def FeatureFlags.toJson (f : FeatureFlags) : Value :=
  .record [("noscript", .bool f.noscript), ("xpathAnalysis", .bool f.xpathAnalysis)]

def CacheConfig.toJson (c : CacheConfig) : Value :=
  .record [("cacheDocument", .bool c.cacheDocument),
    ("documentCacheName", .text c.documentCacheName),
    ("documentCacheSize", .nat c.documentCacheSize),
    ("staticStateCacheSize", .nat c.staticStateCacheSize),
    ("stateStoreSize", .nat c.stateStoreSize)]

def EngineConfig.toJson (c : EngineConfig) : Value :=
  .record [("globalProperties", .record (c.globalProperties.map fun e => (e.1, e.2.toJson))),
    ("features", c.features.toJson), ("cache", c.cache.toJson), ("ajaxTest", .bool c.ajaxTest),
    ("password", .ofOption .text c.password), ("pathMatchers", .list PathMatcher.toJson c.pathMatchers)]

end FormEngine
