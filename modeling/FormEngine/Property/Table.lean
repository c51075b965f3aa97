import FormEngine.Diagnostics
import FormEngine.Property.Registry
/-!
# The properties of one form

A form declares properties globally and on its models, and the host supplies values of its
own. For each registered property the last global declaration that parses wins, else the first
model declaration that parses, else the host's value, else the default. The table keeps only
the values that differ from the default; everything else is read from the registry.
-/

namespace FormEngine

/-- The declarations of a form, names with raw values in document order. -/
structure DeclaredProperties where
  global : List (String × String) := []
  model : List (String × String) := []
  deriving Repr, Inhabited

/-- The properties of a form. -/
structure PropertyTable where
  /-- The values that differ from the default, a name at most once. -/
  nonDefault : List (String × PropertyValue) := []
  /-- The words of the property `external-events`. -/
  externalEvents : List String := []
  deriving DecidableEq, Repr, Inhabited

namespace PropertyTable

/-- The effective value of a property. -/
def property? (t : PropertyTable) (name : String) : Option PropertyValue :=
  (t.nonDefault.lookup name).or ((Property.definition? name).map (·.default))

def string? (t : PropertyTable) (name : String) : Option String :=
  (t.property? name).bind (·.asString?)

def boolean? (t : PropertyTable) (name : String) : Option Bool :=
  (t.property? name).bind (·.asBoolean?)

def integer? (t : PropertyTable) (name : String) : Option Int :=
  (t.property? name).bind (·.asInteger?)

/-- The client keeps the state of the form. -/
def isClientHandled (t : PropertyTable) : Bool :=
  t.string? Property.stateHandling == some Property.clientHandling

/-! ## Merging declarations -/

/-- Values collected so far, with the warnings on the way. -/
structure Merge where
  values : List (String × PropertyValue) := []
  warnings : List Warning := []
  deriving Repr, Inhabited

namespace Merge

/-- A global declaration replaces what was declared before. -/
def addGlobal (m : Merge) (name raw : String) : Merge :=
  match Property.parse? name raw with
  | some v => { m with values := Json.assign name v m.values }
  | none => { m with warnings := m.warnings ++ [.ignoredGlobalProperty name] }

/-- A declaration on a model holds only where nothing was declared before. -/
def addModel (m : Merge) (name raw : String) : Merge :=
  match Property.parse? name raw with
  | some v =>
    if (m.values.lookup name).isSome then m else { m with values := m.values ++ [(name, v)] }
  | none => { m with warnings := m.warnings ++ [.ignoredModelProperty name] }

/-- All declarations of a form, the global ones first. -/
def ofDeclared (declared : DeclaredProperties) : Merge :=
  declared.model.foldl (fun m p => m.addModel p.1 p.2)
    (declared.global.foldl (fun m p => m.addGlobal p.1 p.2) {})

end Merge

/-! ## Resolving -/

/-- A property that nothing declares takes the host's value, and a value that equals the default
is dropped. -/
def settle (host : List (String × PropertyValue)) (values : List (String × PropertyValue))
    (d : PropertyDefinition) : List (String × PropertyValue) :=
  match values.lookup d.name with
  | some v => if v = d.default then values.filter fun e => e.1 != d.name else values
  | none =>
    match (host.lookup d.name).bind d.coerce? with
    | some v => if v = d.default then values else values ++ [(d.name, v)]
    | none => values

/-- The first enumerated property whose value is not one of those it may take. -/
def invalid? (t : PropertyTable) : Option AnalysisError :=
  Property.registry.findSome? fun d =>
    if d.allowed.isSome then
      (t.property? d.name).bind fun v =>
        if d.accepts v then none else some (.invalidProperty d.name v.render)
    else none

/-- The table of a form under a host's values, and the warnings about its declarations. -/
def resolve (declared : DeclaredProperties) (host : List (String × PropertyValue)) :
    List Warning × Except AnalysisError PropertyTable :=
  let merged := Merge.ofDeclared declared
  let table : PropertyTable := { nonDefault := Property.registry.foldl (settle host) merged.values }
  let events := Text.words ((table.string? Property.externalEvents).getD "")
  (merged.warnings,
    match table.invalid? with
    | some e => .error e
    | none => .ok { table with externalEvents := events.eraseDups })

end PropertyTable

end FormEngine
