import FormEngine.Text.Blank
import FormEngine.Text.Numeral
/-!
# Properties of a form

A property is a name with a type, a default and, when it is enumerated, the values it may take.
The registry lists all of them. A raw attribute value denotes a value of a property only when
it fits the property's type: any text is a string, and blanks around a boolean or an integer
do not count.
-/

namespace FormEngine

inductive PropertyType where
  | string
  | boolean
  | integer
  deriving DecidableEq, Repr

/-- The value of a property; an integer fits sixty-four bits. -/
inductive PropertyValue where
  | string (s : String)
  | boolean (b : Bool)
  | integer (n : Int)
  deriving DecidableEq, Repr, Inhabited

namespace PropertyValue

def type : PropertyValue → PropertyType
  | .string _ => .string
  | .boolean _ => .boolean
  | .integer _ => .integer

def asString? : PropertyValue → Option String
  | .string s => some s
  | _ => none

def asBoolean? : PropertyValue → Option Bool
  | .boolean b => some b
  | _ => none

def asInteger? : PropertyValue → Option Int
  | .integer n => some n
  | _ => none

/-- The raw text of a value. -/
def render : PropertyValue → String
  | .string s => s
  | .boolean true => "true"
  | .boolean false => "false"
  | .integer n => if n < 0 then "-" ++ Nat.repr n.natAbs else Nat.repr n.natAbs

end PropertyValue

/-- A property that the engine knows. -/
structure PropertyDefinition where
  name : String
  default : PropertyValue
  /-- The values that an enumerated property may take. -/
  allowed : Option (List String) := none
  deriving DecidableEq, Repr

namespace PropertyDefinition

/-- The value that a raw text denotes for the property. -/
def parse? (d : PropertyDefinition) (raw : String) : Option PropertyValue :=
  match d.default.type with
  | .string => some (.string raw)
  | .boolean =>
    if Text.trim raw = "true" then some (.boolean true)
    else if Text.trim raw = "false" then some (.boolean false)
    else none
  | .integer => (Text.readInt64? (Text.trim raw)).map .integer

/-- A value brought to the property's type, by way of its text when it has another. -/
def coerce? (d : PropertyDefinition) (v : PropertyValue) : Option PropertyValue :=
  if v.type = d.default.type then some v else d.parse? v.render

/-- The property may take the value. -/
def accepts (d : PropertyDefinition) (v : PropertyValue) : Bool :=
  match d.allowed, v with
  | none, _ => true
  | some allowed, .string s => allowed.contains s
  | some _, _ => false

end PropertyDefinition

namespace Property

def stateHandling : String := "state-handling"
def noscript : String := "noscript"
def noscriptSupport : String := "noscript-support"
def xpathAnalysis : String := "xpath-analysis"
def externalEvents : String := "external-events"
def sessionHeartbeat : String := "session-heartbeat"

/-- The value of `stateHandling` under which the client keeps the state. -/
def clientHandling : String := "client"

/-- The properties that the engine knows, in their order of display. -/
def registry : List PropertyDefinition :=
  [ ⟨stateHandling, .string "server", some [clientHandling, "server"]⟩,
    ⟨"readonly-appearance", .string "dynamic", some ["static", "dynamic"]⟩,
    ⟨noscript, .boolean false, none⟩,
    ⟨noscriptSupport, .boolean true, none⟩,
    ⟨xpathAnalysis, .boolean false, none⟩,
    ⟨externalEvents, .string "", none⟩,
    ⟨sessionHeartbeat, .boolean true, none⟩,
    ⟨"readonly", .boolean false, none⟩,
    ⟨"order", .string "label control help alert hint", none⟩,
    ⟨"offline", .boolean false, none⟩,
    ⟨"show-error-dialog", .boolean true, none⟩,
    ⟨"show-recoverable-errors", .integer 10, none⟩,
    ⟨"delay-before-incremental-request", .integer 500, none⟩,
    ⟨"internal-short-delay", .integer 10, none⟩,
    ⟨"format.input.date", .string "[M]/[D]/[Y]", none⟩ ]

/-- The definition of a property. -/
def definition? (name : String) : Option PropertyDefinition :=
  registry.find? fun d => d.name == name

/-- The value that a raw text denotes for the property of a name. -/
def parse? (name raw : String) : Option PropertyValue :=
  (definition? name).bind fun d => d.parse? raw

end Property

end FormEngine
