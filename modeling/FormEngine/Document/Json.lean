import FormEngine.Document.Basic
import FormEngine.Json.Reader
import FormEngine.Json.Printer
/-!
# The JSON form of a document

Fields are written in a fixed order: `nodes`, `root`, `namespaces`; `kind`, `parent`,
`children`; `type` first in a kind; `prefix`, `ns`, `local` in a name, where an empty prefix
or namespace is left out. Reading takes fields in any order and passes over unknown ones.
The kind of a node is found by its `type` wherever that stands, so a kind is read whole before
it is understood, and every part of it has to be sound.
-/

namespace FormEngine

open Json

/-! ## Writing -/

def QName.toJson (n : QName) : Value :=
  .record
    ((if n.nsPrefix.isEmpty then [] else [("prefix", .text n.nsPrefix)]) ++
      (if n.uri.isEmpty then [] else [("ns", .text n.uri)]) ++ [("local", .text n.localName)])

def Attribute.toJson (a : Attribute) : Value :=
  .record [("name", a.name.toJson), ("value", .text a.value)]

def NodeKind.toJson : NodeKind → Value
  | .element name attributes =>
    .record [("type", .text "element"), ("name", name.toJson),
      ("attributes", .list Attribute.toJson attributes)]
  | .text value => .record [("type", .text "text"), ("value", .text value)]

def Node.toJson (n : Node) : Value :=
  .record [("kind", n.kind.toJson), ("parent", .ofOption .nat n.parent),
    ("children", .list .nat n.children)]

def Document.toJson (d : Document) : Value :=
  .record [("nodes", .list Node.toJson d.nodes.toList), ("root", .nat d.root),
    ("namespaces", .record (d.namespaces.map fun e => (e.1, .text e.2)))]

/-! ## Reading -/

def QName.ofJson? (v : Value) : Option QName := do
  match ← v.fields? ["prefix", "ns", "local"] with
  | [nsPrefix, uri, localName] =>
    return { nsPrefix := ← optional Value.asText? "" nsPrefix
             uri := ← optional Value.asText? "" uri
             localName := ← required Value.asText? localName }
  | _ => none

def Attribute.ofJson? (v : Value) : Option Attribute := do
  match ← v.fields? ["name", "value"] with
  | [name, value] => return ⟨← required QName.ofJson? name, ← required Value.asText? value⟩
  | _ => none

/-- The containers that a value may be nested in. -/
def nestingLimit : Nat := 127

/-- The containers around the kind of a node: the document, its nodes and the node. -/
def containersAroundKind : Nat := 3

/-- The type of a kind and the rest of it. -/
def NodeKind.splitType? : Value → Option (String × Value)
  | .object members => do
    let type ← (← onlyValue? "type" members).bind Value.asText?
    return (type, .object (members.filter fun m => m.1 != some "type"))
  | .array (type :: rest) => do return (← type.asText?, .array rest)
  | _ => none

def NodeKind.ofJson? (v : Value) : Option NodeKind := do
  guard (v.isStrict && v.depth + containersAroundKind ≤ nestingLimit)
  match ← splitType? v with
  | ("element", rest) =>
    match ← rest.fields? ["name", "attributes"] with
    | [name, attributes] =>
      return .element (← required QName.ofJson? name)
        (← optional (Value.asList? Attribute.ofJson?) [] attributes)
    | _ => none
  | ("text", rest) =>
    match ← rest.fields? ["value"] with
    | [value] => return .text (← required Value.asText? value)
    | _ => none
  | _ => none

/-- The address of a node fits thirty-two bits. -/
def NodeId.ofJson? (v : Value) : Option NodeId := v.asNatBelow? (Nat.pow 2 32)

def Node.ofJson? (v : Value) : Option Node := do
  match ← v.fields? ["kind", "parent", "children"] with
  | [kind, parent, children] =>
    return { kind := ← required NodeKind.ofJson? kind
             parent := ← optional (Value.asNullable? NodeId.ofJson?) none parent
             children := ← optional (Value.asList? NodeId.ofJson?) [] children }
  | _ => none

/-- The arena that a value describes; its links are yet to be checked. -/
def Document.ofJson? (v : Value) : Option Document := do
  match ← v.fields? ["nodes", "root", "namespaces"] with
  | [nodes, root, namespaces] =>
    return { nodes := (← required (Value.asList? Node.ofJson?) nodes).toArray
             root := ← required NodeId.ofJson? root
             namespaces := ← optional (Value.asMap? Value.asText?) [] namespaces }
  | _ => none

end FormEngine
