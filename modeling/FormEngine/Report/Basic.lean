import FormEngine.Diagnostics
import FormEngine.Document.Json
/-!
# Reports

A report is the JSON form in which a tool looks at a value: it leaves nothing out and is not
read back. What has no order of its own is listed in ascending order, each entry once.
-/

namespace FormEngine

open Json

namespace Report

def text? (s : Option String) : Value := .ofOption .text s

def texts (xs : List String) : Value := .list .text xs

def nats (xs : List Nat) : Value := .list .nat xs

/-- A set of texts. -/
def textSet (xs : List String) : Value :=
  texts (xs.mergeSort fun a b => decide (a ≤ b)).eraseDups

/-- A set of numbers. -/
def natSet (xs : List Nat) : Value :=
  nats (xs.mergeSort fun a b => decide (a ≤ b)).eraseDups

end Report

/-- The declared namespaces stand in their order, as pairs. -/
def Document.report (d : Document) : Value :=
  .record [("nodes", .list Node.toJson d.nodes.toList), ("root", .nat d.root),
    ("namespaces", .list (fun e => .array [.text e.1, .text e.2]) d.namespaces)]

def Warning.report (w : Warning) : Value :=
  .record [("code", .text w.code), ("message", .text w.message)]

end FormEngine
