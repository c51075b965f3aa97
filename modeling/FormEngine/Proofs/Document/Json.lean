import FormEngine.Document.Json
import FormEngine.Proofs.Json.Assign
/-!
# The JSON form of a document gives back the document

Every part of a document is read back from its JSON form: names and attributes without a
condition, nodes and documents when their addresses fit thirty-two bits and no prefix stands
twice in the namespace table. The form is strict and shallow, as the reader of a kind asks.
-/

namespace FormEngine

open Json

/-! ## Lists and tables -/

theorem Json.asList?_list {α : Type} {f : Value → Option α} {g : α → Value} {xs : List α}
    (h : ∀ x ∈ xs, f (g x) = some x) : Value.asList? f (.list g xs) = some xs := by
  simp only [Value.list, Value.asList?]
  induction xs with
  | nil => rfl
  | cons x xs ih =>
    have hx := h x List.mem_cons_self
    have hxs := ih fun y hy => h y (List.mem_cons_of_mem x hy)
    simp [hx, hxs]

/-- A table of texts is read back when no key stands in it twice. -/
theorem Json.asMap?_record {entries : List (String × String)}
    (h : (entries.map Prod.fst).Nodup) :
    Value.asMap? Value.asText? (.record (entries.map fun e => (e.1, .text e.2))) =
      some entries := by
  have hfrom : ∀ (before : List (String × String)), ((before ++ entries).map Prod.fst).Nodup →
      ((entries.map fun e => (e.1, Value.text e.2)).map fun m => (some m.1, m.2)).foldlM
        (fun entries m => do return assign (← m.1) (← Value.asText? m.2) entries) before =
      some (before ++ entries) := by
    induction entries with
    | nil => intro before _; simp
    | cons e entries ih =>
      intro before hbefore
      have hnew : e.1 ∉ before.map Prod.fst := by
        intro hmem
        simp only [List.map_append, List.map_cons, List.nodup_append] at hbefore
        exact hbefore.2.2 e.1 hmem e.1 List.mem_cons_self rfl
      have hnext := ih (List.nodup_cons.1 h).2 (before ++ [e]) (by simpa using hbefore)
      simp only [List.map_cons, List.foldlM_cons]
      simp only [Value.text, Value.asText?, Option.bind_eq_bind, Option.bind_some,
        Option.pure_def, assign_of_notMem hnew] at hnext ⊢
      rw [hnext]
      simp
  exact hfrom [] (by simpa using h)

/-! ## Names and attributes -/

theorem QName.ofJson?_toJson (n : QName) : QName.ofJson? n.toJson = some n := by
  obtain ⟨nsPrefix, uri, localName⟩ := n
  by_cases hp : nsPrefix = "" <;> by_cases hu : uri = "" <;>
    simp [hp, hu, QName.toJson, QName.ofJson?, Value.record, Value.fields?, onlyValue?, valuesOf,
      Value.text, Value.asText?, required, Json.optional]

theorem Attribute.ofJson?_toJson (a : Attribute) : Attribute.ofJson? a.toJson = some a := by
  simp [Attribute.toJson, Attribute.ofJson?, Value.record, Value.fields?, onlyValue?, valuesOf,
    Value.text, Value.asText?, required, QName.ofJson?_toJson]

/-! ## Strict and shallow values -/

theorem Json.areStrict_map {α : Type} {g : α → Value} {xs : List α}
    (h : ∀ x ∈ xs, (g x).isStrict = true) : areStrict (xs.map g) = true := by
  induction xs with
  | nil => rfl
  | cons x xs ih =>
    rw [List.map_cons, areStrict, h x List.mem_cons_self,
      ih fun y hy => h y (List.mem_cons_of_mem x hy), Bool.and_self]

theorem Json.pow_le_pow_sub_pow {k a b : Nat} (hk : k ≤ b) (hb : b < a) :
    Nat.pow 2 k ≤ Nat.pow 2 a - Nat.pow 2 b := by
  have hsmall : 2 ^ k ≤ 2 ^ b := Nat.pow_le_pow_right (by decide) hk
  have hlarge : 2 ^ (b + 1) ≤ 2 ^ a := Nat.pow_le_pow_right (by decide) hb
  rw [Nat.pow_succ] at hlarge
  change 2 ^ k ≤ 2 ^ a - 2 ^ b
  omega

/-- Numbers of thirty-two bits are far from the largest double. -/
theorem Json.isStrict_nat {n : Nat} (h : n < Nat.pow 2 32) : (Value.nat n).isStrict = true := by
  have hbound : Nat.pow 2 32 ≤ overflowThreshold := by
    unfold overflowThreshold
    generalize ha : 1024 = a
    generalize hb : 970 = b
    exact pow_le_pow_sub_pow (by omega) (by omega)
  rw [Value.nat, Value.isStrict, Number.isFinite, decide_eq_true_eq]
  exact Nat.lt_of_lt_of_le h hbound

theorem Json.depthOfItems_map_le {α : Type} {g : α → Value} {xs : List α} {k : Nat}
    (h : ∀ x ∈ xs, (g x).depth ≤ k) : depthOfItems (xs.map g) ≤ k := by
  induction xs with
  | nil => exact Nat.zero_le k
  | cons x xs ih =>
    rw [List.map_cons, depthOfItems]
    exact Nat.max_le.2 ⟨h x List.mem_cons_self, ih fun y hy => h y (List.mem_cons_of_mem x hy)⟩

theorem QName.isStrict_toJson (n : QName) : n.toJson.isStrict = true := by
  by_cases hp : n.nsPrefix = "" <;> by_cases hu : n.uri = "" <;>
    simp [hp, hu, QName.toJson, Value.record, Value.text, Value.isStrict, membersAreStrict]

theorem QName.depth_toJson (n : QName) : n.toJson.depth = 1 := by
  by_cases hp : n.nsPrefix = "" <;> by_cases hu : n.uri = "" <;>
    simp [hp, hu, QName.toJson, Value.record, Value.text, Value.depth, depthOfMembers]

theorem Attribute.isStrict_toJson (a : Attribute) : a.toJson.isStrict = true := by
  simp [Attribute.toJson, Value.record, Value.text, Value.isStrict, membersAreStrict,
    QName.isStrict_toJson]

theorem Attribute.depth_toJson (a : Attribute) : a.toJson.depth = 2 := by
  simp [Attribute.toJson, Value.record, Value.text, Value.depth, depthOfMembers,
    QName.depth_toJson]

theorem NodeKind.isStrict_toJson (k : NodeKind) : k.toJson.isStrict = true := by
  cases k with
  | element name attributes =>
    have h := areStrict_map fun a (_ : a ∈ attributes) => a.isStrict_toJson
    simp [NodeKind.toJson, Value.record, Value.text, Value.list, Value.isStrict, membersAreStrict,
      QName.isStrict_toJson, h]
  | text value =>
    simp [NodeKind.toJson, Value.record, Value.text, Value.isStrict, membersAreStrict]

/-- A kind is far shallower than the reader allows. -/
theorem NodeKind.depth_toJson_le (k : NodeKind) : k.toJson.depth ≤ 4 := by
  cases k with
  | element name attributes =>
    have h := depthOfItems_map_le fun a (_ : a ∈ attributes) => Nat.le_of_eq a.depth_toJson
    simp only [NodeKind.toJson, Value.record, Value.text, Value.list, Value.depth, depthOfMembers,
      QName.depth_toJson, List.map_cons, List.map_nil]
    omega
  | text value =>
    simp [NodeKind.toJson, Value.record, Value.text, Value.depth, depthOfMembers]

/-! ## Nodes -/

theorem NodeKind.ofJson?_toJson (k : NodeKind) : NodeKind.ofJson? k.toJson = some k := by
  have hdepth : k.toJson.depth + containersAroundKind ≤ nestingLimit :=
    Nat.le_trans (Nat.add_le_add_right k.depth_toJson_le _) (by decide)
  have haccepted : (guard (k.toJson.isStrict &&
      decide (k.toJson.depth + containersAroundKind ≤ nestingLimit)) : Option Unit) = some () :=
    if_pos (by rw [k.isStrict_toJson, decide_eq_true hdepth, Bool.and_self])
  rw [NodeKind.ofJson?, haccepted]
  cases k with
  | element name attributes =>
    have hattributes := asList?_list fun a (_ : a ∈ attributes) => a.ofJson?_toJson
    simp [NodeKind.toJson, Value.record, splitType?, Value.fields?, onlyValue?, valuesOf,
      Value.text, Value.asText?, required, Json.optional, QName.ofJson?_toJson, hattributes]
  | text value =>
    simp [NodeKind.toJson, Value.record, splitType?, Value.fields?, onlyValue?, valuesOf,
      Value.text, Value.asText?, required]

/-- The addresses in the links of a node fit thirty-two bits. -/
def Node.Fits (n : Node) : Prop :=
  (∀ p ∈ n.parent, p < Nat.pow 2 32) ∧ ∀ c ∈ n.children, c < Nat.pow 2 32

theorem NodeId.ofJson?_nat {n : NodeId} (h : n < Nat.pow 2 32) :
    NodeId.ofJson? (.nat n) = some n := by
  simp only [NodeId.ofJson?, Value.nat, Value.asNatBelow?, h, if_true]

theorem Node.ofJson?_toJson {n : Node} (h : n.Fits) : Node.ofJson? n.toJson = some n := by
  obtain ⟨kind, parent, children⟩ := n
  have hchildren := asList?_list fun c hc => NodeId.ofJson?_nat (h.2 c hc)
  have hparent : Value.asNullable? NodeId.ofJson? (.ofOption .nat parent) = some parent := by
    cases parent with
    | none => rfl
    | some p =>
      have hp := NodeId.ofJson?_nat (h.1 p rfl)
      simp only [Value.ofOption, Value.asNullable?, Value.nat] at hp ⊢
      rw [hp]
      rfl
  simp [Node.toJson, Node.ofJson?, Value.record, Value.fields?, onlyValue?, valuesOf, required,
    Json.optional, NodeKind.ofJson?_toJson, hparent, hchildren]

theorem Node.isStrict_toJson {n : Node} (h : n.Fits) : n.toJson.isStrict = true := by
  have hchildren := areStrict_map fun c hc => isStrict_nat (h.2 c hc)
  have hparent : (Value.ofOption .nat n.parent).isStrict = true := by
    cases hp : n.parent with
    | none => rfl
    | some p => exact isStrict_nat (h.1 p hp)
  simp [Node.toJson, Value.record, Value.list, Value.isStrict, membersAreStrict,
    NodeKind.isStrict_toJson, hparent, hchildren]

/-! ## Documents -/

/-- A document that its JSON form can hold: addresses fit thirty-two bits and the namespace table
has no prefix twice. -/
structure Document.Portable (d : Document) : Prop where
  root_lt : d.root < Nat.pow 2 32
  nodes : ∀ n ∈ d.nodes.toList, n.Fits
  prefixes : (d.namespaces.map Prod.fst).Nodup

/-- **A document is read back from its JSON form.** -/
theorem Document.ofJson?_toJson {d : Document} (h : d.Portable) :
    Document.ofJson? d.toJson = some d := by
  have hnodes := asList?_list fun n hn => Node.ofJson?_toJson (h.nodes n hn)
  have hroot := NodeId.ofJson?_nat h.root_lt
  have hnamespaces := asMap?_record h.prefixes
  simp [Document.toJson, Document.ofJson?, Value.record, Value.fields?, onlyValue?, valuesOf,
    required, Json.optional, hnodes, hroot] at hnamespaces ⊢
  simp [hnamespaces]

theorem Document.isStrict_toJson {d : Document} (h : d.Portable) : d.toJson.isStrict = true := by
  have hnodes := areStrict_map fun n hn => Node.isStrict_toJson (h.nodes n hn)
  have hnamespaces : ∀ entries : List (String × String),
      membersAreStrict ((entries.map fun e => (e.1, Value.text e.2)).map fun m => (some m.1, m.2)) =
        true := by
    intro entries
    induction entries with
    | nil => rfl
    | cons e entries ih =>
      rw [List.map_cons, List.map_cons, membersAreStrict, ih]
      rfl
  simp only [Document.toJson, Value.record, Value.list, Value.isStrict, membersAreStrict,
    List.map_cons, List.map_nil, hnodes, isStrict_nat h.root_lt, hnamespaces]
  rfl

end FormEngine
