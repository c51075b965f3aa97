import FormEngine.Proofs.Markup.Prefixes
/-!
# What a start tag adds to a document

A start tag is read in many small steps: its names are recorded one by one, a node without attributes
is put in place, and the attributes are set on it one after the other. What comes out is the same as
if all names had been recorded first and a node with all its attributes had been put in place then.
The node has no attribute twice. An attribute that gives way to another one of its name leaves the name
behind in the table, but only if it is in no namespace, and such names are not recorded.
-/

namespace FormEngine

/-! ## Attributes that are set one after the other -/

namespace Attributes

/-- What is looked for among the names with a namespace is found among those that are left, if only
names without a namespace give way. -/
theorem find?_map_name_setAll {P : QName → Bool} (hP : ∀ n, P n = true → n.uri ≠ "")
    {before attributes : List Attribute}
    (h : (before.map (·.name) ++ attributes.map (·.name)).Pairwise fun m n =>
      m.same n = true → n.uri = "") :
    ((setAll before attributes).map (·.name)).find? P =
      (before.map (·.name) ++ attributes.map (·.name)).find? P := by
  induction attributes generalizing before with
  | nil => rw [setAll, List.foldl_nil, List.map_nil, List.append_nil]
  | cons a attributes ih =>
    have hnames := map_name_set a.name a.value before
    have hstep : setAll before (a :: attributes) =
        setAll (Attributes.set a.name a.value before) attributes := rfl
    rw [List.map_cons] at h
    rw [List.map_cons, hstep]
    by_cases hsame : before.any (·.name.same a.name) = true
    · -- the name that gives way is none that is looked for
      rw [if_pos hsame] at hnames
      have hempty : a.name.uri = "" := by
        obtain ⟨b, hb, hbsame⟩ := List.any_eq_true.1 hsame
        exact (List.pairwise_append.1 h).2.2 b.name (List.mem_map_of_mem hb) a.name
          List.mem_cons_self hbsame
      have hother : ¬P a.name = true := fun hfound => hP a.name hfound hempty
      rw [ih ?_, hnames, List.find?_append, List.find?_append, List.find?_cons_of_neg hother]
      rw [hnames]
      exact h.sublist ((List.sublist_cons_self _ _).append_left _)
    · rw [if_neg hsame] at hnames
      rw [ih ?_, hnames, List.append_assoc, List.singleton_append]
      rw [hnames, List.append_assoc, List.singleton_append]
      exact h

end Attributes

/-! ## The element of a tag -/

namespace Document

variable {d d' : Document} {p : NodeId}

/-- A document is its nodes with the root and the table. -/
theorem ext_node? (hnode : ∀ n, d'.node? n = d.node? n) (hroot : d'.root = d.root)
    (hnamespaces : d'.namespaces = d.namespaces) : d' = d := by
  obtain ⟨nodes, root, namespaces⟩ := d
  obtain ⟨nodes', root', namespaces'⟩ := d'
  obtain rfl : nodes' = nodes := Array.ext_getElem? hnode
  obtain rfl : root' = root := hroot
  obtain rfl : namespaces' = namespaces := hnamespaces
  rfl

/-- An attribute may be set before the element is put in place. -/
theorem setAttribute_append (hp : p < d.size) (name : QName) (attributes : List Attribute)
    (a : Attribute) :
    (d.append p (.element name attributes)).setAttribute d.size a.name a.value =
      d.append p (.element name (Attributes.set a.name a.value attributes)) := by
  refine ext_node? ?_ rfl rfl
  intro n
  rw [node?_setAttribute, node?_append, node?_append]
  by_cases hn : n = d.size
  · have hne : ¬d.size = p := Nat.ne_of_gt hp
    simp [hn, hne]
  · rw [if_neg (Ne.symm hn), if_neg hn, if_neg hn]

end Document

namespace Markup

variable {d : Document} {p : NodeId}

/-- The table with the prefix of a name, unless it is there already or the name has no namespace. -/
def recordName (table : List (String × String)) (name : QName) : List (String × String) :=
  if name.nsPrefix.isEmpty || name.uri.isEmpty then table
  else if (table.lookup name.nsPrefix).isSome then table
  else table ++ [(name.nsPrefix, name.uri)]

/-- The table with the prefixes of these names, in order. -/
def recordNames (table : List (String × String)) (names : List QName) : List (String × String) :=
  names.foldl recordName table

theorem declareName_eq (d : Document) (name : QName) :
    declareName d name = { d with namespaces := recordName d.namespaces name } := by
  unfold declareName Document.declareNamespace recordName Document.namespace?
  split
  · rfl
  · split <;> rfl

/-- **All names of a tag may be recorded, and all attributes set, before its element is put in
place.** -/
theorem foldl_setAttribute_append (hp : p < d.size) (name : QName)
    (before attributes : List Attribute) :
    attributes.foldl (setAttribute d.size) (d.append p (.element name before)) =
      { d.append p (.element name (Attributes.setAll before attributes)) with
        namespaces := recordNames d.namespaces (attributes.map (·.name)) } := by
  induction attributes generalizing d before with
  | nil => rfl
  | cons a attributes ih =>
    let declared : Document := { d with namespaces := recordName d.namespaces a.name }
    have hstep : setAttribute d.size (d.append p (.element name before)) a =
        declared.append p (.element name (Attributes.set a.name a.value before)) := by
      have hp' : p < declared.size := hp
      rw [setAttribute, declareName_eq, ← Document.setAttribute_append hp']
      rfl
    rw [List.foldl_cons, hstep]
    exact @ih declared hp _

/-- The same for the root, which has no parent. -/
theorem foldl_setAttribute_lone (name : QName) (before attributes : List Attribute)
    (table : List (String × String)) :
    attributes.foldl (setAttribute 0) (.lone name before table) =
      .lone name (Attributes.setAll before attributes)
        (recordNames table (attributes.map (·.name))) := by
  induction attributes generalizing before table with
  | nil => rfl
  | cons a attributes ih =>
    have hstep : setAttribute 0 (.lone name before table) a =
        .lone name (Attributes.set a.name a.value before) (recordName table a.name) := by
      rw [setAttribute, declareName_eq]
      simp [Document.lone, Document.setAttribute]
    rw [List.foldl_cons, hstep, ih]
    rfl

/-! ## The table -/

/-- The namespace that a prefix stands for where it is first used for one. -/
def firstUse? (p : String) (names : List QName) : Option String :=
  (names.find? fun n => n.nsPrefix == p && n.uri != "").map (·.uri)

/-- The table has each prefix for the namespace of its first use. -/
def Tabulates (table : List (String × String)) (names : List QName) : Prop :=
  ∀ p, p ≠ "" → table.lookup p = firstUse? p names

theorem firstUse?_append (p : String) (names more : List QName) :
    firstUse? p (names ++ more) = (firstUse? p names).or (firstUse? p more) := by
  rw [firstUse?, List.find?_append, Option.map_or]
  rfl

theorem Tabulates.congr {table : List (String × String)} {names names' : List QName}
    (h : Tabulates table names) (hsame : ∀ p, firstUse? p names' = firstUse? p names) :
    Tabulates table names' := by
  intro p hp
  rw [h p hp, hsame p]

theorem lookup_recordName {p : String} (hp : p ≠ "") (table : List (String × String))
    (name : QName) : (recordName table name).lookup p =
      if name.nsPrefix = p ∧ name.uri ≠ "" then (table.lookup p).or (some name.uri)
      else table.lookup p := by
  have h := namespace?_declareName hp { nodes := #[], root := 0, namespaces := table } name
  rwa [declareName_eq] at h

theorem Tabulates.recordNames {table : List (String × String)} {names : List QName}
    (h : Tabulates table names) (more : List QName) :
    Tabulates (recordNames table more) (names ++ more) := by
  induction more generalizing table names with
  | nil => rwa [List.append_nil]
  | cons name more ih =>
    have hstep : Tabulates (recordName table name) (names ++ [name]) := by
      intro p hp
      rw [lookup_recordName hp, h p hp, firstUse?_append]
      by_cases hname : name.nsPrefix = p ∧ name.uri ≠ ""
      · simp [firstUse?, hname]
      · have hother : ¬(name.nsPrefix == p && name.uri != "") = true := by
          rwa [Bool.and_eq_true, beq_iff_eq, bne_iff_ne]
        have hnone : firstUse? p [name] = none := by
          rw [firstUse?, List.find?_singleton, if_neg hother, Option.map_none]
        rw [if_neg hname, hnone, Option.or_none]
    have hrest := ih hstep
    rwa [List.append_assoc, List.singleton_append] at hrest

/-! ## Tags that have been resolved -/

namespace ResolvedTag

variable {tag : ResolvedTag}

/-- The names of a tag in the order in which they are recorded. -/
def names (tag : ResolvedTag) : List QName := tag.name :: tag.attributes.map (·.name)

/-- The element of a tag. -/
def kind (tag : ResolvedTag) : NodeKind := .element tag.name (Attributes.setAll [] tag.attributes)

/-- A start tag puts its element in place with all its attributes, and records all its names. -/
theorem foldl_setAttribute_appendElement (hp : p < d.size) (tag : ResolvedTag) :
    tag.attributes.foldl (setAttribute d.size)
        ((declareName d tag.name).appendElement p tag.name []) =
      { d.append p tag.kind with namespaces := recordNames d.namespaces tag.names } := by
  let declared : Document := { d with namespaces := recordName d.namespaces tag.name }
  have hp' : p < declared.size := hp
  rw [declareName_eq]
  exact foldl_setAttribute_append hp' tag.name [] tag.attributes

theorem foldl_setAttribute_ofRoot (tag : ResolvedTag) :
    tag.attributes.foldl (setAttribute 0) (declareName (.ofRoot tag.name) tag.name) =
      .lone tag.name (Attributes.setAll [] tag.attributes) (recordNames [] tag.names) := by
  rw [declareName_eq]
  exact foldl_setAttribute_lone tag.name [] tag.attributes (recordName [] tag.name)

/-- Of two attributes with one name the second has no namespace. -/
def Unrepeated (tag : ResolvedTag) : Prop :=
  (tag.attributes.map (·.name)).Pairwise fun m n => m.same n = true → n.uri = ""

theorem unrepeated_resolveTag (around : Bindings) (raw : String)
    (attributes : List (String × String)) : (resolveTag around raw attributes).Unrepeated := by
  have hplain : ∀ a ∈ (resolveTag around raw attributes).attributes,
      a.name.nsPrefix = "" → a.name.uri = "" := by
    intro a ha
    obtain ⟨raw', -, rfl⟩ := List.mem_map.1 ((dropSameNamed_sublist _ _).subset ha)
    exact uri_attributeName_of_unprefixed
  rw [Unrepeated, List.pairwise_map]
  refine (pairwise_dropSameNamed _ _).2.imp_of_mem ?_
  intro a b ha hb hab hsame
  by_cases hempty : b.name.nsPrefix = ""
  · exact hplain b hb hempty
  · by_cases hempty' : a.name.nsPrefix = ""
    · rw [← (QName.same_iff.1 hsame).1]
      exact hplain a ha hempty'
    · rw [hab hempty' hempty] at hsame
      contradiction

/-- The names of a tag that are in a namespace are all names of its element. -/
theorem Unrepeated.firstUse?_kind (h : tag.Unrepeated) (p : String) :
    firstUse? p tag.kind.names = firstUse? p tag.names := by
  have hnamed : ∀ n : QName, (n.nsPrefix == p && n.uri != "") = true → n.uri ≠ "" := by
    intro n hn
    rw [Bool.and_eq_true, bne_iff_ne] at hn
    exact hn.2
  have hfind := @Attributes.find?_map_name_setAll _ hnamed [] _ h
  rw [firstUse?, firstUse?, kind, names, NodeKind.names, List.find?_cons, List.find?_cons, hfind]
  rfl

end ResolvedTag

end Markup

end FormEngine
