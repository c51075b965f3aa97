import FormEngine.Proofs.Document.Subtree
import FormEngine.Proofs.Markup.Sound
/-!
# The prefixes that a parsed document knows

A declaration of a prefix is no attribute, and it leaves no trace of its own in the table of a
document: the table takes in a prefix when a name is read that uses it. So for a prefix that is
declared once, at the root, the table has the declared namespace exactly if some element or attribute
of the document is written with the prefix. What keeps this true from tag to tag is that the
declaration is in scope at every open element, and that no attribute that is read gives way to
another one of its name.
-/

namespace FormEngine

/-! ## Names in use -/

/-- The names of a node: that of the element and those of its attributes. -/
def NodeKind.names : NodeKind → List QName
  | .element name attributes => name :: attributes.map (·.name)
  | .text _ => []

namespace Document

variable {d d' : Document} {n m : NodeId} {p uri : String} {name : QName}

/-- Some element or attribute of the document is written with the prefix. -/
def UsesPrefix (d : Document) (p : String) : Prop :=
  ∃ n kind, d.kind? n = some kind ∧ ∃ name ∈ kind.names, name.nsPrefix = p

/-- The table has the prefix, for the namespace, exactly if a name uses it. -/
def Records (d : Document) (p uri : String) : Prop :=
  (d.UsesPrefix p ∧ d.namespace? p = some uri) ∨ (¬d.UsesPrefix p ∧ d.namespace? p = none)

theorem usesPrefix_congr (h : ∀ n, d'.kind? n = d.kind? n) : d'.UsesPrefix p ↔ d.UsesPrefix p := by
  simp only [UsesPrefix, h]

theorem kind?_append (d : Document) (q : NodeId) (kind : NodeKind) (m : NodeId) :
    (d.append q kind).kind? m = if m = d.size then some kind else d.kind? m := by
  rw [kind?, node?_append, kind?, Option.map_map]
  by_cases hm : m = d.size
  · rw [if_pos hm, if_pos hm]
    by_cases hq : m = q <;> simp [hq, Node.addChild]
  · rw [if_neg hm, if_neg hm]
    cases d.node? m with
    | none => rfl
    | some node => by_cases hq : m = q <;> simp [hq, Node.addChild]

/-- A new node uses its own names. -/
theorem usesPrefix_append (q : NodeId) (kind : NodeKind) : (d.append q kind).UsesPrefix p ↔
    d.UsesPrefix p ∨ ∃ name ∈ kind.names, name.nsPrefix = p := by
  constructor
  · rintro ⟨m, kind', hm, hname⟩
    rw [kind?_append] at hm
    split at hm
    · obtain rfl := Option.some.inj hm
      exact .inr hname
    · exact .inl ⟨m, kind', hm, hname⟩
  · rintro (⟨m, kind', hm, hname⟩ | hname)
    · refine ⟨m, kind', ?_, hname⟩
      have hne : m ≠ d.size := by
        rintro rfl
        rw [kind?, node?_of_size_le (Nat.le_refl _)] at hm
        contradiction
      rw [kind?_append, if_neg hne, hm]
    · exact ⟨d.size, kind, by rw [kind?_append, if_pos rfl], hname⟩

theorem kind?_setAttribute_self {element : QName} {attributes : List Attribute}
    (h : d.kind? n = some (.element element attributes)) (name : QName) (value : String) :
    (d.setAttribute n name value).kind? n =
      some (.element element (Attributes.set name value attributes)) := by
  obtain ⟨node, hnode, hkind⟩ := Option.map_eq_some_iff.1 h
  rw [kind?, node?_setAttribute, if_pos rfl, hnode, Option.map_some, Option.map_some, hkind]

theorem kind?_setAttribute_of_ne (h : m ≠ n) (name : QName) (value : String) :
    (d.setAttribute n name value).kind? m = d.kind? m := by
  rw [kind?, node?_setAttribute, if_neg h.symm, kind?]

/-- An attribute that is set adds its name, unless another one of that name takes the value. -/
theorem usesPrefix_setAttribute {element : QName} {attributes : List Attribute}
    (h : d.kind? n = some (.element element attributes)) (value : String)
    (hnew : name.nsPrefix = p → ∀ a ∈ attributes, a.name.same name = false) :
    (d.setAttribute n name value).UsesPrefix p ↔ d.UsesPrefix p ∨ name.nsPrefix = p := by
  have hself := kind?_setAttribute_self h name value
  have hmap := Attributes.map_name_set name value attributes
  constructor
  · rintro ⟨m, kind, hm, other, hother, hwith⟩
    by_cases hmn : m = n
    · subst hmn
      obtain rfl := Option.some.inj (hself.symm.trans hm)
      rcases List.mem_cons.1 hother with rfl | hother
      · exact .inl ⟨m, _, h, other, List.mem_cons_self, hwith⟩
      · rw [hmap] at hother
        split at hother
        · exact .inl ⟨m, _, h, other, List.mem_cons_of_mem _ hother, hwith⟩
        · rcases List.mem_append.1 hother with hother | hother
          · exact .inl ⟨m, _, h, other, List.mem_cons_of_mem _ hother, hwith⟩
          · exact .inr (List.mem_singleton.1 hother ▸ hwith)
    · rw [kind?_setAttribute_of_ne hmn] at hm
      exact .inl ⟨m, kind, hm, other, hother, hwith⟩
  · rintro (⟨m, kind, hm, other, hother, hwith⟩ | hwith)
    · by_cases hmn : m = n
      · subst hmn
        obtain rfl := Option.some.inj (h.symm.trans hm)
        refine ⟨m, _, hself, other, ?_, hwith⟩
        rcases List.mem_cons.1 hother with rfl | hother
        · exact List.mem_cons_self
        · refine List.mem_cons_of_mem _ ?_
          rw [hmap]
          split
          · exact hother
          · exact List.mem_append_left _ hother
      · exact ⟨m, kind, by rw [kind?_setAttribute_of_ne hmn, hm], other, hother, hwith⟩
    · refine ⟨n, _, hself, name, List.mem_cons_of_mem _ ?_, hwith⟩
      have hnone : attributes.any (·.name.same name) = false :=
        List.any_eq_false.2 fun a ha => Bool.eq_false_iff.1 (hnew hwith a ha)
      rw [hmap, hnone]
      exact List.mem_append_right _ (List.mem_singleton.2 rfl)

end Document

namespace Markup

open Document (Records UsesPrefix)

variable {d d' : Document} {p uri : String} {name : QName}

/-! ## The table -/

theorem kind?_declareName (d : Document) (name : QName) (n : NodeId) :
    (declareName d name).kind? n = d.kind? n := by
  unfold declareName Document.declareNamespace
  split
  · rfl
  · split <;> rfl

theorem namespace?_declareNamespace (d : Document) (nsPrefix uri p : String) :
    (d.declareNamespace nsPrefix uri).namespace? p =
      if nsPrefix = p then (d.namespace? p).or (some uri) else d.namespace? p := by
  have hconcat : (d.namespaces ++ [(nsPrefix, uri)]).lookup p =
      (d.namespace? p).or (if p = nsPrefix then some uri else none) := lookup_concat p
  unfold Document.declareNamespace
  split
  · rename_i hsome
    split
    · rename_i hp
      obtain ⟨u, hu⟩ := Option.isSome_iff_exists.1 hsome
      rw [← hp, hu, Option.some_or]
    · rfl
  · refine hconcat.trans ?_
    by_cases hp : nsPrefix = p
    · rw [if_pos hp, if_pos hp.symm]
    · rw [if_neg hp, if_neg (Ne.symm hp), Option.or_none]

section Recording

variable (hp : p ≠ "")

include hp

theorem namespace?_declareName (d : Document) (name : QName) :
    (declareName d name).namespace? p =
      if name.nsPrefix = p ∧ name.uri ≠ "" then (d.namespace? p).or (some name.uri)
      else d.namespace? p := by
  unfold declareName
  by_cases hempty : (name.nsPrefix.isEmpty || name.uri.isEmpty) = true
  · rw [if_pos hempty, if_neg]
    rintro ⟨rfl, huri⟩
    rw [Bool.or_eq_true, String.isEmpty_iff, String.isEmpty_iff] at hempty
    exact hempty.elim hp huri
  · rw [if_neg hempty, namespace?_declareNamespace]
    rw [Bool.or_eq_true, String.isEmpty_iff, String.isEmpty_iff, not_or] at hempty
    simp only [ne_eq, hempty.2, not_false_eq_true, and_true]

variable (huri : uri ≠ "")

include huri

/-- A name that comes in is recorded. -/
theorem Records.add (h : d.Records p uri) (hname : name.nsPrefix = p → name.uri = uri)
    (huses : d'.UsesPrefix p ↔ d.UsesPrefix p ∨ name.nsPrefix = p)
    (htable : d'.namespace? p = (declareName d name).namespace? p) : d'.Records p uri := by
  rw [namespace?_declareName hp] at htable
  by_cases hwith : name.nsPrefix = p
  · refine .inl ⟨huses.2 (.inr hwith), ?_⟩
    rw [htable, if_pos ⟨hwith, hname hwith ▸ huri⟩, hname hwith]
    rcases h with ⟨-, hsome⟩ | ⟨-, hnone⟩
    · rw [hsome]
      rfl
    · rw [hnone]
      rfl
  · rw [or_iff_left hwith] at huses
    rw [if_neg fun h => hwith h.1] at htable
    rw [Document.Records, huses, htable]
    exact h

/-- The attributes of a tag are recorded as they are set, one after the other. -/
theorem records_foldl_setAttribute {n : NodeId} {element : QName}
    {attributes before : List Attribute}
    (hkind : d.kind? n = some (.element element before)) (h : d.Records p uri)
    (hnamed : ∀ a ∈ attributes, a.name.nsPrefix = p → a.name.uri = uri)
    (hfresh : ∀ b ∈ before, ∀ a ∈ attributes, a.name.nsPrefix = p → b.name.same a.name = false)
    (hdistinct : attributes.Pairwise fun a b => b.name.nsPrefix = p → a.name.same b.name = false) :
    (attributes.foldl (setAttribute n) d).Records p uri := by
  induction attributes generalizing d before with
  | nil => exact h
  | cons a attributes ih =>
    rw [List.forall_mem_cons] at hnamed
    rw [List.pairwise_cons] at hdistinct
    have hdeclared : (declareName d a.name).kind? n = some (.element element before) :=
      (kind?_declareName d a.name n).trans hkind
    refine ih (Document.kind?_setAttribute_self hdeclared a.name a.value) ?_ hnamed.2 ?_ hdistinct.2
    · refine Records.add hp huri h hnamed.1 ?_ rfl
      rw [setAttribute, Document.usesPrefix_setAttribute hdeclared a.value fun hwith b hb =>
        hfresh b hb a List.mem_cons_self hwith,
        Document.usesPrefix_congr (kind?_declareName d a.name)]
    · -- what is set now has an old name or that of the attribute
      intro b hb c hc hwith
      have hmem := List.mem_map_of_mem (f := Attribute.name) hb
      rw [Attributes.map_name_set] at hmem
      have hor : b.name ∈ before.map (·.name) ∨ b.name = a.name := by
        split at hmem
        · exact .inl hmem
        · exact (List.mem_append.1 hmem).imp_right List.mem_singleton.1
      rcases hor with hold | hnew
      · obtain ⟨b', hb', hname⟩ := List.mem_map.1 hold
        rw [← hname]
        exact hfresh b' hb' c (List.mem_cons_of_mem a hc) hwith
      · rw [hnew]
        exact hdistinct.1 c hc hwith

end Recording

/-! ## Tags with their names resolved -/

/-- The attributes of a start tag as they are written. -/
def Token.attributes? : Token → Option (List (String × String))
  | .openTag _ attributes _ => some attributes
  | _ => none

/-- The declarations of a tag that count. -/
def declarations (attributes : List (String × String)) : Bindings :=
  (dropRepeated [] attributes).filterMap declared?

theorem bindings_resolveTag (around : Bindings) (raw : String) (attributes : List (String × String)) :
    (resolveTag around raw attributes).bindings = declarations attributes ++ around := rfl

theorem dropSameNamed_sublist (before : List QName) (attributes : List Attribute) :
    (dropSameNamed before attributes).Sublist attributes := by
  induction attributes generalizing before with
  | nil => exact List.Sublist.refl []
  | cons a attributes ih =>
    rw [dropSameNamed]
    split
    · exact (ih before).cons_cons a
    · split
      · exact (ih before).cons a
      · exact (ih _).cons_cons a

/-- Of the names with a prefix no two are the same, and none is one of those before. -/
theorem pairwise_dropSameNamed (before : List QName) (attributes : List Attribute) :
    (∀ a ∈ dropSameNamed before attributes, a.name.nsPrefix ≠ "" →
      ∀ name ∈ before, name.same a.name = false) ∧
    (dropSameNamed before attributes).Pairwise fun a b =>
      a.name.nsPrefix ≠ "" → b.name.nsPrefix ≠ "" → a.name.same b.name = false := by
  induction attributes generalizing before with
  | nil => exact ⟨fun a ha => absurd ha List.not_mem_nil, List.Pairwise.nil⟩
  | cons a attributes ih =>
    rw [dropSameNamed]
    split
    · -- a name without a prefix is not looked at
      rename_i hempty
      rw [String.isEmpty_iff] at hempty
      rw [List.forall_mem_cons, List.pairwise_cons]
      exact ⟨⟨fun hne => absurd hempty hne, (ih before).1⟩, fun _ _ hne => absurd hempty hne,
        (ih before).2⟩
    · split
      · exact ih before
      · rename_i hnone
        rw [Bool.not_eq_true, List.any_eq_false] at hnone
        have hsymm : ∀ m n : QName, ¬m.same n = true → n.same m = false := by
          intro m n hmn
          rw [← Bool.not_eq_true, QName.same_iff]
          exact fun h => hmn (QName.same_iff.2 ⟨h.1.symm, h.2.symm⟩)
        obtain ⟨hbefore, hpairwise⟩ := ih (a.name :: before)
        rw [List.forall_mem_cons, List.pairwise_cons]
        refine ⟨⟨fun _ name hname => hsymm _ _ (hnone name hname), fun b hb hne name hname => ?_⟩,
          fun b hb _ hne => ?_, hpairwise⟩
        · exact hbefore b hb hne name (List.mem_cons_of_mem _ hname)
        · exact hbefore b hb hne a.name List.mem_cons_self

theorem uri_elementName {b : Bindings} {raw : String} (hb : b.lookup p = some uri)
    (hwith : (b.elementName raw).nsPrefix = p) : (b.elementName raw).uri = uri := by
  unfold Bindings.elementName at hwith ⊢
  generalize splitName raw = parts at hwith ⊢
  obtain ⟨nsPrefix, localName⟩ := parts
  obtain rfl : nsPrefix = p := hwith
  dsimp only
  rw [hb, Option.getD_some]

theorem uri_attributeName {b : Bindings} {raw : String} (hp : p ≠ "") (hb : b.lookup p = some uri)
    (hwith : (b.attributeName raw).nsPrefix = p) : (b.attributeName raw).uri = uri := by
  unfold Bindings.attributeName at hwith ⊢
  generalize splitName raw = parts at hwith ⊢
  obtain ⟨nsPrefix, localName⟩ := parts
  obtain rfl : nsPrefix = p := hwith
  dsimp only
  rw [if_neg (String.isEmpty_iff.not.2 hp), hb, Option.getD_some]

/-- An attribute without a prefix is in no namespace. -/
theorem uri_attributeName_of_unprefixed {b : Bindings} {raw : String}
    (hwith : (b.attributeName raw).nsPrefix = "") : (b.attributeName raw).uri = "" := by
  unfold Bindings.attributeName at hwith ⊢
  generalize splitName raw = parts at hwith ⊢
  obtain ⟨nsPrefix, localName⟩ := parts
  obtain rfl : nsPrefix = "" := hwith
  rfl

/-- In the tag the prefix stands for the namespace, and no attribute with the prefix has a name that
was there before. -/
structure ResolvedTag.Bound (p uri : String) (tag : ResolvedTag) : Prop where
  bindings : tag.bindings.lookup p = some uri
  name : tag.name.nsPrefix = p → tag.name.uri = uri
  attributes : ∀ a ∈ tag.attributes, a.name.nsPrefix = p → a.name.uri = uri
  distinct : tag.attributes.Pairwise fun a b => b.name.nsPrefix = p → a.name.same b.name = false

/-- Names with a bound prefix are in the namespace that it is bound to. -/
theorem bound_resolveTag (hp : p ≠ "") (huri : uri ≠ "") {around : Bindings} {raw : String}
    {attributes : List (String × String)}
    (h : (resolveTag around raw attributes).bindings.lookup p = some uri) :
    (resolveTag around raw attributes).Bound p uri := by
  have hplain : ∀ a ∈ (resolveTag around raw attributes).attributes,
      (a.name.nsPrefix = p → a.name.uri = uri) ∧ (a.name.nsPrefix = "" → a.name.uri = "") := by
    intro a ha
    obtain ⟨raw', -, rfl⟩ := List.mem_map.1 ((dropSameNamed_sublist _ _).subset ha)
    exact ⟨uri_attributeName hp h, uri_attributeName_of_unprefixed⟩
  refine ⟨h, uri_elementName h, fun a ha => (hplain a ha).1, ?_⟩
  refine (pairwise_dropSameNamed _ _).2.imp_of_mem fun {a b} ha hb hab hwith => ?_
  by_cases hempty : a.name.nsPrefix = ""
  · rw [← Bool.not_eq_true, QName.same_iff, (hplain a ha).2 hempty, (hplain b hb).1 hwith]
    exact fun hsame => huri hsame.1.symm
  · exact hab hempty (hwith ▸ hp)

/-! ## From tag to tag -/

namespace Builder

/-- The table of the document in the making is exact for the prefix, which stands for the namespace in
every open element. -/
structure Records (p uri : String) (b : Builder) : Prop where
  document : b.document.Records p uri
  path : ∀ e ∈ b.path, e.bindings.lookup p = some uri

variable {b : Builder}

section Tags

variable (hp : p ≠ "") (huri : uri ≠ "")

include hp huri

/-- The root declares the prefix. -/
theorem Records.ofRoot (raw : String) {attributes : List (String × String)} (selfClosing : Bool)
    (h : (declarations attributes).lookup p = some uri) :
    Records p uri (ofRoot raw attributes selfClosing) := by
  have hbound : ((resolveTag .initial raw attributes).Bound p uri) := by
    refine bound_resolveTag hp huri ?_
    rw [bindings_resolveTag, List.lookup_append, h]
    rfl
  unfold Builder.ofRoot
  generalize resolveTag .initial raw attributes = tag at hbound ⊢
  refine ⟨?_, fun e he => ?_⟩
  · have hkind : (declareName (.ofRoot tag.name) tag.name).kind? 0 =
        some (.element tag.name []) := kind?_declareName _ _ 0
    refine records_foldl_setAttribute hp huri hkind ?_ hbound.attributes
      (fun b hb => absurd hb List.not_mem_nil) hbound.distinct
    -- before its name is read the root is in a document without names
    have hempty : Document.Records { nodes := #[], root := 0 } p uri :=
      .inr ⟨fun ⟨n, kind, hn, _⟩ => by simp [Document.kind?, Document.node?] at hn, rfl⟩
    refine Markup.Records.add hp huri hempty hbound.name ?_ ?_
    · rw [Document.usesPrefix_congr (kind?_declareName _ tag.name)]
      constructor
      · rintro ⟨n, kind, hn, name, hname, hwith⟩
        cases n with
        | zero =>
          obtain rfl : NodeKind.element tag.name [] = kind := Option.some.inj hn
          obtain rfl := List.mem_singleton.1 hname
          exact .inr hwith
        | succ n => simp [Document.kind?, Document.node?, Document.ofRoot] at hn
      · rintro (⟨n, kind, hn, -⟩ | hwith)
        · simp [Document.kind?, Document.node?] at hn
        · exact ⟨0, .element tag.name [], rfl, tag.name, List.mem_cons_self, hwith⟩
    · rw [namespace?_declareName hp, namespace?_declareName hp]
      rfl
  · cases selfClosing with
    | true => contradiction
    | false =>
      obtain rfl := List.mem_singleton.1 he
      exact hbound.bindings

omit hp huri in
/-- Text uses no names. -/
theorem Records.flush (h : b.Records p uri) : b.flush.Records p uri := by
  unfold Builder.flush
  split
  · exact h
  · rename_i top outer hpath
    refine ⟨?_, h.path⟩
    dsimp only
    split
    · exact h.document
    · have huses := Document.usesPrefix_append (d := b.document) (p := p) top.node
        (.text (String.ofList b.pending.reverse))
      rw [or_iff_left (by simp [NodeKind.names])] at huses
      have hdocument := h.document
      rw [Document.Records, ← huses] at hdocument
      exact hdocument

theorem Records.openElement (h : b.Records p uri) (raw : String)
    {attributes : List (String × String)} (selfClosing : Bool)
    (hnone : (declarations attributes).lookup p = none) :
    (b.openElement raw attributes selfClosing).Records p uri := by
  unfold Builder.openElement
  split
  · exact h
  · rename_i top outer hpath
    have hbound : (resolveTag top.bindings raw attributes).Bound p uri := by
      refine bound_resolveTag hp huri ?_
      rw [bindings_resolveTag, List.lookup_append, hnone, Option.none_or]
      exact h.path top (by simp [hpath])
    have hflushed := h.flush
    generalize b.flush = flushed at hflushed
    generalize resolveTag top.bindings raw attributes = tag at hbound
    have hkind : ((declareName flushed.document tag.name).appendElement top.node tag.name []).kind?
        flushed.document.size = some (.element tag.name []) := by
      rw [Document.appendElement, Document.kind?_append, size_declareName, if_pos rfl]
    refine ⟨?_, fun e he => ?_⟩
    · refine records_foldl_setAttribute hp huri hkind ?_ hbound.attributes
        (fun b hb => absurd hb List.not_mem_nil) hbound.distinct
      refine Markup.Records.add hp huri hflushed.document hbound.name ?_ rfl
      rw [Document.appendElement, Document.usesPrefix_append,
        Document.usesPrefix_congr (kind?_declareName _ tag.name)]
      simp [NodeKind.names]
    · cases selfClosing with
      | true => exact hflushed.path e he
      | false =>
        rcases List.mem_cons.1 he with rfl | he
        · exact hbound.bindings
        · exact hflushed.path e he

omit hp huri in
/-- Fewer elements are open once some are closed. -/
theorem Records.close (h : b.Records p uri) {outer : List OpenElement} (hsub : outer ⊆ b.path) :
    Records p uri { b.flush with path := outer } :=
  ⟨h.flush.document, fun e he => h.path e (hsub he)⟩

omit hp huri in
theorem Records.closeElement (h : b.Records p uri) (raw : String) :
    (b.closeElement raw).Records p uri := by
  obtain hsame | ⟨outer, hsub, hclosed⟩ := b.closeElement_cases raw
  · rwa [hsame]
  · rw [hclosed]
    exact h.close hsub.subset

/-- **One token** keeps the table exact for a prefix that it does not declare. -/
theorem Records.step (h : b.Records p uri) {t : Token}
    (hnone : ∀ attributes ∈ t.attributes?, (declarations attributes).lookup p = none) :
    (b.step t).Records p uri := by
  cases t with
  | openTag raw attributes selfClosing =>
    exact h.openElement hp huri raw selfClosing (hnone attributes rfl)
  | closeTag raw => exact h.closeElement raw
  | closeInnermost => exact h.close (List.tail_sublist b.path).subset
  | text cs => exact ⟨h.document, h.path⟩
  | separator => exact h.flush

theorem Records.run (h : b.Records p uri) {ts : List Token}
    (hnone : ∀ t ∈ ts, ∀ attributes ∈ t.attributes?, (declarations attributes).lookup p = none) :
    (b.run ts).Records p uri := by
  induction ts generalizing b with
  | nil => exact h.flush
  | cons t ts ih =>
    rw [List.forall_mem_cons] at hnone
    rw [Builder.run]
    split
    · exact h
    · exact ih (h.step hp huri hnone.1) hnone.2

end Tags

end Builder

/-! ## From text to document -/

/-- The first start tag declares the prefix for the namespace, and no tag after it declares the
prefix. -/
def DeclaredAtRoot (p uri : String) (ts : List Token) : Prop :=
  ∃ root inner, ts.filterMap Token.attributes? = root :: inner ∧
    (declarations root).lookup p = some uri ∧
    ∀ attributes ∈ inner, (declarations attributes).lookup p = none

theorem records_documentOfTokens (hp : p ≠ "") (huri : uri ≠ "") {ts : List Token}
    (h : DeclaredAtRoot p uri ts) (hd : documentOfTokens ts = .ok d) : d.Records p uri := by
  obtain ⟨root, inner, htags, hroot, hinner⟩ := h
  induction ts with
  | nil => contradiction
  | cons t ts ih =>
    cases t with
    | openTag raw attributes selfClosing =>
      obtain ⟨rfl, rfl⟩ : attributes = root ∧ ts.filterMap Token.attributes? = inner :=
        List.cons.inj htags
      obtain rfl := Except.ok.inj hd
      refine ((Builder.Records.ofRoot hp huri raw selfClosing hroot).run hp huri ?_).document
      exact fun t ht attributes hattributes =>
        hinner attributes (List.mem_filterMap.2 ⟨t, ht, hattributes⟩)
    | _ => exact ih hd htags

/-- **The table of a parsed document** has a prefix that is declared at the root, and nowhere else,
exactly if a name in the document is written with it. -/
theorem records_of_parse (hp : p ≠ "") (huri : uri ≠ "") {source : String}
    (h : DeclaredAtRoot p uri (tokens source)) (hd : parse source = .ok d) : d.Records p uri :=
  records_documentOfTokens hp huri h hd

end Markup

end FormEngine
