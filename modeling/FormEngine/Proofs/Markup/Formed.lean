import FormEngine.Proofs.Document.Preorder
import FormEngine.Proofs.Markup.Tag
/-!
# What parsed markup comes to

Whatever the markup, a document is formed by a few moves: a start tag puts an element under the
innermost open element, with its attributes set and its names recorded, a stretch of text that is not
blank puts a text there, and elements are closed. Each move keeps what the later passes rely on: the
addresses are in document order, no text is blank, no element has an attribute twice, and the table
has each prefix for the namespace of its first use. So markup without a start tag is refused, and all
other markup comes to such a document.
-/

namespace FormEngine

/-! ## Names in document order -/

namespace Document

variable {d d' : Document} {p : NodeId}

/-- The names of a node: none if the arena does not have it. -/
def namesAt (d : Document) (n : NodeId) : List QName := ((d.kind? n).map (·.names)).getD []

/-- The names of all elements and attributes below the root, in document order. -/
def names (d : Document) : List QName := (d.subtreeNodes d.root).flatMap d.namesAt

theorem flatMap_namesAt_lone (name : QName) (attributes : List Attribute)
    (table : List (String × String)) :
    (List.range (lone name attributes table).size).flatMap (lone name attributes table).namesAt =
      (NodeKind.element name attributes).names :=
  List.append_nil _

/-- A new node comes last with its names. -/
theorem flatMap_namesAt_append (d : Document) (p : NodeId) (kind : NodeKind) :
    (List.range (d.append p kind).size).flatMap (d.append p kind).namesAt =
      (List.range d.size).flatMap d.namesAt ++ kind.names := by
  have hold : ∀ n ∈ List.range d.size, (d.append p kind).namesAt n = d.namesAt n := by
    intro n hn
    rw [namesAt, kind?_append, if_neg (Nat.ne_of_lt (List.mem_range.1 hn)), namesAt]
  have hnew : (d.append p kind).namesAt d.size = kind.names := by
    rw [namesAt, kind?_append, if_pos rfl]
    rfl
  rw [size_append, List.range_succ, List.flatMap_append, List.flatMap_congr hold,
    List.flatMap_singleton, hnew]

end Document

/-- An element without an attribute twice, or a text that is not blank. -/
def NodeKind.Plain : NodeKind → Prop
  | .element _ attributes => Attributes.Distinct attributes
  | .text value => value.toList.all Text.isBlank = false

namespace Markup

open Document (OpenAt)

variable {d : Document} {path outer : List NodeId} {p : NodeId}

theorem ResolvedTag.plain_kind (tag : ResolvedTag) : tag.kind.Plain :=
  Attributes.Distinct.setAll List.Pairwise.nil tag.attributes

/-- A node of a grown document is an old one or the new one. -/
theorem plain_of_append {new kind : NodeKind} {n : NodeId} (hnew : new.Plain)
    (hold : d.kind? n = some kind → kind.Plain) (hkind : (d.append p new).kind? n = some kind) :
    kind.Plain := by
  rw [Document.kind?_append] at hkind
  split at hkind
  · obtain rfl := Option.some.inj hkind
    exact hnew
  · exact hold hkind

/-! ## Moves -/

/-- How a document comes to be, with the addresses of its open elements, the innermost first. -/
inductive Formed : Document → List NodeId → Prop
  | root (tag : ResolvedTag) (htag : tag.Unrepeated) :
      Formed (.lone tag.name (Attributes.setAll [] tag.attributes) (recordNames [] tag.names)) [0]
  | element {d : Document} {p : NodeId} {outer : List NodeId} (h : Formed d (p :: outer))
      (tag : ResolvedTag) (htag : tag.Unrepeated) :
      Formed { d.append p tag.kind with namespaces := recordNames d.namespaces tag.names }
        (d.size :: p :: outer)
  | text {d : Document} {p : NodeId} {outer : List NodeId} (h : Formed d (p :: outer))
      (value : String) (hvalue : value.toList.all Text.isBlank = false) :
      Formed (d.appendText p value) (p :: outer)
  | close {d : Document} {path outer : List NodeId} (h : Formed d path) (hsub : outer.Sublist path) :
      Formed d outer

namespace Formed

theorem openAt (h : Formed d path) : d.OpenAt path := by
  induction h with
  | root tag htag => exact Document.openAt_single _ _
  | element h tag htag ih => exact (ih.append tag.kind).congr rfl rfl
  | text h value hvalue ih => exact (ih.append (.text value)).close (List.sublist_cons_self _ _)
  | close h hsub ih => exact ih.close hsub

theorem root_eq (h : Formed d path) : d.root = 0 := by
  induction h with
  | root tag htag => rfl
  | element h tag htag ih => exact ih
  | text h value hvalue ih => exact ih
  | close h hsub ih => exact ih

/-- Nodes are plain when they are put in place, and stay as they are. -/
theorem plain (h : Formed d path) {n : NodeId} {kind : NodeKind} (hkind : d.kind? n = some kind) :
    kind.Plain := by
  induction h with
  | root tag htag =>
    cases n with
    | zero =>
      obtain rfl := Option.some.inj hkind
      exact tag.plain_kind
    | succ n => simp [Document.kind?, Document.node?, Document.lone] at hkind
  | element h tag htag ih => exact plain_of_append tag.plain_kind ih hkind
  | text h value hvalue ih =>
    have hplain : (NodeKind.text value).Plain := hvalue
    exact plain_of_append hplain ih hkind
  | close h hsub ih => exact ih hkind

/-- The table has each prefix for the namespace of its first use. -/
theorem tabulates (h : Formed d path) :
    Tabulates d.namespaces ((List.range d.size).flatMap d.namesAt) := by
  induction h with
  | root tag htag =>
    have hempty : Tabulates [] [] := fun _ _ => rfl
    rw [Document.flatMap_namesAt_lone]
    exact (hempty.recordNames tag.names).congr htag.firstUse?_kind
  | @element d p outer h tag htag ih =>
    have hnames := Document.flatMap_namesAt_append d p tag.kind
    show Tabulates (recordNames d.namespaces tag.names)
      ((List.range (d.append p tag.kind).size).flatMap (d.append p tag.kind).namesAt)
    rw [hnames]
    refine (ih.recordNames tag.names).congr ?_
    intro q
    rw [firstUse?_append, firstUse?_append, htag.firstUse?_kind]
  | text h value hvalue ih =>
    rw [Document.appendText, Document.flatMap_namesAt_append]
    rwa [NodeKind.names, List.append_nil]
  | close h hsub ih => exact ih

end Formed

/-! ## From token to token -/

namespace Builder

/-- The document in the making comes to be by these moves, with its open elements. -/
def Formed (b : Builder) : Prop := Markup.Formed b.document (b.path.map (·.node))

variable {b : Builder}

theorem formed_ofRoot (raw : String) (attributes : List (String × String)) (selfClosing : Bool) :
    (ofRoot raw attributes selfClosing).Formed := by
  have hroot := Markup.Formed.root _ (ResolvedTag.unrepeated_resolveTag .initial raw attributes)
  rw [← ResolvedTag.foldl_setAttribute_ofRoot] at hroot
  cases selfClosing with
  | true => exact hroot.close (List.nil_sublist _)
  | false => exact hroot

theorem Formed.flush (h : b.Formed) : b.flush.Formed := by
  unfold Builder.flush
  split
  · exact h
  · rename_i top outer hpath
    dsimp only
    split
    · exact h
    · rename_i hblank
      have hopen : Markup.Formed b.document (top.node :: outer.map (·.node)) := by
        have hformed := h
        rwa [Builder.Formed, hpath] at hformed
      have htext := hopen.text (String.ofList b.pending.reverse)
        (by rw [String.toList_ofList]; exact Bool.eq_false_iff.2 hblank)
      rw [Builder.Formed, hpath]
      exact htext

theorem Formed.openElement (h : b.Formed) (raw : String) (attributes : List (String × String))
    (selfClosing : Bool) : (b.openElement raw attributes selfClosing).Formed := by
  unfold Builder.openElement
  split
  · exact h
  · rename_i top outer hpath
    have hflushed := h.flush
    have hsame := b.path_flush
    have htag := ResolvedTag.unrepeated_resolveTag top.bindings raw attributes
    generalize b.flush = flushed at hflushed hsame
    generalize resolveTag top.bindings raw attributes = tag at htag
    have hopen : Markup.Formed flushed.document (top.node :: outer.map (·.node)) := by
      rwa [Builder.Formed, hsame, hpath] at hflushed
    have helement := hopen.element tag htag
    rw [← ResolvedTag.foldl_setAttribute_appendElement (hopen.openAt.lt_size List.mem_cons_self)] at helement
    have hpath' : flushed.path.map (·.node) = top.node :: outer.map (·.node) := by
      rw [hsame, hpath, List.map_cons]
    rw [← hpath'] at helement
    cases selfClosing with
    | true => exact helement.close (List.sublist_cons_self _ _)
    | false => exact helement

/-- Some of the open elements are closed. -/
theorem Formed.close (h : b.Formed) {outer : List OpenElement} (hsub : outer.Sublist b.path) :
    Builder.Formed { b.flush with path := outer } := by
  rw [← b.path_flush] at hsub
  exact Markup.Formed.close h.flush (hsub.map _)

theorem Formed.closeElement (h : b.Formed) (raw : String) : (b.closeElement raw).Formed := by
  obtain hsame | ⟨outer, hsub, hclosed⟩ := b.closeElement_cases raw
  · rwa [hsame]
  · rw [hclosed]
    exact h.close hsub

/-- **One token** makes some of these moves. -/
theorem Formed.step (h : b.Formed) (t : Token) : (b.step t).Formed := by
  cases t with
  | openTag raw attributes selfClosing => exact h.openElement raw attributes selfClosing
  | closeTag raw => exact h.closeElement raw
  | closeInnermost => exact h.close (List.tail_sublist b.path)
  | text cs => exact h
  | separator => exact h.flush

/-- **A run of tokens** does too. -/
theorem Formed.run (h : b.Formed) (ts : List Token) : (b.run ts).Formed := by
  induction ts generalizing b with
  | nil => exact h.flush
  | cons t ts ih =>
    rw [Builder.run]
    split
    · exact h
    · exact ih (h.step t)

end Builder

/-! ## From text to document -/

/-- Without a start tag there is no document; otherwise there is one, and it comes to be by the moves. -/
theorem documentOfTokens_cases (ts : List Token) :
    (documentOfTokens ts = .error (.malformedMarkup "document has no root element") ∧
      ∀ t ∈ ts, t.attributes? = none) ∨
    ∃ d path, documentOfTokens ts = .ok d ∧ Formed d path := by
  induction ts with
  | nil => exact .inl ⟨rfl, List.forall_mem_nil _⟩
  | cons t ts ih =>
    have hskip : documentOfTokens (t :: ts) = documentOfTokens ts → t.attributes? = none →
        (documentOfTokens (t :: ts) = .error (.malformedMarkup "document has no root element") ∧
          ∀ t' ∈ t :: ts, t'.attributes? = none) ∨
        ∃ d path, documentOfTokens (t :: ts) = .ok d ∧ Formed d path := by
      intro hsame hnone
      rw [hsame, List.forall_mem_cons]
      exact ih.imp_left fun h => ⟨h.1, hnone, h.2⟩
    cases t with
    | openTag raw attributes selfClosing =>
      have hformed := (Builder.formed_ofRoot raw attributes selfClosing).run ts
      exact .inr ⟨_, _, rfl, hformed⟩
    | closeTag raw => exact hskip rfl rfl
    | closeInnermost => exact hskip rfl rfl
    | text cs => exact hskip rfl rfl
    | separator => exact hskip rfl rfl

/-- What a parsed document is: a document that passes the check, with its root at the front and its
addresses in document order, no blank text, no attribute twice on an element, and a table that has
each prefix for the namespace of its first use in document order. -/
structure Parsed (d : Document) : Prop where
  check : d.check = .ok ()
  root : d.root = 0
  order : d.InDocumentOrder
  texts : ∀ n value, d.kind? n = some (.text value) → value.toList.all Text.isBlank = false
  attributes : ∀ n, Attributes.Distinct (d.attributes n)
  prefixes : ∀ p, p ≠ "" → d.namespace? p = firstUse? p d.names

/-- **Markup comes to a document that later passes can rely on, or it has no start tag and is
refused.** -/
theorem parsed_of_parse (source : String) :
    (parse source = .error (.malformedMarkup "document has no root element") ∧
      ∀ t ∈ tokens source, t.attributes? = none) ∨
    ∃ d, parse source = .ok d ∧ Parsed d := by
  refine (documentOfTokens_cases (tokens source)).imp_right ?_
  rintro ⟨d, path, hd, hformed⟩
  have hparse : parse source = .ok d := hd
  have horder := hformed.openAt.inDocumentOrder
  refine ⟨d, hparse, ?_, hformed.root_eq, horder, ?_, ?_, ?_⟩
  · exact Document.check_eq_ok_iff.2 (sound_of_parse hparse).forest
  · intro n value hkind
    exact hformed.plain hkind
  · intro n
    rw [Document.attributes_eq]
    cases hkind : d.kind? n with
    | none => exact List.Pairwise.nil
    | some kind =>
      have hplain := hformed.plain hkind
      cases kind with
      | element name attributes => exact hplain
      | text value => exact List.Pairwise.nil
  · intro p hp
    rw [Document.names, horder.walk]
    exact hformed.tabulates p hp

/-- Blanks make no text, and an end tag that closes nothing is passed over. -/
example : parse "<a> <b/>x</c></a>" = .ok
    { nodes := #[{ kind := .element (.plain "a") [], children := [1, 2] },
        { kind := .element (.plain "b") [], parent := some 0 },
        { kind := .text "x", parent := some 0 }]
      root := 0 } := by decide +kernel

end Markup

end FormEngine
