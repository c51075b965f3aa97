import FormEngine.Markup.Tree
import FormEngine.Proofs.Document.Edit
/-!
# Documents from markup are sound

Markup is read token by token into a document in the making. What holds of it between two tokens is
that the document is sound and that the open elements are elements of it. So a text or an element
always has an element to go under, whatever the tokens are: end tags may be missing, doubled or in
the wrong order.
-/

namespace FormEngine.Markup

variable {d d' d'' : Document} {n : NodeId}

/-- The document `d'` is sound, and the elements of `d` are elements of it. -/
structure Extends (d d' : Document) : Prop where
  sound : d'.Sound
  isElement : ∀ n, d.isElement n = true → d'.isElement n = true

namespace Extends

theorem refl (h : d.Sound) : Extends d d := ⟨h, fun _ hn => hn⟩

theorem trans (h : Extends d d') (h' : Extends d' d'') : Extends d d'' :=
  ⟨h'.sound, fun n hn => h'.isElement n (h.isElement n hn)⟩

end Extends

theorem extends_append {p : NodeId} (h : d.Sound) (hp : d.isElement p = true) (kind : NodeKind) :
    Extends d (d.append p kind) := by
  have hgrafts := Document.grafts_append (Document.lt_size_of_isElement hp) kind
  refine ⟨h.append hp kind, fun n hn => ?_⟩
  rwa [hgrafts.isElement (Document.lt_size_of_isElement hn)]

/-- The new node is an element if it is to be one. -/
theorem isElement_append {p : NodeId} (hp : p < d.size) (name : QName)
    (attributes : List Attribute) :
    (d.append p (.element name attributes)).isElement d.size = true :=
  (Document.grafts_append hp (.element name attributes)).holds.isElement

theorem size_declareName (d : Document) (name : QName) : (declareName d name).size = d.size := by
  unfold declareName
  split
  · rfl
  · exact (Document.sameLinks_declareNamespace d name.nsPrefix name.uri).size

theorem extends_declareName (h : d.Sound) (name : QName) : Extends d (declareName d name) := by
  unfold declareName
  split
  · exact .refl h
  · refine ⟨h.declareNamespace name.nsPrefix name.uri, fun n hn => ?_⟩
    rwa [(Document.sameLinks_declareNamespace d name.nsPrefix name.uri).isElement]

theorem extends_setAttribute (h : d.Sound) (n : NodeId) (a : Attribute) :
    Extends d (setAttribute n d a) := by
  have hdeclared := extends_declareName h a.name
  have hsame := Document.sameLinks_setAttribute (declareName d a.name) n a.name a.value
  exact hdeclared.trans ⟨hdeclared.sound.setAttribute n a.name a.value,
    fun m hm => (hsame.isElement m).trans hm⟩

theorem extends_foldl_setAttribute (h : d.Sound) (n : NodeId) (attributes : List Attribute) :
    Extends d (attributes.foldl (setAttribute n) d) :=
  List.foldlRecOn (motive := Extends d) attributes (setAttribute n) (.refl h)
    fun _ hd a _ => hd.trans (extends_setAttribute hd.sound n a)

namespace Builder

@[simp] theorem path_flush (b : Builder) : b.flush.path = b.path := by
  unfold Builder.flush
  split <;> rfl

/-- An end tag changes nothing, or it leaves fewer elements open. -/
theorem closeElement_cases (b : Builder) (raw : String) : b.closeElement raw = b ∨
    ∃ outer, outer.Sublist b.path ∧ b.closeElement raw = { b.flush with path := outer } := by
  unfold Builder.closeElement
  split
  · exact .inl rfl
  · dsimp only
    split
    · exact .inl rfl
    · rename_i closed outer hdrop
      have hsub : (closed :: outer).Sublist b.path := hdrop ▸ List.dropWhile_sublist _
      exact .inr ⟨outer, (List.sublist_cons_self closed outer).trans hsub, rfl⟩

/-- The document in the making is sound, and what is open in it are elements. -/
structure Sound (b : Builder) : Prop where
  document : b.document.Sound
  path : ∀ e ∈ b.path, b.document.isElement e.node = true

variable {b : Builder}

theorem Sound.ofRoot (raw : String) (attributes : List (String × String)) (selfClosing : Bool) :
    (ofRoot raw attributes selfClosing).Sound := by
  generalize htag : resolveTag .initial raw attributes = tag
  have hroot := extends_declareName (Document.sound_ofRoot tag.name) tag.name
  have hdone := hroot.trans (extends_foldl_setAttribute hroot.sound 0 tag.attributes)
  unfold Builder.ofRoot
  rw [htag]
  refine ⟨hdone.sound, fun e he => ?_⟩
  cases selfClosing with
  | true => contradiction
  | false =>
    obtain rfl := List.mem_singleton.1 he
    exact hdone.isElement 0 rfl

/-- Waiting text goes under the innermost open element. -/
theorem Sound.flush (h : b.Sound) : b.flush.Sound := by
  unfold Builder.flush
  split
  · exact h
  · rename_i top outer hpath
    have hgrown : Extends b.document (if b.pending.reverse.all Text.isBlank then b.document
        else b.document.appendText top.node (String.ofList b.pending.reverse)) := by
      split
      · exact .refl h.document
      · exact extends_append h.document (h.path top (by simp [hpath])) _
    exact ⟨hgrown.sound, fun e he => hgrown.isElement _ (h.path e he)⟩

theorem Sound.openElement (h : b.Sound) (raw : String) (attributes : List (String × String))
    (selfClosing : Bool) : (b.openElement raw attributes selfClosing).Sound := by
  unfold Builder.openElement
  split
  · exact h
  · rename_i top outer hpath
    have hflushed := h.flush
    have hsame := b.path_flush
    generalize b.flush = flushed at hflushed hsame
    generalize resolveTag top.bindings raw attributes = tag
    have htop : flushed.document.isElement top.node = true :=
      hflushed.path top (by simp [hsame, hpath])
    have hdeclared := extends_declareName hflushed.document tag.name
    have happended := extends_append hdeclared.sound (hdeclared.isElement _ htop)
      (.element tag.name [])
    have hset := extends_foldl_setAttribute happended.sound flushed.document.size tag.attributes
    have hdone := (hdeclared.trans happended).trans hset
    have hnew := isElement_append
      (Document.lt_size_of_isElement (hdeclared.isElement _ htop)) tag.name []
    rw [size_declareName] at hnew
    refine ⟨hdone.sound, fun e he => ?_⟩
    cases selfClosing with
    | true => exact hdone.isElement _ (hflushed.path e he)
    | false =>
      rcases List.mem_cons.1 he with rfl | he
      · exact hset.isElement _ hnew
      · exact hdone.isElement _ (hflushed.path e he)

/-- Closing elements leaves fewer of them open. -/
theorem Sound.close (h : b.Sound) {outer : List OpenElement} (hsub : outer ⊆ b.path) :
    Sound { b.flush with path := outer } :=
  ⟨h.flush.document, fun e he => h.flush.path e (b.path_flush.symm ▸ hsub he)⟩

theorem Sound.closeElement (h : b.Sound) (raw : String) : (b.closeElement raw).Sound := by
  obtain hsame | ⟨outer, hsub, hclosed⟩ := b.closeElement_cases raw
  · rwa [hsame]
  · rw [hclosed]
    exact h.close hsub.subset

/-- **One token** leaves a sound document in the making. -/
theorem Sound.step (h : b.Sound) (t : Token) : (b.step t).Sound := by
  cases t with
  | openTag raw attributes selfClosing => exact h.openElement raw attributes selfClosing
  | closeTag raw => exact h.closeElement raw
  | closeInnermost => exact h.close (List.tail_sublist b.path).subset
  | text cs => exact ⟨h.document, h.path⟩
  | separator => exact h.flush

/-- **A run of tokens** leaves one too. -/
theorem Sound.run (h : b.Sound) (ts : List Token) : (b.run ts).Sound := by
  induction ts generalizing b with
  | nil => exact h.flush
  | cons t ts ih =>
    rw [Builder.run]
    split
    · exact h
    · exact ih (h.step t)

end Builder

theorem sound_of_documentOfTokens {ts : List Token} (h : documentOfTokens ts = .ok d) :
    d.Sound := by
  induction ts with
  | nil => contradiction
  | cons t ts ih =>
    cases t with
    | openTag raw attributes selfClosing =>
      obtain rfl := Except.ok.inj h
      exact ((Builder.Sound.ofRoot raw attributes selfClosing).run ts).document
    | _ => exact ih h

/-- **A parsed document is sound**, whatever the markup. -/
theorem sound_of_parse {source : String} (h : parse source = .ok d) : d.Sound :=
  sound_of_documentOfTokens h

end FormEngine.Markup
