import FormEngine.Proofs.Markup.Sound
import FormEngine.Proofs.Token
/-!
# Whatever is built can be encoded

Documents come from a lone root, from markup, or from outside as an arena that passes the check, and
they are worked on by appending, unlinking, setting, declaring and copying, in any order and any
number of times. No such work makes a document that the check refuses, and so there is no document
that could be written into a token and not be read back from it. Which nodes an operation is given
matters only in this: they are in range, and what is to have children is an element.
-/

namespace FormEngine.Document

/-- The documents that can be built. A copy takes two of them, its source and its destination. -/
inductive Built : Document → Prop
  | ofRoot (name : QName) : Built (ofRoot name)
  | parsed {markup : String} {d : Document} (h : Markup.parse markup = .ok d) : Built d
  /-- An arena from outside that the check accepts; its namespace table is a map. -/
  | accepted {d : Document} (h : d.check = .ok ())
      (hprefixes : (d.namespaces.map Prod.fst).Nodup) : Built d
  | appendElement {d : Document} {p : NodeId} (h : Built d) (hp : d.isElement p = true)
      (name : QName) (attributes : List Attribute) : Built (d.appendElement p name attributes)
  | appendText {d : Document} {p : NodeId} (h : Built d) (hp : d.isElement p = true)
      (value : String) : Built (d.appendText p value)
  | detach {d : Document} {n : NodeId} (h : Built d) (hn : n < d.size) : Built (d.detach n)
  | setAttribute {d : Document} {n : NodeId} (h : Built d) (hn : n < d.size) (name : QName)
      (value : String) : Built (d.setAttribute n name value)
  | declareNamespace {d : Document} (h : Built d) (nsPrefix uri : String) :
      Built (d.declareNamespace nsPrefix uri)
  | copySubtree {source dest : Document} {n p : NodeId} (hs : Built source) (hd : Built dest)
      (hn : n < source.size) (hp : dest.isElement p = true) : Built (source.copySubtree n dest p)
  | insertSubtree {source dest : Document} {n p : NodeId} (hs : Built source) (hd : Built dest)
      (hn : n < source.size) (hp : dest.isElement p = true) (index : Nat) :
      Built (source.insertSubtree n dest p index)
  | subtreeDocument {d : Document} {n : NodeId} (h : Built d) (hn : n < d.size) :
      Built (d.subtreeDocument n)

/-- **What is built is sound**, by what each operation keeps. -/
theorem Built.sound {d : Document} (h : d.Built) : d.Sound := by
  induction h with
  | ofRoot name => exact sound_ofRoot name
  | parsed h => exact Markup.sound_of_parse h
  | accepted h hprefixes => exact ⟨check_eq_ok_iff.1 h, hprefixes⟩
  | appendElement _ hp name attributes ih => exact ih.append hp (.element name attributes)
  | appendText _ hp value ih => exact ih.append hp (.text value)
  | detach _ hn ih => exact ih.detach hn
  | setAttribute _ _ name value ih => exact ih.setAttribute _ name value
  | declareNamespace _ nsPrefix uri ih => exact ih.declareNamespace nsPrefix uri
  | copySubtree _ _ hn hp ihs ihd => exact ihd.copySubtree ihs.forest hn hp
  | insertSubtree _ _ hn hp index ihs ihd => exact ihd.insertSubtree ihs.forest hn hp index
  | subtreeDocument _ _ ih => exact (ih.subtreeDocument _).toSound

/-- **Whatever is built passes the arena check and can be encoded.** However a document came about,
the check accepts it, and a token made of it gives it back, under a password or without one. For the
token its addresses have to fit the thirty-two bits that an address is written with. -/
theorem Built.accepted_and_decoded {d : Document} (h : d.Built) :
    d.check = .ok () ∧ ∀ password, d.size ≤ Nat.pow 2 32 →
      Token.decode (Token.encode d password) password = .ok d := by
  have hsound := h.sound
  refine ⟨check_eq_ok_iff.2 hsound.forest, fun password hsize => ?_⟩
  exact Token.decode_encode ⟨hsound.forest, hsound.forest.portable hsize hsound.prefixes⟩ password

/-- A form with a group that holds a label and a text. -/
def sketch : Document :=
  (((ofRoot (.plain "form")).appendElement 0 (.plain "group") []).appendElement 1 (.plain "label")
    [⟨.plain "id", "l"⟩, ⟨.plain "id", "m"⟩]).appendText 1 "Name"

/-- The sketch with its group unlinked, a copy of the group put in its place, and a copy of the
label put after that. -/
def reworked : Document :=
  let regrouped := sketch.insertSubtree 1 (sketch.detach 1) 0 7
  ((sketch.subtreeDocument 2).copySubtree 0 regrouped 0).declareNamespace "xf" Namespace.xforms

theorem built_sketch : sketch.Built := by
  have hroot := Built.ofRoot (.plain "form")
  have hgroup := hroot.appendElement (p := 0) (by decide) (.plain "group") []
  have hlabel := hgroup.appendElement (p := 1) (by decide) (.plain "label")
    [⟨.plain "id", "l"⟩, ⟨.plain "id", "m"⟩]
  exact hlabel.appendText (p := 1) (by decide) "Name"

theorem Built.accepted_and_decoded_reworked :
    reworked.Built ∧ reworked.check = .ok () ∧
      Token.decode (Token.encode reworked (some "secret")) (some "secret") = .ok reworked := by
  have hdetached := built_sketch.detach (n := 1) (by decide)
  have hgroup := built_sketch.insertSubtree hdetached (n := 1) (p := 0) (by decide) (by decide) 7
  have hlabel := built_sketch.subtreeDocument (n := 2) (by decide)
  have hbuilt : reworked.Built :=
    (hlabel.copySubtree hgroup (by decide) (by decide)).declareNamespace "xf" Namespace.xforms
  obtain ⟨hcheck, hdecode⟩ := hbuilt.accepted_and_decoded
  exact ⟨hbuilt, hcheck, hdecode (some "secret") (by decide)⟩

end FormEngine.Document
