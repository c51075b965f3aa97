import FormEngine.Proofs.Document.Subtree
import FormEngine.Proofs.StaticState.Restore
/-!
# A page that the host supplies

A host may supply the XHTML page of a form. The state keeps it when the form is served without
scripts, and writes it into the form as one more child of the root; a form with a page of its own
takes no second one. So the written form gives back the page that the state has if the form has
none of its own. If it has one, the state was made without it, and the restored state is made with
it: the two then agree on the page when both pages are one tree. What a page brings besides is its
bindings: those of a supplied page are no bindings of the state, and they are of the restored one.
-/

namespace FormEngine

/-- A name that is known is compared by what it is known to be. -/
theorem QName.is_of_is {name : QName} {uri localName : String} (h : name.is uri localName = true)
    (uri' localName' : String) :
    name.is uri' localName' = (uri == uri' && localName == localName') := by
  rw [QName.is_iff] at h
  rw [QName.is, h.1, h.2]

namespace Document

/-! ## A page stands aside -/

theorem aside_of_page {t : Tree} {name : QName} (hname : t.kind.name? = some name)
    (hpage : name.is Namespace.xhtml "html" = true) : Aside t name where
  name? := hname
  notMarkup := by rw [isControlMarkup, hpage, Bool.not_true, Bool.and_false]
  notModel := by rw [QName.is_of_is hpage]; decide
  notProperties := by rw [QName.is_of_is hpage]; decide
  notTemplate := by rw [QName.is_of_is hpage]; decide

/-- Under a root that is no instance of data itself, what has an instance above it is inside one. -/
theorem hasAncestorNamed_instance {d : Document}
    (hroot : d.isNamed d.root Namespace.xforms "instance" = false) (n : NodeId) :
    d.hasAncestorNamed n Namespace.xforms "instance" = d.inData n := by
  have hsame : ∀ a, (a != d.root && d.isNamed a Namespace.xforms "instance") =
      d.isNamed a Namespace.xforms "instance" := by
    intro a
    by_cases ha : a = d.root
    · rw [ha, hroot, Bool.and_false]
    · rw [bne_iff_ne.2 ha, Bool.true_and]
  rw [hasAncestorNamed, inData]
  simp only [hsame]

/-- A page whose elements bind nothing is a tree without bindings. -/
theorem bindsNothing_of_page {page : Document} {t : Tree} (ht : page.Holds none t)
    (hid : t.id = page.root) (hheight : t.height ≤ page.size) (hleaf : t.TextIsLeaf)
    {name : QName} (hname : t.kind.name? = some name)
    (hpage : name.is Namespace.xhtml "html" = true)
    (hfree : ComponentRegistry.bindingElements page = []) : t.BindsNothing := by
  have hdata : t.kind.isData = false := by
    rw [NodeKind.isData, hname, Option.any_some, QName.is_of_is hpage]
    decide
  have hroot : page.isNamed page.root Namespace.xforms "instance" = false := by
    rw [isNamed, ← hid, ht.name?]
    exact hdata
  intro s hs
  by_contra hbinds
  rw [Bool.not_eq_false] at hbinds
  -- the top of a page is no binding, so the binding is met on a walk from the children of the top
  have hwalked : s ∈ t.walked := by
    obtain ⟨n, kind, ts⟩ := t
    rw [Tree.exposed_node, List.mem_cons] at hs
    rcases hs with rfl | hs
    · rw [hname, Option.any_some, QName.is_of_is hpage] at hbinds
      exact absurd hbinds (by decide)
    · rwa [show kind.isData = false from hdata] at hs
  obtain ⟨p, hp⟩ := ht.subtree (Tree.exposed_subset_subtrees t hs)
  have hnamed : page.isNamed s.id Namespace.xbl "binding" = true := by
    rw [isNamed, hp.name?, hbinds]
  have hdescendant : s.id ∈ page.descendants page.root := by
    rw [descendants, ← hid, ht.descendantsWithin hheight, ht.mem_elements hleaf]
    refine ⟨Tree.ids_subset_of_mem_subtrees (Tree.exposed_subset_subtrees t hs) s.id_mem_ids, ?_⟩
    obtain ⟨q, hq, -⟩ := (Option.any_eq_true _ _).1 hbinds
    rw [hp.isElement, NodeKind.isElement_of_name? hq]
  have houtside : page.hasAncestorNamed s.id Namespace.xforms "instance" = false := by
    rw [hasAncestorNamed_instance hroot, ht.inData_of_mem_walked hid hwalked]
  have hmem : s.id ∈ ComponentRegistry.bindingElements page :=
    List.mem_filter.2 ⟨hdescendant, by rw [hnamed, houtside]; rfl⟩
  rw [hfree] at hmem
  exact List.not_mem_nil hmem

/-! ## Taking a page in -/

/-- The form can take the page in: both are forests, the root of the form is an element, and that
of the page is the document element of XHTML. -/
structure MayTakeIn (d page : Document) : Prop where
  form : d.IsForest
  isElement : d.isElement d.root = true
  forest : page.IsForest
  isPage : page.isNamed page.root Namespace.xhtml "html" = true

/-- The form `d'` is the form `d`, which has no page, with the page taken in. The tree of the page
is `t`, and its copy is the last child of the root. -/
structure TakesIn (d d' page : Document) (t : Tree) (name : QName) : Prop where
  missing : d.xhtmlPage? = none
  holds : page.Holds none t
  id : t.id = page.root
  length_le : t.ids.length ≤ page.size
  leaf : t.TextIsLeaf
  name? : t.kind.name? = some name
  isPage : name.is Namespace.xhtml "html" = true
  grown : GrownAtRoot d d' (t.renumber d.size)

namespace TakesIn

variable {d d' page : Document} {t : Tree} {name : QName}

theorem height_le (h : TakesIn d d' page t name) : t.height ≤ page.size :=
  Nat.le_trans t.height_le_length_ids h.length_le

theorem aside (h : TakesIn d d' page t name) : Aside (t.renumber d.size) name :=
  aside_of_page (by rw [Tree.kind_renumber, h.name?]) h.isPage

theorem size_le (h : TakesIn d d' page t name) : d'.size ≤ d.size + page.size := by
  rw [h.grown.grafts.size, Tree.length_ids_renumber]
  exact Nat.add_le_add_left h.length_le d.size

theorem recordedMatchers? (h : TakesIn d d' page t name) :
    d'.recordedMatchers? = d.recordedMatchers? :=
  h.aside.recordedMatchers? h.grown (by rw [QName.is_of_is h.isPage]; decide)

/-- The page of the form is the copy. -/
theorem xhtmlPage? (h : TakesIn d d' page t name) :
    d'.xhtmlPage? = some (d'.subtreeDocument (t.renumber d.size).id) := by
  have hmissing : d.firstChildNamed? d.root Namespace.xhtml "html" = none :=
    Option.map_eq_none_iff.1 h.missing
  rw [Document.xhtmlPage?, h.grown.firstChildNamed?_root h.aside.isElement, hmissing,
    h.aside.isNamed h.grown, h.isPage]
  rfl

/-- **The page that is read back is the page that was taken in.** -/
theorem sameTree (h : TakesIn d d' page t name)
    (hdistinct : Attributes.Distinct (page.attributes page.root)) :
    SameTree (d'.subtreeDocument (t.renumber d.size).id) page := by
  have hattributes : (t.renumber d.size).kind.attributes = page.attributes page.root := by
    rw [Tree.kind_renumber, ← h.id, Document.attributes, h.holds.node?]
    rfl
  have hheight : (t.renumber d.size).height ≤ d'.size := by
    have hle := (t.renumber d.size).height_le_length_ids
    rw [h.grown.grafts.size]
    omega
  obtain ⟨hroot, hheld⟩ := h.grown.grafts.holds.subtreeDocument h.aside.isElement
    (by rwa [hattributes]) hheight
  refine (sameTree_iff hheld (by rw [hroot, Tree.id_renumber]) h.holds h.id).2 ?_
  rw [Tree.bare_renumber, Tree.bare_renumber]

/-- A page that binds nothing leaves the components of the form what they were. -/
theorem components (h : TakesIn d d' page t name)
    (hfree : ComponentRegistry.bindingElements page = []) :
    ComponentRegistry.ofDocument d' = ComponentRegistry.ofDocument d := by
  refine h.aside.components h.grown fun s hs => ?_
  obtain ⟨r, hr, j, rfl⟩ := Tree.mem_exposed_renumber hs
  rw [Tree.kind_renumber]
  exact bindsNothing_of_page h.holds h.id h.height_le h.leaf h.name? h.isPage hfree r hr

/-- Of the parts of the form the page changes two: the page itself, and the components if it has
bindings. -/
theorem parts (h : TakesIn d d' page t name) {config : EngineConfig} {p : FormParts}
    (hp : FormParts.ofDocument d config = .ok p) :
    FormParts.ofDocument d' config =
      (ComponentRegistry.ofDocument d').map fun r =>
        { p with components := r, embeddedXhtml := d'.xhtmlPage? } := by
  rw [FormParts.ofDocument] at hp ⊢
  rcases hresolve : PropertyTable.resolve d.declaredProperties config.globalProperties with
    ⟨warnings, resolved⟩
  rw [hresolve] at hp
  obtain ⟨metadata, hmetadata, hp⟩ := ok_of_bind hp
  obtain ⟨properties, hproperties, hp⟩ := ok_of_bind hp
  obtain ⟨components, -, hp⟩ := ok_of_bind hp
  obtain rfl := Except.ok.inj hp
  simp only [h.grown.metadata, hmetadata, h.aside.declaredProperties h.grown, hresolve, hproperties,
    h.aside.controlsDocument h.grown, h.aside.models h.grown, h.recordedMatchers?]
  cases ComponentRegistry.ofDocument d' <;> rfl

end TakesIn

end Document

namespace StaticState

open Document (MayTakeIn TakesIn)

/-- A form with a page takes no other in. -/
theorem foldXhtml_of_page {d : Document} (h : d.xhtmlPage?.isSome = true) (supplied : Option Document) :
    foldXhtml supplied d = d := by
  rw [Document.xhtmlPage?, Option.isSome_map] at h
  cases supplied with
  | none => rfl
  | some page => rw [foldXhtml, if_pos h]

/-- A form without a page takes in the one that is supplied. -/
theorem exists_takesIn {d page : Document} (h : MayTakeIn d page) (hmissing : d.xhtmlPage? = none) :
    ∃ t name, TakesIn d (foldXhtml (some page) d) page t name := by
  obtain ⟨t, ht, hid, hlength, hleaf⟩ := h.forest.exists_rootTree
  obtain ⟨name, hname, hisPage⟩ := (Option.any_eq_true _ _).1 h.isPage
  have hheight : t.height ≤ page.size := Nat.le_trans t.height_le_length_ids hlength
  have hgrafts := Document.grafts_copyWithin ht hheight d d.root h.form.root_lt
  refine ⟨t, name, hmissing, ht, hid, hlength, hleaf, ?_, hisPage, h.form, h.isElement, ?_,
    hleaf.renumber _⟩
  · rw [← ht.name?, hid, hname]
  · rw [Document.xhtmlPage?, Option.map_eq_none_iff] at hmissing
    rw [foldXhtml, hmissing, Option.isSome_none, if_neg Bool.false_ne_true, Document.copySubtree,
      ← hid]
    exact hgrafts

/-- The state keeps the supplied page or none. -/
theorem xhtml_of_supplied {d page : Document} {config : EngineConfig} {uuid : String}
    {s : StaticState} (hs : ofDocument uuid d (some page) config = .ok s) :
    s.xhtml = if s.isNoscript then some page else none := by
  obtain ⟨p, -, hs⟩ := ok_of_bind hs
  obtain rfl := Except.ok.inj hs
  rfl

/-- The form that the state writes out is the form itself or the form with the page taken in. -/
theorem foldXhtml_cases {d page : Document} (h : MayTakeIn d page) {supplied : Option Document}
    (hsupplied : ∀ q ∈ supplied, q = page) :
    foldXhtml supplied d = d ∨ ∃ t name, TakesIn d (foldXhtml supplied d) page t name := by
  cases supplied with
  | none => exact .inl rfl
  | some q =>
    obtain rfl := hsupplied q rfl
    cases hown : d.xhtmlPage? with
    | none => exact .inr (exists_takesIn h hown)
    | some own => exact .inl (foldXhtml_of_page (by rw [hown]; rfl) _)

/-- **What the token of a state with a supplied page restores**: the state with the page of the
form that was written out and with the components that this form binds. It fails when one of these
bindings is at fault. -/
theorem ofEncoded_token_of_supplied {d page : Document} {config : EngineConfig}
    (hmay : MayTakeIn d page) (hprefixes : (d.namespaces.map Prod.fst).Nodup)
    (hsize : d.size + page.size + config.pathMatchers.length < Nat.pow 2 32) {uuid : String}
    {s : StaticState} (hs : ofDocument uuid d (some page) config = .ok s) (uuid' : String) :
    ofEncoded uuid' s.token s.tokenOrigin config =
      (ComponentRegistry.ofDocument (foldXhtml s.xhtml d)).map fun r =>
        { s with uuid := uuid', source := .encoded s.token, components := r
                 xhtml := (foldXhtml s.xhtml d).xhtmlPage? } := by
  have hsupplied : ∀ q ∈ s.xhtml, q = page := by
    rw [xhtml_of_supplied hs]
    intro q hq
    split at hq
    · exact (Option.some.inj hq).symm
    · contradiction
  obtain ⟨p, hp, hs⟩ := ok_of_bind hs
  have hs := Except.ok.inj hs
  obtain ⟨hcomponents, hembedded, hmatchers⟩ := parts_spec hp
  have hpassword : s.password = config.password := by rw [← hs]; rfl
  have htoken : s.token = Token.encode (foldMatchers (d.recordedMatchers?.getD config.pathMatchers)
      (foldXhtml s.xhtml d)) s.signingPassword := by
    rw [← hmatchers, ← hs]
    rfl
  rcases foldXhtml_cases hmay hsupplied with hsame | ⟨t, name, h⟩
  · rw [hsame] at htoken ⊢
    rw [ofEncoded_of_written hmay.form hmay.isElement hprefixes (by omega) htoken hpassword, hp,
      hcomponents, ← hembedded, ← hs]
    rfl
  · rw [← h.recordedMatchers?] at htoken
    have hle := h.size_le
    rw [ofEncoded_of_written h.grown.forest' h.grown.isElement_root
      (h.grown.grafts.namespaces ▸ hprefixes) (by omega) htoken hpassword, h.parts hp, ← hs]
    cases ComponentRegistry.ofDocument _ <;> rfl

/-! ## Agreement -/

/-- What it comes to to analyse the state: whether the analysis ran, what it found and the warnings
that the state then has. -/
def outcome (s : StaticState) : Except Stop (Bool × Option Analysis × List Warning) :=
  s.analyze.map fun x => (x.1, x.2.analysis, x.2.warnings)

theorem outcome_of_fresh {s : StaticState} (h : s.analysis = none) :
    s.outcome = (Analysis.run s.controls s.models s.components).map fun a =>
      (true, some a, s.constructionWarnings ++ a.warnings) := by
  rw [outcome, analyze, h]
  cases Analysis.run s.controls s.models s.components <;> rfl

/-- Of two fresh states with the same warnings the outcomes are the same when the analyses are. -/
theorem outcome_eq_iff {r s : StaticState} (hr : r.analysis = none) (hs : s.analysis = none)
    (hwarnings : r.constructionWarnings = s.constructionWarnings) :
    r.outcome = s.outcome ↔
      Analysis.run r.controls r.models r.components =
        Analysis.run s.controls s.models s.components := by
  rw [outcome_of_fresh hr, outcome_of_fresh hs, hwarnings]
  exact map_inj_right (m := Except Stop) fun hab => Option.some.inj (congrArg (fun x => x.2.1) hab)

/-- The two states have one page or have none, and it comes to the same to analyse either. -/
structure Agrees (r s : StaticState) : Prop where
  page : Option.Rel Document.SameTree r.xhtml s.xhtml
  outcome : r.outcome = s.outcome

/-- The page that the written form gives back is the page of the state: the form has none of its
own, or it has the one that the state keeps. -/
def KeepsPage (s : StaticState) (d page : Document) : Prop :=
  d.xhtmlPage? = none ∨
    s.isNoscript = true ∧ ∃ own, d.xhtmlPage? = some own ∧ own.SameTree page

/-- The bindings of the written form are sound, and the analysis with them ends as the analysis
with those of the state. -/
def BindsAlike (s : StaticState) (d : Document) : Prop :=
  ∃ r, ComponentRegistry.ofDocument (foldXhtml s.xhtml d) = .ok r ∧
    Analysis.run s.controls s.models r = Analysis.run s.controls s.models s.components

theorem rel_xhtmlPage?_iff {d page : Document} (hmay : MayTakeIn d page)
    (hdistinct : Attributes.Distinct (page.attributes page.root)) {s : StaticState}
    (hxhtml : s.xhtml = if s.isNoscript then some page else none) :
    Option.Rel Document.SameTree (foldXhtml s.xhtml d).xhtmlPage? s.xhtml ↔ s.KeepsPage d page := by
  rw [KeepsPage]
  cases hown : d.xhtmlPage? with
  | some own =>
    -- the form takes nothing in, so it gives back its own page
    rw [foldXhtml_of_page (by rw [hown]; rfl), hown, hxhtml]
    cases s.isNoscript with
    | false =>
      constructor
      · intro h
        cases h
      · rintro (h | ⟨h, -⟩) <;> contradiction
    | true =>
      constructor
      · intro h
        cases h with
        | some hsame => exact .inr ⟨rfl, own, rfl, hsame⟩
      · rintro (h | ⟨-, own', hown', hsame⟩)
        · contradiction
        · obtain rfl := Option.some.inj hown'
          exact .some hsame
  | none =>
    refine iff_of_true ?_ (.inl rfl)
    rw [hxhtml]
    cases s.isNoscript with
    | false =>
      rw [if_neg Bool.false_ne_true, foldXhtml, hown]
      exact .none
    | true =>
      obtain ⟨t, name, h⟩ := exists_takesIn hmay hown
      rw [if_pos rfl, h.xhtmlPage?]
      exact .some (h.sameTree hdistinct)

/-- The page binds nothing beyond what the form binds when it is not taken in, and when it has no
bindings. -/
theorem bindsAlike_of_unbound {d page : Document} {config : EngineConfig} (hmay : MayTakeIn d page)
    {uuid : String} {s : StaticState} (hs : ofDocument uuid d (some page) config = .ok s)
    (hfree : s.isNoscript = false ∨ d.xhtmlPage? ≠ none ∨
      ComponentRegistry.bindingElements page = []) : s.BindsAlike d := by
  have hxhtml := xhtml_of_supplied hs
  obtain ⟨p, hp, hs⟩ := ok_of_bind hs
  obtain ⟨hcomponents, -, -⟩ := parts_spec hp
  refine ⟨s.components, ?_, rfl⟩
  have hs : p.components = s.components := by
    rw [← Except.ok.inj hs]
    rfl
  rw [← hs, ← hcomponents, hxhtml]
  cases hown : d.xhtmlPage? with
  | some own => rw [foldXhtml_of_page (by rw [hown]; rfl)]
  | none =>
    cases hscript : s.isNoscript with
    | false => rfl
    | true =>
      obtain hfree | hfree | hfree := hfree
      · rw [hscript] at hfree
        contradiction
      · exact absurd hown hfree
      · obtain ⟨t, name, h⟩ := exists_takesIn hmay hown
        rw [if_pos rfl, h.components hfree]

/-- **A state with a supplied page comes back with the same page and the same analysis exactly when
its page is kept and the form that was written out binds alike.** The page is kept unless the form
has one of its own: a supplied page takes its place, also when the form is served with scripts and
the supplied page is dropped, and the restored state has the page of the form again. The form binds
alike unless the page is taken in and has bindings, which the state was made without. -/
theorem restored_agrees_iff_kept {d page : Document} {config : EngineConfig}
    (hcheck : d.check = .ok ()) (hroot : d.isElement d.root = true)
    (hprefixes : (d.namespaces.map Prod.fst).Nodup) (hpage : page.check = .ok ())
    (hhtml : page.isNamed page.root Namespace.xhtml "html" = true)
    (hdistinct : Attributes.Distinct (page.attributes page.root))
    (hsize : d.size + page.size + config.pathMatchers.length < Nat.pow 2 32) {uuid : String}
    {s : StaticState} (hs : ofDocument uuid d (some page) config = .ok s) (uuid' : String) :
    ((∃ r, ofEncoded uuid' s.token (if s.isClientHandled then .request else .store) config = .ok r ∧
        r.Agrees s) ↔ s.KeepsPage d page ∧ s.BindsAlike d) ∧
      (s.isNoscript = false ∨ d.xhtmlPage? ≠ none ∨ ComponentRegistry.bindingElements page = [] →
        s.BindsAlike d) := by
  have hmay : MayTakeIn d page :=
    ⟨Document.check_eq_ok_iff.1 hcheck, hroot, Document.check_eq_ok_iff.1 hpage, hhtml⟩
  refine ⟨?_, bindsAlike_of_unbound hmay hs⟩
  have hrestored := ofEncoded_token_of_supplied hmay hprefixes hsize hs uuid'
  rw [tokenOrigin] at hrestored
  have hfresh : s.analysis = none := by
    obtain ⟨p, -, hs⟩ := ok_of_bind hs
    obtain rfl := Except.ok.inj hs
    rfl
  rw [hrestored, ← rel_xhtmlPage?_iff hmay hdistinct (xhtml_of_supplied hs)]
  constructor
  · rintro ⟨r, hr, hagrees⟩
    cases hregistry : ComponentRegistry.ofDocument (foldXhtml s.xhtml d) with
    | error e =>
      rw [hregistry] at hr
      contradiction
    | ok registry =>
      rw [hregistry] at hr
      obtain rfl := Except.ok.inj hr
      refine ⟨hagrees.page, registry, hregistry, ?_⟩
      exact (outcome_eq_iff (by exact hfresh) hfresh (by rfl)).1 hagrees.outcome
  · rintro ⟨hrel, registry, hregistry, hrun⟩
    rw [hregistry]
    exact ⟨_, rfl, hrel, (outcome_eq_iff (by exact hfresh) hfresh (by rfl)).2 hrun⟩

/-- A form without a page, served without scripts, its state kept by the client. -/
def scriptlessForm : Document :=
  { nodes :=
      #[{ kind := .element (.plain "static-state") [], children := [1, 2] },
        { kind := .element (.plain "properties")
            [⟨.plain "noscript", "true"⟩, ⟨.plain "state-handling", "client"⟩]
          parent := some 0 },
        { kind := .element { nsPrefix := "xf", uri := Namespace.xforms, localName := "group" }
            [⟨.plain "id", "g"⟩]
          parent := some 0 }]
    root := 0
    namespaces := [("xf", Namespace.xforms)] }

/-- A page with a body. -/
def bodyPage : Document :=
  { nodes :=
      #[{ kind := .element { nsPrefix := "xh", uri := Namespace.xhtml, localName := "html" } []
          children := [1] },
        { kind := .element { nsPrefix := "xh", uri := Namespace.xhtml, localName := "body" } []
          parent := some 0 }]
    root := 0
    namespaces := [("xh", Namespace.xhtml)] }

def scriptlessConfig : EngineConfig :=
  { features := { noscript := true }, password := some "secret"
    pathMatchers := [{ pathInfo := "/fr/.*", versioned := true }] }

/-- The body page is kept with the form and comes back. -/
theorem restored_agrees_iff_kept_scriptlessForm :
    scriptlessForm.check = .ok () ∧ scriptlessForm.isElement scriptlessForm.root = true ∧
      bodyPage.check = .ok () ∧ bodyPage.isNamed bodyPage.root Namespace.xhtml "html" = true ∧
      ∃ s, ofDocument "s0" scriptlessForm (some bodyPage) scriptlessConfig = .ok s ∧
        s.xhtml = some bodyPage ∧ ∃ r,
          ofEncoded "s1" s.token (if s.isClientHandled then .request else .store) scriptlessConfig =
            .ok r ∧ r.Agrees s := by
  have hcheck : scriptlessForm.check = .ok () := by decide
  have hpage : bodyPage.check = .ok () := by decide
  obtain ⟨s, hs, hxhtml⟩ : ∃ s,
      ofDocument "s0" scriptlessForm (some bodyPage) scriptlessConfig = .ok s ∧
        s.xhtml = some bodyPage := ⟨_, rfl, by decide⟩
  have hagrees := restored_agrees_iff_kept hcheck (by decide) (by decide) hpage (by decide) (by decide)
    (by decide) hs "s1"
  have hfree : ComponentRegistry.bindingElements bodyPage = [] := by decide
  have hmissing : scriptlessForm.xhtmlPage? = none := by decide
  exact ⟨hcheck, by decide, hpage, by decide, s, hs, hxhtml,
    hagrees.1.2 ⟨.inl hmissing, hagrees.2 (.inr (.inr hfree))⟩⟩

/-- A form with a page of its own. -/
def pagedForm : Document :=
  { nodes :=
      #[{ kind := .element (.plain "static-state") [], children := [1, 3] },
        { kind := .element { nsPrefix := "xh", uri := Namespace.xhtml, localName := "html" } []
          parent := some 0, children := [2] },
        { kind := .element { nsPrefix := "xh", uri := Namespace.xhtml, localName := "head" } []
          parent := some 1 },
        { kind := .element { nsPrefix := "xf", uri := Namespace.xforms, localName := "group" }
            [⟨.plain "id", "g"⟩]
          parent := some 0 }]
    root := 0
    namespaces := [("xh", Namespace.xhtml), ("xf", Namespace.xforms)] }

/-- A form with a page of its own is supplied with another one and served with scripts: the state
has no page, and the restored state has the page of the form. -/
theorem not_restored_agrees :
    pagedForm.check = .ok () ∧ pagedForm.isElement pagedForm.root = true ∧
      bodyPage.check = .ok () ∧ bodyPage.isNamed bodyPage.root Namespace.xhtml "html" = true ∧
      ∃ s, ofDocument "s0" pagedForm (some bodyPage) {} = .ok s ∧ s.xhtml = none ∧ ∃ r,
        ofEncoded "s1" s.token (if s.isClientHandled then .request else .store) {} = .ok r ∧
          r.xhtml = pagedForm.xhtmlPage? ∧ r.xhtml ≠ none ∧ ¬r.Agrees s := by
  have hcheck : pagedForm.check = .ok () := by decide
  have hpage : bodyPage.check = .ok () := by decide
  obtain ⟨s, hs, hxhtml⟩ : ∃ s, ofDocument "s0" pagedForm (some bodyPage) {} = .ok s ∧
      s.xhtml = none := ⟨_, rfl, by decide⟩
  have hmay : MayTakeIn pagedForm bodyPage :=
    ⟨Document.check_eq_ok_iff.1 hcheck, by decide, Document.check_eq_ok_iff.1 hpage, by decide⟩
  have hrestored := ofEncoded_token_of_supplied hmay (by decide) (by decide) hs "s1"
  obtain ⟨p, hp, -⟩ := ok_of_bind hs
  obtain ⟨hcomponents, -, -⟩ := parts_spec hp
  have hown : pagedForm.xhtmlPage? ≠ none := by decide
  -- without a page the state writes the form as it is
  rw [tokenOrigin, hxhtml, foldXhtml, hcomponents] at hrestored
  refine ⟨hcheck, by decide, hpage, by decide, s, hs, hxhtml, _, hrestored, rfl, hown, ?_⟩
  intro hagrees
  have hrel := hagrees.page
  rw [hxhtml] at hrel
  cases hpaged : pagedForm.xhtmlPage? with
  | none => exact hown hpaged
  | some page =>
    rw [hpaged] at hrel
    cases hrel

end StaticState

end FormEngine
