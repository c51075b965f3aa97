import FormEngine.Proofs.Component.Built
import FormEngine.Proofs.Markup.Prefixes
/-!
# What the selectors of bindings select

A selector is read against the prefix table of its document. In a document from markup that table has
the prefixes that names use, so a selector counts for nothing there: a prefix that is declared and
that only selectors use is not found. The binding of such a selector fails, and with it all bindings
of the document.
-/

namespace FormEngine.ComponentRegistry

variable {d : Document} {r : ComponentRegistry} {p uri name selector : String} {n : NodeId}

/-! ## The bindings of a document -/

theorem binding?_register (r : ComponentRegistry) (b : Binding) (name : QName) :
    (r.register b).binding? name =
      (r.binding? name).or (if b.element.same name then some b else none) := by
  rw [register]
  split
  · -- its name is bound, and so is every spelling of it
    rename_i hbound
    cases hsame : b.element.same name with
    | false => rw [if_neg Bool.false_ne_true, Option.or_none]
    | true =>
      rw [QName.same_iff] at hsame
      have hfind : r.binding? name = r.binding? b.element := by
        simp only [binding?, QName.same, hsame.1, hsame.2]
      obtain ⟨c, hc⟩ := Option.isSome_iff_exists.1 hbound
      rw [hfind, hc, Option.some_or]
  · rw [binding?, List.find?_append, List.find?_singleton]
    rfl

/-- The first of the bindings that are registered for a name is the one that holds. -/
theorem binding?_foldl_register (bs : List Binding) (r : ComponentRegistry) (name : QName) :
    (bs.foldl register r).binding? name =
      (r.binding? name).or (bs.find? (·.element.same name)) := by
  induction bs generalizing r with
  | nil => exact (Option.or_none).symm
  | cons b bs ih =>
    rw [List.foldl_cons, ih, binding?_register, Option.or_assoc, List.find?_cons]
    cases b.element.same name <;> rfl

/-- The bindings that the elements of a document make, in document order. -/
def bindingsOf (d : Document) : Except AnalysisError (List Binding) :=
  (bindingElements d).mapM (bindingOfElement d)

theorem foldlM_register (f : NodeId → Except AnalysisError Binding) (ns : List NodeId)
    (r : ComponentRegistry) :
    ns.foldlM (fun r n => do return r.register (← f n)) r =
      (ns.mapM f).map fun bs => bs.foldl register r := by
  induction ns generalizing r with
  | nil => rfl
  | cons n ns ih =>
    rw [List.foldlM_cons, List.mapM_cons]
    cases f n with
    | error e => rfl
    | ok b =>
      refine (ih (r.register b)).trans ?_
      change _ = ((ns.mapM f) >>= fun bs => pure (b :: bs)).map _
      cases ns.mapM f <;> rfl

/-- A document has a registry exactly if each of its binding elements makes a binding. -/
theorem ofDocument_eq (d : Document) :
    ofDocument d = (bindingsOf d).map fun bs => bs.foldl register {} :=
  foldlM_register (bindingOfElement d) (bindingElements d) {}

/-! ## Selectors with a prefix -/

theorem splitSelector_prefixed (hbar : '|' ∉ p.toList) :
    splitSelector (p ++ "|" ++ name) = (p, name) := by
  have hp : ∀ c ∈ p.toList, (c != '|') = true := fun c hc => by
    rw [bne_iff_ne]
    rintro rfl
    exact hbar hc
  have hcs : (p ++ "|" ++ name).toList = p.toList ++ '|' :: name.toList := by simp
  unfold splitSelector
  dsimp only
  rw [hcs, List.dropWhile_append_of_pos hp, List.takeWhile_append_of_pos hp]
  simp

theorem resolveSelector_prefixed (hbar : '|' ∉ p.toList) (hname : name ≠ "") :
    resolveSelector d (p ++ "|" ++ name) = (d.namespace? p).elim
      (.error (.unresolvedComponent (p ++ "|" ++ name) "selector prefix is not declared"))
      fun uri => .ok { nsPrefix := p, uri, localName := name } := by
  rw [resolveSelector, splitSelector_prefixed hbar]
  dsimp only
  rw [if_neg (String.isEmpty_iff.not.2 hname)]
  cases d.namespace? p <;> rfl

/-- The binding of an element whose selector selects a name. -/
theorem bindingOfElement_of_ok {element : QName} {template : NodeId}
    (hselector : d.attr? n "element" = some selector)
    (htemplate : d.firstChildNamed? n Namespace.xbl "template" = some template)
    (h : resolveSelector d selector = .ok element) :
    bindingOfElement d n = .ok
      { element, bindingId := d.staticId? n, template := some (d.subtreeDocument template) } := by
  rw [bindingOfElement, hselector]
  dsimp only
  rw [h, htemplate]
  rfl

/-- An element whose selector selects nothing has no binding. -/
theorem bindingOfElement_of_error {e : AnalysisError}
    (hselector : d.attr? n "element" = some selector) (h : resolveSelector d selector = .error e) :
    bindingOfElement d n = .error e := by
  rw [bindingOfElement, hselector]
  dsimp only
  rw [h]
  rfl

/-- One element without a binding leaves the document without a registry. -/
theorem ofDocument_ne_ok (hn : n ∈ bindingElements d) {e : AnalysisError}
    (h : bindingOfElement d n = .error e) (r : ComponentRegistry) : ofDocument d ≠ .ok r := by
  intro hr
  rw [ofDocument_eq] at hr
  cases hbs : bindingsOf d with
  | error e' =>
    rw [hbs] at hr
    contradiction
  | ok bs =>
    obtain ⟨b, -, hb⟩ := exists_ok_of_mapM hbs hn
    rw [h] at hb
    contradiction

/-- **A prefix that is declared once, at the root, stands in selectors for its namespace exactly if an
element or attribute of the document is written with it.** If one is, each binding with a selector
`p|name` is for the name in that namespace, and the first for the name is what the registry has. If
none is, the selector fails, and the document has no registry. -/
theorem binding?_ofDocument_parse (hp : p ≠ "") (hbar : '|' ∉ p.toList) (huri : uri ≠ "")
    {source : String} (hdeclared : Markup.DeclaredAtRoot p uri (Markup.tokens source))
    (hd : Markup.parse source = .ok d) (hn : n ∈ bindingElements d) (hname : name ≠ "")
    (hselector : d.attr? n "element" = some (p ++ "|" ++ name)) {template : NodeId}
    (htemplate : d.firstChildNamed? n Namespace.xbl "template" = some template) :
    (d.UsesPrefix p → ∃ b, bindingOfElement d n = .ok b ∧
      b.element = ⟨p, uri, name⟩ ∧ b.bindingId = d.staticId? n ∧
      b.template = some (d.subtreeDocument template) ∧
      ∀ bs, bindingsOf d = .ok bs → b ∈ bs ∧ ∃ r, ofDocument d = .ok r ∧
        r.isComponent ⟨p, uri, name⟩ ∧ r.binding? ⟨p, uri, name⟩ =
          bs.find? (·.element.same ⟨p, uri, name⟩)) ∧
    (¬d.UsesPrefix p →
      bindingOfElement d n =
        .error (.unresolvedComponent (p ++ "|" ++ name) "selector prefix is not declared") ∧
      ∀ r, ofDocument d ≠ .ok r) := by
  have hresolve := resolveSelector_prefixed (d := d) hbar hname
  rcases Markup.records_of_parse hp huri hdeclared hd with ⟨hused, htable⟩ | ⟨hunused, htable⟩
  · refine ⟨fun _ => ?_, fun h => absurd hused h⟩
    rw [htable] at hresolve
    have hb := bindingOfElement_of_ok hselector htemplate hresolve
    refine ⟨_, hb, rfl, rfl, rfl, fun bs hbs => ?_⟩
    obtain ⟨b, hmem, hb'⟩ := exists_ok_of_mapM hbs hn
    obtain rfl := Except.ok.inj (hb.symm.trans hb')
    have hr := ofDocument_eq d
    rw [hbs] at hr
    refine ⟨hmem, _, hr, ?_, binding?_foldl_register bs {} _⟩
    rw [isComponent, binding?_foldl_register]
    exact List.find?_isSome.2 ⟨_, hmem, QName.same_iff.2 ⟨rfl, rfl⟩⟩
  · refine ⟨fun h => absurd h hunused, fun _ => ?_⟩
    rw [htable] at hresolve
    have hb := bindingOfElement_of_error hselector hresolve
    exact ⟨hb, ofDocument_ne_ok hn hb⟩

/-- A binding for a name, and an element of that name. -/
def usedText : String :=
  "<form xmlns:x=\"http://www.w3.org/ns/xbl\" xmlns:fr=\"fr\">" ++
    "<x:binding element=\"fr|name\"><x:template/></x:binding><fr:name/></form>"

/-- The document of the text. -/
def usedForm : Document :=
  { nodes :=
      #[{ kind := .element (.plain "form") [], children := [1, 3] },
        { kind := .element { nsPrefix := "x", uri := Namespace.xbl, localName := "binding" }
            [⟨.plain "element", "fr|name"⟩]
          parent := some 0, children := [2] },
        { kind := .element { nsPrefix := "x", uri := Namespace.xbl, localName := "template" } []
          parent := some 1 },
        { kind := .element { nsPrefix := "fr", uri := "fr", localName := "name" } []
          parent := some 0 }]
    root := 0
    namespaces := [("x", Namespace.xbl), ("fr", "fr")] }

theorem tokens_usedText : Markup.tokens usedText =
    [.openTag "form" [("xmlns:x", Namespace.xbl), ("xmlns:fr", "fr")] false,
      .openTag "x:binding" [("element", "fr|name")] false, .openTag "x:template" [] true,
      .closeTag "x:binding", .openTag "fr:name" [] true, .closeTag "form"] := by
  decide +kernel

theorem parse_usedText : Markup.parse usedText = .ok usedForm := by
  rw [Markup.parse, tokens_usedText]
  decide +kernel

theorem binding?_ofDocument_parse_usedText :
    Markup.DeclaredAtRoot "fr" "fr" (Markup.tokens usedText) ∧
    Markup.parse usedText = .ok usedForm ∧ 1 ∈ bindingElements usedForm ∧
    usedForm.attr? 1 "element" = some ("fr" ++ "|" ++ "name") ∧
    usedForm.firstChildNamed? 1 Namespace.xbl "template" = some 2 ∧ usedForm.UsesPrefix "fr" ∧
    ∃ b, bindingOfElement usedForm 1 = .ok b ∧ b.element = ⟨"fr", "fr", "name"⟩ ∧
      ∃ r, ofDocument usedForm = .ok r ∧ r.isComponent ⟨"fr", "fr", "name"⟩ = true := by
  have hdeclared : Markup.DeclaredAtRoot "fr" "fr" (Markup.tokens usedText) := by
    rw [tokens_usedText]
    exact ⟨_, _, rfl, rfl, by decide⟩
  have hn : 1 ∈ bindingElements usedForm := by decide
  have hused : usedForm.UsesPrefix "fr" := ⟨3, _, rfl, _, List.mem_singleton_self _, rfl⟩
  obtain ⟨b, hb, helement, -, -, hall⟩ := (binding?_ofDocument_parse (by decide) (by decide)
    (by decide) hdeclared parse_usedText hn (by decide : "name" ≠ "") rfl (rfl :
      usedForm.firstChildNamed? 1 Namespace.xbl "template" = some 2)).1 hused
  obtain ⟨bs, hbs⟩ : ∃ bs, bindingsOf usedForm = .ok bs := ⟨_, rfl⟩
  obtain ⟨-, r, hr, hcomponent, -⟩ := hall bs hbs
  exact ⟨hdeclared, parse_usedText, hn, rfl, rfl, hused, b, hb, helement, r, hr, hcomponent⟩

/-- The same binding without the element. -/
def unusedText : String :=
  "<form xmlns:x=\"http://www.w3.org/ns/xbl\" xmlns:fr=\"fr\">" ++
    "<x:binding element=\"fr|name\"><x:template/></x:binding></form>"

/-- The document of that text. -/
def unusedForm : Document :=
  { nodes :=
      #[{ kind := .element (.plain "form") [], children := [1] },
        { kind := .element { nsPrefix := "x", uri := Namespace.xbl, localName := "binding" }
            [⟨.plain "element", "fr|name"⟩]
          parent := some 0, children := [2] },
        { kind := .element { nsPrefix := "x", uri := Namespace.xbl, localName := "template" } []
          parent := some 1 }]
    root := 0
    namespaces := [("x", Namespace.xbl)] }

theorem tokens_unusedText : Markup.tokens unusedText =
    [.openTag "form" [("xmlns:x", Namespace.xbl), ("xmlns:fr", "fr")] false,
      .openTag "x:binding" [("element", "fr|name")] false, .openTag "x:template" [] true,
      .closeTag "x:binding", .closeTag "form"] := by
  decide +kernel

theorem not_registered_unusedText :
    Markup.DeclaredAtRoot "fr" "fr" (Markup.tokens unusedText) ∧
    Markup.parse unusedText = .ok unusedForm ∧ 1 ∈ bindingElements unusedForm ∧
    unusedForm.attr? 1 "element" = some ("fr" ++ "|" ++ "name") ∧
    unusedForm.firstChildNamed? 1 Namespace.xbl "template" = some 2 ∧
    ofDocument unusedForm =
      .error (.unresolvedComponent "fr|name" "selector prefix is not declared") := by
  have hdeclared : Markup.DeclaredAtRoot "fr" "fr" (Markup.tokens unusedText) := by
    rw [tokens_unusedText]
    exact ⟨_, _, rfl, rfl, by decide⟩
  have hparse : Markup.parse unusedText = .ok unusedForm := by
    rw [Markup.parse, tokens_unusedText]
    decide +kernel
  exact ⟨hdeclared, hparse, by decide, rfl, rfl, rfl⟩

end FormEngine.ComponentRegistry
