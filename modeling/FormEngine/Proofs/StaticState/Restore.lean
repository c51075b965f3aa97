import FormEngine.Proofs.Outcome
import FormEngine.Proofs.StaticState.Fold
import FormEngine.Proofs.Token
/-!
# Restoring a static state

A static state that is written out and restored from its token is the state that it was, with an
identifier of its own and the token in place of its document. The token carries the form with the
path matchers in it, which the splitting of the form does not see; it reads back as the document
that was written; and the origin of the token asks for the signature that the state put on it.
-/

namespace FormEngine

namespace StaticState

/-! ## What is written out -/

/-- A page that came out of the form is in the form already. -/
theorem foldXhtml_xhtmlPage? (d : Document) : foldXhtml d.xhtmlPage? d = d := by
  cases h : d.firstChildNamed? d.root Namespace.xhtml "html" with
  | none => simp [Document.xhtmlPage?, h, foldXhtml]
  | some page => simp [Document.xhtmlPage?, h, foldXhtml]

theorem length_ids_matcherTree (k : Nat) (ms : List PathMatcher) :
    (matcherTree k ms).ids.length = ms.length + 1 := by
  have hleaves : ∀ (k : Nat) (ms : List PathMatcher),
      ((PathMatcher.leaves k ms).flatMap Tree.ids).length = ms.length := by
    intro k ms
    induction ms generalizing k with
    | nil => rfl
    | cons m ms ih => simp [PathMatcher.leaves, ih]
  rw [matcherTree, Tree.ids_node, List.length_cons, hleaves]

/-- The form with its matchers is a forest with the same table of namespaces, and larger by the
matchers of the configuration at most. -/
theorem carries_foldMatchers {d : Document} (hforest : d.IsForest)
    (hroot : d.isElement d.root = true) {config : EngineConfig}
    (hprefixes : (d.namespaces.map Prod.fst).Nodup)
    (hsize : d.size + config.pathMatchers.length < Nat.pow 2 32) :
    Token.Carries (foldMatchers (d.recordedMatchers?.getD config.pathMatchers) d) := by
  by_cases hkeep : ((d.recordedMatchers?.getD config.pathMatchers).isEmpty ||
      (d.firstChildNamed? d.root "" "matchers").isSome) = true
  · rw [foldMatchers, if_pos hkeep]
    exact ⟨hforest, hforest.portable (by omega) hprefixes⟩
  · rw [Bool.not_eq_true, Bool.or_eq_false_iff] at hkeep
    obtain ⟨hms, hnone⟩ := hkeep
    have hg := grownAtRoot_foldMatchers hforest hroot hms hnone
    -- the form records none, so those of the configuration are written, for which there is room
    have hrecorded : d.recordedMatchers? = none := by
      rw [Option.isSome_eq_false_iff, Option.isNone_iff_eq_none] at hnone
      rw [Document.recordedMatchers?, hnone]
      rfl
    refine ⟨hg.forest', hg.forest'.portable ?_ (hg.grafts.namespaces ▸ hprefixes)⟩
    rw [hg.grafts.size, length_ids_matcherTree, hrecorded, Option.getD_none]
    omega

/-- The parts of a form that its document alone decides. -/
theorem parts_spec {d : Document} {config : EngineConfig} {p : FormParts}
    (h : FormParts.ofDocument d config = .ok p) :
    ComponentRegistry.ofDocument d = .ok p.components ∧ p.embeddedXhtml = d.xhtmlPage? ∧
      p.pathMatchers = d.recordedMatchers?.getD config.pathMatchers := by
  rw [FormParts.ofDocument] at h
  obtain ⟨metadata, -, h⟩ := ok_of_bind h
  obtain ⟨properties, -, h⟩ := ok_of_bind h
  obtain ⟨components, hcomponents, h⟩ := ok_of_bind h
  obtain rfl := Except.ok.inj h
  exact ⟨hcomponents, rfl, rfl⟩

/-- Where the token of a state comes back from: the client that holds it, or the store. -/
def tokenOrigin (s : StaticState) : TokenOrigin := if s.isClientHandled then .request else .store

/-- A token that reads back as a document restores the parts of that document. -/
theorem ofEncoded_of_decode {uuid token : String} {origin : TokenOrigin} {config : EngineConfig}
    {d : Document}
    (hdecode : Token.decode token (if origin = .request then config.password else none) = .ok d) :
    ofEncoded uuid token origin config =
      (FormParts.ofDocument d config).map fun p => ofParts uuid p none (.encoded token) config := by
  cases origin with
  | request =>
    rw [if_pos rfl] at hdecode
    simp only [ofEncoded, hdecode, Except.mapError, bind, Except.bind]
    cases FormParts.ofDocument d config <;> rfl
  | store =>
    rw [if_neg (by decide)] at hdecode
    simp only [ofEncoded, hdecode, Except.mapError, bind, Except.bind]
    cases FormParts.ofDocument d config <;> rfl

/-- The password that signs a token is the one that its origin asks for. -/
theorem signingPassword_eq (s : StaticState) :
    s.signingPassword = if s.tokenOrigin = .request then s.password else none := by
  rw [signingPassword, tokenOrigin]
  cases s.isClientHandled <;> rfl

/-- A state whose token is the form `d` with its matchers restores to the parts of `d`. -/
theorem ofEncoded_of_written {d : Document} {config : EngineConfig} (hforest : d.IsForest)
    (hroot : d.isElement d.root = true) (hprefixes : (d.namespaces.map Prod.fst).Nodup)
    (hsize : d.size + config.pathMatchers.length < Nat.pow 2 32) {s : StaticState}
    (htoken : s.token = Token.encode
      (foldMatchers (d.recordedMatchers?.getD config.pathMatchers) d) s.signingPassword)
    (hpassword : s.password = config.password) (uuid : String) :
    ofEncoded uuid s.token s.tokenOrigin config =
      (FormParts.ofDocument d config).map fun p => ofParts uuid p none (.encoded s.token) config := by
  have hcarries := carries_foldMatchers hforest hroot hprefixes hsize
  have hdecode := Token.decode_encode hcarries s.signingPassword
  rw [← htoken, signingPassword_eq, hpassword] at hdecode
  rw [ofEncoded_of_decode hdecode, parts_foldMatchers hforest hroot config]

/-- **A restored static state is the state that was written out**, with an identifier of its own
and the token in place of the document. -/
theorem ofEncoded_token {d : Document} {config : EngineConfig} (hcheck : d.check = .ok ())
    (hroot : d.isElement d.root = true) (hprefixes : (d.namespaces.map Prod.fst).Nodup)
    (hsize : d.size + config.pathMatchers.length < Nat.pow 2 32) {uuid : String} {s : StaticState}
    (hs : ofDocument uuid d none config = .ok s) (uuid' : String) :
    ofEncoded uuid' s.token s.tokenOrigin config =
      .ok { s with uuid := uuid', source := .encoded s.token } := by
  obtain ⟨p, hp, hs⟩ := ok_of_bind hs
  obtain rfl := Except.ok.inj hs
  have hforest := Document.check_eq_ok_iff.1 hcheck
  obtain ⟨-, hxhtml, hmatchers⟩ := parts_spec hp
  have htoken : (ofParts uuid p none (.document d) config).token =
      Token.encode (foldMatchers (d.recordedMatchers?.getD config.pathMatchers) d)
        (ofParts uuid p none (.document d) config).signingPassword := by
    change Token.encode (foldMatchers p.pathMatchers (foldXhtml p.embeddedXhtml d)) _ = _
    rw [hxhtml, foldXhtml_xhtmlPage?, hmatchers]
  rw [ofEncoded_of_written hforest hroot hprefixes hsize htoken rfl, hp]
  rfl

/-- **Restoring undoes writing out**: the token of a state restores to a state with the same
metadata, properties, matchers, page, controls, models and warnings, whose analysis ends as that
of the first state ends, and whose token is the same again. The namespaces of a form are a map, so
no prefix is there twice, and its addresses, with those of the matchers, have thirty-two bits. -/
theorem restored_agrees {d : Document} {config : EngineConfig} (hcheck : d.check = .ok ())
    (hroot : d.isElement d.root = true) (hprefixes : (d.namespaces.map Prod.fst).Nodup)
    (hsize : d.size + config.pathMatchers.length < Nat.pow 2 32) {uuid : String} {s : StaticState}
    (hs : ofDocument uuid d none config = .ok s) (uuid' : String) :
    ∃ r, ofEncoded uuid' s.token (if s.isClientHandled then .request else .store) config = .ok r ∧
      r.uuid = uuid' ∧ r.metadata = s.metadata ∧ r.properties = s.properties ∧
      r.pathMatchers = s.pathMatchers ∧ r.xhtml = s.xhtml ∧ r.controls = s.controls ∧
      r.models = s.models ∧ r.constructionWarnings = s.constructionWarnings ∧
      (r.analyze.map fun x => (x.1, x.2.analysis, x.2.warnings)) =
        (s.analyze.map fun x => (x.1, x.2.analysis, x.2.warnings)) ∧
      r.token = s.token := by
  refine ⟨_, ofEncoded_token hcheck hroot hprefixes hsize hs uuid', rfl, rfl, rfl, rfl, rfl, rfl, rfl,
    rfl, ?_, rfl⟩
  -- a state fresh from its document has no analysis yet, so both sides run it
  have hfresh : s.analysis = none := by
    obtain ⟨p, -, hs⟩ := ok_of_bind hs
    obtain rfl := Except.ok.inj hs
    rfl
  simp only [analyze, hfresh]
  cases Analysis.run s.controls s.models s.components <;> rfl

/-- A form with one input, for a host that has a matcher to record and a password. -/
def smallForm : Document :=
  { nodes :=
      #[{ kind := .element (.plain "static-state") [], children := [1, 2] },
        { kind := .element (.plain "properties") [⟨.plain "state-handling", "client"⟩]
          parent := some 0 },
        { kind := .element { nsPrefix := "xf", uri := Namespace.xforms, localName := "input" }
            [⟨.plain "id", "name"⟩]
          parent := some 0 }]
    root := 0
    namespaces := [("xf", Namespace.xforms)] }

def smallConfig : EngineConfig :=
  { password := some "secret", pathMatchers := [{ pathInfo := "/fr/.*", versioned := true }] }

theorem restored_agrees_smallForm :
    smallForm.check = .ok () ∧ smallForm.isElement smallForm.root = true ∧
      (smallForm.namespaces.map Prod.fst).Nodup ∧
      smallForm.size + smallConfig.pathMatchers.length < Nat.pow 2 32 ∧
      ∃ s, ofDocument "s0" smallForm none smallConfig = .ok s ∧ ∃ r,
        ofEncoded "s1" s.token (if s.isClientHandled then .request else .store) smallConfig = .ok r ∧
          r.uuid = "s1" ∧ r.controls = s.controls ∧ r.pathMatchers = s.pathMatchers ∧
          r.token = s.token := by
  have hcheck : smallForm.check = .ok () := by decide
  have hprefixes : (smallForm.namespaces.map Prod.fst).Nodup := by decide
  have hsize : smallForm.size + smallConfig.pathMatchers.length < Nat.pow 2 32 := by decide
  obtain ⟨s, hs⟩ : ∃ s, ofDocument "s0" smallForm none smallConfig = .ok s := ⟨_, rfl⟩
  obtain ⟨r, hr, huuid, -, -, hmatchers, -, hcontrols, -, -, -, htoken⟩ :=
    restored_agrees hcheck (by decide) hprefixes hsize hs "s1"
  exact ⟨hcheck, by decide, hprefixes, hsize, s, hs, r, hr, huuid, hcontrols, hmatchers, htoken⟩

end StaticState

end FormEngine
