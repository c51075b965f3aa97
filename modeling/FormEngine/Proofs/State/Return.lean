import FormEngine.Proofs.Cache.Documents
import FormEngine.Proofs.State.Coherence
import FormEngine.Proofs.State.Making
import FormEngine.Proofs.State.Marks
/-!
# Client documents that come back

A document whose state the client holds is kept in the document cache under the pair of its encoded
states, and the next request brings these two texts as its tokens. The cache is asked by the keys of
the tokens. The static token has no colon, so its key is all of it, but the dynamic token is the text
of the host, and if that has four bytes and a colon in front it is taken for a key with a mark. So
the document comes back exactly if its text does not look like that, and if nothing of the static
token is trimmed away in the request; otherwise the cache has it and does not find it.
-/

namespace FormEngine

namespace StateManager

open LiveDocument StateToken

variable {D : Type}

/-! ## Keys of direct tokens -/

theorem bars_of_isPlain {token : String} (h : Token.IsPlain token) : StatePair.bars token = 0 :=
  List.count_eq_zero.2 h.notMem_bar

/-- The key of a token is all of it exactly if the token is direct. -/
theorem key_parse_eq_iff {token : String} :
    (parse token).key = token ↔ (parse token).isIndirect = false := by
  cases hparse : parse token with
  | direct encoded =>
    have hwhole : encoded = token := by
      unfold parse at hparse
      split at hparse
      · contradiction
      · exact (StateToken.direct.inj hparse).symm
    exact ⟨fun _ => rfl, fun _ => hwhole⟩
  | indirect mark key =>
    refine ⟨fun hkey => ?_, fun hdirect => by contradiction⟩
    have hmark : mark ≠ "" := mark_ne_empty (congrArg StateToken.mark? hparse)
    have htoken := eq_append_of_parse hparse
    rw [show key = token from hkey] at htoken
    have hlist := congrArg String.toList htoken
    rw [String.toList_append, List.self_eq_append_left, String.toList_eq_nil_iff] at hlist
    exact absurd hlist hmark

/-! ## Kept documents -/

section Kept

variable [LiveDocument D] {m : StateManager D} {document : D} {text : String}

/-- The pair that a client document is kept under. -/
theorem pairOf_of_client (hclient : (m.stateOf document).isClientHandled = true)
    (htext : encodeDynamic document = .ok text) : m.pairOf document =
      .ok { staticState := (m.stateOf document).token, dynamicState := text } := by
  unfold pairOf
  rw [if_pos hclient, htext]
  rfl

/-- A client document whose dynamic state has a text is kept in the cache under the two texts. -/
theorem keep_of_client_text (hcache : m.config.cache.cacheDocument = true)
    (hclient : (m.stateOf document).isClientHandled = true)
    (htext : encodeDynamic document = .ok text) :
    m.keep document = (.ok (), { m with
      pool := (m.pool.serialize (staticState document)).2
      documents := m.documents.store
        { staticState := (m.stateOf document).token, dynamicState := text } document }) := by
  rw [m.keep_of_client hclient, if_pos hcache, htext]

/-- Whatever the cache has for two tokens has the fingerprint of their keys. -/
theorem Shelved.key_of_cached? (h : m.Shelved) {static dynamic : String}
    (hcached : m.cached? static dynamic = some document) {pair : StatePair}
    (hpair : m.pairOf document = .ok pair) :
    m.documents.key (requestPair static dynamic) = m.documents.key pair := by
  unfold cached? at hcached
  split at hcached
  · obtain ⟨pair', hpair', hkey⟩ := h.key _ (RecencyTable.mem_of_find? hcached)
    rw [hpair] at hpair'
    obtain rfl := Except.ok.inj hpair'
    exact hkey
  · contradiction

/-- **A client document that was kept is found by the fingerprint of its two texts**, and by no
other. -/
theorem cached?_keep_client_iff (hshelved : m.Shelved) (hid : staticState document < m.pool.size)
    (hcache : m.config.cache.cacheDocument = true)
    (hclient : (m.stateOf document).isClientHandled = true)
    (htext : encodeDynamic document = .ok text) (static dynamic : String) :
    (m.keep document).2.cached? static dynamic = some document ↔
      m.documents.key (requestPair static dynamic) =
        m.documents.key { staticState := (m.stateOf document).token, dynamicState := text } := by
  have hkept := keep_of_client_text hcache hclient htext
  have hkey : (m.keep document).2.documents.key = m.documents.key := by
    rw [hkept]
    rfl
  constructor
  · intro hcached
    have hpair : (m.keep document).2.pairOf document =
        .ok { staticState := (m.stateOf document).token, dynamicState := text } :=
      (pairOf_eq (m.grows_keep document) hid).trans (pairOf_of_client hclient htext)
    rw [← hkey]
    exact (hshelved.keep hid).key_of_cached? hcached hpair
  · intro hsame
    unfold cached?
    rw [hkept]
    simp only [hcache, if_true]
    show RecencyTable.find? (RecencyTable.push _ _ _) (m.documents.key _) = _
    rw [hsame]
    exact RecencyTable.find?_push_self _ _ _

end Kept

/-! ## Requests with a direct token -/

/-- A factory that rebuilds nothing. -/
def rebuildNothing : DocumentFactory D := fun _ _ _ => .error (.restore "nothing is rebuilt")

/-- What is rebuilt is what the factory makes. -/
theorem restoreDocument_rebuildNothing (m : StateManager D) (static dynamic : String)
    (session : Option Session) (document : D) :
    (m.restoreDocument static dynamic session rebuildNothing).1 ≠ .ok document := by
  unfold restoreDocument
  split
  · exact fun hanswer => by contradiction
  · split
    · exact fun hanswer => by contradiction
    · exact fun hanswer => by contradiction

/-- A request that gets a document although nothing is rebuilt got it from the cache. -/
theorem cached?_of_rebuildNothing (m : StateManager D) {request : Document}
    {static dynamic : String} (htokens : request.requestTokens = .ok (static, dynamic))
    (hdirect : (parse static).isIndirect = false) {session : Option Session} {document : D}
    (hfound : (m.findOrRestore request session rebuildNothing).1 = .ok document) :
    m.cached? static dynamic = some document := by
  rw [findOrRestore_of_direct m session rebuildNothing htokens hdirect] at hfound
  split at hfound
  · rename_i found hcached
    rw [hcached, Except.ok.inj hfound]
  · exact absurd hfound (restoreDocument_rebuildNothing _ static dynamic session document)

/-- **A request with a direct static token gets a document, whoever asks and whatever the factory
makes, exactly if the cache has it.** -/
theorem found_iff_cached? (m : StateManager D) {request : Document} {static dynamic : String}
    (htokens : request.requestTokens = .ok (static, dynamic))
    (hdirect : (parse static).isIndirect = false) {document : D} :
    (∀ session factory, (m.findOrRestore request session factory).1 = .ok document) ↔
      m.cached? static dynamic = some document := by
  constructor
  · exact fun hfound => m.cached?_of_rebuildNothing htokens hdirect (hfound none rebuildNothing)
  · intro hcached session factory
    rw [findOrRestore_of_direct m session factory htokens hdirect, hcached]

/-! ## Coming back -/

/-- The keys of the two texts are the texts, if nothing is cut off either. -/
theorem requestPair_eq_iff {token text : String} (hplain : Token.IsPlain token) :
    requestPair (Text.trim token) text = { staticState := token, dynamicState := text } ↔
      (parse text).isIndirect = false ∧ Text.trim token = token := by
  unfold requestPair
  rw [hplain.trim.parse_eq, ← key_parse_eq_iff, StatePair.mk.injEq]
  exact and_comm

section Run

variable [LiveDocument D] {digest : String → String} {uuids : Nat → String} {config : EngineConfig}

/-- The cache of a run with both states in its keys. -/
theorem key_run (calls : List (Call D)) (hboth : config.ajaxTest = false) (pair : StatePair) :
    (run digest uuids config calls).documents.key pair = digest pair.render := by
  rw [(history_run calls).key_eq]
  simp [fingerprint, hboth]

/-- **When a client document is found again**: after any fair run a client document is kept whose
dynamic state has a text, without blanks around it. A request that brings its two tokens then gets
this document, whoever asks and whatever the factory makes, exactly if the dynamic token has no colon
behind four bytes and the request cuts no blanks off the static token. The keys of the request must
not have the fingerprint of the two tokens without being these. -/
theorem found_of_returned_iff {calls : List (Call D)} {call : Call D}
    (hfair : FairRun digest uuids config (calls ++ [call])) {document : D}
    (hkept : call.kept? = some document) (hcache : config.cache.cacheDocument = true)
    (hboth : config.ajaxTest = false)
    (hclient : ((run digest uuids config calls).stateOf document).isClientHandled = true)
    (hmade : ((run digest uuids config calls).stateOf document).Made) {token text : String}
    (hstatic : ((run digest uuids config calls).staticToken document).1 = token)
    (hdynamic : (run digest uuids config calls).dynamicToken document = .ok text)
    (hblanks : Text.trim text = text) {request : Document}
    (htokens : request.requestTokens = .ok (Text.trim token, Text.trim text))
    (hdigest : digest (requestPair (Text.trim token) text).render =
        digest (StatePair.mk token text).render →
      (requestPair (Text.trim token) text).render = (StatePair.mk token text).render) :
    ((run digest uuids config calls).keep document).1 = .ok () ∧
      ((∀ session factory, ((run digest uuids config (calls ++ [call])).findOrRestore request session
          factory).1 = .ok document) ↔
        (parse text).isIndirect = false ∧ Text.trim token = token) := by
  obtain ⟨hcalls, hcall⟩ := hfair.of_concat
  have hid := hcall.lt_of_kept hkept
  have hcache' : (run digest uuids config calls).config.cache.cacheDocument = true := by
    rw [(history_run calls).config_eq]
    exact hcache
  have hencode : encodeDynamic document = .ok text := encodeDynamic_of_client hclient hdynamic
  have htoken : ((run digest uuids config calls).stateOf document).token = token := by
    rwa [staticToken_fst, if_pos hclient] at hstatic
  have hplain : Token.IsPlain token := htoken ▸ hmade.isPlain
  have hdirect : (parse (Text.trim token)).isIndirect = false := by
    rw [hplain.trim.parse_eq]
    rfl
  have hcached := cached?_keep_client_iff (shelved_run hcalls) hid hcache' hclient hencode
    (Text.trim token) text
  rw [hblanks] at htokens
  refine ⟨by rw [keep_of_client_text hcache' hclient hencode], ?_⟩
  rw [run_concat, Call.apply_of_kept hkept, found_iff_cached? _ htokens hdirect, hcached, htoken,
    key_run calls hboth, key_run calls hboth, ← requestPair_eq_iff hplain]
  constructor
  · intro hsame
    -- neither static half has a bar, so the joined texts are cut at the same place
    refine (StatePair.eq_iff_bars_eq (hdigest hsame)).2 ?_
    unfold requestPair
    rw [hplain.trim.parse_eq]
    exact (bars_of_isPlain hplain.trim).trans (bars_of_isPlain hplain).symm
  · intro hpair
    rw [hpair]

end Run

/-! ## A text that looks like a key -/

section Looks

/-- The tokens of a request are read without the blanks around them. -/
theorem requestTokens_requestOf (static dynamic : String) :
    (requestOf static dynamic).requestTokens = .ok (Text.trim static, Text.trim dynamic) := rfl

/-- The host makes the state of `clientForm`. -/
def clientRun : List (Call TextDocument) := [.host clientPool (.ofSize 10) none]

theorem fairRun_clientRun (digest : String → String) (document : TextDocument)
    (hid : document.state < clientPool.size) :
    FairRun digest (fun _ => "s1") {} (clientRun ++ [.afterInitialResponse document]) := by
  refine fairRun_of_kept fun call hcall => ?_
  obtain rfl := List.mem_singleton.1 hcall
  exact ⟨document, rfl, hid⟩

theorem trim_token_clientState :
    Text.trim StaticState.clientState.token = StaticState.clientState.token := by
  rw [StaticState.token_clientState, Text.trim, Token.payload, String.toList_ofList,
    Text.Base64Url.trimList_encode]

/-- The law for a text that is no key: the document is found again. -/
theorem found_of_returned_iff_clientRun :
    let m := run Digest.sha256Hex (fun _ => "s1") {} clientRun
    let document : TextDocument := ⟨0, "d1", "v"⟩
    FairRun Digest.sha256Hex (fun _ => "s1") {} (clientRun ++ [.afterInitialResponse document]) ∧
      (m.stateOf document).isClientHandled = true ∧ (m.stateOf document).Made ∧
      ∀ session factory, ((run Digest.sha256Hex (fun _ => "s1") {}
        (clientRun ++ [.afterInitialResponse document])).findOrRestore
          (requestOf StaticState.clientState.token "v") session factory).1 = .ok document := by
  intro m document
  have hfair := fairRun_clientRun Digest.sha256Hex document Nat.zero_lt_one
  have hclient : (m.stateOf document).isClientHandled = true :=
    StaticState.isClientHandled_clientState
  have hmade : (m.stateOf document).Made := StaticState.made_clientState
  have hplain := StaticState.made_clientState.isPlain
  have hkeys : requestPair (Text.trim StaticState.clientState.token) "v" =
      { staticState := StaticState.clientState.token, dynamicState := "v" } :=
    (requestPair_eq_iff hplain).2 ⟨by decide, trim_token_clientState⟩
  have hstatic : (m.staticToken document).1 = StaticState.clientState.token := rfl
  have hdynamic : m.dynamicToken document = .ok "v" := rfl
  obtain ⟨-, hlaw⟩ := found_of_returned_iff hfair rfl rfl rfl hclient hmade hstatic hdynamic
    (by decide) (requestTokens_requestOf _ "v") fun _ => by rw [hkeys]
  exact ⟨hfair, hclient, hmade, hlaw.2 ⟨by decide, trim_token_clientState⟩⟩

/-- The fingerprint of a text is made of the bytes of its characters. -/
theorem sha256Hex_ofList (cs : List Char) :
    Digest.sha256Hex (String.ofList cs) =
      String.ofList ((Digest.sha256 (cs.flatMap String.utf8EncodeChar)).flatMap Digest.hexByte) := by
  have hbytes : (String.ofList cs).toUTF8.data.toList = cs.flatMap String.utf8EncodeChar := by
    simp [List.utf8Encode]
  rw [Digest.sha256Hex, hbytes]

/-- The characters of the token of `clientForm`. -/
def clientToken : List Char := Text.Base64Url.encode (Json.write StaticState.clientForm.toJson)

/-- The two texts do not have one fingerprint. -/
theorem digest_clientToken :
    (Digest.sha256 ((clientToken ++ '|' :: ['v']).flatMap String.utf8EncodeChar)).flatMap
        Digest.hexByte ≠
      (Digest.sha256 ((clientToken ++ '|' :: ['a', 'b', 'c', 'd', ':', 'v']).flatMap
        String.utf8EncodeChar)).flatMap Digest.hexByte := by
  decide +kernel

theorem render_clientState (text : String) :
    (StatePair.mk StaticState.clientState.token text).render =
      String.ofList (clientToken ++ '|' :: text.toList) := by
  refine String.toList_inj.1 ?_
  rw [StatePair.toList_render, StaticState.token_clientState, Token.payload, String.toList_ofList,
    String.toList_ofList]
  rfl

/-- The document is asked for by another fingerprint than it is kept under. -/
theorem sha256Hex_render_ne :
    Digest.sha256Hex (StatePair.mk StaticState.clientState.token "v").render ≠
      Digest.sha256Hex (StatePair.mk StaticState.clientState.token "abcd:v").render := by
  rw [render_clientState, render_clientState, sha256Hex_ofList, sha256Hex_ofList, ne_eq,
    String.ofList_inj]
  exact digest_clientToken

/-- **A client document is not found again**: it was kept after the response, but the request that
brings its two tokens gets no document where nothing is rebuilt. -/
theorem not_found_after_keep :
    let m := run Digest.sha256Hex (fun _ => "s1") {} clientRun
    let document : TextDocument := ⟨0, "d1", "abcd:v"⟩
    m.config.cache.cacheDocument = true ∧ m.config.ajaxTest = false ∧
      (m.stateOf document).isClientHandled = true ∧ (m.stateOf document).Made ∧
      m.dynamicToken document = .ok "abcd:v" ∧ Text.trim "abcd:v" = "abcd:v" ∧
      (m.afterInitialResponse document).1 = .ok () ∧
      ((m.afterInitialResponse document).2.findOrRestore
        (requestOf (m.staticToken document).1 "abcd:v") none rebuildNothing).1 ≠ .ok document := by
  intro m document
  have hclient : (m.stateOf document).isClientHandled = true :=
    StaticState.isClientHandled_clientState
  have hmade : (m.stateOf document).Made := StaticState.made_clientState
  have hplain := StaticState.made_clientState.isPlain
  have hshelved : m.Shelved := shelved_run
    (fairRun_clientRun Digest.sha256Hex document Nat.zero_lt_one).of_concat.1
  have hdirect : (parse (Text.trim StaticState.clientState.token)).isIndirect = false := by
    rw [hplain.trim.parse_eq]
    rfl
  refine ⟨rfl, rfl, hclient, hmade, rfl, by decide, ?_, fun hfound => ?_⟩
  · exact congrArg Prod.fst (keep_of_client_text rfl hclient rfl)
  · have hcached := cached?_of_rebuildNothing _ (requestTokens_requestOf _ "abcd:v") hdirect hfound
    have hsame := (cached?_keep_client_iff hshelved Nat.zero_lt_one rfl hclient rfl _ _).1 hcached
    have hkeys : requestPair (Text.trim StaticState.clientState.token) (Text.trim "abcd:v") =
        { staticState := StaticState.clientState.token, dynamicState := "v" } := by
      have hkey : (parse (Text.trim "abcd:v")).key = "v" := by decide
      unfold requestPair
      rw [hplain.trim.parse_eq, trim_token_clientState, hkey]
      rfl
    have hkey := (congrArg m.documents.key hkeys).symm.trans hsame
    rw [key_run clientRun rfl, key_run clientRun rfl] at hkey
    exact sha256Hex_render_ne hkey

end Looks

end StateManager

end FormEngine
