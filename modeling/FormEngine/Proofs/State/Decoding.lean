import FormEngine.Proofs.State.Identity
import FormEngine.Proofs.State.Making
import FormEngine.Proofs.State.Recent
import FormEngine.Proofs.State.Use
/-!
# Tokens that come back

A response gives the client two tokens, and a request may bring them back after anything else has
happened to the manager. What the client holds itself is in the tokens, and they are never read as
keys, because the token of a static state has no colon. What the server holds is in the persistent
store as long as that has room: the dynamic state is among the entries used last, and the static
state has the text that was first added under its identifier, which is its token where identifiers
mean one token each.
-/

namespace FormEngine

namespace StateManager

open LiveDocument StateToken

variable {D : Type} [LiveDocument D] {m m' : StateManager D} {document : D}

/-! ## Tokens of a document -/

/-- A static state that has its number has its token for good. -/
theorem staticToken_eq (hgrows : m.pool.Grows m'.pool) (hid : staticState document < m.pool.size) :
    (m'.staticToken document).1 = (m.staticToken document).1 := by
  have hface := hgrows.face _ hid
  rw [staticToken_fst, staticToken_fst]
  unfold stateOf
  rw [hface.isClientHandled, hface.token, hface.uuid]

theorem dynamicToken_eq (hgrows : m.pool.Grows m'.pool) (hid : staticState document < m.pool.size) :
    m'.dynamicToken document = m.dynamicToken document := by
  unfold dynamicToken stateOf
  rw [(hgrows.face _ hid).isClientHandled]

/-! ## Kept documents -/

/-- A server document that was kept has a text of its dynamic state. -/
theorem exists_text_of_kept (hserver : (m.stateOf document).isClientHandled = false)
    (hok : (m.keep document).1 = .ok ()) : ∃ text, encodeDynamic document = .ok text := by
  rw [m.keep_of_server hserver] at hok
  cases htext : encodeDynamic document with
  | error e =>
    rw [htext] at hok
    contradiction
  | ok text => exact ⟨text, rfl⟩

/-- **What was kept of a server document is found later**, while nothing is added under its dynamic
key and fewer other dynamic keys are used than the store has room for. -/
theorem find?_of_kept {size : Nat} (hempty : m.persistent = .ofSize size) {uses : List (Use D)}
    (huses : m.FairUses uses) (hid : staticState document < (m.after uses).pool.size)
    (hserver : ((m.after uses).stateOf document).isClientHandled = false) {text : String}
    (htext : encodeDynamic document = .ok text) {token : String → String}
    (hmeaning : Use.Meaning token (m.after uses).pool uses) {later : List (Use D)}
    (hlater : ((m.after uses).keep document).2.FairUses later)
    (hspares : ∀ asked ∈ ((m.after uses).keep document).2.storeTrace later,
      asked.Spares (dynamicUuid document))
    (hroom : (StoreCall.othersOf (dynamicUuid document)
      (((m.after uses).keep document).2.storeTrace later)).card < max size 1) :
    (((m.after uses).keep document).2.after later).persistent.find?
        ((m.after uses).keysOf document) =
      some { staticState := ((m.after uses).stateOf document).token, dynamicState := text } := by
  have hadded : ((m.after uses).keep document).2.persistent =
      (StateStore.after size (m.storeTrace uses)).add ((m.after uses).keysOf document)
        { staticState := ((m.after uses).stateOf document).token, dynamicState := text } := by
    rw [(m.after uses).keep_of_server hserver, htext, StateStore.after, ← hempty,
      ← huses.persistent_after]
  rw [hlater.persistent_after, hadded]
  exact StateStore.find?_after_add (huses.means (.refl _) hmeaning) (hmeaning.pool _ hid) hspares hroom

/-! ## Decoding -/

/-- **The tokens of a document that was kept are decoded to its states**, whatever happened before it
was kept and since. The tokens are still those that the document had then. If the client holds its
state, a static state that was made, they are decoded always. If the server holds it, they are as
long as nothing was added under the dynamic key again and fewer other dynamic keys were used, added
or looked up, than the store has room for; identifiers have to mean one token each when the document
is kept. -/
theorem decodeStates_of_kept (m : StateManager D) {size : Nat}
    (hempty : m.persistent = .ofSize size) {uses later : List (Use D)} {call : Call D}
    {document : D} (hkept : call.kept? = some document)
    (hfair : m.FairUses (uses ++ .call call :: later))
    (hok : ((m.after uses).keep document).1 = .ok ()) {dynamic : String}
    (hdynamic : (m.after uses).dynamicToken document = .ok dynamic) :
    let before := m.after uses
    let final := m.after (uses ++ .call call :: later)
    let since := (before.keep document).2.storeTrace later
    (final.staticToken document).1 = (before.staticToken document).1 ∧
      final.dynamicToken document = .ok dynamic ∧
      ((before.stateOf document).isClientHandled = true → (before.stateOf document).Made →
        encodeDynamic document = .ok dynamic ∧ ∀ session,
          (final.decodeStates (before.staticToken document).1 dynamic session).1 =
            .ok { staticState := (before.stateOf document).token, dynamicState := dynamic }) ∧
      ((before.stateOf document).isClientHandled = false →
        (∃ token, Use.Meaning token before.pool uses) →
        (∀ asked ∈ since, asked.Spares (dynamicUuid document)) →
        (StoreCall.othersOf (dynamicUuid document) since).card < max size 1 →
          ∃ text, encodeDynamic document = .ok text ∧ ∀ session,
            (final.decodeStates (before.staticToken document).1 dynamic session).1 =
              .ok { staticState := (before.stateOf document).token, dynamicState := text }) := by
  intro before final since
  obtain ⟨huses, hcall, hrest⟩ := hfair.of_append
  have hid : staticState document < before.pool.size := hcall.1.lt_of_kept hkept
  have happly : Use.apply before (.call call) = (before.keep document).2 :=
    Call.apply_of_kept hkept before
  have hfinal : final = (before.keep document).2.after later := by
    rw [← happly]
    exact m.after_append_cons uses _ later
  have hlater : (before.keep document).2.FairUses later := happly ▸ hrest
  have hgrows : before.pool.Grows final.pool := by
    rw [hfinal]
    exact (before.grows_keep document).trans hlater.grows
  refine ⟨staticToken_eq hgrows hid, (dynamicToken_eq hgrows hid).trans hdynamic, ?_, ?_⟩
  · intro hclient hmade
    have hdirect : (parse (before.stateOf document).token).isIndirect = false := by
      rw [hmade.isPlain.parse_eq]
      rfl
    refine ⟨encodeDynamic_of_client hclient hdynamic, fun session => ?_⟩
    rw [staticToken_fst, if_pos hclient, decodeStates_of_direct final dynamic session hdirect]
  · rintro hserver ⟨token, hmeaning⟩ hspares hroom
    obtain ⟨text, htext⟩ := exists_text_of_kept hserver hok
    have htoken : persistentMark ++ dynamicUuid document = dynamic :=
      Except.ok.inj ((dynamicToken_of_server hserver).symm.trans hdynamic)
    have hfind : final.persistent.find? (before.keysOf document) =
        some { staticState := (before.stateOf document).token, dynamicState := text } := by
      rw [hfinal]
      exact find?_of_kept hempty huses hid hserver htext hmeaning hlater hspares hroom
    refine ⟨text, htext, fun session => ?_⟩
    rw [staticToken_fst, if_neg (by rw [hserver]; decide), ← htoken, decodeStates_persistent]
    unfold keysOf at hfind
    rw [hfind]

/-! ## Two managers -/

section Managers

/-- A manager with a store for two dynamic states. -/
def smallStore : StateManager TextDocument :=
  { ofConfig Digest.sha256Hex (fun _ => "s1") {} with persistent := .ofSize 2 }

/-- The host makes static states. -/
def openedWith (pool : StatePool) : List (Use TextDocument) :=
  [.call (.host pool (.ofSize 2) none)]

/-- Another document is kept and looked up. -/
def usedLater : List (Use TextDocument) :=
  [.call (.afterUpdateResponse ⟨0, "d2", "w"⟩), .decode "pers:s0" "pers:d2" none]

/-- The uses of the host, of a document and of the other one. -/
def keptBetween (pool : StatePool) (document : TextDocument) : List (Use TextDocument) :=
  openedWith pool ++ .call (.afterInitialResponse document) :: usedLater

theorem fairUses_usedLater {m : StateManager TextDocument} (hsize : 0 < m.pool.size) :
    m.FairUses usedLater :=
  ⟨⟨hsize, fun _ _ _ h => by contradiction⟩, trivial, trivial⟩

theorem fairUses_keptBetween (pool : StatePool) (hsize : 0 < pool.size) {document : TextDocument}
    (hid : document.state < pool.size) : smallStore.FairUses (keptBetween pool document) := by
  have hopened : smallStore.pool.Grows pool :=
    ⟨Nat.zero_le _, fun id hid => absurd hid (Nat.not_lt_zero id)⟩
  have hhost : ∀ pool' persistent session,
      Call.host (D := TextDocument) pool (.ofSize 2) none = .host pool' persistent session →
        persistent = .ofSize 2 := by
    rintro _ _ _ ⟨⟩
    rfl
  have hkept := (({ smallStore with pool } : StateManager TextDocument).grows_keep document).lt hsize
  exact ⟨⟨⟨hopened, .inl rfl⟩, hhost⟩, ⟨hid, fun _ _ _ h => by contradiction⟩,
    fairUses_usedLater hkept⟩

/-- The other document is the only one that is added or looked up. -/
theorem storeTrace_usedLater :
    ((smallStore.after (openedWith (lonePool "s0"))).keep
        (⟨0, "d1", "v"⟩ : TextDocument)).2.storeTrace usedLater =
      [.add { staticState := "s0", dynamicState := "d2" }
          { staticState := ((lonePool "s0").state 0).token, dynamicState := "w" },
        .find { staticState := "s0", dynamicState := "d2" }] := rfl

/-- The law for a document of the server, and for one of the client whose text looks like a key. -/
theorem decodeStates_of_kept_smallStore :
    let server : TextDocument := ⟨0, "d1", "v"⟩
    let client : TextDocument := ⟨0, "d1", "abcd:v"⟩
    smallStore.FairUses (keptBetween (lonePool "s0") server) ∧
      ((smallStore.after (keptBetween (lonePool "s0") server)).decodeStates "pers:s0" "pers:d1"
        none).1 = .ok { staticState := ((lonePool "s0").state 0).token, dynamicState := "v" } ∧
      smallStore.FairUses (keptBetween clientPool client) ∧
      ((smallStore.after (keptBetween clientPool client)).decodeStates
        StaticState.clientState.token "abcd:v" none).1 =
          .ok { staticState := StaticState.clientState.token, dynamicState := "abcd:v" } := by
  intro server client
  have hserver : smallStore.FairUses (keptBetween (lonePool "s0") server) :=
    fairUses_keptBetween (lonePool "s0") Nat.zero_lt_one Nat.zero_lt_one
  have hclient : smallStore.FairUses (keptBetween clientPool client) :=
    fairUses_keptBetween clientPool Nat.zero_lt_one Nat.zero_lt_one
  refine ⟨hserver, ?_, hclient, ?_⟩
  · obtain ⟨-, -, -, hlaw⟩ := decodeStates_of_kept smallStore rfl rfl hserver rfl rfl
    have hmeaning : Use.Meaning (fun _ => ((lonePool "s0").state 0).token)
        (smallStore.after (openedWith (lonePool "s0"))).pool (openedWith (lonePool "s0")) := by
      refine ⟨fun id hid => ?_, fun keys states hmem => ?_⟩
      · obtain rfl := Nat.lt_one_iff.1 hid
        rfl
      · exact absurd (List.mem_singleton.1 hmem) (by simp)
    have hspares : ∀ asked ∈ ((smallStore.after (openedWith (lonePool "s0"))).keep
        server).2.storeTrace usedLater, asked.Spares "d1" := by
      rw [storeTrace_usedLater]
      decide
    have hroom : (StoreCall.othersOf "d1" (((smallStore.after (openedWith (lonePool "s0"))).keep
        server).2.storeTrace usedLater)).card < 2 := by
      rw [storeTrace_usedLater]
      decide
    obtain ⟨text, htext, hdecode⟩ := hlaw rfl ⟨_, hmeaning⟩ hspares hroom
    obtain rfl := Except.ok.inj htext
    exact hdecode none
  · obtain ⟨-, -, hlaw, -⟩ := decodeStates_of_kept smallStore rfl rfl hclient rfl rfl
    obtain ⟨-, hdecode⟩ := hlaw StaticState.isClientHandled_clientState StaticState.made_clientState
    exact hdecode none

end Managers

end StateManager

end FormEngine
