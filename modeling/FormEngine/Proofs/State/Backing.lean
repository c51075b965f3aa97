import FormEngine.Proofs.State.Host
import FormEngine.Proofs.State.Register
/-!
# What stands behind a store

The persistent store of a manager keeps texts under keys, and the pool has the static states that
they are the texts of. Under a fair host every dynamic state in the store is owned by the identifier
of a state in the pool whose state the server holds, and the text that the store has for the owner
is the token of that state, however often the entries of the owner came and went.
-/

namespace FormEngine

namespace StateManager

open LiveDocument

variable {D : Type}

/-- A state of the pool stands behind a text under a static key: the key is its identifier, the text
its token, and its form is one that the server holds. -/
def StandsBehind (p : StatePool) (key text : String) (id : StateId) : Prop :=
  id < p.size ∧ (p.state id).uuid = key ∧ (p.state id).token = text ∧
    (p.state id).isClientHandled = false

theorem StandsBehind.grows {p p' : StatePool} (h : p.Grows p') {key text : String} {id : StateId}
    (hid : StandsBehind p key text id) : StandsBehind p' key text id := by
  obtain ⟨hlt, huuid, htoken, hserver⟩ := hid
  have hface := h.face id hlt
  exact ⟨h.lt hlt, hface.uuid.trans huuid, hface.token.trans htoken,
    hface.isClientHandled.trans hserver⟩

/-- The persistent store implements a register, and behind the owner of every entry, with the text
that the register has for it, stands a state of the pool. -/
def Backed (m : StateManager D) : Prop :=
  ∃ r : Register, m.persistent.Implements r ∧
    ∀ h ∈ r.held, ∃ id, StandsBehind m.pool h.owner (r.text h.owner) id

/-! ## Calls -/

theorem Backed.grows {m m' : StateManager D} (h : m.Backed) (hgrows : m.pool.Grows m'.pool)
    (hsame : m'.persistent = m.persistent) : m'.Backed := by
  obtain ⟨r, himplements, hbehind⟩ := h
  refine ⟨r, hsame ▸ himplements, ?_⟩
  intro g hg
  obtain ⟨id, hid⟩ := hbehind g hg
  exact ⟨id, hid.grows hgrows⟩

theorem backed_of_ofSize {m : StateManager D} {size : Nat} (h : m.persistent = .ofSize size) :
    m.Backed := by
  refine ⟨.ofSize size, ?_, ?_⟩
  · rw [h]
    exact StateStore.implements_ofSize size
  · intro g hg
    exact absurd hg List.not_mem_nil

theorem Backed.host {m : StateManager D} (h : m.Backed) {pool : StatePool}
    (hgrows : m.pool.Grows pool) {persistent : StateStore}
    (hpersistent : persistent = m.persistent ∨ ∃ size, persistent = .ofSize size)
    (session : Option StateStore) :
    ({ m with pool, persistent, session } : StateManager D).Backed := by
  rcases hpersistent with rfl | ⟨size, rfl⟩
  · exact h.grows hgrows rfl
  · exact backed_of_ofSize rfl

theorem Backed.touch {m m' : StateManager D} (h : m.Backed) (hgrows : m.pool.Grows m'.pool)
    {keys : StatePair} (htouch : m'.persistent = m.persistent.touch keys) : m'.Backed := by
  obtain ⟨r, himplements, hbehind⟩ := h
  refine ⟨r.touch keys.dynamicState, htouch ▸ himplements.touch keys, ?_⟩
  intro g hg
  obtain ⟨id, hid⟩ := hbehind g (Register.mem_held_touch hg)
  exact ⟨id, hid.grows hgrows⟩

/-- An addition for a state of the pool keeps the states behind the store. Its key may own entries
already, and then has the text of the state behind them. -/
theorem Backed.add {m m' : StateManager D} (h : m.Backed) (hgrows : m.pool.Grows m'.pool)
    {keys states : StatePair} {id : StateId}
    (hid : StandsBehind m.pool keys.staticState states.staticState id)
    (hadd : m'.persistent = m.persistent.add keys states) : m'.Backed := by
  obtain ⟨r, himplements, hbehind⟩ := h
  refine ⟨r.add keys states, hadd ▸ himplements.add keys states, ?_⟩
  have hold : ∀ g ∈ r.held, ∃ id,
      StandsBehind m'.pool g.owner ((r.add keys states).text g.owner) id := by
    intro g hg
    obtain ⟨id', hid'⟩ := hbehind g hg
    rw [Register.text_add_of_mem hg]
    exact ⟨id', hid'.grows hgrows⟩
  intro g hg
  rcases Register.mem_held_add hg with rfl | hg
  · rcases r.text_add_self keys states with htext | ⟨g', hg', howner⟩
    · refine ⟨id, ?_⟩
      rw [htext]
      exact hid.grows hgrows
    · obtain ⟨id', hid'⟩ := hold g' hg'
      rw [howner] at hid'
      exact ⟨id', hid'⟩
  · exact hold g hg

theorem Backed.findOrRestore {m : StateManager D} (h : m.Backed) (request : Document)
    (session : Option Session) (factory : DocumentFactory D) :
    (m.findOrRestore request session factory).2.Backed := by
  have hserved := m.served_findOrRestore request session factory
  rcases hserved.persistent with hsame | ⟨keys, htouch⟩
  · exact h.grows hserved.grows hsame
  · exact h.touch hserved.grows htouch

section Kept

variable [LiveDocument D]

theorem standsBehind_of_server (m : StateManager D) {document : D}
    (hid : staticState document < m.pool.size)
    (hserver : (m.stateOf document).isClientHandled = false) :
    StandsBehind m.pool (m.keysOf document).staticState (m.stateOf document).token
      (staticState document) :=
  ⟨hid, rfl, rfl, hserver⟩

theorem Backed.keep {m : StateManager D} (h : m.Backed) {document : D}
    (hid : staticState document < m.pool.size) : (m.keep document).2.Backed := by
  have hgrows := m.grows_keep document
  cases hhandled : (m.stateOf document).isClientHandled with
  | false =>
    rw [m.keep_of_server hhandled] at hgrows ⊢
    cases htext : encodeDynamic document with
    | error e =>
      rw [htext] at hgrows
      exact h.grows hgrows rfl
    | ok text =>
      rw [htext] at hgrows
      exact h.add hgrows (m.standsBehind_of_server hid hhandled) rfl
  | true => exact h.grows hgrows (m.stores_keep_of_client hhandled).1

/-- **Under a fair host a state of the pool stands behind everything that is stored.** -/
theorem backed_run {digest : String → String} {uuids : Nat → String} {config : EngineConfig}
    {calls : List (Call D)} (hfair : FairRun digest uuids config calls) :
    (run digest uuids config calls).Backed :=
  hfair.induction (backed_of_ofSize rfl)
    (fun _ _ _ session h hgrows hpersistent => h.host hgrows hpersistent session)
    (fun _ _ h hid => h.keep hid)
    (fun _ request session factory h => h.findOrRestore request session factory)

end Kept

/-! ## What is found -/

theorem Backed.sound {m : StateManager D} (h : m.Backed) : m.persistent.owned.Sound := by
  obtain ⟨r, himplements, -⟩ := h
  exact himplements.sound

/-- Behind what a store finds stands a state. -/
theorem Backed.of_find? {m : StateManager D} (h : m.Backed) {keys states : StatePair}
    (hfind : m.persistent.find? keys = some states) :
    ∃ id, StandsBehind m.pool keys.staticState states.staticState id := by
  obtain ⟨r, himplements, hbehind⟩ := h
  obtain ⟨g, hg, -, howner, rfl⟩ := himplements.find?_eq_some_iff.1 hfind
  obtain ⟨id, hid⟩ := hbehind g hg
  rw [howner] at hid
  exact ⟨id, hid⟩

/-- A dynamic state that is in the store is found under its key and the key of its owner. -/
theorem Backed.find?_of_owned {m : StateManager D} (h : m.Backed) {key : String} {o : OwnedState}
    (howned : m.persistent.owned.find? key = some o) :
    ∃ id, StandsBehind m.pool o.owner (m.pool.state id).token id ∧
      m.persistent.find? { staticState := o.owner, dynamicState := key } =
        some { staticState := (m.pool.state id).token, dynamicState := o.encoded } := by
  obtain ⟨r, himplements, hbehind⟩ := h
  have hmem := RecencyTable.mem_of_find? howned
  rw [himplements.entries] at hmem
  obtain ⟨g, hg, hrow⟩ := List.mem_map.1 hmem
  obtain ⟨hkey, rfl⟩ := Prod.mk.inj hrow
  obtain ⟨id, hid⟩ := hbehind g hg
  have htoken := hid.2.2.1
  refine ⟨id, ?_, ?_⟩
  · rw [htoken]
    exact hid
  · rw [htoken]
    exact himplements.find?_eq_some_iff.2 ⟨g, hg, hkey, rfl, rfl⟩

end StateManager

end FormEngine
