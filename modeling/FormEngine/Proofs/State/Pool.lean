import FormEngine.Proofs.Outcome
import FormEngine.State.Pool
/-!
# Pools that grow

Nothing leaves a pool. A state joins it at the end, when it is made of a document or of a token, and
one that is there already can be analysed and serialized. Neither touches what a state is known by:
its identifier, the side that holds it and its token, which is the same before and after it is
written out. So whoever has the number of a state can rely on these three for good.
-/

namespace FormEngine

namespace StaticState

/-- What became of a state is known by the same identifier, side and token. -/
structure SameFace (s s' : StaticState) : Prop where
  uuid : s'.uuid = s.uuid
  isClientHandled : s'.isClientHandled = s.isClientHandled
  token : s'.token = s.token

namespace SameFace

theorem refl (s : StaticState) : SameFace s s := ⟨rfl, rfl, rfl⟩

theorem trans {s₁ s₂ s₃ : StaticState} (h₁ : SameFace s₁ s₂) (h₂ : SameFace s₂ s₃) :
    SameFace s₁ s₃ :=
  ⟨h₂.uuid.trans h₁.uuid, h₂.isClientHandled.trans h₁.isClientHandled, h₂.token.trans h₁.token⟩

end SameFace

theorem sameFace_serialize (s : StaticState) : SameFace s s.serialize := ⟨rfl, rfl, rfl⟩

theorem sameFace_analyze {s s' : StaticState} {performed : Bool}
    (h : s.analyze = .ok (performed, s')) : SameFace s s' := by
  unfold analyze at h
  split at h
  · obtain ⟨-, rfl⟩ := Prod.mk.inj (Except.ok.inj h)
    exact .refl s
  · obtain ⟨a, -, h⟩ := ok_of_bind h
    obtain ⟨-, rfl⟩ := Prod.mk.inj (Except.ok.inj h)
    exact ⟨rfl, rfl, rfl⟩

/-- A state that was read from a token has the identifier that it was given, and the token. -/
theorem spec_of_ofEncoded {uuid token : String} {origin : TokenOrigin} {config : EngineConfig}
    {s : StaticState} (h : ofEncoded uuid token origin config = .ok s) :
    s.uuid = uuid ∧ s.token = token := by
  unfold ofEncoded at h
  obtain ⟨d, -, h⟩ := ok_of_bind h
  obtain ⟨p, -, h⟩ := ok_of_bind h
  obtain rfl := Except.ok.inj h
  exact ⟨rfl, rfl⟩

end StaticState

namespace StatePool

open StaticState (SameFace)

/-- The states of a pool are in another, under their numbers, and known by the same things. -/
structure Grows (p p' : StatePool) : Prop where
  size_le : p.size ≤ p'.size
  face : ∀ id, id < p.size → SameFace (p.state id) (p'.state id)

namespace Grows

theorem refl (p : StatePool) : Grows p p := ⟨Nat.le_refl _, fun _ _ => .refl _⟩

theorem trans {p₁ p₂ p₃ : StatePool} (h₁ : Grows p₁ p₂) (h₂ : Grows p₂ p₃) : Grows p₁ p₃ where
  size_le := Nat.le_trans h₁.size_le h₂.size_le
  face := fun id hid => (h₁.face id hid).trans (h₂.face id (Nat.lt_of_lt_of_le hid h₁.size_le))

theorem lt {p p' : StatePool} (h : Grows p p') {id : StateId} (hid : id < p.size) : id < p'.size :=
  Nat.lt_of_lt_of_le hid h.size_le

end Grows

/-- Equal identifiers in the pool mean one state. -/
def Identified (p : StatePool) : Prop :=
  ∀ ⦃id other : StateId⦄, id < p.size → other < p.size →
    (p.state id).uuid = (p.state other).uuid → id = other

/-! ## Joining -/

theorem state_push_of_lt {p : StatePool} {id : StateId} (hid : id < p.size) (s : StaticState) :
    (p.push s).state id = p.state id := by
  unfold size at hid
  simp [push, state, Array.getElem?_push_lt, hid]

theorem state_push_nextId (p : StatePool) (s : StaticState) : (p.push s).state p.nextId = s := by
  simp [push, state, nextId]

theorem size_push (p : StatePool) (s : StaticState) : (p.push s).size = p.size + 1 := by
  simp [push, size]

theorem grows_push (p : StatePool) (s : StaticState) : Grows p (p.push s) where
  size_le := by
    rw [size_push]
    omega
  face := by
    intro id hid
    rw [state_push_of_lt hid]
    exact .refl _

theorem grows_create {p p' : StatePool} {d : Document} {config : EngineConfig} {id : StateId}
    (h : p.create d config = .ok (id, p')) : Grows p p' := by
  unfold create at h
  obtain ⟨s, -, h⟩ := ok_of_bind h
  obtain ⟨-, rfl⟩ := Prod.mk.inj (Except.ok.inj h)
  exact grows_push p s

/-- The state of a token joins the pool as the next one, with the token as its own. -/
theorem spec_of_restore {p p' : StatePool} {token : String} {origin : TokenOrigin}
    {config : EngineConfig} {id : StateId} (h : p.restore token origin config = .ok (id, p')) :
    id = p.nextId ∧ ∃ s : StaticState, p' = p.push s ∧ s.uuid = p.nextUuid ∧ s.token = token := by
  unfold restore at h
  obtain ⟨s, hs, h⟩ := ok_of_bind h
  obtain ⟨rfl, rfl⟩ := Prod.mk.inj (Except.ok.inj h)
  exact ⟨rfl, s, rfl, StaticState.spec_of_ofEncoded hs⟩

theorem grows_restore {p p' : StatePool} {token : String} {origin : TokenOrigin}
    {config : EngineConfig} {id : StateId} (h : p.restore token origin config = .ok (id, p')) :
    Grows p p' := by
  obtain ⟨-, s, rfl, -⟩ := spec_of_restore h
  exact grows_push p s

/-! ## Changing -/

theorem state_update (p : StatePool) (id other : StateId) (f : StaticState → StaticState) :
    (p.update id f).state other =
      if id = other ∧ other < p.size then f (p.state other) else p.state other := by
  unfold update state size
  by_cases hlt : other < p.states.size
  · by_cases heq : id = other
    · simp [Array.getD, hlt, heq, Array.getElem_modify]
    · simp [Array.getD, hlt, heq, Array.getElem_modify]
  · simp [Array.getD, hlt]

theorem grows_update {p : StatePool} {id : StateId} {f : StaticState → StaticState}
    (hf : SameFace (p.state id) (f (p.state id))) : Grows p (p.update id f) where
  size_le := by simp [update, size]
  face := by
    intro other _
    rw [state_update]
    split
    · rename_i h
      rw [← h.1]
      exact hf
    · exact .refl _

theorem grows_serialize (p : StatePool) (id : StateId) : Grows p (p.serialize id).2 :=
  grows_update (StaticState.sameFace_serialize _)

theorem grows_analyze (p : StatePool) (id : StateId) : Grows p (p.analyze id).2 := by
  unfold analyze
  split
  · exact .refl p
  · rename_i performed s h
    exact grows_update (StaticState.sameFace_analyze h)

end StatePool

end FormEngine
