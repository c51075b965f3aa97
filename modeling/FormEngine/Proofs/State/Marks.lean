import FormEngine.Proofs.State.Session
/-!
# Marks that do not go together

An indirect static token asks for a dynamic token with the same mark, and for a store of that mark.
Where a request is decoded, everything else is refused before any store is asked. The document cache
is asked before that, and it sees the keys without their marks. So a pair of tokens that would be
refused for its marks gets a document exactly if the cache has one under the two keys, and the fault
of the marks otherwise.
-/

namespace FormEngine

/-- The mark of an indirect token has its colon at least. -/
theorem StateToken.mark_ne_empty {token mark : String} (h : (parse token).mark? = some mark) :
    mark ≠ "" := by
  unfold parse at h
  split at h
  · rename_i head key _
    obtain rfl := Option.some.inj h
    intro hempty
    have hlist := congrArg String.toList hempty
    simp at hlist
  · contradiction

namespace StateManager

open StateToken

variable {D : Type}

/-! ## Decoding -/

/-- The marks of two tokens go together: it is one mark, and there is a store for it. -/
def MarksAgree (m : StateManager D) (static dynamic : String) : Prop :=
  ∃ mark, (parse static).mark? = some mark ∧ (parse dynamic).mark? = some mark ∧
    (m.store? mark).isSome = true

/-- What is wrong with the marks of two tokens. Only an indirect static token asks for anything. -/
def markFault? (m : StateManager D) (static dynamic : String) : Option StateError :=
  (parse static).mark?.bind fun mark =>
    if (parse dynamic).mark? ≠ some mark then
      some (.inconsistentMarks mark ((parse dynamic).mark?.getD ""))
    else if (m.store? mark).isSome then none
    else some (.unknownMark mark)

theorem markFault?_eq_none_iff (m : StateManager D) {static dynamic : String}
    (hindirect : (parse static).isIndirect = true) :
    m.markFault? static dynamic = none ↔ m.MarksAgree static dynamic := by
  obtain ⟨mark, hmark⟩ : ∃ mark, (parse static).mark? = some mark := by
    cases hparse : parse static with
    | direct encoded =>
      rw [hparse] at hindirect
      contradiction
    | indirect mark key => exact ⟨mark, rfl⟩
  unfold markFault? MarksAgree
  rw [hmark, Option.bind_some]
  by_cases hdynamic : (parse dynamic).mark? = some mark
  · by_cases hstore : (m.store? mark).isSome = true
    · simp [hdynamic, hstore]
    · simp [hdynamic, hstore]
  · simp [hdynamic]

/-- **Decoding refuses marks that do not go together**, and asks no store. -/
theorem decodeStates_of_markFault? (m : StateManager D) {static dynamic : String} {e : StateError}
    (session : Option Session) (hfault : m.markFault? static dynamic = some e) :
    m.decodeStates static dynamic session = (.error e, m) := by
  unfold markFault? at hfault
  unfold decodeStates
  cases hstatic : parse static with
  | direct encoded =>
    rw [hstatic] at hfault
    contradiction
  | indirect mark key =>
    have hmark : (parse static).mark? = some mark := by rw [hstatic]; rfl
    rw [hmark, Option.bind_some] at hfault
    by_cases hdynamic : (parse dynamic).mark? = some mark
    · -- the marks are one, so the store is what is missing
      have hsame : ((parse dynamic).mark?).getD "" = mark := by rw [hdynamic, Option.getD_some]
      have hnone : m.store? mark = none := by
        cases hstore : m.store? mark with
        | none => rfl
        | some store => simp [hdynamic, hstore] at hfault
      rw [if_neg (not_not_intro hdynamic), hnone, Option.isSome_none, if_neg Bool.false_ne_true]
        at hfault
      obtain rfl := Option.some.inj hfault
      simp [hsame, hnone]
    · have hother : mark ≠ ((parse dynamic).mark?).getD "" := by
        intro hsame
        cases hother : (parse dynamic).mark? with
        | none => exact mark_ne_empty hmark (by rw [hsame, hother]; rfl)
        | some other => exact hdynamic (by rw [hsame, hother]; rfl)
      rw [if_pos hdynamic] at hfault
      obtain rfl := Option.some.inj hfault
      exact if_pos hother

/-- The stores are not looked for in the cache. -/
theorem markFault?_takeDocument (m : StateManager D) (static dynamic static' dynamic' : String) :
    (m.takeDocument static dynamic).2.markFault? static' dynamic' = m.markFault? static' dynamic' := by
  unfold takeDocument
  split <;> rfl

/-! ## Finding -/

/-- **The answer to marks that do not go together is the lookup in the document cache**, and the
fault of the marks where there is nothing; the spelling of the static token may ask for a session
before either. -/
theorem findOrRestore_of_markFault? (m : StateManager D) {request : Document}
    {static dynamic : String} {e : StateError} (session : Option Session)
    (factory : DocumentFactory D) (htokens : request.requestTokens = .ok (static, dynamic))
    (hfault : m.markFault? static dynamic = some e) :
    (m.findOrRestore request session factory).1 =
      if session.isNone && (parse static).needsSession then .error .noSession
      else match m.cached? static dynamic with
        | some document => .ok document
        | none => .error e := by
  cases hcached : m.cached? static dynamic with
  | some document => exact findOrRestore_of_cached m session factory htokens hcached
  | none =>
    rw [← takeDocument_fst] at hcached
    simp only [findOrRestore, htokens, findByTokens]
    split
    · rfl
    · rcases htake : m.takeDocument static dynamic with ⟨found, m₁⟩
      have hfault₁ : m₁.markFault? static dynamic = some e := by
        rw [← hfault, ← markFault?_takeDocument m static dynamic, htake]
      rw [htake] at hcached
      subst hcached
      simp [restoreDocument, decodeStates_of_markFault? m₁ session hfault₁]

section Run

variable [LiveDocument D] (digest : String → String) (uuids : Nat → String) (config : EngineConfig)

/-- **When a document shows that the marks go together**: after any run, a request with an indirect
static token that gets a document has marks that go together exactly if they do or the document
cache has nothing under the two keys. Marks that do not go together end with their fault, as
decoding has it, where the cache has nothing; and whatever lies there was kept by an earlier call of
the run, under a pair with the fingerprint of the two keys. -/
theorem marks_agree_of_found_iff (calls : List (Call D)) {request : Document}
    {static dynamic : String} (htokens : request.requestTokens = .ok (static, dynamic))
    (hindirect : (parse static).isIndirect = true) :
    ((∀ session factory document,
        ((run digest uuids config calls).findOrRestore request session factory).1 = .ok document →
          (run digest uuids config calls).MarksAgree static dynamic) ↔
      ((run digest uuids config calls).MarksAgree static dynamic ∨
        (run digest uuids config calls).cached? static dynamic = none)) ∧
    (∀ e, (run digest uuids config calls).markFault? static dynamic = some e →
      ∀ session factory, (run digest uuids config calls).decodeStates static dynamic session =
          (.error e, run digest uuids config calls) ∧
        ((run digest uuids config calls).cached? static dynamic = none →
          ((run digest uuids config calls).findOrRestore request session factory).1 =
            if session.isNone && (parse static).needsSession then .error .noSession
            else .error e)) ∧
    ∀ document, (run digest uuids config calls).cached? static dynamic = some document →
      ∃ pair, fingerprint digest config pair =
          fingerprint digest config (requestPair static dynamic) ∧
        KeptUnder digest uuids config calls pair document := by
  refine ⟨?_, ?_, fun document hcached => keptUnder_of_cached? hcached⟩
  · rw [← markFault?_eq_none_iff _ hindirect]
    cases hfault : (run digest uuids config calls).markFault? static dynamic with
    | none => simp
    | some e =>
      -- the marks are refused, so only the cache can give a document, and any session gets it
      constructor
      · intro hagree
        cases hcached : (run digest uuids config calls).cached? static dynamic with
        | none => exact .inr rfl
        | some document =>
          have hfound := findOrRestore_of_markFault? (run digest uuids config calls)
            (some { maxInactiveInterval := 0 }) (fun _ _ _ => .error .noSession) htokens hfault
          rw [hcached] at hfound
          have hagreed := hagree _ _ document hfound
          contradiction
      · rintro (hnone | hcached) session factory document hfound
        · contradiction
        · rw [findOrRestore_of_markFault? _ session factory htokens hfault, hcached] at hfound
          split at hfound <;> contradiction
  · intro e hfault session factory
    refine ⟨decodeStates_of_markFault? _ session hfault, fun hcached => ?_⟩
    rw [findOrRestore_of_markFault? _ session factory htokens hfault, hcached]

end Run

/-! ## Other marks -/

section OtherMarks

/-- **A document for marks that do not go together**: after `keptRun` the document is handed out for
a dynamic token without a mark, for one with the mark of another store, and for two tokens with a
mark that no store has. -/
theorem found_with_other_marks :
    let m := run Digest.sha256Hex (fun _ => "s0") {} keptRun
    let session : Option Session := some { maxInactiveInterval := 1800 }
    (parse "pers:s0").isIndirect = true ∧ (parse "none:s0").isIndirect = true ∧
      (m.findOrRestore (requestOf "pers:s0" "d1") session refusal).1 =
        .ok { state := 0, key := "d1" } ∧ ¬ m.MarksAgree "pers:s0" "d1" ∧
      (m.findOrRestore (requestOf "pers:s0" "sess:d1") session refusal).1 =
        .ok { state := 0, key := "d1" } ∧ ¬ m.MarksAgree "pers:s0" "sess:d1" ∧
      (m.findOrRestore (requestOf "none:s0" "none:d1") session refusal).1 =
        .ok { state := 0, key := "d1" } ∧ ¬ m.MarksAgree "none:s0" "none:d1" := by
  intro m session
  have hbare : (requestOf "pers:s0" "d1").requestTokens = .ok ("pers:s0", "d1") := by decide
  have hmixed : (requestOf "pers:s0" "sess:d1").requestTokens = .ok ("pers:s0", "sess:d1") := by
    decide
  have hmarked : (requestOf "none:s0" "none:d1").requestTokens = .ok ("none:s0", "none:d1") := by
    decide
  refine ⟨by decide, by decide, ?_, ?_, ?_, ?_, ?_, ?_⟩
  · exact findOrRestore_of_cached m session refusal hbare
      (cached?_keptRun_of_keys _ _ rfl (by decide))
  · rintro ⟨mark, -, hdynamic, -⟩
    have hnone : (parse "d1").mark? = none := by decide
    rw [hnone] at hdynamic
    contradiction
  · exact findOrRestore_of_cached m session refusal hmixed
      (cached?_keptRun_of_keys _ _ rfl (by decide))
  · rintro ⟨mark, hstatic, hdynamic, -⟩
    have hdiffer : (parse "pers:s0").mark? ≠ (parse "sess:d1").mark? := by decide
    exact hdiffer (hstatic.trans hdynamic.symm)
  · exact findOrRestore_of_cached m session refusal hmarked
      (cached?_keptRun_of_keys _ _ rfl (by decide))
  · rintro ⟨mark, hstatic, -, hstore⟩
    have hmark : (parse "none:s0").mark? = some "none:" := by decide
    obtain rfl := Option.some.inj (hmark.symm.trans hstatic)
    have hnone : m.store? "none:" = none := rfl
    rw [hnone] at hstore
    contradiction

/-- The law at `keptRun` and a dynamic token without its mark: the marks do not go together and the
cache has the document, so getting it shows nothing about the marks. -/
theorem marks_agree_of_found_iff_keptRun :
    (requestOf "pers:s0" "d1").requestTokens = .ok ("pers:s0", "d1") ∧
      (parse "pers:s0").isIndirect = true ∧
      ¬ ∀ session factory document,
        ((run Digest.sha256Hex (fun _ => "s0") {} keptRun).findOrRestore (requestOf "pers:s0" "d1")
          session factory).1 = .ok document →
          (run Digest.sha256Hex (fun _ => "s0") {} keptRun).MarksAgree "pers:s0" "d1" := by
  have htokens : (requestOf "pers:s0" "d1").requestTokens = .ok ("pers:s0", "d1") := by decide
  refine ⟨htokens, by decide, fun hagree => ?_⟩
  rcases (marks_agree_of_found_iff _ _ _ keptRun htokens (by decide)).1.1 hagree with hmarks | hnone
  · obtain ⟨mark, -, hdynamic, -⟩ := hmarks
    have hnomark : (parse "d1").mark? = none := by decide
    rw [hnomark] at hdynamic
    contradiction
  · rw [cached?_keptRun_of_keys _ _ rfl (by decide)] at hnone
    contradiction

end OtherMarks

end StateManager

end FormEngine
