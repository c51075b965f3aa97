import FormEngine.Cache.Documents
import FormEngine.Digest.Sha256
import FormEngine.Proofs.Cache.Recency
import Mathlib.Data.List.Induction
/-!
# The history of a document cache

A cache that keys by both states knows a pair by the fingerprint of its joined text, the two halves
around a bar. The joined text says where the first half ends only to someone who knows how many bars
it has, so two pairs can be joined to one text, and the cache takes them for one. What a cache
answers is said by its history: the calls leave under each joined text the document that was stored
there last, unless a take or a clear came after it, and a hit is that document. The pair that it was
stored under is the pair that was asked for exactly if the first halves have equally many bars.
-/

namespace FormEngine

/-! ## Joined texts -/

namespace StatePair

/-- The number of bars in a text. -/
def bars (text : String) : Nat := text.toList.count '|'

/-- A joined text can be cut where the number of bars before the cut is known. -/
theorem append_bar_inj {a b c d : List Char} (hjoin : a ++ '|' :: b = c ++ '|' :: d)
    (hcount : a.count '|' = c.count '|') : a = c ∧ b = d := by
  induction a generalizing c with
  | nil =>
    cases c with
    | nil => exact ⟨rfl, (List.cons.inj hjoin).2⟩
    | cons x c =>
      obtain ⟨rfl, -⟩ := List.cons.inj hjoin
      rw [List.count_cons_self, List.count_nil] at hcount
      omega
  | cons x a ih =>
    cases c with
    | nil =>
      obtain ⟨rfl, -⟩ := List.cons.inj hjoin
      rw [List.count_cons_self, List.count_nil] at hcount
      omega
    | cons y c =>
      obtain ⟨rfl, hrest⟩ := List.cons.inj hjoin
      rw [List.count_cons, List.count_cons] at hcount
      obtain ⟨rfl, rfl⟩ := ih hrest (by omega)
      exact ⟨rfl, rfl⟩

theorem toList_render (p : StatePair) :
    p.render.toList = p.staticState.toList ++ '|' :: p.dynamicState.toList := by
  simp [render, String.toList_append]

/-- **Which pairs are joined to one text**: of those that are, two are equal exactly if their static
halves have equally many bars. -/
theorem eq_iff_bars_eq {p q : StatePair} (hjoin : p.render = q.render) :
    p = q ↔ bars p.staticState = bars q.staticState := by
  constructor
  · rintro rfl
    rfl
  · intro hbars
    have hlist := congrArg String.toList hjoin
    rw [toList_render, toList_render] at hlist
    obtain ⟨hstatic, hdynamic⟩ := append_bar_inj hlist hbars
    cases p with
    | mk static dynamic =>
      cases q with
      | mk static' dynamic' =>
        obtain rfl := String.toList_inj.1 hstatic
        obtain rfl := String.toList_inj.1 hdynamic
        rfl

end StatePair

/-! ## Calls on a cache -/

/-- A call on a document cache. -/
inductive DocumentCall (D : Type) where
  | store (pair : StatePair) (document : D)
  | take (pair : StatePair)
  | clear

variable {D : Type}

namespace DocumentCall

/-- What a call leaves under a joined text: the pair and the document of a store under the text,
nothing after a take or a clear, and what was there otherwise. -/
def leave (text : String) (held : Option (StatePair × D)) : DocumentCall D → Option (StatePair × D)
  | .store pair document => if pair.render = text then some (pair, document) else held
  | .take pair => if pair.render = text then none else held
  | .clear => none

/-- What a run of calls leaves under a joined text. -/
def left? (calls : List (DocumentCall D)) (text : String) : Option (StatePair × D) :=
  calls.foldl (leave text) none

theorem left?_concat (calls : List (DocumentCall D)) (call : DocumentCall D) (text : String) :
    left? (calls ++ [call]) text = leave text (left? calls text) call := by
  rw [left?, List.foldl_concat]
  rfl

/-- What is left under a text was stored under a pair that is joined to the text. -/
theorem stored_of_left? {calls : List (DocumentCall D)} {text : String} {pair : StatePair}
    {document : D} (h : left? calls text = some (pair, document)) :
    .store pair document ∈ calls ∧ pair.render = text := by
  -- the last call decides, so the induction takes calls off the end
  induction calls using List.reverseRecOn with
  | nil => contradiction
  | append_singleton calls call ih =>
    rw [left?_concat] at h
    have hearlier (hleft : left? calls text = some (pair, document)) :
        .store pair document ∈ calls ++ [call] ∧ pair.render = text :=
      ⟨List.mem_append_left _ (ih hleft).1, (ih hleft).2⟩
    cases call with
    | store pair' document' =>
      simp only [leave] at h
      split at h
      · rename_i htext
        obtain ⟨rfl, rfl⟩ := Prod.mk.inj (Option.some.inj h)
        exact ⟨List.mem_append_right _ List.mem_cons_self, htext⟩
      · exact hearlier h
    | take pair' =>
      simp only [leave] at h
      split at h
      · contradiction
      · exact hearlier h
    | clear => contradiction

end DocumentCall

namespace DocumentCache

open DocumentCall

/-- The cache after a call. -/
def apply (c : DocumentCache D) : DocumentCall D → DocumentCache D
  | .store pair document => c.store pair document
  | .take pair => (c.take pair).2
  | .clear => c.clear

/-- The cache after a run of calls on an empty one. -/
def after (digest : String → String) (name : String) (size : Nat) (staticOnly : Bool)
    (calls : List (DocumentCall D)) : DocumentCache D :=
  calls.foldl apply (.ofSize digest name size staticOnly)

/-- Calls do not change how a cache knows its pairs. -/
theorem key_apply (c : DocumentCache D) (call : DocumentCall D) : (c.apply call).key = c.key := by
  cases call <;> rfl

theorem key_after (digest : String → String) (name : String) (size : Nat) (staticOnly : Bool)
    (calls : List (DocumentCall D)) :
    (after digest name size staticOnly calls).key =
      (ofSize digest name size staticOnly : DocumentCache D).key := by
  induction calls using List.reverseRecOn with
  | nil => rfl
  | append_singleton calls call ih =>
    rw [after, List.foldl_concat, key_apply]
    exact ih

/-! ## What a cache holds -/

/-- Every document of the cache is what the calls left under a joined text with the fingerprint that
the document lies under. -/
def Remembers (digest : String → String) (calls : List (DocumentCall D)) (c : DocumentCache D) :
    Prop :=
  ∀ e ∈ c.table.entries, ∃ pair : StatePair,
    digest pair.render = e.1 ∧ left? calls pair.render = some (pair, e.2)

/-- One more call. A call that touches another fingerprint touches another text, so what it leaves
alone in the cache it leaves alone in the history. -/
theorem Remembers.apply {digest : String → String} {calls : List (DocumentCall D)}
    {c : DocumentCache D} (h : c.Remembers digest calls)
    (hkey : ∀ pair, c.key pair = digest pair.render) (call : DocumentCall D) :
    (c.apply call).Remembers digest (calls ++ [call]) := by
  intro e he
  cases call with
  | store pair document =>
    rcases RecencyTable.mem_entries_push_of_ne he with rfl | ⟨hold, hne⟩
    · refine ⟨pair, (hkey pair).symm, ?_⟩
      rw [left?_concat, leave, if_pos rfl]
    · obtain ⟨pair', hdigest, hleft⟩ := h e hold
      refine ⟨pair', hdigest, ?_⟩
      have htext : pair.render ≠ pair'.render := by
        intro heq
        rw [hkey, heq, hdigest] at hne
        exact hne rfl
      rw [left?_concat, leave, if_neg htext, hleft]
  | take pair =>
    obtain ⟨hold, hne⟩ := List.mem_filter.1 he
    rw [bne_iff_ne] at hne
    obtain ⟨pair', hdigest, hleft⟩ := h e hold
    refine ⟨pair', hdigest, ?_⟩
    have htext : pair.render ≠ pair'.render := by
      intro heq
      rw [hkey, heq, hdigest] at hne
      exact hne rfl
    rw [left?_concat, leave, if_neg htext, hleft]
  | clear => exact absurd he List.not_mem_nil

/-- **A cache that keys by both states holds what its history left**, under every fingerprint. -/
theorem remembers_after (digest : String → String) (name : String) (size : Nat)
    (calls : List (DocumentCall D)) :
    (after digest name size false calls).Remembers digest calls := by
  induction calls using List.reverseRecOn with
  | nil =>
    intro e he
    exact absurd he List.not_mem_nil
  | append_singleton calls call ih =>
    rw [after, List.foldl_concat]
    refine Remembers.apply ih (fun pair => ?_) call
    have hkey := key_after (D := D) digest name size false calls
    exact congrFun hkey pair

/-- **What a take hands out**, after any run of calls on a cache that keys by both states: the
document that was stored last under a pair with the joined text of the pair asked for, with no take
and no clear since. That pair is the one asked for exactly if the static halves of the two have
equally many bars. No text that was stored under may have the fingerprint of the text asked for
without being it. -/
theorem stored_last_of_take (digest : String → String) (name : String) (size : Nat)
    (calls : List (DocumentCall D)) {k : StatePair} {document : D}
    (hdigest : ∀ pair other, .store pair other ∈ calls →
      digest pair.render = digest k.render → pair.render = k.render)
    (hfound : ((after digest name size false calls).take k).1 = some document) :
    ∃ pair : StatePair, .store pair document ∈ calls ∧ pair.render = k.render ∧
      left? calls k.render = some (pair, document) ∧
      (pair = k ↔ StatePair.bars pair.staticState = StatePair.bars k.staticState) := by
  have hmem := RecencyTable.mem_of_find? hfound
  obtain ⟨pair, hkey, hleft⟩ := remembers_after digest name size calls _ hmem
  have hstored := stored_of_left? hleft
  have hfingerprint : digest pair.render = digest k.render := by
    rw [hkey, key_after]
    rfl
  have htext := hdigest pair document hstored.1 hfingerprint
  rw [htext] at hleft
  exact ⟨pair, hstored.1, htext, hleft, StatePair.eq_iff_bars_eq htext⟩

/-! ## A bar in a half -/

/-- A pair with a bar in its static half. -/
def barredPair : StatePair := { staticState := "a|b", dynamicState := "c" }

/-- The pair that has the bar of `barredPair` between its halves. -/
def shiftedPair : StatePair := { staticState := "a", dynamicState := "b|c" }

theorem render_barredPair : barredPair.render = shiftedPair.render := by decide

/-- The document of `barredPair` is handed out for `shiftedPair`, whatever the fingerprints are. -/
theorem take_shiftedPair (digest : String → String) :
    ((after digest "documents" 4 false [.store barredPair "v"]).take shiftedPair).1 = some "v" := by
  have hkey : (ofSize digest "documents" 4 false : DocumentCache String).key shiftedPair =
      (ofSize digest "documents" 4 false : DocumentCache String).key barredPair := by
    show digest shiftedPair.render = digest barredPair.render
    rw [render_barredPair]
  show RecencyTable.find? (RecencyTable.push _ _ _) _ = _
  rw [← hkey]
  exact RecencyTable.find?_push_self _ _ _

/-- **A take can hand out what was never stored under its pair**: of the two pairs around the bars of
one text, one is stored under and the other asked for. -/
theorem take_of_never_stored :
    ((after Digest.sha256Hex "documents" 4 false [.store barredPair "v"]).take shiftedPair).1 =
        some "v" ∧
      ∀ document, .store shiftedPair document ∉ [DocumentCall.store barredPair "v"] := by
  refine ⟨take_shiftedPair _, ?_⟩
  intro document hmem
  have hcall := List.mem_singleton.1 hmem
  injection hcall with hpair hdocument
  exact absurd hpair (by decide)

/-- The law at `shiftedPair`: the document was stored under a pair that is joined to the same text,
and that pair is another one. -/
theorem stored_last_of_take_shiftedPair :
    (∀ pair other, .store pair other ∈ [DocumentCall.store barredPair "v"] →
      Digest.sha256Hex pair.render = Digest.sha256Hex shiftedPair.render →
        pair.render = shiftedPair.render) ∧
      ((after Digest.sha256Hex "documents" 4 false [.store barredPair "v"]).take shiftedPair).1 =
        some "v" ∧
      ∃ pair : StatePair, .store pair "v" ∈ [DocumentCall.store barredPair "v"] ∧
        pair.render = shiftedPair.render ∧ pair ≠ shiftedPair := by
  have hdigest : ∀ pair other, .store pair other ∈ [DocumentCall.store barredPair "v"] →
      Digest.sha256Hex pair.render = Digest.sha256Hex shiftedPair.render →
        pair.render = shiftedPair.render := by
    intro pair other hmem _
    have hcall := List.mem_singleton.1 hmem
    injection hcall with hpair hother
    rw [hpair, render_barredPair]
  refine ⟨hdigest, take_shiftedPair _, ?_⟩
  obtain ⟨pair, hstored, hrender, -, hbars⟩ :=
    stored_last_of_take Digest.sha256Hex "documents" 4 _ hdigest (take_shiftedPair _)
  refine ⟨pair, hstored, hrender, ?_⟩
  have hcall := List.mem_singleton.1 hstored
  injection hcall with hpair hother
  rw [ne_eq, hbars, hpair]
  decide

end DocumentCache

end FormEngine
