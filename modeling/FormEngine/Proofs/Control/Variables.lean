import FormEngine.Proofs.Control.Around
import FormEngine.Proofs.Control.Balance
/-!
# The variables that a control sees

The builder keeps a stack of frames beside the tree, with the names declared directly in each open
control, and a control sees what is in the frames when the walk comes to it. The walk closes what it
opens, so the stack follows the parents of the controls: a frame for each control around the place
that the walk is at, and below them the frame of the whole form. Each stretch of frames down to the
bottom holds the variables that stand directly in its controls, in the order of the walk. Nothing that
is declared in a control is left behind when the control is closed.
-/

namespace FormEngine

/-! ## What a record says of variables -/

/-- The name of a variable. -/
def Control.variableName? (c : Control) : Option String :=
  match c.kind with
  | .variable name => some name
  | _ => none

/-- What a record has to do with variables: where the control stands, what it declares there, and
what it sees. -/
structure Sight where
  parent : Option ControlId
  variableName? : Option String
  inScope : List String

def Control.sight (c : Control) : Sight :=
  { parent := c.parent, variableName? := c.variableName?, inScope := c.inScopeVariables }

def ControlTree.sights (t : ControlTree) : List Sight := t.controls.toList.map Control.sight

/-- The names of the variables that stand directly in one of the places. -/
def declaredIn (l : List Sight) (places : List (Option ControlId)) : List String :=
  (l.filter fun s => places.contains s.parent).filterMap (·.variableName?)

/-- The sight with a number, under its number. -/
def numbered (l : List Sight) (i : ControlId) : Option (ControlId × Sight) := l[i]?.map (Prod.mk i)

/-- The places from a place outwards, the top level last. -/
def Places (l : List Sight) (place : Option ControlId) (places : List (Option ControlId)) : Prop :=
  ∃ chain, Outwards (numbered l) (fun q => q.2.parent) place chain ∧
    places = chain.map (fun q => some q.1) ++ [none]

/-- Parents come before their children. -/
def ParentsFirst (l : List Sight) : Prop :=
  ∀ (i : ControlId) (s : Sight), l[i]? = some s → ∀ p, s.parent = some p → p < i

/-- The control with number `i` sees what is declared in the places around it before it. -/
def Sees (l : List Sight) (i : ControlId) (s : Sight) : Prop :=
  ∃ places, Places l s.parent places ∧ s.inScope = declaredIn (l.take i) places

/-! ## Small laws -/

section Laws

variable {l l' : List Sight} {place : Option ControlId} {places : List (Option ControlId)}
  {s : Sight} {i p : ControlId}

theorem declaredIn_concat (l : List Sight) (s : Sight) (places : List (Option ControlId)) :
    declaredIn (l ++ [s]) places =
      declaredIn l places ++ if s.parent ∈ places then s.variableName?.toList else [] := by
  rw [declaredIn, List.filter_append, List.filterMap_append, List.filter_singleton, ← declaredIn]
  by_cases hmem : s.parent ∈ places
  · rw [List.contains_iff_mem.2 hmem, if_pos hmem, cond_true, List.filterMap_cons]
    cases s.variableName? <;> rfl
  · rw [Bool.eq_false_iff.2 fun h => hmem (List.contains_iff_mem.1 h), if_neg hmem]
    rfl

/-- Nothing is declared yet in a control that has not come. -/
theorem declaredIn_cons_new (hfirst : ParentsFirst l) (places : List (Option ControlId)) :
    declaredIn l (some l.length :: places) = declaredIn l places := by
  refine congrArg (List.filterMap _) (List.filter_congr fun s hs => ?_)
  obtain ⟨i, hi⟩ := List.getElem?_of_mem hs
  have hne : s.parent ≠ some l.length := fun hparent =>
    Nat.lt_asymm (hfirst i s hi _ hparent) (List.getElem?_eq_some_iff.1 hi).1
  rw [List.contains_cons, beq_eq_false_iff_ne.2 hne, Bool.false_or]

theorem numbered_eq_some_iff {q : ControlId × Sight} :
    numbered l i = some q ↔ i = q.1 ∧ l[i]? = some q.2 := by
  rw [numbered, Option.map_eq_some_iff]
  constructor
  · rintro ⟨s, hs, rfl⟩
    exact ⟨rfl, hs⟩
  · rintro ⟨rfl, hs⟩
    exact ⟨q.2, hs, rfl⟩

theorem places_top (l : List Sight) : Places l none [none] := ⟨[], .top, rfl⟩

theorem Places.under (hp : l[p]? = some s) (h : Places l s.parent places) :
    Places l (some p) (some p :: places) := by
  obtain ⟨chain, hchain, rfl⟩ := h
  exact ⟨(p, s) :: chain, .under (numbered_eq_some_iff.2 ⟨rfl, hp⟩) hchain, rfl⟩

/-- Around a control is what is around its parent. -/
theorem Places.exists_under (h : Places l (some p) (some q :: places)) :
    ∃ s, l[p]? = some s ∧ Places l s.parent places := by
  obtain ⟨chain, hchain, heq⟩ := h
  cases hchain with
  | @under _ q' chain hp houter =>
    obtain ⟨-, hp⟩ := numbered_eq_some_iff.1 hp
    exact ⟨q'.2, hp, chain, houter, (List.cons.inj heq).2⟩

theorem Places.head? (h : Places l place places) : places.head? = some place := by
  obtain ⟨chain, hchain, rfl⟩ := h
  cases hchain with
  | top => rfl
  | under hp _ =>
    rw [(numbered_eq_some_iff.1 hp).1]
    rfl

theorem Places.append (h : Places l place places) (l' : List Sight) :
    Places (l ++ l') place places := by
  obtain ⟨chain, hchain, heq⟩ := h
  refine ⟨chain, hchain.mono fun i q hq => ?_, heq⟩
  obtain ⟨hid, hi⟩ := numbered_eq_some_iff.1 hq
  have hlt : i < l.length := (List.getElem?_eq_some_iff.1 hi).1
  exact numbered_eq_some_iff.2 ⟨hid, (List.getElem?_append_left hlt).trans hi⟩

theorem Places.lt (h : Places l (some p) places) : p < l.length := by
  obtain ⟨chain, hchain, -⟩ := h
  cases hchain with
  | under hp _ => exact (List.getElem?_eq_some_iff.1 (numbered_eq_some_iff.1 hp).2).1

/-- Of the controls around a place, none has come after its parent. -/
theorem le_of_mem_outwards (hfirst : ParentsFirst l) {chain : List (ControlId × Sight)}
    (h : Outwards (numbered l) (fun q => q.2.parent) place chain) {q : ControlId × Sight}
    (hq : q ∈ chain) : ∃ p, place = some p ∧ q.1 ≤ p := by
  induction h with
  | top => contradiction
  | @under p s chain hp _ ih =>
    obtain ⟨rfl, hs⟩ := numbered_eq_some_iff.1 hp
    refine ⟨s.1, rfl, ?_⟩
    rcases List.mem_cons.1 hq with rfl | hq
    · exact Nat.le_refl _
    · obtain ⟨p, hparent, hle⟩ := ih hq
      exact Nat.le_of_lt (Nat.lt_of_le_of_lt hle (hfirst s.1 s.2 hs p hparent))

/-- The walk outwards does not come back to where it began. -/
theorem Places.notMem_tail (h : Places l place places) (hfirst : ParentsFirst l) :
    place ∉ places.tail := by
  obtain ⟨chain, hchain, rfl⟩ := h
  cases hchain with
  | top => exact List.not_mem_nil
  | @under p s chain hp houter =>
    intro hmem
    obtain ⟨hid, hs⟩ := numbered_eq_some_iff.1 hp
    rw [List.map_cons, List.cons_append, List.tail_cons, List.mem_append, List.mem_map] at hmem
    rcases hmem with ⟨q, hq, heq⟩ | hmem
    · obtain ⟨p', hparent, hle⟩ := le_of_mem_outwards hfirst houter hq
      rw [Option.some.inj heq] at hle
      exact Nat.lt_irrefl p (Nat.lt_of_le_of_lt hle (hfirst p s.2 hs p' hparent))
    · simp at hmem

/-- A control that joins stands where the walk is. -/
theorem ParentsFirst.concat (hfirst : ParentsFirst l) (h : Places l s.parent places) :
    ParentsFirst (l ++ [s]) := by
  intro i s' hs' p hp
  rcases getElem?_concat hs' with hs' | ⟨rfl, rfl⟩
  · exact hfirst i s' hs' p hp
  · rw [hp] at h
    exact h.lt

theorem Sees.append (h : Sees l i s) (hi : i ≤ l.length) (l' : List Sight) :
    Sees (l ++ l') i s := by
  obtain ⟨places, hplaces, hinScope⟩ := h
  exact ⟨places, hplaces.append l', by rw [List.take_append_of_le_length hi, hinScope]⟩

end Laws

/-! ## What a control adds -/

theorem sight_addNested (c : Control) (r : ControlId) : (c.addNested r).sight = c.sight := by
  unfold Control.addNested
  split
  · rename_i nested hkind
    simp [Control.sight, Control.variableName?, hkind]
  · rfl

theorem sight_foldl_setSupport (ss : List Support) (c : Control) :
    (ss.foldl Control.setSupport c).sight = c.sight :=
  List.foldlRecOn (motive := fun c' : Control => c'.sight = c.sight) ss _ rfl fun _ hc _ _ => hc

namespace TreeBuilder

variable {f : Form} {b b' : TreeBuilder} {e : ElementRef} {k : ElementClass}

theorem sights_addControl (t : ControlTree) (c : Control) :
    (addControl t c).sights = t.sights ++ [c.sight] :=
  map_controls_addControl sight_addNested t c

theorem sights_modify_setSupport (t : ControlTree) (i : ControlId) (s : Support) :
    (t.modify i fun c => c.setSupport s).sights = t.sights := map_modify_same fun _ => rfl

/-- A new control stands in the innermost open one and sees what the frames hold. -/
theorem sight_controlOf {c : Control} (h : b.controlOf f e k = .ok c) :
    c.parent = b.container? ∧ c.inScopeVariables = b.visibleVariables := by
  unfold controlOf at h
  cases hid : f.staticId? e with
  | none =>
    rw [hid] at h
    contradiction
  | some staticId =>
    rw [hid] at h
    obtain ⟨kind, -, h⟩ := ok_of_bind h
    have hc := Except.ok.inj h
    generalize hbare : Control.mk _ _ _ _ _ _ _ _ _ _ _ _ _ _ _ _ = bare at hc
    have hsight : c.sight = bare.sight := by
      rw [← hc]
      split
      · rfl
      · exact sight_foldl_setSupport _ _
    have hbareSight : bare.parent = b.container? ∧ bare.inScopeVariables = b.visibleVariables := by
      rw [← hbare]
      exact ⟨rfl, rfl⟩
    exact ⟨(congrArg Sight.parent hsight).trans hbareSight.1,
      (congrArg Sight.inScope hsight).trans hbareSight.2⟩

/-- A control that is met is seen in the tree, and a variable in the innermost frame. -/
theorem sights_start (h : b.start f e k = .ok b') : ∃ s : Sight,
    b'.tree.sights = b.tree.sights ++ [s] ∧ s.parent = b.container? ∧
    s.inScope = b.visibleVariables ∧
    ∀ top rest, b.frames = top :: rest →
      b'.frames = { top with declared := top.declared ++ s.variableName?.toList } :: rest := by
  obtain ⟨c, hc, h⟩ := ok_of_bind h
  obtain rfl := Except.ok.inj h
  obtain ⟨hparent, hinScope⟩ := sight_controlOf hc
  refine ⟨c.sight, ?_, hparent, hinScope, fun top rest hframes => ?_⟩
  · refine (sights_addControl _ c).trans (congrArg (fun t : ControlTree => t.sights ++ [c.sight]) ?_)
    split
    · unfold declareVariable
      split <;> rfl
    · rfl
  · show TreeBuilder.frames (match c.kind with
        | .variable name => b.declareVariable name
        | _ => b) = { top with declared := top.declared ++ c.variableName?.toList } :: rest
    unfold Control.variableName?
    cases c.kind
    case «variable» name =>
      simp only [declareVariable, hframes]
      rfl
    all_goals
      rw [Option.toList_none, List.append_nil]
      exact hframes

/-! ## The invariant -/

/-- The frames are those of the places around the walk, each stretch of them down to the bottom holds
what is declared in its places, and every control so far sees what it should. -/
structure Framed (b : TreeBuilder) : Prop where
  places : Places b.tree.sights b.container? (b.frames.map Frame.control)
  parents : ParentsFirst b.tree.sights
  declared : ∀ fs, fs <:+ b.frames →
    fs.reverse.flatMap (·.declared) = declaredIn b.tree.sights (fs.map Frame.control)
  sees : ∀ i s, b.tree.sights[i]? = some s → Sees b.tree.sights i s

namespace Framed

theorem exists_frames (h : Framed b) : ∃ top rest, b.frames = top :: rest := by
  cases hframes : b.frames with
  | nil =>
    have hhead := h.places.head?
    rw [hframes] at hhead
    contradiction
  | cons top rest => exact ⟨top, rest, rfl⟩

theorem visibleVariables_eq (h : Framed b) :
    b.visibleVariables = declaredIn b.tree.sights (b.frames.map Frame.control) :=
  h.declared b.frames (List.suffix_refl _)

/-- A support element changes nothing that is said of variables. -/
theorem congr (h : Framed b) (hsights : b'.tree.sights = b.tree.sights)
    (hframes : b'.frames = b.frames) : Framed b' := by
  refine ⟨?_, ?_, ?_, ?_⟩
  · rw [hsights, container?, hframes]
    exact h.places
  · rw [hsights]
    exact h.parents
  · rw [hsights, hframes]
    exact h.declared
  · rw [hsights]
    exact h.sees

/-- **A control is met.** The frames around it are the same, and it sees what they hold. -/
theorem start (h : Framed b) (hstart : b.start f e k = .ok b') :
    Framed b' ∧ b'.frames.map Frame.control = b.frames.map Frame.control ∧
      b'.tree.sights.length = b.tree.sights.length + 1 := by
  obtain ⟨s, hsights, hparent, hinScope, hdeclares⟩ := sights_start hstart
  obtain ⟨top, rest, hframes⟩ := h.exists_frames
  have hnew := hdeclares top rest hframes
  have hcontrols : b'.frames.map Frame.control = b.frames.map Frame.control := by
    rw [hnew, hframes]
    rfl
  have hcontainer : b'.container? = b.container? := by
    rw [container?, container?, hnew, hframes]
    rfl
  have hplaces : Places b.tree.sights s.parent (b.frames.map Frame.control) :=
    hparent ▸ h.places
  have hmem : s.parent ∈ b.frames.map Frame.control := List.mem_of_head? hplaces.head?
  refine ⟨⟨?_, ?_, fun fs hfs => ?_, fun i s' hs' => ?_⟩, hcontrols, ?_⟩
  · rw [hsights, hcontainer, hcontrols]
    exact h.places.append _
  · rw [hsights]
    exact h.parents.concat hplaces
  · rw [hsights, declaredIn_concat]
    rw [hnew, List.suffix_cons_iff] at hfs
    rcases hfs with rfl | hfs
    · -- all frames: what the control declares is in the innermost one
      have hall := h.declared b.frames (List.suffix_refl _)
      rw [hframes, List.reverse_cons, List.flatMap_append, List.flatMap_singleton] at hall
      rw [hframes] at hmem
      show _ = declaredIn _ ((top :: rest).map Frame.control) ++
        if s.parent ∈ (top :: rest).map Frame.control then _ else _
      rw [if_pos hmem, List.reverse_cons, List.flatMap_append, List.flatMap_singleton,
        ← List.append_assoc, hall]
    · -- the frames further out: the control stands in none of them
      have hout : s.parent ∉ fs.map Frame.control := by
        have hnot := hplaces.notMem_tail h.parents
        rw [hframes] at hnot
        exact fun hfsMem => hnot ((hfs.map Frame.control).subset hfsMem)
      rw [if_neg hout, List.append_nil]
      exact h.declared fs (hframes ▸ hfs.trans (List.suffix_cons top rest))
  · rw [hsights] at hs' ⊢
    rcases getElem?_concat hs' with hs' | ⟨rfl, rfl⟩
    · exact (h.sees i s' hs').append (Nat.le_of_lt (List.getElem?_eq_some_iff.1 hs').1) _
    · refine ⟨b.frames.map Frame.control, hplaces.append _, ?_⟩
      rw [hinScope, h.visibleVariables_eq, List.take_left]
  · rw [hsights, List.length_append, List.length_singleton]

/-- **A control is opened**: nothing is declared in it yet. -/
theorem enter (h : Framed b) (hstep : step f b (.enter e k) = .ok b') :
    Framed b' ∧ b'.frames.map Frame.control =
      some b.tree.sights.length :: b.frames.map Frame.control := by
  obtain ⟨b₁, hb₁, hstep⟩ := ok_of_bind hstep
  obtain rfl := Except.ok.inj hstep
  have hsize : b.tree.size = b.tree.sights.length := by
    rw [ControlTree.sights, List.length_map, Array.length_toList, ControlTree.size]
  obtain ⟨h₁, hcontrols, hlength⟩ := h.start hb₁
  obtain ⟨s, hsights, hparent, -, -⟩ := sights_start hb₁
  have hget : b₁.tree.sights[b.tree.size]? = some s := by
    rw [hsights, hsize, List.getElem?_concat_length]
  have houter : Places b₁.tree.sights s.parent (b₁.frames.map Frame.control) := by
    rw [hparent, hcontrols, hsights]
    exact h.places.append _
  refine ⟨⟨.under hget houter, h₁.parents, fun fs hfs => ?_, h₁.sees⟩, ?_⟩
  · rcases List.suffix_cons_iff.1 hfs with rfl | hfs
    · -- no control that is there stands in the new one
      have hnone : declaredIn b₁.tree.sights (some b.tree.size :: b₁.frames.map Frame.control) =
          declaredIn b₁.tree.sights (b₁.frames.map Frame.control) := by
        have hnew := declaredIn_cons_new h.parents (b.frames.map Frame.control)
        have hself : s.parent ≠ some b.tree.size := by
          intro hparent'
          have houter' := h.places
          rw [← hparent, hparent', hsize] at houter'
          exact Nat.lt_irrefl _ houter'.lt
        rw [hcontrols, hsights, declaredIn_concat, declaredIn_concat, hsize, hnew]
        rw [hsize] at hself
        simp only [List.mem_cons, hself, false_or]
      rw [List.reverse_cons, List.flatMap_append, h₁.declared _ (List.suffix_refl _)]
      show _ = declaredIn _ (some b.tree.size :: _)
      rw [hnone]
      exact List.append_nil _
    · exact h₁.declared fs hfs
  · show some b.tree.size :: b₁.frames.map Frame.control = _
    rw [hcontrols, hsize]

/-- **A control is closed**: what is declared in the controls around it is in the frames that stay. -/
theorem leave (h : Framed b) {p : ControlId} {places : List (Option ControlId)}
    (hopen : b.frames.map Frame.control = some p :: places)
    (hstep : step f b .leave = .ok b') :
    Framed b' ∧ b'.frames.map Frame.control = places := by
  obtain rfl := Except.ok.inj hstep
  have htail : b.frames.tail.map Frame.control = places := by
    rw [List.map_tail, hopen]
    rfl
  have hplaces := h.places
  have hcontainer : b.container? = some p := by
    have hhead := hplaces.head?
    rw [hopen] at hhead
    exact (Option.some.inj hhead).symm
  rw [hopen, hcontainer] at hplaces
  obtain ⟨s, hp, houter⟩ := hplaces.exists_under
  refine ⟨⟨?_, h.parents, fun fs hfs => ?_, h.sees⟩, htail⟩
  · -- the walk is back where the control stands
    have hplace : container? { b with frames := b.frames.tail } = s.parent := by
      have hhead := houter.head?
      rw [← htail, List.head?_map, Option.map_eq_some_iff] at hhead
      obtain ⟨fr, hfr, hcontrol⟩ := hhead
      rw [container?, hfr, Option.bind_some, hcontrol]
    rw [hplace, htail]
    exact houter
  · exact h.declared fs (hfs.trans (List.tail_suffix _))

theorem support (h : Framed b) (hstep : step f b (.support e) = .ok b') :
    Framed b' ∧ b'.frames.map Frame.control = b.frames.map Frame.control := by
  obtain ⟨hsights, hframes⟩ := step_support_eq sights_modify_setSupport hstep
  exact ⟨h.congr hsights hframes, congrArg _ hframes⟩

/-- **The frames follow the walk**, and after it the same are open as before. By induction on how the
visits are balanced. -/
theorem run {R : Option ElementRef → ElementRef → Prop} {place : Option ElementRef}
    {visits : List Visit} (hbalanced : Visit.Balanced R place visits) (h : Framed b)
    (hrun : visits.foldlM (step f) b = .ok b') :
    Framed b' ∧ b'.frames.map Frame.control = b.frames.map Frame.control := by
  induction hbalanced generalizing b b' with
  | nil =>
    obtain rfl : b = b' := Except.ok.inj hrun
    exact ⟨h, rfl⟩
  | leaf k _ _ ih =>
    rw [List.foldlM_cons] at hrun
    obtain ⟨b₁, hstart, hrun⟩ := ok_of_bind hrun
    obtain ⟨h₁, hcontrols, -⟩ := h.start hstart
    obtain ⟨h', hcontrols'⟩ := ih h₁ hrun
    exact ⟨h', hcontrols'.trans hcontrols⟩
  | support e _ ih =>
    rw [List.foldlM_cons] at hrun
    obtain ⟨b₁, hsupport, hrun⟩ := ok_of_bind hrun
    obtain ⟨h₁, hcontrols⟩ := h.support hsupport
    obtain ⟨h', hcontrols'⟩ := ih h₁ hrun
    exact ⟨h', hcontrols'.trans hcontrols⟩
  | enter k _ _ _ ihinner ih =>
    obtain ⟨b₁, b₂, henter, hinner, hrun⟩ := exists_run_enter hrun
    obtain ⟨h₁, hopened⟩ := h.enter henter
    obtain ⟨h₂, hsame⟩ := ihinner h₁ hinner
    obtain ⟨h₃, hclosed⟩ := h₂.leave (f := f) (hsame.trans hopened) rfl
    obtain ⟨h', hcontrols⟩ := ih h₃ hrun
    exact ⟨h', hcontrols.trans hclosed⟩

end Framed

theorem framed_empty : Framed {} := by
  refine ⟨places_top _, fun i s hs => ?_, fun fs hfs => ?_, fun i s hs => ?_⟩
  · simp [ControlTree.sights] at hs
  · have hdeclared : ∀ places, declaredIn (ControlTree.sights {}) places = [] := fun _ => rfl
    rw [hdeclared, List.flatMap_eq_nil_iff]
    intro fr hfr
    have hmem : fr ∈ ([{}] : List Frame) := hfs.subset (List.mem_reverse.1 hfr)
    rw [List.mem_singleton.1 hmem]
  · simp [ControlTree.sights] at hs

end TreeBuilder

/-! ## The finished tree -/

namespace ControlTree

variable {t : ControlTree}

theorem getElem?_sights (t : ControlTree) (i : ControlId) :
    t.sights[i]? = (t.get? i).map Control.sight := by
  rw [sights, List.getElem?_map, Array.getElem?_toList, get?]

/-- The variables before the control with number `i` that stand at top level or directly in one of
the controls of the chain, in the order of the walk. -/
def variablesAround (t : ControlTree) (i : ControlId) (chain : List Control) : List Control :=
  (t.controls.toList.take i).filter fun v =>
    v.variableName?.isSome && (v.parent.isNone || chain.any fun q => v.parent == some q.id)

/-- The places around a control are the controls around it and the top level. -/
theorem Nests.exists_chain (h : t.Nests) {place : Option ControlId}
    {places : List (Option ControlId)} (hplaces : Places t.sights place places) :
    ∃ chain, t.Around place chain ∧ places = chain.map (fun q : Control => some q.id) ++ [none] := by
  obtain ⟨pairs, hpairs, rfl⟩ := hplaces
  have hnumbered : ∀ i, numbered t.sights i = (t.get? i).map fun c => (c.id, c.sight) := by
    intro i
    rw [numbered, getElem?_sights, Option.map_map]
    refine Option.map_congr fun c hc => ?_
    rw [(h.sits hc).id]
    rfl
  obtain ⟨chain, haround, rfl⟩ := hpairs.exists_of_map hnumbered fun _ => rfl
  refine ⟨chain, haround, ?_⟩
  rw [List.map_map]
  rfl

/-- What is declared in the places around a control are the names of the variables around it. -/
theorem declaredIn_take (t : ControlTree) (i : ControlId) (chain : List Control) :
    declaredIn (t.sights.take i) (chain.map (fun q => some q.id) ++ [none]) =
      (t.variablesAround i chain).filterMap Control.variableName? := by
  have hcontains : ∀ parent : Option ControlId,
      (chain.map (fun q : Control => some q.id) ++ [none]).contains parent =
        (parent.isNone || chain.any fun q => parent == some q.id) := by
    intro parent
    rw [Bool.eq_iff_iff, List.contains_iff_mem, List.mem_append, List.mem_map, List.mem_singleton,
      Bool.or_eq_true, List.any_eq_true, Option.isNone_iff_eq_none, or_comm]
    refine or_congr_right (exists_congr fun q => and_congr_right fun _ => ?_)
    rw [beq_iff_eq, eq_comm]
  rw [declaredIn, variablesAround, sights, ← List.map_take]
  generalize t.controls.toList.take i = cs
  induction cs with
  | nil => rfl
  | cons v cs ih =>
    rw [List.map_cons, List.filter_cons, List.filter_cons, hcontains]
    show List.filterMap _ (if (v.parent.isNone || chain.any fun q => v.parent == some q.id) = true
      then _ else _) = _
    cases v.parent.isNone || chain.any fun q => v.parent == some q.id with
    | false => simpa using ih
    | true =>
      cases hvariable : v.variableName? with
      | none => simpa [Control.sight, hvariable] using ih
      | some name => simpa [Control.sight, hvariable] using ih

end ControlTree

/-- **The variables that a control sees.** On every form whose control tree is built, a control has
in scope the names, in the order of the walk, of exactly those variables that come before it and stand
at top level or directly in a control around it; so none that stands in a control that is not around
it. When the walk ends, the frame of the whole form is the one that is open. -/
theorem inScopeVariables_buildControlTree {f : Form} {tree : ControlTree} {warnings : List Warning}
    (h : buildControlTree f = .ok (tree, warnings)) :
    (∀ i c, tree.get? i = some c → ∃ chain, tree.Around c.parent chain ∧
      c.inScopeVariables = (tree.variablesAround i chain).filterMap Control.variableName? ∧
      ∀ j q, tree.get? j = some q → q ∉ chain → ∀ v ∈ tree.variablesAround i chain,
        v.parent ≠ some j) ∧
    ∃ visits b root, f.visits = .ok visits ∧ visits.foldlM (TreeBuilder.step f) {} = .ok b ∧
      b.frames = [root] ∧ root.control = none := by
  obtain ⟨-, -, hnests, -, -⟩ := nests_buildControlTree h
  obtain ⟨visits, b, hvisits, hrun, hsettled⟩ := exists_run h
  have hsights : tree.sights = b.tree.sights :=
    TreeBuilder.settled_keeps (P := fun u => u.sights = b.tree.sights)
      (fun u i s hu => (TreeBuilder.sights_modify_setSupport u i s).trans hu) hsettled rfl
  obtain ⟨hframed, hcontrols⟩ :=
    TreeBuilder.framed_empty.run (Visit.balanced_of_visitsUnder none hvisits) hrun
  refine ⟨fun i c hc => ?_, ?_⟩
  · have hsight : b.tree.sights[i]? = some c.sight := by
      rw [← hsights, ControlTree.getElem?_sights, hc, Option.map_some]
    obtain ⟨places, hplaces, hinScope⟩ := hframed.sees i c.sight hsight
    rw [← hsights] at hplaces hinScope
    obtain ⟨chain, haround, rfl⟩ := hnests.exists_chain hplaces
    rw [ControlTree.declaredIn_take] at hinScope
    refine ⟨chain, haround, hinScope, fun j q hq hout v hv hparent => ?_⟩
    have hin := (List.mem_filter.1 hv).2
    rw [hparent, Bool.and_eq_true, Option.isNone_some, Bool.false_or, List.any_eq_true] at hin
    obtain ⟨q', hq', hid⟩ := hin.2
    obtain ⟨j', hj'⟩ := haround.exists_get? hq'
    rw [beq_iff_eq, Option.some.injEq, (hnests.sits hj').id] at hid
    subst hid
    obtain rfl := Option.some.inj (hq.symm.trans hj')
    exact hout hq'
  · obtain ⟨root, rest, hframes⟩ := hframed.exists_frames
    rw [hframes] at hcontrols
    obtain ⟨hcontrol, hrest⟩ := List.cons.inj hcontrols
    rw [List.map_eq_nil_iff.1 hrest] at hframes
    exact ⟨visits, b, root, hvisits, hrun, hframes, hcontrol⟩

/-- A variable at top level and two groups, each with a variable and an input. -/
def variablesForm : Form :=
  { controls :=
      { nodes :=
          #[{ kind := .element (.plain "controls") [], children := [1, 2, 5] },
            { kind := .element { nsPrefix := "xf", uri := Namespace.xforms, localName := "variable" }
                [⟨.plain "id", "t"⟩]
              parent := some 0 },
            { kind := .element { nsPrefix := "xf", uri := Namespace.xforms, localName := "group" }
                [⟨.plain "id", "g1"⟩]
              parent := some 0, children := [3, 4] },
            { kind := .element { nsPrefix := "xf", uri := Namespace.xforms, localName := "variable" }
                [⟨.plain "id", "v1"⟩]
              parent := some 2 },
            { kind := .element { nsPrefix := "xf", uri := Namespace.xforms, localName := "input" }
                [⟨.plain "id", "a"⟩]
              parent := some 2 },
            { kind := .element { nsPrefix := "xf", uri := Namespace.xforms, localName := "group" }
                [⟨.plain "id", "g2"⟩]
              parent := some 0, children := [6, 7] },
            { kind := .element { nsPrefix := "xf", uri := Namespace.xforms, localName := "variable" }
                [⟨.plain "id", "v2"⟩]
              parent := some 5 },
            { kind := .element { nsPrefix := "xf", uri := Namespace.xforms, localName := "input" }
                [⟨.plain "id", "b"⟩]
              parent := some 5 }]
        root := 0 }
    scopes := {} }

/-- The variables in scope of the controls of `variablesForm`. -/
theorem tree_variablesForm :
    ((buildControlTree variablesForm).toOption.map fun p =>
      p.1.controls.toList.map fun c => (c.prefixedId, c.inScopeVariables)) =
      some [("t", []), ("g1", ["t"]), ("v1", ["t"]), ("a", ["t", "v1"]), ("g2", ["t"]),
        ("v2", ["t"]), ("b", ["t", "v2"])] := by
  decide +kernel

/-- What the last input of `variablesForm` sees. -/
theorem inScopeVariables_variablesForm : ∃ tree warnings,
    buildControlTree variablesForm = .ok (tree, warnings) ∧
    (∃ c chain, tree.get? 6 = some c ∧ c.prefixedId = "b" ∧ tree.Around c.parent chain ∧
      (tree.variablesAround 6 chain).filterMap Control.variableName? = ["t", "v2"]) ∧
    ∃ visits b root, variablesForm.visits = .ok visits ∧
      visits.foldlM (TreeBuilder.step variablesForm) {} = .ok b ∧ b.frames = [root] ∧
      root.control = none := by
  obtain ⟨⟨tree, warnings⟩, hbuild, hrun⟩ := ok_of_toOption_map tree_variablesForm
  have hlast := congrArg (·[6]?) hrun
  simp only [List.getElem?_map, Array.getElem?_toList] at hlast
  obtain ⟨c, hc, hseen⟩ := Option.map_eq_some_iff.1 hlast
  obtain ⟨hid, hnames⟩ := Prod.mk.inj hseen
  obtain ⟨hsees, hframes⟩ := inScopeVariables_buildControlTree hbuild
  obtain ⟨chain, haround, hinScope, -⟩ := hsees 6 c hc
  exact ⟨tree, warnings, hbuild, ⟨c, chain, hc, hid, haround, hinScope.symm.trans hnames⟩, hframes⟩

end FormEngine
