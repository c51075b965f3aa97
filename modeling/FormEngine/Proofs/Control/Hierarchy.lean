import FormEngine.Proofs.Control.Supports
import FormEngine.Proofs.Control.Surroundings
/-!
# The hierarchy of repeats as a text

The tree keeps the repeats of a form three times: as records, under the repeat around them, and as
one text, which is written on as the walk comes to them. All three say the same of the repeats that
the walk meets and of the innermost repeat that is open around each, through whatever instances of
components the walk has gone. The text can be read back if no prefixed id is empty or has a comma or a
blank in it.

Whether an entry is set apart from what is before it is told by whether the text is empty, and not by
whether it is the first entry. An entry is empty if it is that of an outermost repeat with an empty
prefixed id. So the text is short of a comma for each empty entry at its beginning, and it is the
entries with commas between them exactly if it does not begin with an empty one or has only one.
-/

namespace FormEngine

/-! ## What the records say of repeats -/

/-- What the record of a control has to do with the hierarchy of repeats. -/
structure Link where
  prefixedId : String
  isRepeat : Bool
  ancestorRepeat : Option ControlId

def Control.link (c : Control) : Link :=
  { prefixedId := c.prefixedId, isRepeat := c.isRepeat, ancestorRepeat := c.ancestorRepeat }

def ControlTree.links (t : ControlTree) : List Link := t.controls.toList.map Control.link

/-- The prefixed id of the repeat around a control. -/
def Link.outer? (l : List Link) (c : Link) : Option String :=
  c.ancestorRepeat.bind fun r => (l[r]?).map (·.prefixedId)

/-- The repeats, each with the repeat around it, by prefixed id. -/
def repeatsAmong (l : List Link) : List (String × Option String) :=
  (l.filter (·.isRepeat)).map fun c => (c.prefixedId, c.outer? l)

/-- The repeat around a control is one of those that there are. -/
def Link.Earlier (l : List Link) (c : Link) : Prop := ∀ r, c.ancestorRepeat = some r → r < l.length

theorem Link.Earlier.outer?_append {l : List Link} {c : Link} (h : c.Earlier l) (l' : List Link) :
    c.outer? (l ++ l') = c.outer? l := by
  rw [outer?, outer?]
  cases hr : c.ancestorRepeat with
  | none => rfl
  | some r => rw [Option.bind_some, Option.bind_some, List.getElem?_append_left (h r hr)]

theorem repeatsAmong_concat {l : List Link} (h : ∀ c ∈ l, c.Earlier l) {c : Link}
    (hc : c.Earlier l) :
    repeatsAmong (l ++ [c]) =
      repeatsAmong l ++ if c.isRepeat then [(c.prefixedId, c.outer? l)] else [] := by
  have hbefore : (l.filter (·.isRepeat)).map (fun c' => (c'.prefixedId, c'.outer? (l ++ [c]))) =
      repeatsAmong l := by
    refine List.map_congr_left fun c' hc' => ?_
    rw [(h c' (List.mem_of_mem_filter hc')).outer?_append]
  rw [repeatsAmong, List.filter_append, List.map_append, hbefore, List.filter_singleton]
  cases c.isRepeat with
  | true => rw [cond_true, List.map_singleton, hc.outer?_append, if_pos rfl]
  | false => rfl

/-! ## The text -/

/-- An entry of the hierarchy: a repeat, and after a blank the repeat around it. -/
def repeatEntry : String × Option String → String
  | (id, none) => id
  | (id, some outer) => id ++ " " ++ outer

/-- Another entry is written, after a comma unless nothing is there. -/
def writeEntry (text entry : String) : String :=
  text ++ (if text.isEmpty then "" else ",") ++ entry

/-- The text of the entries: those at the beginning that are empty leave no trace. -/
def hierarchyText (rs : List (String × Option String)) : String :=
  ",".intercalate ((rs.map repeatEntry).dropWhile (·.isEmpty))

theorem append_eq_empty_iff {s t : String} : s ++ t = "" ↔ s = "" ∧ t = "" := by
  rw [← String.toList_inj, String.toList_append, String.toList_empty, List.append_eq_nil_iff,
    String.toList_eq_nil_iff, String.toList_eq_nil_iff]

theorem repeatEntry_eq_empty {r : String × Option String} : repeatEntry r = "" ↔ r = ("", none) := by
  obtain ⟨id, outer⟩ := r
  cases outer with
  | none => simp [repeatEntry]
  | some outer =>
    rw [repeatEntry, append_eq_empty_iff, append_eq_empty_iff]
    simp

/-- Entries that do not begin with an empty one make a text that is not empty. -/
theorem isEmpty_intercalate_dropWhile (es : List String) :
    (",".intercalate (es.dropWhile (·.isEmpty))).isEmpty = (es.dropWhile (·.isEmpty)).isEmpty := by
  cases hdrop : es.dropWhile (·.isEmpty) with
  | nil => rfl
  | cons e rest =>
    have he : e.isEmpty = false := by
      have hhead := List.head?_dropWhile_not (·.isEmpty) es
      rw [hdrop] at hhead
      simpa using hhead
    have hne : e ≠ "" := fun h => by simp [h] at he
    rw [List.isEmpty_cons, ← Bool.not_eq_true, String.isEmpty_iff]
    cases rest with
    | nil => exact hne
    | cons e' rest =>
      rw [String.intercalate_cons_cons, append_eq_empty_iff, append_eq_empty_iff]
      exact fun h => hne h.1.1

/-- **The text is written entry by entry.** -/
theorem hierarchyText_concat (rs : List (String × Option String)) (r : String × Option String) :
    hierarchyText (rs ++ [r]) = writeEntry (hierarchyText rs) (repeatEntry r) := by
  rw [writeEntry, hierarchyText, hierarchyText, isEmpty_intercalate_dropWhile, List.map_append,
    List.map_singleton, List.dropWhile_append]
  generalize (rs.map repeatEntry).dropWhile (·.isEmpty) = es
  generalize repeatEntry r = e
  cases es with
  | nil =>
    rw [List.isEmpty_nil, if_pos rfl, if_pos rfl, String.intercalate_nil, String.empty_append,
      String.empty_append]
    by_cases he : e = ""
    · rw [he]
      rfl
    · have hkeep : [e].dropWhile (·.isEmpty) = [e] := by
        rw [List.dropWhile_cons_of_neg (by rwa [String.isEmpty_iff])]
      rw [hkeep, String.intercalate_singleton]
  | cons e' es =>
    rw [List.isEmpty_cons, if_neg Bool.false_ne_true, if_neg Bool.false_ne_true,
      String.intercalate_append_of_ne_nil (List.cons_ne_nil _ _) (List.cons_ne_nil _ _),
      String.intercalate_singleton]

/-- Entries that are left out at the beginning make the text shorter. -/
theorem length_intercalate_dropWhile (es : List String) :
    (",".intercalate (es.dropWhile (·.isEmpty))).length ≤ (",".intercalate es).length := by
  induction es with
  | nil => exact Nat.le_refl _
  | cons e es ih =>
    rw [List.dropWhile_cons]
    split
    · refine Nat.le_trans ih ?_
      cases es with
      | nil => exact Nat.zero_le _
      | cons e' es =>
        rw [String.intercalate_cons_cons, String.length_append]
        exact Nat.le_add_left _ _
    · exact Nat.le_refl _

/-- **The text is the entries with commas between them** exactly if it does not begin with an empty
entry that others follow. -/
theorem hierarchyText_eq_intercalate_iff {rs : List (String × Option String)} :
    hierarchyText rs = ",".intercalate (rs.map repeatEntry) ↔
      ∀ r rest, rs ≠ ("", none) :: r :: rest := by
  constructor
  · rintro heq r rest rfl
    have hlength := length_intercalate_dropWhile ((r :: rest).map repeatEntry)
    rw [hierarchyText, List.map_cons, repeatEntry_eq_empty.2 rfl,
      List.dropWhile_cons_of_pos (by rfl)] at heq
    rw [heq, List.map_cons, String.intercalate_cons_cons, String.length_append,
      String.length_append] at hlength
    exact absurd hlength (Nat.not_le.2 (Nat.lt_add_of_pos_left (by decide)))
  · intro hne
    match rs with
    | [] => rfl
    | [r] =>
      rw [hierarchyText, List.map_singleton, List.dropWhile_cons]
      split
      · rename_i hempty
        rw [String.intercalate_singleton, String.isEmpty_iff.1 hempty]
        rfl
      · rfl
    | r :: r' :: rest =>
      have hr : repeatEntry r ≠ "" := fun h => hne r' rest (by rw [repeatEntry_eq_empty.1 h])
      rw [hierarchyText, List.map_cons, List.dropWhile_cons_of_neg (by rwa [String.isEmpty_iff])]

/-! ## Reading the text -/

/-- What is read off an entry. -/
def readEntry (entry : List Char) : String × Option String :=
  match entry.splitOn ' ' with
  | [] => ("", none)
  | id :: rest => (.ofList id, rest.head?.map .ofList)

/-- The repeats that a text lists, each with the repeat around it. -/
def readHierarchy (text : String) : List (String × Option String) :=
  if text.isEmpty then [] else (text.toList.splitOn ',').map readEntry

/-- An id that can be told from what stands around it in the text. -/
structure Plain (id : String) : Prop where
  nonempty : id ≠ ""
  comma : ',' ∉ id.toList
  blank : ' ' ∉ id.toList

theorem readEntry_repeatEntry {r : String × Option String} (hid : Plain r.1)
    (houter : ∀ outer, r.2 = some outer → Plain outer) : readEntry (repeatEntry r).toList = r := by
  obtain ⟨id, outer⟩ := r
  cases outer with
  | none =>
    have hsplit : id.toList.splitOn ' ' = [id.toList] := by
      have hone := List.splitOn_intercalate ' ' (List.forall_mem_singleton.2 hid.blank)
        (List.cons_ne_nil id.toList [])
      rwa [List.intercalate_singleton] at hone
    rw [repeatEntry, readEntry, hsplit]
    simp
  | some outer =>
    have hsplit : (id.toList ++ [' '] ++ outer.toList).splitOn ' ' = [id.toList, outer.toList] := by
      have hblank : ∀ l ∈ [id.toList, outer.toList], ' ' ∉ l :=
        List.forall_mem_cons.2 ⟨hid.blank, List.forall_mem_singleton.2 (houter outer rfl).blank⟩
      have htwo := List.splitOn_intercalate ' ' hblank (List.cons_ne_nil _ _)
      rwa [List.intercalate_cons_cons, List.intercalate_singleton] at htwo
    rw [repeatEntry, String.toList_append, String.toList_append, readEntry,
      show " ".toList = [' '] from rfl, hsplit]
    simp

/-- **A text of plain ids can be read back.** -/
theorem readHierarchy_hierarchyText {rs : List (String × Option String)}
    (hids : ∀ r ∈ rs, Plain r.1) (houter : ∀ r ∈ rs, ∀ outer, r.2 = some outer → Plain outer) :
    readHierarchy (hierarchyText rs) = rs := by
  have hnonempty : ∀ r ∈ rs, repeatEntry r ≠ "" := fun r hr hempty =>
    (hids r hr).nonempty (congrArg Prod.fst (repeatEntry_eq_empty.1 hempty))
  have hcomma : ∀ e ∈ (rs.map repeatEntry).map String.toList, ',' ∉ e := by
    simp only [List.mem_map]
    rintro - ⟨-, ⟨⟨id, outer⟩, hr, rfl⟩, rfl⟩
    have hid := (hids _ hr).comma
    cases outer with
    | none => exact hid
    | some outer =>
      have hout := (houter _ hr outer rfl).comma
      simpa [repeatEntry] using ⟨hid, hout⟩
  cases rs with
  | nil => rfl
  | cons r rest =>
    have htext : hierarchyText (r :: rest) = ",".intercalate ((r :: rest).map repeatEntry) := by
      refine hierarchyText_eq_intercalate_iff.2 fun r' rest' heq => ?_
      exact hnonempty r List.mem_cons_self (repeatEntry_eq_empty.2 (List.cons.inj heq).1)
    have hsome : (hierarchyText (r :: rest)).isEmpty = false := by
      rw [hierarchyText, isEmpty_intercalate_dropWhile, List.map_cons, List.dropWhile_cons_of_neg]
      · rfl
      · rw [String.isEmpty_iff]
        exact hnonempty r List.mem_cons_self
    rw [readHierarchy, hsome, if_neg Bool.false_ne_true, htext, String.toList_intercalate,
      show ",".toList = [','] from rfl, List.splitOn_intercalate ',' hcomma (by simp), List.map_map,
      List.map_map]
    refine (List.map_congr_left fun r' hr' => ?_).trans (List.map_id _)
    exact readEntry_repeatEntry (hids r' hr') (houter r' hr')

/-! ## What a control adds -/

namespace ControlTree

variable {t : ControlTree}

theorem length_links (t : ControlTree) : t.links.length = t.size := by
  rw [links, List.length_map, Array.length_toList, size]

theorem outer?_links (t : ControlTree) (c : Control) :
    c.link.outer? t.links = (c.ancestorRepeat.bind t.get?).map (·.prefixedId) := by
  rw [Link.outer?, Option.map_bind]
  refine Option.bind_congr fun r _ => ?_
  rw [links, List.getElem?_map, Array.getElem?_toList, Option.map_map]
  rfl

/-- The text and the lists of children are those of the records. -/
structure ListsRepeats (t : ControlTree) : Prop where
  earlier : ∀ c ∈ t.links, c.Earlier t.links
  text : t.repeatHierarchy = hierarchyText (repeatsAmong t.links)
  children : ∀ r, t.childrenOfRepeat r =
    ((repeatsAmong t.links).filter fun entry => entry.2 == some r).map Prod.fst

/-- Changes that have nothing to do with repeats. -/
theorem ListsRepeats.congr (h : t.ListsRepeats) {t' : ControlTree} (hlinks : t'.links = t.links)
    (htext : t'.repeatHierarchy = t.repeatHierarchy)
    (hchildren : t'.repeatChildren = t.repeatChildren) : t'.ListsRepeats := by
  refine ⟨?_, ?_, fun r => ?_⟩
  · rw [hlinks]
    exact h.earlier
  · rw [htext, hlinks]
    exact h.text
  · rw [childrenOfRepeat, hchildren, hlinks]
    exact h.children r

end ControlTree

theorem link_addNested (c : Control) (r : ControlId) : (c.addNested r).link = c.link := by
  unfold Control.addNested
  split
  · rename_i nested hkind
    simp [Control.link, Control.isRepeat, hkind]
  · rfl

namespace TreeBuilder

variable {f : Form} {b b' : TreeBuilder}

theorem links_addControl (t : ControlTree) (c : Control) :
    (addControl t c).links = t.links ++ [c.link] :=
  map_controls_addControl link_addNested t c

/-- A repeat is written into the text and listed under the repeat around it; other controls are
not. -/
theorem repeats_addControl (t : ControlTree) (c : Control) :
    (addControl t c).repeatHierarchy =
        (if c.isRepeat then
          writeEntry t.repeatHierarchy (repeatEntry (c.prefixedId, c.link.outer? t.links))
        else t.repeatHierarchy) ∧
      ∀ r, (addControl t c).childrenOfRepeat r = t.childrenOfRepeat r ++
        if c.isRepeat && c.link.outer? t.links == some r then [c.prefixedId] else [] := by
  show (indexKind t c).repeatHierarchy = _ ∧ ∀ r, (indexKind t c).childrenOfRepeat r = _
  rw [ControlTree.outer?_links]
  cases hkind : c.kind <;> simp only [indexKind, Control.isRepeat, hkind]
  case repetition =>
    unfold indexRepeat
    cases c.ancestorRepeat.bind t.get? with
    | none => exact ⟨rfl, fun r => (List.append_nil _).symm⟩
    | some outer =>
      refine ⟨?_, fun r => ?_⟩
      · simp only [Option.map_some, repeatEntry, writeEntry, String.append_assoc, if_true]
      · show ((pushUnder outer.prefixedId c.prefixedId t.repeatChildren).lookup r).getD [] = _
        rw [lookup_pushUnder, Option.map_some, Bool.true_and, Option.some_beq_some]
        by_cases hr : r = outer.prefixedId
        · subst hr
          rw [if_pos rfl, if_pos (beq_self_eq_true _)]
          rfl
        · rw [if_neg hr, if_neg (by rw [beq_iff_eq]; exact Ne.symm hr), List.append_nil]
          rfl
  all_goals exact ⟨rfl, fun r => (List.append_nil _).symm⟩

/-- **A control that joins the tree is told by all three.** -/
theorem listsRepeats_addControl {t : ControlTree} (h : t.ListsRepeats) {c : Control}
    (hc : c.link.Earlier t.links) : (addControl t c).ListsRepeats := by
  obtain ⟨htext, hchildren⟩ := repeats_addControl t c
  have hamong := repeatsAmong_concat h.earlier hc
  have hlinks := links_addControl t c
  refine ⟨?_, ?_, fun r => ?_⟩
  · intro c' hc' r hr
    rw [hlinks, List.length_append]
    refine Nat.lt_add_right _ ?_
    rw [hlinks, List.mem_append, List.mem_singleton] at hc'
    rcases hc' with hc' | rfl
    · exact h.earlier c' hc' r hr
    · exact hc r hr
  · rw [htext, hlinks, hamong, h.text]
    show (if c.isRepeat = true then _ else _) = hierarchyText (_ ++ if c.isRepeat = true then _ else _)
    cases c.isRepeat with
    | true => exact (hierarchyText_concat _ _).symm
    | false => exact congrArg hierarchyText (List.append_nil _).symm
  · rw [hchildren, hlinks, hamong, h.children, List.filter_append, List.map_append]
    congr 1
    show _ = List.map _ (List.filter _ (if c.isRepeat = true then _ else _))
    cases c.isRepeat with
    | false => rfl
    | true =>
      rw [if_pos rfl, List.filter_singleton, Bool.true_and]
      show (if (c.link.outer? t.links == some r) = true then [c.prefixedId] else []) = _
      cases c.link.outer? t.links == some r <;> rfl

theorem listsRepeats_modify_setSupport (t : ControlTree) (i : ControlId) (s : Support)
    (h : t.ListsRepeats) : (t.modify i fun c => c.setSupport s).ListsRepeats :=
  h.congr (map_modify_same fun _ => rfl) rfl rfl

/-- The repeat around a control that is met has come before it. -/
theorem listsRepeats_start {c : Control} {t : ControlTree} (h : b.tree.ListsRepeats)
    (htree : t = addControl b.tree c) (hnests : t.Nests) : t.ListsRepeats := by
  rw [htree] at hnests ⊢
  refine listsRepeats_addControl h fun r hr => ?_
  have hlast : (addControl b.tree c).standings[b.tree.size]? = some c.standing := by
    rw [standings_addControl, ← ControlTree.length_standings, List.getElem?_concat_length]
  rw [ControlTree.length_links]
  exact (hnests.ancestorRepeat (hnests.fits _ _ hlast) hr).1

theorem listsRepeats_step {visits : List Visit} (h : b.tree.ListsRepeats)
    (hnested : Nested f visits b) {v : Visit} (hv : v.Proper f)
    (hstep : step f b v = .ok b') : b'.tree.ListsRepeats := by
  have hnests := (hnested.step hv hstep).nests
  cases v with
  | enter e k =>
    obtain ⟨b₁, hb₁, hstep⟩ := ok_of_bind hstep
    obtain rfl := Except.ok.inj hstep
    obtain ⟨c, -, htree⟩ := tree_start hb₁
    exact listsRepeats_start h htree hnests
  | leaf e k =>
    obtain ⟨c, -, htree⟩ := tree_start hstep
    exact listsRepeats_start h htree hnests
  | leave =>
    obtain rfl := Except.ok.inj hstep
    exact h
  | support e => exact (step_support_keeps listsRepeats_modify_setSupport hstep h).1

end TreeBuilder

/-- **The text and the lists of children of a finished tree are those of its records.** -/
theorem listsRepeats_buildControlTree {f : Form} {tree : ControlTree} {warnings : List Warning}
    (h : buildControlTree f = .ok (tree, warnings)) : tree.ListsRepeats := by
  obtain ⟨visits, b, hvisits, hrun, hsettled⟩ := exists_run h
  have hproper := proper_of_visitsUnder hvisits
  refine TreeBuilder.settled_keeps TreeBuilder.listsRepeats_modify_setSupport hsettled ?_
  have hboth : (∃ vs, TreeBuilder.Nested f vs b) ∧ b.tree.ListsRepeats := by
    refine foldlM_invariant
      (P := fun b : TreeBuilder => (∃ vs, TreeBuilder.Nested f vs b) ∧ b.tree.ListsRepeats) hrun
      ⟨⟨[], TreeBuilder.nested_empty f⟩, ?_⟩ fun v hv b₁ b₂ hb₁ hstep => ?_
    · exact ⟨fun c hc => by simp [ControlTree.links] at hc, rfl, fun r => rfl⟩
    · obtain ⟨⟨vs, hnested⟩, hlists⟩ := hb₁
      exact ⟨⟨_, hnested.step (hproper v hv) hstep⟩,
        TreeBuilder.listsRepeats_step hlists hnested (hproper v hv) hstep⟩
  exact hboth.2

/-! ## The repeats that the walk meets -/

/-- The repeats that visits meet, each with the innermost repeat that is open around it, by prefixed
id. -/
def Form.repeatsMet (f : Form) (visits : List Visit) : List (String × Option String) :=
  ((Visit.around [] visits).filter fun v => f.isRepeat v.1).map fun v =>
    ((f.prefixedId? v.1).getD "", (v.2.find? f.isRepeat).map fun e => (f.prefixedId? e).getD "")

namespace ControlTree

variable {f : Form} {t : ControlTree}

/-- Each control is a repeat if its element is, and has the prefixed id of its element. -/
def OfElements (f : Form) (t : ControlTree) : Prop :=
  ∀ i c, t.get? i = some c →
    c.isRepeat = f.isRepeat c.element ∧ f.prefixedId? c.element = some c.prefixedId

/-- The innermost repeat around a control is the one that was open. -/
theorem Nests.outer?_eq (hnests : t.Nests) (helements : t.OfElements f) {i : ControlId} {c : Control}
    (hc : t.get? i = some c) {es : List ElementRef} (habove : Above t.standings c.parent es) :
    c.link.outer? t.links = (es.find? f.isRepeat).map fun e => (f.prefixedId? e).getD "" := by
  obtain ⟨chain, haround, -, hancestor, -⟩ := hnests.exists_around hc
  have hfind : (chain.map Control.element).find? f.isRepeat =
      (chain.find? Control.isRepeat).map Control.element := by
    rw [← List.head?_filter, ← List.head?_filter, List.filter_map, ← List.head?_map]
    refine congrArg (fun rs => (rs.map Control.element).head?) (List.filter_congr fun r hr => ?_)
    obtain ⟨j, hj⟩ := haround.exists_get? hr
    exact (helements j r hj).1.symm
  rw [← haround.elements habove, hfind, outer?_links, hancestor]
  cases hfound : chain.find? Control.isRepeat with
  | none => rfl
  | some r =>
    obtain ⟨j, hj⟩ := haround.exists_get? (List.mem_of_find?_eq_some hfound)
    have hid : r.id = j := (hnests.get? hj).id_eq
    rw [Option.map_some, Option.bind_some, hid, hj, Option.map_some, Option.map_some,
      Option.map_some, (helements j r hj).2, Option.getD_some]

/-- The repeats among some controls are those among the elements that the walk met for them. -/
theorem Nests.filter_isRepeat_eq (hnests : t.Nests) (helements : t.OfElements f)
    {cs : List Control} {vs : List (ElementRef × List ElementRef)}
    (hcs : ∀ c ∈ cs, ∃ i, t.get? i = some c)
    (hmet : List.Forall₂ (Standing.Met t.standings) (cs.map Control.standing) vs) :
    ((cs.map Control.link).filter (·.isRepeat)).map (fun c => (c.prefixedId, c.outer? t.links)) =
      (vs.filter fun v => f.isRepeat v.1).map fun v => ((f.prefixedId? v.1).getD "",
        (v.2.find? f.isRepeat).map fun e => (f.prefixedId? e).getD "") := by
  induction cs generalizing vs with
  | nil =>
    cases hmet
    rfl
  | cons c cs ih =>
    rw [List.map_cons] at hmet
    cases hmet with
    | @cons _ v _ vs hv hmet =>
      obtain ⟨⟨i, hc⟩, hcs⟩ := List.forall_mem_cons.1 hcs
      obtain ⟨hrepeat, hid⟩ := helements i c hc
      have helement : c.element = v.1 := hv.element
      have houter := hnests.outer?_eq helements hc hv.above
      rw [helement] at hrepeat hid
      rw [List.map_cons, List.filter_cons, List.filter_cons, ← hrepeat]
      show (if c.isRepeat = true then _ else _ : List Link).map _ =
        (if c.isRepeat = true then _ else _ : List _).map _
      cases c.isRepeat with
      | false => exact ih hcs hmet
      | true =>
        rw [if_pos rfl, if_pos rfl, List.map_cons, List.map_cons, ih hcs hmet, houter, hid]
        rfl

/-- **The repeats among the records are those that the walk meets.** -/
theorem Nests.repeatsAmong_eq (hnests : t.Nests) (helements : t.OfElements f) {visits : List Visit}
    (hmet : List.Forall₂ (Standing.Met t.standings) t.standings (Visit.around [] visits)) :
    repeatsAmong t.links = f.repeatsMet visits := by
  have hcontrols : ∀ c ∈ t.controls.toList, ∃ i, t.get? i = some c := fun c hc => by
    obtain ⟨i, hi⟩ := List.getElem?_of_mem hc
    exact ⟨i, by rwa [Array.getElem?_toList] at hi⟩
  exact hnests.filter_isRepeat_eq helements hcontrols hmet

/-- The tree tells the repeats `rs`, each with the repeat around it: by its records, as a text, and
by the children of each. -/
structure Tells (t : ControlTree) (rs : List (String × Option String)) : Prop where
  records : t.repeats.map (·.prefixedId) = rs.map Prod.fst
  text : t.repeatHierarchy = hierarchyText rs
  /-- It is the entries with commas between them unless it begins with an empty one. -/
  joined : t.repeatHierarchy = ",".intercalate (rs.map repeatEntry) ↔
    ∀ r rest, rs ≠ ("", none) :: r :: rest
  children : ∀ r, t.childrenOfRepeat r = (rs.filter fun entry => entry.2 == some r).map Prod.fst
  /-- With plain ids it can be read back. -/
  read : (∀ id ∈ t.prefixedIds, Plain id) → readHierarchy t.repeatHierarchy = rs
  /-- With different ids no repeat is told twice. -/
  nodup : t.prefixedIds.Nodup → (rs.map Prod.fst).Nodup

theorem map_fst_repeatsAmong (t : ControlTree) :
    (repeatsAmong t.links).map Prod.fst = t.repeats.map (·.prefixedId) := by
  rw [repeatsAmong, links, List.filter_map, List.map_map, List.map_map]
  rfl

theorem ListsRepeats.tells (h : t.ListsRepeats) : t.Tells (repeatsAmong t.links) := by
  have hrecords := t.map_fst_repeatsAmong
  refine ⟨hrecords.symm, h.text, ?_, h.children, fun hplain => ?_, fun hnodup => ?_⟩
  · rw [h.text]
    exact hierarchyText_eq_intercalate_iff
  · rw [h.text]
    rw [prefixedIds_eq] at hplain
    have hlink : ∀ c ∈ t.links, Plain c.prefixedId := fun c hc => by
      obtain ⟨c', hc', rfl⟩ := List.mem_map.1 hc
      exact hplain _ (List.mem_map_of_mem hc')
    refine readHierarchy_hierarchyText (fun r hr => ?_) fun r hr outer houter => ?_
    · obtain ⟨c, hc, rfl⟩ := List.mem_map.1 hr
      exact hlink c (List.mem_of_mem_filter hc)
    · obtain ⟨c, -, rfl⟩ := List.mem_map.1 hr
      obtain ⟨j, -, houter⟩ := Option.bind_eq_some_iff.1 houter
      obtain ⟨q, hq, rfl⟩ := Option.map_eq_some_iff.1 houter
      exact hlink q (List.mem_of_getElem? hq)
  · rw [hrecords]
    rw [prefixedIds_eq] at hnodup
    exact hnodup.sublist (List.filter_sublist.map _)

end ControlTree

/-- **What a tree tells of the repeats of its form.** On every form whose control tree is built, the
records, the text and the children of each repeat tell the repeats that the walk meets, in its order,
each with the innermost repeat that is open around it. The text is the entries with commas between
them exactly unless the first repeat has an empty prefixed id and others follow, and it can be read
back if no prefixed id is empty or has a comma or a blank. -/
theorem tells_buildControlTree {f : Form} {tree : ControlTree} {warnings : List Warning}
    (h : buildControlTree f = .ok (tree, warnings)) :
    ∃ visits, f.visits = .ok visits ∧ tree.Tells (f.repeatsMet visits) := by
  obtain ⟨visits, hvisits, hmet⟩ := met_buildControlTree h
  obtain ⟨-, -, hnests, -, hnamed⟩ := nests_buildControlTree h
  obtain ⟨-, -, -, hplaced⟩ := places_buildControlTree h
  have hheld := held_buildControlTree h f.descends_true trivial
  have helements : tree.OfElements f := fun i c hc =>
    ⟨hheld.isRepeat_eq hnamed hc, prefixedId?_element hplaced hc⟩
  refine ⟨visits, hvisits, ?_⟩
  rw [← hnests.repeatsAmong_eq helements hmet]
  exact (listsRepeats_buildControlTree h).tells

/-- The text of the repeat in a repeat of `repeatForm`, and what the walk meets. -/
theorem hierarchy_repeatForm :
    ((buildControlTree repeatForm).toOption.map fun p => (p.1.prefixedIds, p.1.repeatHierarchy)) =
        some (["r1", "a", "g", "r2", "b"], "r1,r2 r1") ∧
      repeatForm.visits.toOption.map repeatForm.repeatsMet =
        some [("r1", none), ("r2", some "r1")] := by
  decide +kernel

/-- What the tree of `repeatForm` tells of its repeats. -/
theorem tells_repeatForm : ∃ tree warnings, buildControlTree repeatForm = .ok (tree, warnings) ∧
    tree.Tells [("r1", none), ("r2", some "r1")] ∧ tree.repeatHierarchy = "r1,r2 r1" ∧
    readHierarchy "r1,r2 r1" = [("r1", none), ("r2", some "r1")] := by
  obtain ⟨⟨tree, warnings⟩, hbuild, hrun⟩ := ok_of_toOption_map hierarchy_repeatForm.1
  obtain ⟨visits, hvisits, hmet⟩ := ok_of_toOption_map hierarchy_repeatForm.2
  obtain ⟨hids, htext⟩ := Prod.mk.inj hrun
  obtain ⟨visits', hvisits', htells⟩ := tells_buildControlTree hbuild
  obtain rfl := Except.ok.inj (hvisits.symm.trans hvisits')
  rw [hmet] at htells
  have hplain : ∀ id ∈ tree.prefixedIds, Plain id := by
    intro id hid
    rw [show tree.prefixedIds = _ from hids] at hid
    simp only [List.mem_cons, List.not_mem_nil, or_false] at hid
    rcases hid with rfl | rfl | rfl | rfl | rfl <;> exact ⟨by decide, by decide, by decide⟩
  have hread := htells.read hplain
  rw [show tree.repeatHierarchy = _ from htext] at hread
  exact ⟨tree, warnings, hbuild, htells, htext, hread⟩

/-- Two repeats at top level, the first of which has an empty id. -/
def unnamedRepeatForm : Form :=
  { controls :=
      { nodes :=
          #[{ kind := .element (.plain "controls") [], children := [1, 2] },
            { kind := .element { nsPrefix := "xf", uri := Namespace.xforms, localName := "repeat" }
                [⟨.plain "id", ""⟩]
              parent := some 0 },
            { kind := .element { nsPrefix := "xf", uri := Namespace.xforms, localName := "repeat" }
                [⟨.plain "id", "b"⟩]
              parent := some 0 }]
        root := 0 }
    scopes := {} }

theorem hierarchy_unnamedRepeatForm :
    (buildControlTree unnamedRepeatForm).toOption.map (fun p => p.1.repeatHierarchy) = some "b" ∧
      unnamedRepeatForm.visits.toOption.map unnamedRepeatForm.repeatsMet =
        some [("", none), ("b", none)] := by
  decide +kernel

/-- **The text is not always the entries with commas between them**: the comma after an empty first
entry is missing. -/
theorem not_hierarchy_joined : ¬∀ (f : Form) (tree : ControlTree) (warnings : List Warning)
    (visits : List Visit), buildControlTree f = .ok (tree, warnings) → f.visits = .ok visits →
    tree.repeatHierarchy = ",".intercalate ((f.repeatsMet visits).map repeatEntry) := by
  intro hall
  obtain ⟨⟨tree, warnings⟩, hbuild, htext⟩ := ok_of_toOption_map hierarchy_unnamedRepeatForm.1
  obtain ⟨visits, hvisits, hmet⟩ := ok_of_toOption_map hierarchy_unnamedRepeatForm.2
  have hjoined := hall _ tree warnings visits hbuild hvisits
  rw [hmet, show tree.repeatHierarchy = "b" from htext] at hjoined
  exact absurd hjoined (by decide)

end FormEngine
