import FormEngine.Proofs.Control.Nesting
import Mathlib.Data.List.TakeWhile
/-!
# The controls around a control

The parents of the controls make a forest: the parent of a control is an earlier container or
component instance, and the level of a control is the number of controls around it. What the tree
keeps besides the parents can be read off them: the nearest repeat around a control, the repeats
directly inside a repeat, and the way from repeat to repeat outwards, which is the way from parent to
parent with everything but the repeats left out. It ends before the fuel does, however much there is.
-/

namespace FormEngine

namespace ControlTree

variable {t : ControlTree}

/-- The controls around a place, from its parent outwards to a control that has none. -/
abbrev Around (t : ControlTree) : Option ControlId → List Control → Prop :=
  Outwards t.get? Control.parent

/-- How the control with number `i` is placed among the others. -/
structure Sits (t : ControlTree) (i : ControlId) (c : Control) : Prop where
  id : c.id = i
  position : c.position = i + 1
  top : c.parent = none → c.level = 0
  under : ∀ p, c.parent = some p → p < i ∧ ∃ q, t.get? p = some q ∧
    (q.isContainer = true ∨ q.kind = .component) ∧ c.level = q.level + 1
  nested : ∀ ids, c.kind = .repetition ids →
    ids = (t.controls.toList.filter fun r => r.isRepeat && r.ancestorRepeat == some i).map (·.id)
  around : ∃ chain, t.Around c.parent chain ∧
    c.ancestorRepeat = (chain.find? Control.isRepeat).map (·.id) ∧
    (∀ fuel, t.size ≤ fuel →
      t.repeatChainWithin fuel c.ancestorRepeat = chain.filter Control.isRepeat) ∧
    ∀ stop, t.ancestorRepeats c stop =
      ((chain.filter Control.isRepeat).map (·.prefixedId)).takeWhile fun id => some id != stop

theorem Nests.get? (h : t.Nests) {i : ControlId} {c : Control} (hc : t.get? i = some c) :
    c.standing.Fits t.standings i :=
  h.fits i c.standing (getElem?_standings_of_get? hc)

theorem exists_of_standing {i : ControlId} {s : Standing} (h : t.standings[i]? = some s) :
    ∃ c, t.get? i = some c ∧ c.standing = s := by
  rwa [getElem?_standings, Option.map_eq_some_iff] at h

/-- The way outwards from a control has at most as many controls as stand before it, and the way from
repeat to repeat is the repeats on it. By induction on the number of the control: a parent comes
before its children. -/
theorem Nests.exists_around (h : t.Nests) {i : ControlId} {c : Control} (hc : t.get? i = some c) :
    ∃ chain, t.Around c.parent chain ∧ chain.length ≤ i ∧
      c.ancestorRepeat = (chain.find? Control.isRepeat).map (·.id) ∧
      ∀ fuel, chain.length ≤ fuel →
        t.repeatChainWithin fuel c.ancestorRepeat = chain.filter Control.isRepeat := by
  induction i using Nat.strongRecOn generalizing c with
  | _ i ih =>
    cases h.get? hc with
    | top hid hparent hlevel hrepeat =>
      change c.parent = none at hparent
      change c.ancestorRepeat = none at hrepeat
      rw [hparent, hrepeat]
      refine ⟨[], .top, Nat.zero_le i, rfl, fun fuel _ => ?_⟩
      cases fuel <;> rfl
    | @under p s hid hparent hlt hs hholds hlevel hrepeat =>
      obtain ⟨q, hq, rfl⟩ := exists_of_standing hs
      obtain ⟨chain, haround, hlength, hancestor, hchain⟩ := ih p hlt hq
      change c.parent = some p at hparent
      change c.ancestorRepeat = if q.isRepeat then some p else q.ancestorRepeat at hrepeat
      have hqid : q.id = p := (h.get? hq).id_eq
      refine ⟨q :: chain, hparent ▸ .under hq haround, ?_, ?_, ?_⟩
      · rw [List.length_cons]
        exact Nat.lt_of_le_of_lt hlength hlt
      · cases hqr : q.isRepeat with
        | true => rw [hrepeat, if_pos hqr, List.find?_cons_of_pos hqr, Option.map_some, hqid]
        | false =>
          rw [hrepeat, hqr, if_neg Bool.false_ne_true, List.find?_cons_of_neg (by rw [hqr]; simp)]
          exact hancestor
      · intro fuel hfuel
        obtain ⟨fuel, rfl⟩ : ∃ n, fuel = n + 1 :=
          Nat.exists_eq_succ_of_ne_zero (Nat.ne_of_gt (Nat.lt_of_lt_of_le (Nat.succ_pos _) hfuel))
        have hinner := Nat.le_of_succ_le_succ hfuel
        cases hqr : q.isRepeat with
        | true =>
          rw [hrepeat, if_pos hqr, repeatChainWithin, List.filter_cons_of_pos hqr]
          simp only [hq]
          rw [hchain fuel hinner]
        | false =>
          rw [hrepeat, hqr, if_neg Bool.false_ne_true, List.filter_cons_of_neg (by rw [hqr]; simp)]
          exact hchain _ (Nat.le_succ_of_le hinner)

theorem map_id_filter_standings (t : ControlTree) (p : Standing → Bool) :
    (t.standings.filter p).map (·.id) =
      (t.controls.toList.filter fun c => p c.standing).map (·.id) := by
  rw [standings, List.filter_map, List.map_map]
  rfl

theorem Nests.sits (h : t.Nests) {i : ControlId} {c : Control} (hc : t.get? i = some c) :
    t.Sits i c := by
  have hfits := h.get? hc
  have hid : c.id = i := hfits.id_eq
  have hlt : i < t.size := (Array.getElem?_eq_some_iff.1 hc).1
  obtain ⟨chain, haround, hlength, hancestor, hchain⟩ := h.exists_around hc
  have hrepeats : ∀ fuel, t.size ≤ fuel →
      t.repeatChainWithin fuel c.ancestorRepeat = chain.filter Control.isRepeat :=
    fun fuel hfuel => hchain fuel (Nat.le_trans (Nat.le_trans hlength (Nat.le_of_lt hlt)) hfuel)
  refine ⟨hid, by rw [Control.position, hid], ?_, ?_, ?_, chain, haround, hancestor, hrepeats, ?_⟩
  · intro hparent
    cases hfits with
    | top _ _ hlevel _ => exact hlevel
    | under _ hparent' =>
      change c.parent = _ at hparent'
      rw [hparent] at hparent'
      contradiction
  · intro p hp
    cases hfits with
    | top _ hparent =>
      change c.parent = none at hparent
      rw [hp] at hparent
      contradiction
    | @under p' s _ hparent hlt hs hholds hlevel _ =>
      change c.parent = some p' at hparent
      obtain rfl := Option.some.inj (hp.symm.trans hparent)
      obtain ⟨q, hq, rfl⟩ := exists_of_standing hs
      exact ⟨hlt, q, hq, hholds.imp_right beq_iff_eq.1, hlevel⟩
  · intro ids hkind
    have hrepeat : c.isRepeat = true := by rw [Control.isRepeat, hkind]
    have hnested : c.nested = ids := by rw [Control.nested, hkind]
    have hlisted := h.nested i c.standing c.nested (getElem?_standings_of_get? hc)
      (by rw [getElem?_nestings, hc]; rfl) hrepeat
    rw [← hnested, hlisted, repeatsIn, map_id_filter_standings]
    rfl
  · intro stop
    rw [ancestorRepeats, repeatChain, hrepeats t.size (Nat.le_refl _)]

/-- Without a stop, the repeats around a control are all those among its parents. -/
theorem Sits.ancestorRepeats_none {i : ControlId} {c : Control} (h : t.Sits i c) :
    ∃ chain, t.Around c.parent chain ∧
      t.ancestorRepeats c none = (chain.filter Control.isRepeat).map (·.prefixedId) := by
  obtain ⟨chain, haround, -, -, hrepeats⟩ := h.around
  refine ⟨chain, haround, (hrepeats none).trans ?_⟩
  exact List.takeWhile_eq_self_iff.2 fun _ _ => rfl

end ControlTree

/-- **The controls of a form nest.** They are numbered in the order of the walk, and each sits among
the others as its parents say: the levels count the parents, the nearest repeat around a control is
the innermost one among its parents, a repeat lists the repeats of which it is the nearest, and the
repeats around a control are those among its parents, innermost first. Each local name has the
controls of that name, in the order of the walk. -/
theorem controls_nest {f : Form} {tree : ControlTree} {warnings : List Warning}
    (h : buildControlTree f = .ok (tree, warnings)) :
    (∀ i c, tree.get? i = some c → tree.Sits i c) ∧ (tree.byName.map Prod.fst).Nodup ∧
      ∀ name, tree.byName.lookup name =
        let ids := (tree.controls.toList.filter fun c => c.name.localName == name).map (·.id)
        if ids = [] then none else some ids := by
  obtain ⟨-, -, hnests, -, -⟩ := nests_buildControlTree h
  refine ⟨fun i c hc => hnests.sits hc, hnests.names, fun name => ?_⟩
  rw [hnests.groups, namedIn, ControlTree.map_id_filter_standings]
  rfl

/-- A repeat with an input and, in a group, another repeat with an input. -/
def repeatForm : Form :=
  { controls :=
      { nodes :=
          #[{ kind := .element (.plain "controls") [], children := [1] },
            { kind := .element { nsPrefix := "xf", uri := Namespace.xforms, localName := "repeat" }
                [⟨.plain "id", "r1"⟩]
              parent := some 0, children := [2, 3] },
            { kind := .element { nsPrefix := "xf", uri := Namespace.xforms, localName := "input" }
                [⟨.plain "id", "a"⟩]
              parent := some 1 },
            { kind := .element { nsPrefix := "xf", uri := Namespace.xforms, localName := "group" }
                [⟨.plain "id", "g"⟩]
              parent := some 1, children := [4] },
            { kind := .element { nsPrefix := "xf", uri := Namespace.xforms, localName := "repeat" }
                [⟨.plain "id", "r2"⟩]
              parent := some 3, children := [5] },
            { kind := .element { nsPrefix := "xf", uri := Namespace.xforms, localName := "input" }
                [⟨.plain "id", "b"⟩]
              parent := some 4 }]
        root := 0 }
    scopes := {} }

/-- The parents and the nearest repeats in the tree of `repeatForm`, and the repeats around the last
control. -/
theorem tree_repeatForm :
    ((buildControlTree repeatForm).toOption.map fun p =>
      (p.1.controls.toList.map fun c => (c.prefixedId, c.parent, c.ancestorRepeat),
        (p.1.get? 4).map fun c => p.1.ancestorRepeats c none)) =
      some ([("r1", none, none), ("a", some 0, some 0), ("g", some 0, some 0),
        ("r2", some 2, some 0), ("b", some 3, some 3)], some ["r2", "r1"]) := by
  decide +kernel

/-- The controls of `repeatForm`. -/
theorem controls_nest_repeatForm : ∃ tree warnings,
    buildControlTree repeatForm = .ok (tree, warnings) ∧
    tree.controls.toList.map (fun c => (c.prefixedId, c.parent, c.ancestorRepeat)) =
      [("r1", none, none), ("a", some 0, some 0), ("g", some 0, some 0), ("r2", some 2, some 0),
        ("b", some 3, some 3)] ∧
    (∃ c, tree.get? 4 = some c ∧ tree.Sits 4 c ∧ tree.ancestorRepeats c none = ["r2", "r1"]) ∧
    tree.byName.lookup "repeat" =
      let ids := (tree.controls.toList.filter fun c => c.name.localName == "repeat").map (·.id)
      if ids = [] then none else some ids := by
  have hrun := tree_repeatForm
  cases hbuild : buildControlTree repeatForm with
  | error e =>
    rw [hbuild] at hrun
    contradiction
  | ok p =>
    obtain ⟨tree, warnings⟩ := p
    rw [hbuild] at hrun
    simp only [Except.toOption, Option.map_some, Option.some.injEq, Prod.mk.injEq] at hrun
    obtain ⟨hcontrols, hrepeats⟩ := hrun
    obtain ⟨c, hc, hchain⟩ := Option.map_eq_some_iff.1 hrepeats
    obtain ⟨hsits, -, hnames⟩ := controls_nest hbuild
    exact ⟨tree, warnings, rfl, hcontrols, ⟨c, hc, hsits 4 c hc, hchain⟩, hnames "repeat"⟩

end FormEngine
