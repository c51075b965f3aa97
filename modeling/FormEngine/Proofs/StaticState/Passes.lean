import FormEngine.Proofs.Control.Delivered
import FormEngine.StaticState.Analysis
/-!
# The control tree that an analysis returns

When the control tree is built, an analysis still goes over it: scripts are collected beside the
controls, and triggers get classes if the form supports work without a connection. The records stay
as the walk has made them, but for their classes, and so does every answer that no class has a part in.
-/

namespace FormEngine

/-- The record without its classes. -/
def Control.unclassed (c : Control) : Control := { c with classes := [] }

namespace ControlTree

/-- The trees have the same controls, which may differ in their classes. No script is lost from the one
to the other. -/
structure Tagged (t t' : ControlTree) : Prop where
  byPrefixedId : t'.byPrefixedId = t.byPrefixedId
  byName : t'.byName = t.byName
  controls : t'.controls.toList.map Control.unclassed = t.controls.toList.map Control.unclassed
  scripts : ∀ key ∈ t.scripts.map Prod.fst, key ∈ t'.scripts.map Prod.fst

variable {t t' t'' : ControlTree}

namespace Tagged

theorem refl (t : ControlTree) : Tagged t t := ⟨rfl, rfl, rfl, fun _ h => h⟩

theorem trans (h : Tagged t t') (h' : Tagged t' t'') : Tagged t t'' :=
  ⟨h'.byPrefixedId.trans h.byPrefixedId, h'.byName.trans h.byName, h'.controls.trans h.controls,
    fun key hkey => h'.scripts key (h.scripts key hkey)⟩

theorem foldl {α : Type} {g : ControlTree → α → ControlTree} (hg : ∀ t a, Tagged t (g t a))
    (as : List α) (t : ControlTree) : Tagged t (as.foldl g t) :=
  List.foldlRecOn (motive := Tagged t) as _ (.refl t) fun _ h a _ => h.trans (hg _ a)

/-- What no class has a part in is the same of all controls. -/
theorem map {β : Type} {g : Control → β} (h : Tagged t t') (hg : ∀ c, g c.unclassed = g c) :
    t'.controls.toList.map g = t.controls.toList.map g := by
  have hmap : ∀ cs : List Control, cs.map g = (cs.map Control.unclassed).map g := by
    intro cs
    rw [List.map_map]
    exact List.map_congr_left fun c _ => (hg c).symm
  rw [hmap, h.controls, ← hmap]

/-- What no class has a part in is the same of one control. -/
theorem map_get? {β : Type} {g : Control → β} (h : Tagged t t') (hg : ∀ c, g c.unclassed = g c)
    (i : ControlId) : (t'.get? i).map g = (t.get? i).map g := by
  have hmap := congrArg (·[i]?) (h.map hg)
  simp only [List.getElem?_map, Array.getElem?_toList] at hmap
  exact hmap

theorem standings (h : Tagged t t') : t'.standings = t.standings := h.map fun _ => rfl

theorem places (h : Tagged t t') : t'.places = t.places := h.map fun _ => rfl

theorem prefixedIds (h : Tagged t t') : t'.prefixedIds = t.prefixedIds := by
  rw [prefixedIds_eq, prefixedIds_eq]
  exact h.map fun _ => rfl

theorem id? (h : Tagged t t') (id : String) : t'.id? id = t.id? id := by
  rw [ControlTree.id?, ControlTree.id?, h.byPrefixedId]

theorem support? (h : Tagged t t') (id : String) (k : SupportKind) :
    t'.support? id k = t.support? id k := by
  have hsame : ∀ i, (t'.get? i).bind (·.support? k) = (t.get? i).bind (·.support? k) := by
    intro i
    have hmap := h.map_get? (g := (·.support? k)) (fun _ => rfl) i
    have hjoin : ∀ o : Option Control, o.bind (·.support? k) = (o.map (·.support? k)).join := by
      intro o
      cases o <;> rfl
    rw [hjoin, hmap, ← hjoin]
  rw [ControlTree.support?, ControlTree.support?, control?, control?, h.id?]
  cases t.id? id with
  | none => rfl
  | some i => exact hsame i

theorem nests (h : Tagged t t') (ht : t.Nests) : t'.Nests :=
  ht.congr h.standings (h.map fun _ => rfl) h.byName

theorem keyed (h : Tagged t t') (ht : t.Keyed) : t'.Keyed := by
  rw [Keyed, h.byPrefixedId, h.places]
  exact ht

theorem located (h : Tagged t t') (ht : t.Located) : t'.Located := by
  intro id i hi
  rw [h.id?] at hi
  obtain ⟨c, hc, hid⟩ := ht id i hi
  have hmap := h.map_get? (g := (·.prefixedId)) (fun _ => rfl) i
  rw [hc, Option.map_some, hid, Option.map_eq_some_iff] at hmap
  exact hmap

end Tagged

/-! ## The passes -/

/-- One script is collected under its prefixed id. -/
def addScript (d : Document) (prefixOf : NodeId → String) (t : ControlTree) (n : NodeId) :
    ControlTree :=
  match d.staticId? n with
  | none => t
  | some id => { t with scripts := Json.assign (prefixOf n ++ id) (d.textContent n) t.scripts }

theorem tagged_addScript (d : Document) (prefixOf : NodeId → String) (t : ControlTree) (n : NodeId) :
    Tagged t (addScript d prefixOf t n) := by
  unfold addScript
  split
  · exact .refl t
  · refine ⟨rfl, rfl, rfl, fun key hkey => ?_⟩
    show key ∈ (Json.assign _ _ _).map Prod.fst
    rw [Json.keys_assign]
    split
    · exact hkey
    · exact List.mem_append_left _ hkey

theorem tagged_addScripts (t : ControlTree) (d : Document) (prefixOf : NodeId → String) :
    Tagged t (t.addScripts d prefixOf) := Tagged.foldl (tagged_addScript d prefixOf) _ t

theorem tagged_tagTrigger (f : Form) (action : QName) (cls : String) (t : ControlTree)
    (e : ElementRef) : Tagged t (tagTrigger f action cls t e) := by
  unfold tagTrigger
  split
  · exact .refl t
  · split
    · exact .refl t
    · rename_i i _
      have hcontrols : (t.controls.modify i fun c => c.addClass cls).toList.map Control.unclassed =
          t.controls.toList.map Control.unclassed := map_modify_same fun _ => rfl
      dsimp only
      split <;> exact ⟨rfl, rfl, hcontrols, fun _ h => h⟩

theorem tagged_classifyOffline (t : ControlTree) (f : Form) (models : List Document) :
    Tagged t (t.classifyOffline f models) := by
  have htag : ∀ (t : ControlTree) (tree : TreeRef), Tagged t (tagTriggers f t tree) := by
    intro t tree
    refine Tagged.foldl (fun t a => ?_) offlineClasses t
    exact Tagged.foldl (fun t n => tagged_tagTrigger f a.1 a.2 t ⟨tree, n⟩) _ t
  have hflag : ∀ b, Tagged t { t with hasOfflineSupport := b } := fun _ => ⟨rfl, rfl, rfl, fun _ h => h⟩
  unfold classifyOffline
  split
  · exact (hflag true).trans (Tagged.foldl htag _ _)
  · exact hflag false

end ControlTree

namespace Analysis

variable {controls : Document} {models : List Document} {r : ComponentRegistry} {a : Analysis}

theorem tagged_collectScripts (f : Form) (models : ModelIndex) (t : ControlTree) :
    ControlTree.Tagged (t.addScripts f.controls fun _ => "") (collectScripts f models t) := by
  unfold collectScripts
  dsimp only
  generalize t.addScripts f.controls (fun _ => "") = t
  refine (ControlTree.Tagged.foldl ?_ models.models t).trans (ControlTree.Tagged.foldl ?_ _ _)
  · exact fun t m => ControlTree.tagged_addScripts t m.document _
  · exact fun t r => ControlTree.tagged_addScripts t (f.document r) _

/-- The parts of an analysis. -/
theorem run_spec {c : Document} (h : run c models r = .ok a) : ∃ scopes tree,
      resolveScopes c r = .ok scopes ∧ buildControlTree ⟨c, scopes⟩ = .ok (tree, a.warnings) ∧
      a.scopes = scopes.freeTemplates ∧ a.models = modelIndex scopes models ∧
      a.controls = (collectScripts ⟨c, scopes⟩ a.models tree).classifyOffline ⟨c, scopes⟩
        (a.models.models.map (·.document)) ∧
      a.events = a.models.models.foldl (EventIndex.addModelHandlers scopes)
        (EventIndex.addFormHandlers ⟨c, scopes⟩ (collectScripts ⟨c, scopes⟩ a.models tree) {}) := by
  obtain ⟨scopes, hscopes, h⟩ := ok_of_bind h
  obtain ⟨⟨tree, warnings⟩, htree, h⟩ := ok_of_bind h
  obtain rfl := Except.ok.inj h
  exact ⟨scopes, tree, hscopes, htree, rfl, rfl, rfl, rfl⟩

/-- **The controls of an analysis are those of the tree that was built**, and so are the warnings. -/
theorem exists_tagged (h : run controls models r = .ok a) : ∃ scopes tree,
    resolveScopes controls r = .ok scopes ∧ a.scopes = scopes.freeTemplates ∧
    buildControlTree ⟨controls, scopes⟩ = .ok (tree, a.warnings) ∧
    ControlTree.Tagged tree a.controls := by
  obtain ⟨scopes, tree, hscopes, hbuild, hfree, -, hcontrols, -⟩ := run_spec h
  refine ⟨scopes, tree, hscopes, hfree, hbuild, ?_⟩
  rw [hcontrols]
  exact (ControlTree.tagged_addScripts _ _ _).trans
    ((tagged_collectScripts _ _ _).trans (ControlTree.tagged_classifyOffline _ _ _))

/-- The controls of an analysis are found by their prefixed ids and nest. -/
theorem nests_located (h : run controls models r = .ok a) :
    a.controls.Nests ∧ a.controls.Keyed ∧ a.controls.Located := by
  obtain ⟨scopes, tree, -, -, hbuild, htagged⟩ := exists_tagged h
  obtain ⟨-, -, hnests, -, -⟩ := nests_buildControlTree hbuild
  exact ⟨htagged.nests hnests, htagged.keyed (keyed_buildControlTree hbuild),
    htagged.located (located_buildControlTree hbuild)⟩

end Analysis

end FormEngine
