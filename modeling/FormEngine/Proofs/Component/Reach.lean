import FormEngine.Proofs.Component.Instance
/-!
# How far a walk can go

Elements have a cost, and the reach of a tree is the cost of its most expensive branch that a walk
can go down, which ends at an instance of data. Content that is passed on keeps its reach wherever it
comes to stand: a template that is filled, at as many points as it has, reaches no further than the
template and, after it, the content. So an instance that costs more than the branches of its template
reaches further than anything in its shadow tree.
-/

namespace FormEngine

namespace Tree

variable {cost : NodeKind → Nat} {s t u : Tree} {p q : NodeId} {i : Nat} {us : List Tree}

/-! ## Reach -/

/-- The cost of the most expensive branch, down to an instance of data. -/
def reach (cost : NodeKind → Nat) : Tree → Nat
  | node _ kind ts => cost kind + if kind.isData then 0 else (ts.map (reach cost)).foldr max 0

theorem foldr_max_le {ms : List Nat} {h : Nat} : ms.foldr max 0 ≤ h ↔ ∀ m ∈ ms, m ≤ h := by
  induction ms with
  | nil => simp
  | cons m ms ih => rw [List.foldr_cons, Nat.max_le, ih, List.forall_mem_cons]

/-- A tree reaches no further than its top and then its children. -/
theorem reach_node_le {n : NodeId} {kind : NodeKind} {ts : List Tree} {h : Nat}
    (hts : kind.isData = false → ∀ t ∈ ts, t.reach cost ≤ h) :
    (node n kind ts).reach cost ≤ cost kind + h := by
  rw [reach]
  refine Nat.add_le_add_left ?_ _
  split
  · exact Nat.zero_le h
  · rename_i hdata
    rw [Bool.not_eq_true] at hdata
    refine foldr_max_le.2 fun m hm => ?_
    obtain ⟨t, ht, rfl⟩ := List.mem_map.1 hm
    exact hts hdata t ht

/-- A tree reaches further than each of its children by the cost of its top. -/
theorem cost_add_reach_le (cost : NodeKind → Nat) (hdata : t.kind.isData = false)
    (hc : s ∈ t.children) :
    cost t.kind + s.reach cost ≤ t.reach cost := by
  cases t with
  | node n kind ts =>
    have hkind : kind.isData = false := hdata
    rw [reach, hkind]
    exact Nat.add_le_add_left (foldr_max_le.1 (Nat.le_refl _) _ (List.mem_map_of_mem hc)) _

/-- The addresses do not matter. -/
@[simp]
theorem reach_renumber (t : Tree) (k : Nat) : (t.renumber k).reach cost = t.reach cost :=
  eq_renumber (g := fun kind costs => cost kind + if kind.isData then 0 else costs.foldr max 0)
    (fun _ _ _ => by rw [reach]) t k

/-- Where every element costs `m` at most, the reach is at most the height times `m`. -/
theorem reach_le_height_mul {m : Nat} (h : ∀ s ∈ t.exposed, cost s.kind ≤ m) :
    t.reach cost ≤ t.height * m := by
  induction t with
  | node n kind ts ih =>
    have htop : cost kind ≤ m := h _ (self_mem_exposed _)
    obtain ⟨b, hb⟩ := Nat.exists_eq_succ_of_ne_zero (Nat.ne_of_gt (height_pos (node n kind ts)))
    have hbelow := height_node_le.1 (Nat.le_of_eq hb)
    have hchildren : (node n kind ts).reach cost ≤ cost kind + b * m := by
      refine reach_node_le fun hdata t ht => ?_
      have hexposed : ∀ s ∈ t.exposed, cost s.kind ≤ m := fun s hs =>
        h s (exposed_subset_of_child (r := node n kind ts) hdata ht hs)
      exact Nat.le_trans (ih t ht hexposed) (Nat.mul_le_mul_right m (hbelow t ht))
    rw [hb, Nat.succ_mul]
    omega

/-! ## Trees that were filled -/

/-- Nothing of the exchange is in the tree. -/
theorem exchange_of_notMem (hp : p ∉ t.ids) (hq : q ∉ t.ids) : t.exchange p q i us = t := by
  induction t with
  | node n kind ts ih =>
    rw [ids_node, List.mem_cons, not_or, List.mem_flatMap] at hp hq
    have hmap : ts.map (exchange p q i us) = ts := by
      refine (List.map_congr_left fun t ht => ?_).trans (List.map_id' ts)
      exact ih t ht (fun h => hp.2 ⟨t, ht, h⟩) fun h => hq.2 ⟨t, ht, h⟩
    have hothers : others p q i us ts = ts := by
      rw [others, hmap]
      refine List.filter_eq_self.2 fun t ht => ?_
      rw [bne_iff_ne]
      rintro rfl
      exact hp.2 ⟨t, ht, t.id_mem_ids⟩
    rw [exchange_node, hothers, if_neg (Ne.symm hq.1)]

/-- The first tree is the second one, a template with the addresses below `k`, in which children
are missing and copies have come in, with addresses from `k` on and a reach of `b` at most. -/
def FilledFrom (cost : NodeKind → Nat) (k b : Nat) : Tree → Tree → Prop
  | node n kind ts, t => n = t.id ∧ kind = t.kind ∧ ∀ c ∈ ts,
      (∃ r ∈ t.children, FilledFrom cost k b c r) ∨ ((∀ m ∈ c.ids, k ≤ m) ∧ c.reach cost ≤ b)

variable {k b : Nat}

theorem FilledFrom.refl (cost : NodeKind → Nat) (k b : Nat) (t : Tree) :
    FilledFrom cost k b t t := by
  induction t with
  | node n kind ts ih =>
    rw [FilledFrom]
    exact ⟨rfl, rfl, fun c hc => .inl ⟨c, hc, ih c hc⟩⟩

/-- **What was filled reaches no further than the template and the copies together.** -/
theorem FilledFrom.reach_le (h : FilledFrom cost k b s t) : s.reach cost ≤ t.reach cost + b := by
  induction s generalizing t with
  | node n kind ts ih =>
    rw [FilledFrom] at h
    obtain ⟨-, rfl, hchildren⟩ := h
    obtain ⟨n', kind, us⟩ := t
    obtain ⟨below, hbelow⟩ : ∃ below, (node n' kind us).reach cost = cost kind + below :=
      ⟨_, by rw [reach]⟩
    -- below the top a branch goes on in the template, or in a copy and there to its end
    have hts : kind.isData = false → ∀ c ∈ ts, c.reach cost ≤ below + b := by
      intro hdata c hc
      rcases hchildren c hc with ⟨r, hr, hcr⟩ | ⟨-, hcopy⟩
      · have hr' := cost_add_reach_le cost (t := node n' kind us) hdata hr
        rw [hbelow, kind_node, Nat.add_le_add_iff_left] at hr'
        exact Nat.le_trans (ih c hc hcr) (Nat.add_le_add_right hr' b)
      · exact Nat.le_trans hcopy (Nat.le_add_left b below)
    rw [hbelow, Nat.add_assoc]
    exact reach_node_le hts

/-- A child of what was filled reaches no further than some child of the template and the copies. -/
theorem FilledFrom.children_reach_le (h : FilledFrom cost k b s t) {m : Nat}
    (hm : ∀ r ∈ t.children, r.reach cost ≤ m) : ∀ c ∈ s.children, c.reach cost ≤ m + b := by
  obtain ⟨n, kind, ts⟩ := s
  rw [FilledFrom] at h
  intro c hc
  rcases h.2.2 c hc with ⟨r, hr, hcr⟩ | ⟨-, hcopy⟩
  · exact Nat.le_trans hcr.reach_le (Nat.add_le_add_right (hm r hr) b)
  · exact Nat.le_trans hcopy (Nat.le_add_left b m)

/-- One more point that is filled with copies. -/
theorem FilledFrom.exchange (h : FilledFrom cost k b s t) (hp : p < k) (hq : q < k)
    (hids : ∀ u ∈ us, ∀ m ∈ u.ids, k ≤ m) (hreach : ∀ u ∈ us, u.reach cost ≤ b) :
    FilledFrom cost k b (s.exchange p q i us) t := by
  induction s generalizing t with
  | node n kind ts ih =>
    rw [FilledFrom] at h
    obtain ⟨hid, hkind, hchildren⟩ := h
    have hnew : ∀ c ∈ (Tree.exchange p q i us (node n kind ts)).children,
        (∃ r ∈ t.children, FilledFrom cost k b c r) ∨
          ((∀ m ∈ c.ids, k ≤ m) ∧ c.reach cost ≤ b) := by
      intro c hc
      rcases mem_children_exchange hc with ⟨s, hs, -, rfl⟩ | ⟨-, hu⟩
      · rcases hchildren s hs with ⟨r, hr, hsr⟩ | ⟨hcopy, hle⟩
        · exact .inl ⟨r, hr, ih s hs hsr⟩
        · rw [exchange_of_notMem (fun h => absurd (hcopy p h) (Nat.not_le.2 hp))
            fun h => absurd (hcopy q h) (Nat.not_le.2 hq)]
          exact .inr ⟨hcopy, hle⟩
      · exact .inr ⟨hids c hu, hreach c hu⟩
    rw [exchange_node, children_node] at hnew
    rw [exchange_node, FilledFrom]
    exact ⟨hid, hkind, hnew⟩

end Tree

/-! ## Shadow trees -/

namespace Expansion

variable {cost : NodeKind → Nat} {b : Nat} {source template : Document} {originals : List NodeId}
  {content : List Tree} {e : Expansion} {filled t : Tree}

theorem ids_lt (hcontent : ∀ c ∈ content, (∃ q, source.Holds q c) ∧ c.height ≤ source.size) :
    ∀ n ∈ content.map Tree.id, n < source.size := by
  intro n hn
  obtain ⟨c, hc, rfl⟩ := List.mem_map.1 hn
  obtain ⟨q, hq⟩ := (hcontent c hc).1
  exact hq.id_lt

/-- One more point is filled. -/
theorem exists_filledFrom_fill (hexpands : Expands source template originals e)
    (hcontent : ∀ c ∈ content, (∃ q, source.Holds q c) ∧ c.height ≤ source.size)
    (hreach : ∀ c ∈ content, c.reach cost ≤ b) {p : NodeId} (hp : p < template.size)
    (hheld : e.document.Holds none filled) (hfilled : Tree.FilledFrom cost template.size b filled t) :
    ∃ filled', (fill source (content.map Tree.id) e p).document.Holds none filled' ∧
      filled'.id = filled.id ∧ Tree.FilledFrom cost template.size b filled' t := by
  rcases fill_spec hcontent (e := e) (p := p) with heq | ⟨q, i, hparent, hlisted, hins, -⟩
  · rw [heq]
    exact ⟨filled, hheld, rfl, hfilled⟩
  -- the parent lists a node of the template, so it is no copy itself
  have hq : q < template.size := Nat.not_le.1 fun hge =>
    absurd (hexpands.below q hge p hlisted) (Nat.not_le.2 hp)
  have hheld' := Document.holds_exchange hparent hins hheld
  rw [ite_self] at hheld'
  refine ⟨_, hheld', Tree.id_exchange filled, hfilled.exchange hp hq ?_ ?_⟩
  · intro u hu m hm
    have hmem := (Document.mem_ids_copies_iff hins).1 (List.mem_flatMap.2 ⟨u, hu, hm⟩)
    exact Nat.le_trans hexpands.le hmem.1
  · intro u hu
    obtain ⟨c, hc, j, -, rfl⟩ := Tree.mem_renumberAll hu
    rw [Tree.reach_renumber]
    exact hreach c hc

/-- Point after point is filled. -/
theorem exists_filledFrom_fillAll (hsource : source.Grounded)
    (hcontent : ∀ c ∈ content, (∃ q, source.Holds q c) ∧ c.height ≤ source.size)
    (hreach : ∀ c ∈ content, c.reach cost ≤ b)
    (horiginals : originals = (content.map Tree.id).flatMap source.descendants)
    {points : List NodeId} (hpoints : ∀ p ∈ points, p < template.size)
    (hexpands : Expands source template originals e) (hheld : e.document.Holds none filled)
    (hfilled : Tree.FilledFrom cost template.size b filled t) :
    ∃ filled', (points.foldl (fill source (content.map Tree.id)) e).document.Holds none filled' ∧
      filled'.id = filled.id ∧ Tree.FilledFrom cost template.size b filled' t := by
  induction points generalizing e filled with
  | nil => exact ⟨filled, hheld, rfl, hfilled⟩
  | cons p points ih =>
    rw [List.forall_mem_cons] at hpoints
    obtain ⟨filled₁, hheld₁, hid₁, hfilled₁⟩ :=
      exists_filledFrom_fill hexpands hcontent hreach hpoints.1 hheld hfilled
    obtain ⟨filled₂, hheld₂, hid₂, hfilled₂⟩ :=
      ih hpoints.2 (hexpands.fill hsource (ids_lt hcontent) horiginals hpoints.1) hheld₁ hfilled₁
    exact ⟨filled₂, hheld₂, hid₂.trans hid₁, hfilled₂⟩

end Expansion

/-- **The shadow tree of an instance is its template, filled**, at as many points as the template
has. -/
theorem ComponentRegistry.exists_filledFrom_of_instantiate {cost : NodeKind → Nat} {b : Nat}
    {r : ComponentRegistry} {source template : Document} {name : QName} {key : String}
    {outerScope innerScope : ScopeId} {s : ShadowTree} {parent : Option NodeId} {bound t : Tree}
    (h : r.instantiate source bound.id key outerScope innerScope = .ok s)
    (hsource : source.Grounded) (hbound : source.Holds parent bound)
    (hheight : bound.height ≤ source.size) (hb : ∀ c ∈ bound.children, c.reach cost ≤ b)
    (hname : bound.kind.name? = some name) (htemplate : r.template? name = some template)
    (hgrounded : template.Grounded) (ht : template.HasTree t) :
    ∃ filled, s.document.Holds none filled ∧ filled.id = s.document.root ∧
      Tree.FilledFrom cost template.size b filled t := by
  rw [← hbound.name?] at hname
  have hexpands := expands_of_instantiate h hname htemplate hsource hgrounded
  have hexpansion := expansion_of_instantiate h hname htemplate
  rw [hbound.componentContent] at hexpansion
  have hcontent : ∀ c ∈ bound.content, (∃ q, source.Holds q c) ∧ c.height ≤ source.size := by
    intro c hc
    have hmem := List.mem_of_mem_filter hc
    exact ⟨⟨some bound.id, hbound.of_mem_children hmem⟩,
      Nat.le_trans (Tree.height_le_of_mem_children hmem) hheight⟩
  have hpoints : ∀ p ∈ template.insertionPoints, p < template.size := fun p hp =>
    Document.lt_of_mem_descendantsWithin (List.mem_of_mem_filter hp)
  obtain ⟨filled, hheld, hid, hfilled⟩ := Expansion.exists_filledFrom_fillAll hsource
    hcontent (fun c hc => hb c (List.mem_of_mem_filter hc)) rfl hpoints (.start hgrounded) ht.holds
    (Tree.FilledFrom.refl cost template.size b t)
  rw [← hexpansion] at hheld
  exact ⟨filled, hheld, (hid.trans ht.root).trans hexpands.root.symm, hfilled⟩

end FormEngine
