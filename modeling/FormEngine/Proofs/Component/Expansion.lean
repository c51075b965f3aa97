import FormEngine.Component.Shadow
import FormEngine.Proofs.Document.Insert
import Mathlib.Data.List.Basic
/-!
# What an expansion consists of

A shadow tree is a template in which copies of an instance's content stand at the insertion points.
The first part says what one filled insertion point does to the arena: the point and its parent
change, and the copies of the content come in as new trees. The second part keeps an invariant over
all insertion points of a template: the addresses below the size of the template are the nodes of
the template, the elements above it are the outer nodes of the shadow tree, nothing of the template
stands below a copy, and the outer nodes are copies of the elements of the content, in order, as
often as a point was filled.
-/

namespace FormEngine

namespace Document

/-- The elements of a tree numbered anew have the kinds of the elements of the tree. -/
theorem map_kind?_renumber {source d : Document} {q q' : Option NodeId} {t : Tree} {k : Nat}
    (h : source.Holds q t) (h' : d.Holds q' (t.renumber k)) :
    (t.renumber k).elements.map d.kind? = t.elements.map source.kind? := by
  induction t generalizing q q' k with
  | node n kind ts ih =>
    have hall : ∀ k, (∀ u ∈ Tree.renumberAll k ts, ∃ p, d.Holds p u) →
        ((Tree.renumberAll k ts).flatMap Tree.elements).map d.kind? =
          (ts.flatMap Tree.elements).map source.kind? := by
      have hbelow := h.child
      clear h h' k
      induction ts with
      | nil => intro k _; rfl
      | cons t ts ih' =>
        intro k hus
        rw [Tree.renumberAll] at hus ⊢
        obtain ⟨p, hp⟩ := hus _ List.mem_cons_self
        rw [List.flatMap_cons, List.flatMap_cons, List.map_append, List.map_append,
          ih t List.mem_cons_self (hbelow t List.mem_cons_self) hp]
        congr 1
        exact ih' (fun u hu => ih u (List.mem_cons_of_mem t hu))
          (fun u hu => hbelow u (List.mem_cons_of_mem t hu)) _
          (fun u hu => hus u (List.mem_cons_of_mem _ hu))
    have htop : d.kind? k = source.kind? n := by
      have hk := h'.kind?
      have hn := h.kind?
      rw [Tree.id_renumber, Tree.kind_renumber] at hk
      exact hk.trans hn.symm
    rw [Tree.renumber] at h' ⊢
    rw [Tree.elements_node, Tree.elements_node]
    cases kind.isElement with
    | false => rfl
    | true =>
      simp only [if_true, List.map_cons, htop]
      rw [hall (k + 1) fun u hu => ⟨_, h'.child u hu⟩]

end Document

namespace Expansion

/-! ## One insertion point -/

/-- The content comes in as trees numbered anew, and their elements become outer nodes. -/
theorem insertAll_spec {source d : Document} {q : NodeId} {i : Nat} {ts : List Tree}
    (hts : ∀ t ∈ ts, (∃ p, source.Holds p t) ∧ t.height ≤ source.size)
    (hq : q < d.size) (hi : i ≤ (d.children q).length) {e : Expansion} {us : List Tree}
    (h : d.Inserts e.document q i us) :
    d.Inserts (insertAll source q (i + us.length) (ts.map Tree.id) e).document q i
        (us ++ Tree.renumberAll e.document.size ts) ∧
      (insertAll source q (i + us.length) (ts.map Tree.id) e).outerNodes =
        e.outerNodes ++ (Tree.renumberAll e.document.size ts).flatMap Tree.elements := by
  induction ts generalizing e us with
  | nil => simpa [insertAll, Tree.renumberAll] using h
  | cons t ts ih =>
    obtain ⟨⟨p, ht⟩, hheight⟩ := hts t List.mem_cons_self
    have hqe : q < e.document.size := by
      rw [h.size]
      exact Nat.lt_of_lt_of_le hq (Nat.le_add_right _ _)
    have hgrafts := Document.grafts_copyWithin ht hheight e.document q hqe
    have hnext := h.concat hgrafts hq hi
    have hsize : ((source.copyWithin source.size t.id e.document q).moveLastChild q
        (i + us.length)).size = e.document.size + t.ids.length := by
      rw [Document.size_moveLastChild, hgrafts.size, Tree.length_ids_renumber]
    -- the copy is walked whole, so its elements are what the outer nodes grow by
    have helements : ((source.copyWithin source.size t.id e.document q).moveLastChild q
        (i + us.length)).descendants e.document.size = (t.renumber e.document.size).elements := by
      have hheld := hnext.holds (t.renumber e.document.size) (by simp)
      rw [Document.descendants, hsize]
      have hfuel : (t.renumber e.document.size).height ≤ e.document.size + t.ids.length := by
        rw [Tree.height_renumber]
        exact Nat.le_trans t.height_le_length_ids (Nat.le_add_left _ _)
      have hwalk := hheld.descendantsWithin hfuel
      rwa [Tree.id_renumber] at hwalk
    have hrest := ih (fun s hs => hts s (List.mem_cons_of_mem t hs)) (e := {
      document := (source.copyWithin source.size t.id e.document q).moveLastChild q (i + us.length)
      outerNodes := e.outerNodes ++ (t.renumber e.document.size).elements }) hnext
    rw [List.length_append, List.length_singleton, ← Nat.add_assoc] at hrest
    simp only [hsize] at hrest
    rw [List.map_cons, insertAll, Document.insertSubtree, Document.copySubtree, helements,
      Tree.renumberAll, List.flatMap_cons, ← List.append_assoc, List.append_cons]
    exact hrest

/-- A filled point has been unlinked and copies of the content have come in under its parent, from
the place of the point on. -/
theorem inserts_fill {source : Document} {ts : List Tree} {e : Expansion} {p q : NodeId} {i : Nat}
    (hts : ∀ t ∈ ts, (∃ q, source.Holds q t) ∧ t.height ≤ source.size)
    (hp : e.document.parent? p = some q) (hi : e.document.childIndex? p = some i) :
    (e.document.detach p).Inserts (fill source (ts.map Tree.id) e p).document q i
        (Tree.renumberAll e.document.size ts) ∧
      (fill source (ts.map Tree.id) e p).outerNodes =
        e.outerNodes ++ (Tree.renumberAll e.document.size ts).flatMap Tree.elements := by
  have hfind : (e.document.children q).findIdx? (· == p) = some i := by
    rw [Document.childIndex?, hp] at hi
    exact hi
  obtain ⟨hlt, hat, hbefore⟩ := List.findIdx?_eq_some_iff_getElem.1 hfind
  have hq : q < (e.document.detach p).size := by
    rw [Document.size_detach]
    exact Document.lt_size_of_mem_children (List.getElem_mem hlt)
  -- the children before the point are still there when it has been unlinked
  have hle : i ≤ ((e.document.detach p).children q).length := by
    have hchildren : (e.document.detach p).children q =
        (e.document.children q).filter (· != p) := by
      rw [Document.children, Document.node?_detach hp, Document.children]
      cases e.document.node? q <;> simp
    have htake : ((e.document.children q).take i).filter (· != p) =
        (e.document.children q).take i := by
      refine List.filter_eq_self.2 fun c hc => ?_
      obtain ⟨j, hj, rfl⟩ := List.mem_take_iff_getElem.1 hc
      have hne := hbefore j (by omega)
      simpa using hne
    calc i = ((e.document.children q).take i).length := by rw [List.length_take]; omega
      _ = (((e.document.children q).take i).filter (· != p)).length := by rw [htake]
      _ ≤ ((e.document.children q).filter (· != p)).length :=
        ((List.take_sublist i _).filter _).length_le
      _ = ((e.document.detach p).children q).length := by rw [hchildren]
  have hspec := insertAll_spec hts hq hle (e := { e with document := e.document.detach p })
    (Document.Inserts.refl _ q i)
  simp only [List.length_nil, Nat.add_zero, List.nil_append, Document.size_detach] at hspec
  rw [fill]
  simp only [hp, hi]
  exact hspec

/-- A point is filled under its parent, or it cannot be filled and nothing changes. -/
theorem fill_spec {source : Document} {ts : List Tree} {e : Expansion} {p : NodeId}
    (hts : ∀ t ∈ ts, (∃ q, source.Holds q t) ∧ t.height ≤ source.size) :
    fill source (ts.map Tree.id) e p = e ∨
      ∃ q i, e.document.parent? p = some q ∧ p ∈ e.document.children q ∧
        (e.document.detach p).Inserts (fill source (ts.map Tree.id) e p).document q i
          (Tree.renumberAll e.document.size ts) ∧
        (fill source (ts.map Tree.id) e p).outerNodes =
          e.outerNodes ++ (Tree.renumberAll e.document.size ts).flatMap Tree.elements := by
  cases hp : e.document.parent? p with
  | none =>
    refine .inl ?_
    rw [fill, hp]
  | some q =>
    cases hi : e.document.childIndex? p with
    | none =>
      refine .inl ?_
      rw [fill, hp, hi]
    | some i =>
      have hmem : p ∈ e.document.children q := by
        rw [Document.childIndex?, hp] at hi
        obtain ⟨hlt, hat, -⟩ := List.findIdx?_eq_some_iff_getElem.1 hi
        rw [beq_iff_eq] at hat
        exact hat ▸ List.getElem_mem hlt
      obtain ⟨hins, houter⟩ := inserts_fill hts hp hi
      exact .inr ⟨q, i, rfl, hmem, hins, houter⟩

/-! ## All insertion points -/

/-- An expansion of `template` with the elements `originals` of `source` for content. -/
structure Expands (source template : Document) (originals : List NodeId) (e : Expansion) : Prop where
  grounded : e.document.Grounded
  root : e.document.root = template.root
  le : template.size ≤ e.document.size
  /-- The nodes of the template keep their kinds. -/
  kinds : ∀ n < template.size, e.document.kind? n = template.kind? n
  /-- Below a copy there are copies only. -/
  below : ∀ n, template.size ≤ n → ∀ c ∈ e.document.children n, template.size ≤ c
  outer : ∀ n, n ∈ e.outerNodes ↔ template.size ≤ n ∧ e.document.isElement n = true
  /-- The outer nodes are the originals over and over again. -/
  rounds : ∃ k, e.outerNodes.map e.document.kind? =
    (List.replicate k (originals.map source.kind?)).flatten

namespace Expands

variable {source template : Document} {originals : List NodeId} {e : Expansion}

/-- Before any point is filled there are no copies. -/
theorem start (h : template.Grounded) :
    Expands source template originals { document := template } where
  grounded := h
  root := rfl
  le := Nat.le_refl _
  kinds _ _ := rfl
  below n hn c hc := by
    exact absurd (Document.lt_size_of_mem_children hc) (Nat.not_lt.2 hn)
  outer n := by
    constructor
    · intro hn
      simp at hn
    · rintro ⟨hge, helement⟩
      exact absurd (Document.lt_size_of_isElement helement) (Nat.not_lt.2 hge)
  rounds := ⟨0, rfl⟩

/-- The copies of the content have the kinds of the content, element by element. -/
theorem map_kind?_copies {d : Document} {ts : List Tree} {k : Nat}
    (hts : ∀ t ∈ ts, (∃ p, source.Holds p t) ∧ t.height ≤ source.size)
    (hcopies : ∀ u ∈ Tree.renumberAll k ts, ∃ r, d.Holds r u) :
    ((Tree.renumberAll k ts).flatMap Tree.elements).map d.kind? =
      ((ts.map Tree.id).flatMap source.descendants).map source.kind? := by
  induction ts generalizing k with
  | nil => rfl
  | cons t ts ih =>
    obtain ⟨⟨r, ht⟩, hheight⟩ := hts t List.mem_cons_self
    rw [Tree.renumberAll] at hcopies ⊢
    obtain ⟨r', hr'⟩ := hcopies _ List.mem_cons_self
    rw [List.flatMap_cons, List.map_append, Document.map_kind?_renumber ht hr', List.map_cons,
      List.flatMap_cons, List.map_append, Document.descendants, ht.descendantsWithin hheight,
      ih (fun s hs => hts s (List.mem_cons_of_mem t hs))
        fun u hu => hcopies u (List.mem_cons_of_mem _ hu)]

/-- Filling a point of the template keeps the invariant. -/
theorem fill (h : Expands source template originals e) (hsource : source.Grounded)
    {content : List NodeId} (hcontent : ∀ c ∈ content, c < source.size)
    (horiginals : originals = content.flatMap source.descendants) {p : NodeId}
    (hpoint : p < template.size) :
    Expands source template originals (Expansion.fill source content e p) := by
  obtain ⟨ts, rfl, hts⟩ := hsource.exists_trees hcontent
  have hheld : ∀ t ∈ ts, (∃ p, source.Holds p t) ∧ t.height ≤ source.size := fun t ht =>
    ⟨(hts t ht).1, (hts t ht).2.1⟩
  rcases fill_spec hheld with heq | ⟨q, i, hp, hlisted, hins, houter⟩
  · rw [heq]
    exact h
  generalize Expansion.fill source (ts.map Tree.id) e p = e' at hins houter ⊢
  -- the parent lists a node of the template, so it is no copy itself
  have hq : q < template.size := Nat.not_le.1 fun hge =>
    absurd (h.below q hge p hlisted) (Nat.not_le.2 hpoint)
  have hleaf : ∀ u ∈ Tree.renumberAll e.document.size ts, u.TextIsLeaf := by
    intro u hu
    obtain ⟨t, ht, j, -, rfl⟩ := Tree.mem_renumberAll hu
    exact (hts t ht).2.2.renumber j
  have hold : ∀ n < e.document.size, e'.document.kind? n = e.document.kind? n := fun n hn =>
    Document.kind?_exchange hp hins hn
  refine ⟨?_, ?_, ?_, ?_, ?_, ?_, ?_⟩
  · exact h.grounded.exchange hp (h.grounded.isElement_of_child hlisted) hins hleaf
  · rw [hins.root, Document.root_detach, h.root]
  · rw [hins.size, Document.size_detach]
    exact Nat.le_trans h.le (Nat.le_add_right _ _)
  · intro n hn
    rw [hold n (Nat.lt_of_lt_of_le hn h.le), h.kinds n hn]
  · exact Document.below_exchange hp hins h.le hq h.below
  · intro n
    rw [houter, List.mem_append, h.outer, Document.isElement_exchange_iff hp hins hleaf]
    constructor
    · rintro (⟨hge, helement⟩ | hmem)
      · exact ⟨hge, .inl helement⟩
      · refine ⟨?_, .inr hmem⟩
        obtain ⟨u, hu, hnu⟩ := List.mem_flatMap.1 hmem
        have hids := List.mem_flatMap.2 ⟨u, hu, Tree.mem_ids_of_mem_elements hnu⟩
        exact Nat.le_trans h.le ((Document.mem_ids_copies_iff hins).1 hids).1
    · rintro ⟨hge, helement | hmem⟩
      · exact .inl ⟨hge, helement⟩
      · exact .inr hmem
  · obtain ⟨k, hk⟩ := h.rounds
    -- the copies of earlier rounds stay as they are, and this round adds the originals once more
    have hbefore : e.outerNodes.map e'.document.kind? = e.outerNodes.map e.document.kind? := by
      refine List.map_congr_left fun n hn => hold n ?_
      exact Document.lt_size_of_isElement ((h.outer n).1 hn).2
    have hcopies := map_kind?_copies hheld fun u hu => ⟨some q, hins.holds u hu⟩
    refine ⟨k + 1, ?_⟩
    rw [houter, List.map_append, hbefore, hk, hcopies, horiginals, List.replicate_succ',
      List.flatten_append, List.flatten_singleton]

/-- Filling point after point keeps the invariant. -/
theorem fillAll (h : Expands source template originals e) (hsource : source.Grounded)
    {content : List NodeId} (hcontent : ∀ c ∈ content, c < source.size)
    (horiginals : originals = content.flatMap source.descendants) {points : List NodeId}
    (hpoints : ∀ p ∈ points, p < template.size) :
    Expands source template originals (points.foldl (Expansion.fill source content) e) := by
  induction points generalizing e with
  | nil => exact h
  | cons p points ih =>
    rw [List.forall_mem_cons] at hpoints
    exact ih (h.fill hsource hcontent horiginals hpoints.1) hpoints.2

end Expands

end Expansion

/-- The template of a binding for a name. -/
def ComponentRegistry.template? (r : ComponentRegistry) (name : QName) : Option Document :=
  (r.binding? name).bind (·.template)

/-- **A shadow tree is an expansion of the template of its instance**, and the scopes are those
asked for. -/
theorem ComponentRegistry.instantiate_spec {r : ComponentRegistry} {source : Document}
    {bound : NodeId} {prefixedId : String} {outerScope innerScope : ScopeId} {s : ShadowTree}
    (h : r.instantiate source bound prefixedId outerScope innerScope = .ok s) :
    ∃ name template, source.name? bound = some name ∧ r.template? name = some template ∧
      s.innerScope = innerScope ∧ s.outerScope = outerScope ∧
      ({ document := s.document, outerNodes := s.outerNodes } : Expansion) =
        template.insertionPoints.foldl (Expansion.fill source (source.componentContent bound))
          { document := template } := by
  unfold instantiate at h
  cases hname : source.name? bound with
  | none => simp [hname] at h
  | some name =>
    cases hbinding : r.binding? name with
    | none => simp [hname, hbinding] at h
    | some binding =>
      cases htemplate : binding.template with
      | none => simp [hname, hbinding, htemplate] at h
      | some template =>
        simp only [hname, hbinding, htemplate, Except.ok.injEq] at h
        subst h
        exact ⟨name, template, rfl, by rw [template?, hbinding, Option.bind_some, htemplate], rfl,
          rfl, rfl⟩

/-- The shadow tree of an instance is the template with all its points filled. -/
theorem ComponentRegistry.expansion_of_instantiate {r : ComponentRegistry}
    {source template : Document} {bound : NodeId} {name : QName} {prefixedId : String}
    {outerScope innerScope : ScopeId} {s : ShadowTree}
    (h : r.instantiate source bound prefixedId outerScope innerScope = .ok s)
    (hname : source.name? bound = some name) (htemplate : r.template? name = some template) :
    ({ document := s.document, outerNodes := s.outerNodes } : Expansion) =
      template.insertionPoints.foldl (Expansion.fill source (source.componentContent bound))
        { document := template } := by
  obtain ⟨name', template', hname', htemplate', -, -, hexpansion⟩ := instantiate_spec h
  obtain rfl : name = name' := Option.some.inj (hname.symm.trans hname')
  obtain rfl : template = template' := Option.some.inj (htemplate.symm.trans htemplate')
  exact hexpansion

/-- What an expansion consists of holds of the shadow tree. -/
theorem ComponentRegistry.expands_of_instantiate {r : ComponentRegistry} {source template : Document}
    {bound : NodeId} {name : QName} {prefixedId : String} {outerScope innerScope : ScopeId}
    {s : ShadowTree} (h : r.instantiate source bound prefixedId outerScope innerScope = .ok s)
    (hname : source.name? bound = some name) (htemplate : r.template? name = some template)
    (hsource : source.Grounded) (hgrounded : template.Grounded) :
    Expansion.Expands source template ((source.componentContent bound).flatMap source.descendants)
      ⟨s.document, s.outerNodes⟩ := by
  rw [expansion_of_instantiate h hname htemplate]
  refine (Expansion.Expands.start hgrounded).fillAll hsource ?_ rfl ?_
  · exact fun c hc => hsource.children_lt (List.mem_of_mem_filter hc)
  · exact fun p hp => Document.lt_of_mem_descendantsWithin (List.mem_of_mem_filter hp)

end FormEngine
