import FormEngine.Proofs.Document.Forest
import FormEngine.Proofs.Document.Json
import Mathlib.Data.List.Nodup
/-!
# Documents that can be written

A forest can be written when it has room for its addresses in thirty-two bits and no prefix twice in
its namespace table. A document that was read needs no such condition: whatever the JSON value says,
the reader of an address refuses larger numbers, and a namespace that is declared again takes the
place of the first declaration.
-/

namespace FormEngine

namespace Json

/-! ## Fields, lists and tables -/

theorem exists_of_required {α : Type} {f : Value → Option α} {field : Option Value} {a : α}
    (h : required f field = some a) : ∃ v, f v = some a := by
  cases field with
  | none => contradiction
  | some v => exact ⟨v, h⟩

theorem eq_or_exists_of_optional {α : Type} {f : Value → Option α} {default : α}
    {field : Option Value} {a : α} (h : optional f default field = some a) :
    a = default ∨ ∃ v, f v = some a := by
  cases field with
  | none => exact .inl (Option.some.inj h).symm
  | some v => exact .inr ⟨v, h⟩

theorem eq_some_of_asNullable? {α : Type} {f : Value → Option α} {v : Value} {a : α}
    (h : Value.asNullable? f v = some (some a)) : f v = some a := by
  unfold Value.asNullable? at h
  split at h
  · simp at h
  · simpa using h

/-- Every element of a list that was read was read. -/
theorem forall_of_asList? {α : Type} {f : Value → Option α} {P : α → Prop}
    (hf : ∀ v a, f v = some a → P a) {v : Value} {as : List α} (h : Value.asList? f v = some as) :
    ∀ a ∈ as, P a := by
  unfold Value.asList? at h
  split at h
  · rename_i items
    induction items generalizing as with
    | nil =>
      obtain rfl : [] = as := by simpa using h
      simp
    | cons item items ih =>
      rw [List.mapM_cons] at h
      simp only [Option.bind_eq_bind, Option.bind_eq_some_iff, Option.pure_def,
        Option.some.injEq] at h
      obtain ⟨a, ha, rest, hrest, rfl⟩ := h
      rw [List.forall_mem_cons]
      exact ⟨hf item a ha, ih hrest⟩
  · contradiction

/-- A table that was read has no key twice. -/
theorem nodup_of_asMap? {α : Type} {f : Value → Option α} {v : Value} {entries : List (String × α)}
    (h : Value.asMap? f v = some entries) : (entries.map Prod.fst).Nodup := by
  unfold Value.asMap? at h
  split at h
  · rename_i members
    have hfrom : ∀ before : List (String × α), (before.map Prod.fst).Nodup →
        members.foldlM (fun entries m => do return assign (← m.1) (← f m.2) entries) before =
          some entries → (entries.map Prod.fst).Nodup := by
      clear h
      induction members with
      | nil =>
        intro before hbefore h
        obtain rfl : before = entries := by simpa using h
        exact hbefore
      | cons m members ih =>
        intro before hbefore h
        rw [List.foldlM_cons] at h
        simp only [Option.bind_eq_bind, Option.bind_eq_some_iff, Option.pure_def,
          Option.some.injEq] at h
        obtain ⟨next, ⟨key, -, value, -, rfl⟩, h⟩ := h
        exact ih _ (nodup_assign hbefore key value) h
    exact hfrom [] List.nodup_nil h
  · contradiction

end Json

open Json

/-! ## Documents -/

/-- A forest of thirty-two-bit addresses with a table of distinct prefixes can be written out. -/
theorem Document.IsForest.portable {d : Document} (h : d.IsForest) (hsize : d.size ≤ Nat.pow 2 32)
    (hprefixes : (d.namespaces.map Prod.fst).Nodup) : d.Portable where
  root_lt := Nat.lt_of_lt_of_le h.root_lt hsize
  nodes node hnode := by
    obtain ⟨n, hn, rfl⟩ := List.getElem_of_mem hnode
    rw [Array.length_toList] at hn
    have hget : d.node? n = some d.nodes.toList[n] := by
      simp [Document.node?, hn]
    constructor
    · intro p hp
      have hparent : d.parent? n = some p := by
        rw [Document.parent?, hget]
        exact hp
      exact Nat.lt_of_lt_of_le (h.parent_lt hparent) hsize
    · intro c hc
      have hchild : c ∈ d.children n := by
        rw [Document.children, hget]
        exact hc
      have hparent := (h.linked n hn).back c hchild
      exact Nat.lt_of_lt_of_le (lt_size_of_parent? hparent) hsize
  prefixes := hprefixes

/-- An address that was read fits thirty-two bits. -/
theorem NodeId.lt_of_ofJson? {v : Value} {n : NodeId} (h : NodeId.ofJson? v = some n) :
    n < Nat.pow 2 32 := by
  unfold NodeId.ofJson? Value.asNatBelow? at h
  split at h
  · split at h
    · rename_i hlt
      exact Option.some.inj h ▸ hlt
    · contradiction
  · contradiction

theorem Node.fits_of_ofJson? {v : Value} {n : Node} (h : Node.ofJson? v = some n) : n.Fits := by
  unfold Node.ofJson? at h
  rw [Option.bind_eq_bind, Option.bind_eq_some_iff] at h
  obtain ⟨fields, -, h⟩ := h
  split at h
  · simp only [Option.bind_eq_bind, Option.bind_eq_some_iff, Option.pure_def,
      Option.some.injEq] at h
    obtain ⟨kind, -, parent, hparent, children, hchildren, rfl⟩ := h
    constructor
    · intro p hp
      obtain rfl : parent = some p := hp
      rcases eq_or_exists_of_optional hparent with hnone | ⟨v, hv⟩
      · contradiction
      · exact NodeId.lt_of_ofJson? (eq_some_of_asNullable? hv)
    · rcases eq_or_exists_of_optional hchildren with rfl | ⟨v, hv⟩
      · simp
      · exact forall_of_asList? (fun _ _ => NodeId.lt_of_ofJson?) hv
  · contradiction

/-- **A document that was read can be written.** -/
theorem Document.portable_of_ofJson? {v : Value} {d : Document} (h : Document.ofJson? v = some d) :
    d.Portable := by
  unfold Document.ofJson? at h
  rw [Option.bind_eq_bind, Option.bind_eq_some_iff] at h
  obtain ⟨fields, -, h⟩ := h
  split at h
  · simp only [Option.bind_eq_bind, Option.bind_eq_some_iff, Option.pure_def,
      Option.some.injEq] at h
    obtain ⟨nodes, hnodes, root, hroot, namespaces, hnamespaces, rfl⟩ := h
    obtain ⟨_, hnodes⟩ := exists_of_required hnodes
    obtain ⟨_, hroot⟩ := exists_of_required hroot
    refine ⟨NodeId.lt_of_ofJson? hroot, ?_, ?_⟩
    · exact forall_of_asList? (fun _ _ => Node.fits_of_ofJson?) hnodes
    · rcases eq_or_exists_of_optional hnamespaces with rfl | ⟨_, hread⟩
      · exact List.nodup_nil
      · exact nodup_of_asMap? hread
  · contradiction

end FormEngine
