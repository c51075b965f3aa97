import FormEngine.Scope.Tree
import Mathlib.Data.List.Basic
/-!
# Prefixed ids as paths

A prefixed id is a path of static ids, those of the instances around an element from the outside
in and the element's own at the end, separated by dollar signs. When no static id has a dollar
sign in it the path can be read off the prefixed id again.
-/

namespace FormEngine

/-- A static id that does not look like a path. -/
def IsPlain (id : String) : Prop := '$' ∉ id.toList

instance (id : String) : Decidable (IsPlain id) := inferInstanceAs (Decidable (¬_))

namespace Path

/-- The full prefix of the scope inside the instances of a path. -/
def spell : List String → String
  | [] => ""
  | id :: ids => id ++ "$" ++ spell ids

theorem spell_append (p q : List String) : spell (p ++ q) = spell p ++ spell q := by
  induction p with
  | nil => rw [List.nil_append, spell, String.empty_append]
  | cons id p ih => rw [List.cons_append, spell, spell, ih, ← String.append_assoc]

/-- An instance adds its id and a dollar sign. -/
theorem spell_concat (p : List String) (id : String) : spell (p ++ [id]) = spell p ++ id ++ "$" := by
  rw [spell_append, spell, spell, String.append_empty, ← String.append_assoc]

/-- The prefixed id of an element whose scope is inside the instances `p`. -/
def key (p : List String) (id : String) : String := spell p ++ id

theorem key_nil (id : String) : key [] id = id := String.empty_append

theorem cancel_plain {i j r r' : List Char} (hi : '$' ∉ i) (hj : '$' ∉ j)
    (h : i ++ '$' :: r = j ++ '$' :: r') : i = j ∧ r = r' := by
  induction i generalizing j with
  | nil =>
    cases j with
    | nil => exact ⟨rfl, (List.cons.inj h).2⟩
    | cons c j =>
      obtain ⟨rfl, -⟩ := List.cons.inj h
      exact absurd List.mem_cons_self hj
  | cons c i ih =>
    cases j with
    | nil =>
      obtain ⟨rfl, -⟩ := List.cons.inj h
      exact absurd List.mem_cons_self hi
    | cons c' j =>
      obtain ⟨rfl, hrest⟩ := List.cons.inj h
      rw [List.mem_cons, not_or] at hi hj
      obtain ⟨rfl, rfl⟩ := ih hi.2 hj.2 hrest
      exact ⟨rfl, rfl⟩

theorem toList_key_cons (i : String) (p : List String) (id : String) :
    (key (i :: p) id).toList = i.toList ++ '$' :: (key p id).toList := by
  rw [key, spell, key]
  simp [String.toList_append]

/-- **The path of a prefixed id can be read off it.** -/
theorem key_inj {p q : List String} {x y : String} (hp : ∀ i ∈ p, IsPlain i)
    (hq : ∀ i ∈ q, IsPlain i) (hx : IsPlain x) (hy : IsPlain y) (h : key p x = key q y) :
    p ++ [x] = q ++ [y] := by
  induction p generalizing q with
  | nil =>
    cases q with
    | nil =>
      rw [key_nil, key_nil] at h
      rw [h]
    | cons j q =>
      -- a single id has no dollar sign
      have hlist := congrArg String.toList h
      rw [toList_key_cons, key_nil] at hlist
      refine absurd ?_ hx
      rw [hlist]
      simp
  | cons i p ih =>
    cases q with
    | nil =>
      have hlist := congrArg String.toList h
      rw [toList_key_cons, key_nil] at hlist
      refine absurd ?_ hy
      rw [← hlist]
      simp
    | cons j q =>
      have hlist := congrArg String.toList h
      rw [toList_key_cons, toList_key_cons] at hlist
      rw [List.forall_mem_cons] at hp hq
      obtain ⟨hij, hrest⟩ := cancel_plain hp.1 hq.1 hlist
      obtain rfl := String.toList_inj.1 hij
      rw [List.cons_append, List.cons_append, ih hp.2 hq.2 (String.toList_inj.1 hrest)]

/-! ## Paths that go on from a path -/

theorem concat_prefix_inj {p path : List String} {x y : String} (hx : p ++ [x] <+: path)
    (hy : p ++ [y] <+: path) : x = y := by
  obtain ⟨r, hr⟩ := hx
  obtain ⟨r', hr'⟩ := hy
  rw [← hr', List.append_assoc, List.append_assoc, List.append_cancel_left_eq] at hr
  exact (List.cons.inj hr).1

theorem not_concat_prefix (p : List String) (x : String) : ¬p ++ [x] <+: p := by
  intro h
  have hlength := h.length_le
  rw [List.length_append, List.length_singleton] at hlength
  omega

/-- The string is the prefixed id of a path of plain ids. -/
def Names (k : String) (path : List String) : Prop :=
  ∃ p x, path = p ++ [x] ∧ k = key p x ∧ ∀ i ∈ path, IsPlain i

theorem names_key {p : List String} {x : String} (hp : ∀ i ∈ p, IsPlain i) (hx : IsPlain x) :
    Names (key p x) (p ++ [x]) := by
  refine ⟨p, x, rfl, rfl, ?_⟩
  rw [List.forall_mem_append, List.forall_mem_singleton]
  exact ⟨hp, hx⟩

theorem Names.unique {k : String} {path path' : List String} (h : Names k path)
    (h' : Names k path') : path = path' := by
  obtain ⟨p, x, rfl, rfl, hplain⟩ := h
  obtain ⟨q, y, rfl, hkey, hplain'⟩ := h'
  rw [List.forall_mem_append, List.forall_mem_singleton] at hplain hplain'
  exact key_inj hplain.1 hplain'.1 hplain.2 hplain'.2 hkey

end Path

end FormEngine
