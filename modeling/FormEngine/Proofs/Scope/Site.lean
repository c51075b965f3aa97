import FormEngine.Proofs.Scope.Distinct
import FormEngine.Proofs.Scope.Survey
/-!
# What the walk is in

At any time the walk is in the controls document or in a shadow tree. A site is that document with
its tree, with the scopes inside and outside of its instance, and with the paths of instances that
spell the prefixes of these scopes. In a form with distinct ids every prefixed id that comes up
while a site is walked belongs to one static id of the site: the first one on its path after the
path of the site.
-/

namespace FormEngine

/-- The controls document or a shadow tree, with the scopes of its elements. -/
structure Site where
  source : Source
  document : Document
  tree : Tree
  isOuter : NodeId → Bool
  innerScope : ScopeId
  outerScope : ScopeId
  /-- The ids of the instances around the elements of the template. -/
  inner : List String
  /-- The ids of the instances around the content. -/
  outer : List String

namespace Site

def scopeOf (S : Site) (n : NodeId) : ScopeId := if S.isOuter n then S.outerScope else S.innerScope

def path (S : Site) (n : NodeId) : List String := if S.isOuter n then S.outer else S.inner

/-- The ids of the content. -/
def outerIds (S : Site) : List String := S.tree.idsWhere S.isOuter

/-- A prefixed id belongs to a static id of the site. -/
def Owns (S : Site) (id key : String) : Prop :=
  ∃ path, Path.Names key path ∧
    (S.inner ++ [id] <+: path ∨ id ∈ S.outerIds ∧ S.outer ++ [id] <+: path)

/-- The site has a tree, and plain ids in it and on the paths to it. The controls document has no
content, and a shadow tree is kept under the path of its template. -/
structure Spelled (S : Site) : Prop where
  tree : S.document.HasTree S.tree
  plain : ∀ s ∈ S.tree.walked, ∀ id, s.kind.staticId? = some id → IsPlain id
  paths : (∀ i ∈ S.inner, IsPlain i) ∧ ∀ i ∈ S.outer, IsPlain i
  controls : S.source = .controls → ∀ n, S.isOuter n = false
  key : ∀ key, S.source = .shadow key → Path.Names key S.inner

/-- The site fits a form with distinct ids. -/
structure Fits (r : ComponentRegistry) (S : Site) : Prop extends S.Spelled where
  grounded : S.document.Grounded
  nodup : S.tree.staticIds.Nodup
  /-- No path goes on from both paths of the site when the content owns its next id. -/
  apart : ∀ id ∈ S.outerIds, ∀ path, S.inner <+: path → ¬S.outer ++ [id] <+: path
  /-- Below content there is content. -/
  closed : ∀ s ∈ S.tree.subtrees, S.isOuter s.id = true → s.staticIds ⊆ S.outerIds
  /-- What is written in an instance has no id of a template that the instance leads to. -/
  disjoint : ∀ s ∈ S.tree.walked, ∀ name b, s.kind.name? = some name → r.binding? name = some b →
    ∀ b', Relation.ReflTransGen r.Uses b b' → ∀ template ∈ b'.template,
      (s.children.flatMap Tree.staticIds).Disjoint template.staticIds

/-- The scope tree knows the document of the site and its scopes. -/
structure At (controls : Document) (S : Site) (t : ScopeTree) : Prop where
  document : t.document? controls S.source = some S.document
  scopeOfChild : ∀ scope c, (S.source = .controls → scope = S.innerScope) →
    t.scopeOfChild? scope c S.source = some (S.scopeOf c)
  scope : ∀ n, ∃ sc, t.scope? (S.scopeOf n) = some sc ∧ sc.fullPrefix = Path.spell (S.path n)

variable {S : Site} {r : ComponentRegistry} {controls : Document} {t t' : ScopeTree}

theorem Spelled.path_plain (h : S.Spelled) (n : NodeId) : ∀ i ∈ S.path n, IsPlain i := by
  unfold path
  split
  · exact h.paths.2
  · exact h.paths.1

/-! ## Prefixed ids belong to one id -/

namespace Fits

theorem owner_unique (h : S.Fits r) {id id' key : String} (hid : S.Owns id key)
    (hid' : S.Owns id' key) : id = id' := by
  obtain ⟨path, hpath, hcase⟩ := hid
  obtain ⟨path', hpath', hcase'⟩ := hid'
  obtain rfl := hpath.unique hpath'
  have hinner : ∀ {id}, S.inner ++ [id] <+: path → S.inner <+: path := fun h =>
    (List.prefix_append _ _).trans h
  rcases hcase with hin | ⟨hmem, hout⟩
  · rcases hcase' with hin' | ⟨hmem', hout'⟩
    · exact Path.concat_prefix_inj hin hin'
    · exact absurd hout' (h.apart id' hmem' path (hinner hin))
  · rcases hcase' with hin' | ⟨-, hout'⟩
    · exact absurd hout (h.apart id hmem path (hinner hin'))
    · exact Path.concat_prefix_inj hout hout'

/-- The prefixed id of the instance itself is not one of its shadow tree. -/
theorem not_owns_key (h : S.Fits r) {key : String} (hkey : S.source = .shadow key) (id : String) :
    ¬S.Owns id key := by
  rintro ⟨path, hpath, hcase⟩
  obtain rfl := (h.key key hkey).unique hpath
  rcases hcase with hin | ⟨hmem, hout⟩
  · exact Path.not_concat_prefix S.inner id hin
  · exact h.apart id hmem S.inner List.prefix_rfl hout

/-- A path that goes on from an element belongs to the next id, if that is from its subtree. -/
theorem owns_of_path (h : S.Fits r) {s : Tree} (hs : s ∈ S.tree.subtrees) {id key : String}
    {path : List String} (hpath : Path.Names key path) (hid : id ∈ s.staticIds)
    (hstart : S.path s.id ++ [id] <+: path) : S.Owns id key := by
  refine ⟨path, hpath, ?_⟩
  unfold Site.path at hstart
  split at hstart
  · rename_i houter
    exact .inr ⟨h.closed s hs houter hid, hstart⟩
  · exact .inl hstart

theorem owns_key (h : S.Fits r) {s : Tree} (hs : s ∈ S.tree.subtrees) {id : String}
    (hid : id ∈ s.staticIds) (hplain : IsPlain id) : S.Owns id (Path.key (S.path s.id) id) :=
  h.owns_of_path hs (Path.names_key (h.path_plain s.id) hplain) hid List.prefix_rfl

end Fits

/-! ## While the walk goes on -/

namespace At

theorem lt (h : S.At controls t) (n : NodeId) : S.scopeOf n < t.size := by
  obtain ⟨sc, hsc, -⟩ := h.scope n
  exact (List.getElem?_eq_some_iff.1 hsc).1

theorem prefixedId (h : S.At controls t) (n : NodeId) (id : String) :
    t.prefixedId (S.scopeOf n) id = Path.key (S.path n) id := by
  obtain ⟨sc, hsc, hspell⟩ := h.scope n
  rw [ScopeTree.prefixedId_of_scope? hsc, Scope.prefixedId, hspell, Path.key]

theorem mono (h : S.At controls t) (hgrows : t.Grows t') (hsame : t.SameAt t' S.source) :
    S.At controls t' := by
  refine ⟨?_, fun scope c hscope => ?_, fun n => ?_⟩
  · rw [hsame.document?]
    exact h.document
  · rw [hsame.scopeOfChild?]
    exact h.scopeOfChild scope c hscope
  · obtain ⟨sc, hsc, hspell⟩ := h.scope n
    exact ⟨sc, hgrows.scope? hsc, hspell⟩

end At

/-! ## The site of the controls document -/

/-- The controls document, at top level. -/
def top (controls : Document) (tree : Tree) : Site :=
  { source := .controls
    document := controls
    tree
    isOuter := fun _ => false
    innerScope := 0
    outerScope := 0
    inner := []
    outer := [] }

theorem Spelled.top {tree : Tree} (hform : PlainIds controls r) (htree : controls.HasTree tree) :
    (Site.top controls tree).Spelled where
  tree := htree
  plain _ hs _ hid := hform.isPlain_of_mem_walked List.mem_cons_self htree hs hid
  paths := ⟨fun _ hi => absurd hi List.not_mem_nil, fun _ hi => absurd hi List.not_mem_nil⟩
  controls _ _ := rfl
  key key hkey := by contradiction

theorem Fits.top {tree : Tree} (hform : DistinctIds controls r) (htree : controls.HasTree tree) :
    (Site.top controls tree).Fits r where
  toSpelled := .top hform.toPlainIds htree
  grounded := (hform.isForest List.mem_cons_self).grounded
  nodup := hform.nodup_staticIds List.mem_cons_self htree
  apart id hid := by
    obtain ⟨s, -, hfalse, -⟩ := Tree.mem_idsWhere.1 hid
    contradiction
  closed s _ hfalse := by contradiction
  disjoint s hs name b hname hbinding b' hreach template htemplate x hx hx' := by
    have hmem := ComponentRegistry.mem_of_reaches (ComponentRegistry.mem_of_binding? hbinding) hreach
    refine hform.disjoint_controls hmem htemplate ?_ hx'
    rw [htree.staticIds]
    exact Tree.children_staticIds_subset (Tree.walked_subset_subtrees _ hs) hx

theorem At.top (controls : Document) (tree : Tree) (r : ComponentRegistry) :
    (Site.top controls tree).At controls (ScopeTree.ofComponents r) := by
  refine ⟨rfl, fun scope c hscope => ?_, fun n => ⟨Scope.top, rfl, rfl⟩⟩
  rw [hscope rfl]
  rfl

end Site

end FormEngine
