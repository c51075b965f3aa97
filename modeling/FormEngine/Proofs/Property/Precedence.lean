import FormEngine.Property.Table
import FormEngine.Proofs.Json.Assign
import FormEngine.Proofs.Text.Words
import Mathlib.Data.List.Basic
/-!
# Which value a property has

Three parties say what a property of a form is: the form in its global declarations and on its
models, the host, and the registry with the default. The merge of their values is made in passes over
one table, where a later pass sees what the earlier ones left. What comes out is an order of
precedence that can be said of each property by itself, and the law is about the whole table: each
registered property has the value of the first party in that order, the table keeps just the values
that are not the default, and each declaration that says nothing is warned about in its place.

A default that is declared counts as declared. It keeps the host's value out and is dropped from the
table afterwards.
-/

namespace FormEngine

/-! ## Precedence -/

namespace PropertyDefinition

/-- The values that declarations give to the property, in order. A declaration of another name, or
one that does not parse, gives none. -/
def denoted (d : PropertyDefinition) (declarations : List (String × String)) : List PropertyValue :=
  declarations.filterMap fun p => if p.1 = d.name then d.parse? p.2 else none

/-- The value that the form declares for the property: the last one of the global declarations, or
else the first one of those on models. -/
def declared? (d : PropertyDefinition) (declared : DeclaredProperties) : Option PropertyValue :=
  (d.denoted declared.global).getLast?.or (d.denoted declared.model).head?

/-- The value that the host gives to the property, brought to the property's type. -/
def hosted? (d : PropertyDefinition) (host : List (String × PropertyValue)) : Option PropertyValue :=
  (host.lookup d.name).bind d.coerce?

/-- **The value of the property**: as declared, or else as the host has it, or else the default. -/
def effective (d : PropertyDefinition) (declared : DeclaredProperties)
    (host : List (String × PropertyValue)) : PropertyValue :=
  ((d.declared? declared).or (d.hosted? host)).getD d.default

end PropertyDefinition

namespace Property

/-- A declaration that says nothing: its name is not registered, or its text denotes no value of the
property. -/
def IsIgnored (p : String × String) : Prop :=
  ∀ d ∈ registry, d.name = p.1 → d.parse? p.2 = none

instance (p : String × String) : Decidable (IsIgnored p) :=
  inferInstanceAs (Decidable (∀ d ∈ registry, d.name = p.1 → d.parse? p.2 = none))

theorem nodup_names : (registry.map (·.name)).Nodup := by decide

theorem definition?_name {d : PropertyDefinition} (h : d ∈ registry) :
    definition? d.name = some d := by
  revert d
  decide

theorem mem_of_definition? {name : String} {d : PropertyDefinition} (h : definition? name = some d) :
    d ∈ registry ∧ d.name = name := by
  rw [definition?] at h
  have hfound := List.find?_some h
  exact ⟨List.mem_of_find?_eq_some h, beq_iff_eq.1 hfound⟩

theorem definition?_eq_none {name : String} (h : ∀ d ∈ registry, d.name ≠ name) :
    definition? name = none :=
  List.find?_eq_none.2 fun d hd => by simpa using h d hd

theorem parse?_of_mem {d : PropertyDefinition} (h : d ∈ registry) (raw : String) :
    parse? d.name raw = d.parse? raw := by
  rw [parse?, definition?_name h, Option.bind_some]

theorem parse?_eq_none_iff {p : String × String} : parse? p.1 p.2 = none ↔ IsIgnored p := by
  constructor
  · intro h d hd hname
    rw [← parse?_of_mem hd, hname]
    exact h
  · intro h
    cases hd : definition? p.1 with
    | none => rw [parse?, hd, Option.bind_none]
    | some d =>
      obtain ⟨hmem, hname⟩ := mem_of_definition? hd
      rw [parse?, hd, Option.bind_some]
      exact h d hmem hname

end Property

/-! ## The passes over the declarations -/

namespace PropertyTable

/-- The declarations that a warning is about. -/
def ignored (declarations : List (String × String)) : List String :=
  (declarations.filter fun p => decide (Property.IsIgnored p)).map Prod.fst

namespace Merge

variable {d : PropertyDefinition} {m : Merge} {ps : List (String × String)}

/-- One global declaration: what it denotes is the value of its property from then on. -/
theorem lookup_addGlobal (hd : d ∈ Property.registry) (m : Merge) (p : String × String) :
    (m.addGlobal p.1 p.2).values.lookup d.name =
      (d.denoted [p]).getLast?.or (m.values.lookup d.name) := by
  unfold addGlobal PropertyDefinition.denoted
  by_cases hname : p.1 = d.name
  · rw [hname, Property.parse?_of_mem hd]
    cases hv : d.parse? p.2 with
    | none => simp [hname, hv]
    | some v => simp [hname, hv, lookup_assign]
  · cases Property.parse? p.1 p.2 with
    | none => simp [hname]
    | some v => simp [hname, lookup_assign, Ne.symm hname]

/-- One declaration on a model: what it denotes is the value of its property if there is none yet. -/
theorem lookup_addModel (hd : d ∈ Property.registry) (m : Merge) (p : String × String) :
    (m.addModel p.1 p.2).values.lookup d.name =
      (m.values.lookup d.name).or (d.denoted [p]).head? := by
  unfold addModel PropertyDefinition.denoted
  by_cases hname : p.1 = d.name
  · rw [hname, Property.parse?_of_mem hd]
    cases hv : d.parse? p.2 with
    | none => simp [hname, hv]
    | some v =>
      cases hold : m.values.lookup d.name with
      | none => simp [hname, hv, hold, lookup_concat]
      | some w => simp [hname, hv, hold]
  · cases Property.parse? p.1 p.2 with
    | none => simp [hname]
    | some v =>
      cases m.values.lookup p.1 with
      | none => simp [hname, lookup_concat, Ne.symm hname]
      | some w => simp [hname]

theorem denoted_cons (d : PropertyDefinition) (p : String × String) (ps : List (String × String)) :
    d.denoted (p :: ps) = d.denoted [p] ++ d.denoted ps := by
  unfold PropertyDefinition.denoted
  rw [← List.filterMap_append]
  rfl

/-- Of the global declarations the last one that parses holds. -/
theorem lookup_foldl_addGlobal (hd : d ∈ Property.registry) (ps : List (String × String))
    (m : Merge) :
    (ps.foldl (fun m p => m.addGlobal p.1 p.2) m).values.lookup d.name =
      (d.denoted ps).getLast?.or (m.values.lookup d.name) := by
  induction ps generalizing m with
  | nil => rfl
  | cons p ps ih =>
    rw [List.foldl_cons, ih, lookup_addGlobal hd, denoted_cons d p ps, List.getLast?_append,
      Option.or_assoc]

/-- Of the declarations on models the first one that parses holds, where no earlier value does. -/
theorem lookup_foldl_addModel (hd : d ∈ Property.registry) (ps : List (String × String))
    (m : Merge) :
    (ps.foldl (fun m p => m.addModel p.1 p.2) m).values.lookup d.name =
      (m.values.lookup d.name).or (d.denoted ps).head? := by
  induction ps generalizing m with
  | nil => exact (Option.or_none ..).symm
  | cons p ps ih =>
    rw [List.foldl_cons, ih, lookup_addModel hd, denoted_cons d p ps, List.head?_append,
      Option.or_assoc]

/-- **What the declarations of a form come to**: the value that the form declares. -/
theorem lookup_ofDeclared (hd : d ∈ Property.registry) (declared : DeclaredProperties) :
    (ofDeclared declared).values.lookup d.name = d.declared? declared := by
  rw [ofDeclared, lookup_foldl_addModel hd, lookup_foldl_addGlobal hd, List.lookup_nil,
    Option.or_none, PropertyDefinition.declared?]

/-! ### Names and warnings -/

/-- The table has values for registered properties only, one for each. -/
structure Registered (values : List (String × PropertyValue)) : Prop where
  nodup : (values.map Prod.fst).Nodup
  known : ∀ name ∈ values.map Prod.fst, ∃ d ∈ Property.registry, d.name = name

theorem exists_of_parse? {name raw : String} {v : PropertyValue}
    (h : Property.parse? name raw = some v) : ∃ d ∈ Property.registry, d.name = name := by
  obtain ⟨d, hd, -⟩ := Option.bind_eq_some_iff.1 h
  exact ⟨d, Property.mem_of_definition? hd⟩

theorem registered_addGlobal (h : Registered m.values) (p : String × String) :
    Registered (m.addGlobal p.1 p.2).values := by
  unfold addGlobal
  cases hv : Property.parse? p.1 p.2 with
  | none => exact h
  | some v =>
    refine ⟨Json.nodup_assign h.nodup p.1 v, fun name hname => ?_⟩
    change name ∈ (Json.assign p.1 v m.values).map Prod.fst at hname
    rw [Json.keys_assign] at hname
    split at hname
    · exact h.known name hname
    · rcases List.mem_append.1 hname with hname | hname
      · exact h.known name hname
      · obtain rfl := List.mem_singleton.1 hname
        exact exists_of_parse? hv

theorem Registered.concat {values : List (String × PropertyValue)} (h : Registered values)
    {d : PropertyDefinition} (hd : d ∈ Property.registry) (hnone : values.lookup d.name = none)
    (v : PropertyValue) : Registered (values ++ [(d.name, v)]) := by
  have hnew := lookup_eq_none_iff_notMem.1 hnone
  constructor
  · rw [List.map_append, List.map_singleton, ← List.concat_eq_append]
    exact h.nodup.concat hnew
  · intro name hname
    rw [List.map_append, List.mem_append] at hname
    rcases hname with hname | hname
    · exact h.known name hname
    · obtain rfl := List.mem_singleton.1 hname
      exact ⟨d, hd, rfl⟩

theorem registered_addModel (h : Registered m.values) (p : String × String) :
    Registered (m.addModel p.1 p.2).values := by
  unfold addModel
  cases hv : Property.parse? p.1 p.2 with
  | none => exact h
  | some v =>
    cases hold : m.values.lookup p.1 with
    | some w => exact h
    | none =>
      obtain ⟨d, hd, hname⟩ := exists_of_parse? hv
      rw [← hname] at hold ⊢
      exact h.concat hd hold v

theorem registered_ofDeclared (declared : DeclaredProperties) :
    Registered (ofDeclared declared).values := by
  have hempty : Registered ({} : Merge).values :=
    ⟨List.nodup_nil, fun _ h => absurd h List.not_mem_nil⟩
  have hglobal := List.foldlRecOn (motive := fun m : Merge => Registered m.values) declared.global
    (fun m p => m.addGlobal p.1 p.2) hempty fun _ hm p _ => registered_addGlobal hm p
  exact List.foldlRecOn (motive := fun m : Merge => Registered m.values) declared.model
    (fun m p => m.addModel p.1 p.2) hglobal fun _ hm p _ => registered_addModel hm p

theorem ignored_singleton (p : String × String) :
    ignored [p] = if (Property.parse? p.1 p.2).isNone then [p.1] else [] := by
  simp only [ignored, Option.isNone_iff_eq_none, Property.parse?_eq_none_iff]
  by_cases h : Property.IsIgnored p <;> simp [h]

theorem ignored_cons (p : String × String) (ps : List (String × String)) :
    ignored (p :: ps) = ignored [p] ++ ignored ps := by
  unfold ignored
  rw [← List.map_append, ← List.filter_append]
  rfl

theorem warnings_addGlobal (m : Merge) (p : String × String) :
    (m.addGlobal p.1 p.2).warnings =
      m.warnings ++ (ignored [p]).map Warning.ignoredGlobalProperty := by
  rw [addGlobal, ignored_singleton]
  cases Property.parse? p.1 p.2 <;> simp

theorem warnings_addModel (m : Merge) (p : String × String) :
    (m.addModel p.1 p.2).warnings =
      m.warnings ++ (ignored [p]).map Warning.ignoredModelProperty := by
  rw [addModel, ignored_singleton]
  cases Property.parse? p.1 p.2 with
  | none => simp
  | some v => cases m.values.lookup p.1 <;> simp

/-- A pass warns about what each of its declarations is warned about for. -/
theorem warnings_foldl {add : Merge → String × String → Merge} {warning : String → Warning}
    (hadd : ∀ m p, (add m p).warnings = m.warnings ++ (ignored [p]).map warning)
    (ps : List (String × String)) (m : Merge) :
    (ps.foldl add m).warnings = m.warnings ++ (ignored ps).map warning := by
  induction ps generalizing m with
  | nil => exact (List.append_nil _).symm
  | cons p ps ih =>
    rw [List.foldl_cons, ih, hadd, ignored_cons p ps, List.map_append, List.append_assoc]

/-- Each declaration that says nothing is warned about once, the global ones first. -/
theorem warnings_ofDeclared (declared : DeclaredProperties) :
    (ofDeclared declared).warnings =
      (ignored declared.global).map Warning.ignoredGlobalProperty ++
        (ignored declared.model).map Warning.ignoredModelProperty := by
  rw [ofDeclared, warnings_foldl warnings_addModel, warnings_foldl warnings_addGlobal, List.nil_append]

end Merge

/-! ## The pass over the registry -/

section Settle

variable {d : PropertyDefinition} {host : List (String × PropertyValue)}
  {values : List (String × PropertyValue)} {ds : List PropertyDefinition}

/-- A property that is settled has its declared value or that of the host, unless it is the
default. -/
theorem lookup_settle (d : PropertyDefinition) (host values : List (String × PropertyValue)) :
    (settle host values d).lookup d.name =
      ((values.lookup d.name).or (d.hosted? host)).filter fun v => decide (v ≠ d.default) := by
  unfold settle PropertyDefinition.hosted?
  cases hv : values.lookup d.name with
  | some v =>
    by_cases hdefault : v = d.default
    · simp [Option.filter, hdefault, lookup_filter_ne]
    · simp [Option.filter, hdefault, hv]
  | none =>
    cases (host.lookup d.name).bind d.coerce? with
    | none => exact hv
    | some v =>
      by_cases hdefault : v = d.default
      · have hnone : (some d.default).filter (fun v => decide (v ≠ d.default)) = none := by simp
        simpa only [hdefault, Option.none_or, hnone, if_true] using hv
      · simp [Option.filter, hdefault, hv, lookup_concat]

/-- Settling one property leaves the others alone. -/
theorem lookup_settle_of_ne {name : String} (h : name ≠ d.name) :
    (settle host values d).lookup name = values.lookup name := by
  unfold settle
  cases values.lookup d.name with
  | some v => by_cases hdefault : v = d.default <;> simp [hdefault, lookup_filter_ne, h]
  | none =>
    cases (host.lookup d.name).bind d.coerce? with
    | none => rfl
    | some v => by_cases hdefault : v = d.default <;> simp [hdefault, lookup_concat, h]

theorem registered_settle (h : Merge.Registered values) (hd : d ∈ Property.registry) :
    Merge.Registered (settle host values d) := by
  unfold settle
  cases hv : values.lookup d.name with
  | some v =>
    dsimp only
    split
    · have hsub : (values.filter fun e => e.1 != d.name).Sublist values := List.filter_sublist
      exact ⟨(hsub.map _).nodup h.nodup, fun name hname => h.known name ((hsub.map _).subset hname)⟩
    · exact h
  | none =>
    cases (host.lookup d.name).bind d.coerce? with
    | none => exact h
    | some v =>
      dsimp only
      split
      · exact h
      · exact h.concat hd hv v

theorem lookup_foldl_settle_of_notMem {name : String} (h : name ∉ ds.map (·.name))
    (values : List (String × PropertyValue)) :
    (ds.foldl (settle host) values).lookup name = values.lookup name := by
  induction ds generalizing values with
  | nil => rfl
  | cons d ds ih =>
    rw [List.map_cons, List.mem_cons, not_or] at h
    rw [List.foldl_cons, ih h.2, lookup_settle_of_ne h.1]

/-- Each property of the pass is settled once, whatever stands before and after it. -/
theorem lookup_foldl_settle (hnames : (ds.map (·.name)).Nodup) (hd : d ∈ ds)
    (values : List (String × PropertyValue)) :
    (ds.foldl (settle host) values).lookup d.name =
      ((values.lookup d.name).or (d.hosted? host)).filter fun v => decide (v ≠ d.default) := by
  induction ds generalizing values with
  | nil => contradiction
  | cons e ds ih =>
    rw [List.map_cons, List.nodup_cons] at hnames
    rw [List.foldl_cons]
    rcases List.mem_cons.1 hd with rfl | hmem
    · rw [lookup_foldl_settle_of_notMem hnames.1, lookup_settle]
    · have hne : d.name ≠ e.name := fun heq =>
        hnames.1 (heq ▸ List.mem_map.2 ⟨d, hmem, rfl⟩)
      rw [ih hnames.2 hmem, lookup_settle_of_ne hne]

end Settle

/-! ## The table -/

section Stored

variable {declared : DeclaredProperties} {host : List (String × PropertyValue)}
  {d : PropertyDefinition} {events : List String}

/-- The values that a table stores: what the passes leave. -/
def stored (declared : DeclaredProperties) (host : List (String × PropertyValue)) :
    List (String × PropertyValue) :=
  Property.registry.foldl (settle host) (Merge.ofDeclared declared).values

theorem registered_stored (declared : DeclaredProperties) (host : List (String × PropertyValue)) :
    Merge.Registered (stored declared host) :=
  List.foldlRecOn (motive := Merge.Registered) Property.registry (settle host)
    (Merge.registered_ofDeclared declared) fun _ h _ hd => registered_settle h hd

theorem lookup_stored (hd : d ∈ Property.registry) :
    (stored declared host).lookup d.name =
      ((d.declared? declared).or (d.hosted? host)).filter fun v => decide (v ≠ d.default) := by
  rw [stored, lookup_foldl_settle Property.nodup_names hd, Merge.lookup_ofDeclared hd]

/-- A value is stored when it is the value of its property and not the default. -/
theorem lookup_stored_eq_some (hd : d ∈ Property.registry) {v : PropertyValue} :
    (stored declared host).lookup d.name = some v ↔
      d.effective declared host = v ∧ v ≠ d.default := by
  rw [lookup_stored hd, PropertyDefinition.effective, Option.filter_eq_some_iff]
  cases (d.declared? declared).or (d.hosted? host) with
  | none =>
    have hnot : ¬(d.default = v ∧ v ≠ d.default) := fun h => h.2 h.1.symm
    simpa using hnot
  | some w => simp

/-- The table reads back the value of each registered property, stored or not. -/
theorem property?_stored (hd : d ∈ Property.registry) :
    (PropertyTable.mk (stored declared host) events).property? d.name =
      some (d.effective declared host) := by
  rw [property?, Property.definition?_name hd, Option.map_some, lookup_stored hd,
    PropertyDefinition.effective]
  cases (d.declared? declared).or (d.hosted? host) with
  | none => rfl
  | some v => by_cases hdefault : v = d.default <;> simp [Option.filter, hdefault]

theorem property?_stored_of_unknown {name : String} (h : ∀ d ∈ Property.registry, d.name ≠ name) :
    (PropertyTable.mk (stored declared host) events).property? name = none := by
  have hnot : name ∉ (stored declared host).map Prod.fst := fun hmem => by
    obtain ⟨d, hd, hname⟩ := (registered_stored declared host).known name hmem
    exact h d hd hname
  rw [property?, Property.definition?_eq_none h, lookup_eq_none_iff_notMem.2 hnot]
  rfl

end Stored

end PropertyTable

/-! ## Values that are not allowed -/

/-- An enumerated property refuses a value that is not one of those it may take. -/
def PropertyDefinition.Refuses (d : PropertyDefinition) (v : PropertyValue) : Prop :=
  ∃ allowed, d.allowed = some allowed ∧ ∀ s ∈ allowed, v ≠ .string s

theorem PropertyDefinition.accepts_eq_false_iff {d : PropertyDefinition} {v : PropertyValue} :
    d.accepts v = false ↔ d.Refuses v := by
  unfold accepts Refuses
  cases d.allowed with
  | none => simp
  | some allowed =>
    cases v with
    | string t =>
      have hmem : t ∉ allowed ↔ ∀ s ∈ allowed, t ≠ s :=
        ⟨fun h s hs heq => h (heq ▸ hs), fun h ht => h t ht rfl⟩
      simpa using hmem
    | boolean b => simp
    | integer n => simp

namespace PropertyTable

variable {declared : DeclaredProperties} {host : List (String × PropertyValue)}

/-- The first property of the registry that refuses its value. -/
def refused? (declared : DeclaredProperties) (host : List (String × PropertyValue)) :
    Option PropertyDefinition :=
  Property.registry.find? fun d => !d.accepts (d.effective declared host)

theorem refused?_eq_none_iff : refused? declared host = none ↔
    ∀ d ∈ Property.registry, ¬d.Refuses (d.effective declared host) := by
  rw [refused?, List.find?_eq_none]
  refine forall₂_congr fun d _ => ?_
  rw [← PropertyDefinition.accepts_eq_false_iff]
  simp

/-- The check of a table names the first property that refuses its value, with that value. -/
theorem invalid?_stored (declared : DeclaredProperties) (host : List (String × PropertyValue))
    (events : List String) :
    (PropertyTable.mk (stored declared host) events).invalid? =
      (refused? declared host).map fun d =>
        .invalidProperty d.name (d.effective declared host).render := by
  unfold invalid? refused?
  generalize hds : Property.registry = ds
  have hknown : ∀ d ∈ ds, d ∈ Property.registry := fun d hd => hds ▸ hd
  clear hds
  induction ds with
  | nil => rfl
  | cons d ds ih =>
    rw [List.findSome?_cons, List.find?_cons, property?_stored (hknown d List.mem_cons_self),
      ih fun e he => hknown e (List.mem_cons_of_mem d he), Option.bind_some]
    cases hrefused : d.accepts (d.effective declared host) with
    | true => simp
    | false =>
      obtain ⟨allowed, hallowed, -⟩ := PropertyDefinition.accepts_eq_false_iff.1 hrefused
      simp [hallowed]

/-! ## Resolving -/

/-- What the table of a form holds and answers, given the value of each property. -/
structure Holds (t : PropertyTable) (value : PropertyDefinition → PropertyValue) : Prop where
  /-- Every registered property is read with its value. -/
  registered : ∀ d ∈ Property.registry, t.property? d.name = some (value d)
  /-- No other name has a value. -/
  unknown : ∀ name, (∀ d ∈ Property.registry, d.name ≠ name) → t.property? name = none
  /-- The values that differ from the default are stored, each once, and nothing else is. -/
  nodup : (t.nonDefault.map Prod.fst).Nodup
  stored : ∀ name v, (name, v) ∈ t.nonDefault ↔
    ∃ d ∈ Property.registry, d.name = name ∧ value d = v ∧ v ≠ d.default
  /-- The external events are the words of their property, each once. -/
  nodup_events : t.externalEvents.Nodup
  events : ∀ w, w ∈ t.externalEvents ↔ ∃ d ∈ Property.registry, d.name = Property.externalEvents ∧
    ∃ s, value d = .string s ∧ Text.IsWord w.toList s.toList

/-- The words of the external events, where no property but the one of that name is read. -/
theorem mem_externalEvents_iff {value : PropertyDefinition → PropertyValue} {t : PropertyTable}
    (h : ∀ d ∈ Property.registry, t.property? d.name = some (value d)) (w : String) :
    w ∈ (Text.words ((t.string? Property.externalEvents).getD "")).eraseDups ↔
      ∃ d ∈ Property.registry, d.name = Property.externalEvents ∧
        ∃ s, value d = .string s ∧ Text.IsWord w.toList s.toList := by
  obtain ⟨d, hd, hname⟩ : ∃ d ∈ Property.registry, d.name = Property.externalEvents := by decide
  have honly : ∀ e ∈ Property.registry, e.name = Property.externalEvents → e = d := fun e he heq =>
    List.inj_on_of_nodup_map Property.nodup_names he hd (heq.trans hname.symm)
  rw [List.mem_eraseDups, string?, ← hname, h d hd, Option.bind_some]
  constructor
  · intro hw
    cases hv : value d with
    | string s => exact ⟨d, hd, rfl, s, hv, Text.mem_words_iff.1 (by rwa [hv] at hw)⟩
    | boolean b =>
      rw [hv] at hw
      exact absurd hw List.not_mem_nil
    | integer n =>
      rw [hv] at hw
      exact absurd hw List.not_mem_nil
  · rintro ⟨e, he, heq, s, hs, hw⟩
    obtain rfl := honly e he (heq.trans hname)
    rw [hs]
    exact Text.mem_words_iff.2 hw

/-- The table that the passes leave, with the words of its external events. -/
def settled (declared : DeclaredProperties) (host : List (String × PropertyValue)) :
    PropertyTable where
  nonDefault := stored declared host
  externalEvents := (Text.words (((PropertyTable.mk (stored declared host) []).string?
    Property.externalEvents).getD "")).eraseDups

/-- A value is in the table when it is the value of its property and not the default. -/
theorem mem_stored_iff {name : String} {v : PropertyValue} :
    (name, v) ∈ stored declared host ↔
      ∃ d ∈ Property.registry, d.name = name ∧ d.effective declared host = v ∧ v ≠ d.default := by
  have hregistered := registered_stored declared host
  constructor
  · intro h
    obtain ⟨d, hd, rfl⟩ := hregistered.known name (List.mem_map.2 ⟨_, h, rfl⟩)
    have hlookup := (lookup_eq_some_iff_mem hregistered.nodup).2 h
    exact ⟨d, hd, rfl, (lookup_stored_eq_some hd).1 hlookup⟩
  · rintro ⟨d, hd, rfl, h⟩
    exact (lookup_eq_some_iff_mem hregistered.nodup).1 ((lookup_stored_eq_some hd).2 h)

theorem nodup_eraseDups {α : Type} [BEq α] [LawfulBEq α] (xs : List α) : xs.eraseDups.Nodup := by
  cases xs with
  | nil => exact List.nodup_nil
  | cons x xs =>
    rw [List.eraseDups_cons, List.nodup_cons]
    refine ⟨fun hmem => ?_, nodup_eraseDups _⟩
    rw [List.mem_eraseDups, List.mem_filter] at hmem
    simp at hmem
termination_by xs.length
decreasing_by
  have hshorter := List.length_filter_le (fun y => !(y == x)) xs
  rw [List.length_cons]
  omega

theorem holds_settled (declared : DeclaredProperties) (host : List (String × PropertyValue)) :
    (settled declared host).Holds fun d => d.effective declared host := by
  have hread : ∀ events, ∀ d ∈ Property.registry,
      (PropertyTable.mk (stored declared host) events).property? d.name =
        some (d.effective declared host) := fun _ _ hd => property?_stored hd
  have hunknown : ∀ events name, (∀ d ∈ Property.registry, d.name ≠ name) →
      (PropertyTable.mk (stored declared host) events).property? name = none :=
    fun _ _ h => property?_stored_of_unknown h
  have hnodup := (registered_stored declared host).nodup
  have hmem : ∀ name v, (name, v) ∈ stored declared host ↔ ∃ d ∈ Property.registry,
      d.name = name ∧ d.effective declared host = v ∧ v ≠ d.default := fun _ _ => mem_stored_iff
  rw [settled]
  -- from here on the passes that made the values do not matter
  generalize stored declared host = values at hread hunknown hnodup hmem
  exact
    { registered := hread _
      unknown := hunknown _
      nodup := hnodup
      stored := hmem
      nodup_events := nodup_eraseDups _
      events := mem_externalEvents_iff (hread []) }

/-- What `resolve` makes of the passes: a refusal, or the stored values with the words of the
external events. -/
theorem resolve_eq (declared : DeclaredProperties) (host : List (String × PropertyValue)) :
    resolve declared host =
      ((ignored declared.global).map Warning.ignoredGlobalProperty ++
          (ignored declared.model).map Warning.ignoredModelProperty,
        match refused? declared host with
        | some d => .error (.invalidProperty d.name (d.effective declared host).render)
        | none => .ok (settled declared host)) := by
  have hinvalid := invalid?_stored declared host []
  rw [resolve, Merge.warnings_ofDeclared, settled]
  dsimp only
  rw [← stored]
  generalize stored declared host = values at hinvalid
  rw [hinvalid]
  cases refused? declared host <;> rfl

/-- **The properties of a form.** Whatever the form declares and the host says, each registered
property has one value by precedence. A declaration that says nothing is warned about, the global
ones first. An enumerated property that refuses its value is an error, and the first such property
is the one named. Otherwise the table has the value of every registered property, and no other. -/
theorem resolve_spec (declared : DeclaredProperties) (host : List (String × PropertyValue)) :
    (resolve declared host).1 =
        (ignored declared.global).map Warning.ignoredGlobalProperty ++
          (ignored declared.model).map Warning.ignoredModelProperty ∧
      ((∃ e, (resolve declared host).2 = .error e) ↔
        ∃ d ∈ Property.registry, d.Refuses (d.effective declared host)) ∧
      (∀ e, (resolve declared host).2 = .error e → ∃ d ∈ Property.registry,
        d.Refuses (d.effective declared host) ∧
          e = .invalidProperty d.name (d.effective declared host).render) ∧
      ∀ t, (resolve declared host).2 = .ok t →
        t.Holds fun d => d.effective declared host := by
  rw [resolve_eq]
  refine ⟨rfl, ?_⟩
  cases hrefused : refused? declared host with
  | some d =>
    have hd : d ∈ Property.registry := List.mem_of_find?_eq_some hrefused
    have hvalue : d.Refuses (d.effective declared host) :=
      PropertyDefinition.accepts_eq_false_iff.1 (by simpa using List.find?_some hrefused)
    refine ⟨⟨fun _ => ⟨d, hd, hvalue⟩, fun _ => ⟨_, rfl⟩⟩, fun e he => ⟨d, hd, hvalue, ?_⟩, ?_⟩
    · exact (Except.error.inj he).symm
    · intro t ht
      contradiction
  | none =>
    have hnone := refused?_eq_none_iff.1 hrefused
    refine ⟨⟨?_, ?_⟩, ?_, ?_⟩
    · rintro ⟨e, he⟩
      contradiction
    · rintro ⟨d, hd, hvalue⟩
      exact absurd hvalue (hnone d hd)
    · intro e he
      contradiction
    · intro t ht
      obtain rfl := Except.ok.inj ht
      exact holds_settled declared host

/-- A default that is declared keeps the host's value out and is not stored. -/
example : (resolve ⟨[], [(Property.noscript, " false ")]⟩ [(Property.noscript, .boolean true)]).2 =
    .ok {} := by
  rfl

end PropertyTable

end FormEngine
