import QueryModel.DirectiveUses
import QueryModel.Proofs.Table

/-!
# What the uses of directives are

The uses on an element told without a pass over the schema. A directive has a use when it is both
applied and declared; of several declarations the last counts, of several applications the first.
The use has a value for each declared argument that is given or has a default.
-/

set_option autoImplicit false

namespace QueryModel.DirectiveUses

/-- The values are those of the declared arguments: the first value that is given under the name,
and without one the default of the last argument of the name that has a default. -/
structure Coerces (declaration : DirectiveDeclaration) (given : AppliedDirective)
    (values : Table Json) : Prop where
  ascending : values.Ascending
  contains_iff : ∀ name, values.contains name = true ↔ ∃ a ∈ declaration.arguments,
    a.name = name ∧ (name ∈ Entries.keys given.arguments ∨ a.default.isSome = true)
  get?_iff : ∀ name value, values.get? name = some value ↔
    ((∃ a ∈ declaration.arguments, a.name = name) ∧
      FirstWith (·.1 = name) given.arguments (name, value)) ∨
    (name ∉ Entries.keys given.arguments ∧ ∃ a,
      LastWith (fun a => a.name = name ∧ a.default.isSome = true) declaration.arguments a ∧
      a.default = some value)

section Arguments

variable (declaration : DirectiveDeclaration) (given : AppliedDirective) {name : String}

theorem get?_argumentValues (name : String) : (argumentValues declaration given).get? name =
    declaration.arguments.reverse.findSome? fun a =>
      if a.name = name then argumentValue? given a else none :=
  (Table.get?_inKeyOrder _ name).trans (Table.get?_gather _ _ _ name)

theorem get?_argumentValues_given {value : Json}
    (h : given.arguments.lookup name = some value) :
    (argumentValues declaration given).get? name =
      if ∃ a ∈ declaration.arguments, a.name = name then some value else none := by
  have hvalue (as : List InputDeclaration) :
      (as.findSome? fun a => if a.name = name then argumentValue? given a else none) =
        if ∃ a ∈ as, a.name = name then some value else none := by
    induction as with
    | nil => simp
    | cons a as ih =>
      by_cases ha : a.name = name
      · simp [argumentValue?, ha, h]
      · simp [ha, ih]
  rw [get?_argumentValues, hvalue]
  simp only [List.mem_reverse]

theorem get?_argumentValues_default (h : given.arguments.lookup name = none) :
    (argumentValues declaration given).get? name =
      declaration.arguments.reverse.findSome? fun a =>
        if a.name = name then a.default else none := by
  rw [get?_argumentValues]
  congr 1
  funext a
  by_cases ha : a.name = name
  · simp [argumentValue?, ha, h]
  · simp [ha]

theorem argumentValues_coerces : Coerces declaration given (argumentValues declaration given) where
  ascending := Table.inKeyOrder_ascending _
  contains_iff name := by
    rw [Table.contains, get?_argumentValues, List.findSome?_isSome_iff]
    simp only [List.mem_reverse]
    constructor
    · rintro ⟨a, ha, hvalue⟩
      by_cases hname : a.name = name
      · refine ⟨a, ha, hname, ?_⟩
        simpa [argumentValue?, hname, Entries.keys] using hvalue
      · simp [hname] at hvalue
    · rintro ⟨a, ha, rfl, hvalue⟩
      refine ⟨a, ha, ?_⟩
      simpa [argumentValue?, Entries.keys] using hvalue
  get?_iff name value := by
    have hkeys := Entries.lookup_isSome_iff name given.arguments
    rw [← hkeys, ← Entries.lookup_eq_some_iff_firstWith]
    cases hgiven : given.arguments.lookup name with
    | some first =>
      rw [get?_argumentValues_given declaration given hgiven]
      simp
    | none =>
      have hproperty : (fun a : InputDeclaration =>
          (if a.name = name then a.default else none).isSome = true) =
          fun a => a.name = name ∧ a.default.isSome = true := by
        funext a
        by_cases ha : a.name = name <;> simp [ha]
      rw [get?_argumentValues_default declaration given hgiven, findSome?_eq_some_iff_firstWith,
        hproperty]
      simp only [firstWith_reverse, Option.isSome_none, Bool.false_eq_true, not_false_eq_true,
        true_and, reduceCtorEq, and_false, false_or]
      constructor
      · rintro ⟨a, hlast, hvalue⟩
        exact ⟨a, hlast, by rwa [if_pos hlast.1.1] at hvalue⟩
      · rintro ⟨a, hlast, hvalue⟩
        exact ⟨a, hlast, by rwa [if_pos hlast.1.1]⟩

end Arguments

theorem Coerces.unique {declaration : DirectiveDeclaration} {given : AppliedDirective}
    {values others : Table Json} (h : Coerces declaration given values)
    (h' : Coerces declaration given others) : values = others := by
  apply h.ascending.eq h'.ascending
  intro name
  apply Option.ext
  intro value
  rw [h.get?_iff, h'.get?_iff]

section Uses

variable (s : Schema) (applied : List AppliedDirective)

theorem ofApplied_eq_gather :
    ofApplied s applied = Table.gather (·.name) (useOf? applied) s.directives := rfl

theorem get?_ofApplied (name : String) : (ofApplied s applied).get? name =
    (applied.find? fun d => d.name == name).bind fun given =>
      (s.directives.reverse.find? fun d => d.name == name).map (argumentValues · given) := by
  rw [ofApplied_eq_gather, Table.get?_gather]
  induction s.directives.reverse with
  | nil => simp
  | cons d rest ih =>
    by_cases hname : d.name = name
    · cases hfound : applied.find? fun d => d.name == name with
      | none => simpa [hname, useOf?, hfound] using ih
      | some given => simp [hname, useOf?, hfound]
    · simpa [hname] using ih

theorem keys_ofApplied : (ofApplied s applied).keys =
    ((s.directives.map (·.name)).filter fun name => name ∈ applied.map (·.name)).eraseDups := by
  rw [ofApplied_eq_gather, Table.keys_gather, List.filter_map]
  congr 3
  funext d
  rw [Bool.eq_iff_iff]
  simp [useOf?]

/-- An element has a use of each directive that is applied to it and declared, in the order of
first declaration. The use has the values of the last declaration and the first application. -/
theorem ofApplied_determined :
    (∀ name, name ∈ (ofApplied s applied).keys ↔
      (∃ d ∈ applied, d.name = name) ∧ ∃ d ∈ s.directives, d.name = name) ∧
    ((ofApplied s applied).keys.Pairwise fun m n =>
      (s.directives.map (·.name)).idxOf m < (s.directives.map (·.name)).idxOf n) ∧
    ∀ name values, (ofApplied s applied).get? name = some values ↔
      ∃ declaration given, LastWith (·.name = name) s.directives declaration ∧
        FirstWith (·.name = name) applied given ∧ Coerces declaration given values := by
  refine ⟨?_, ?_, ?_⟩
  · intro name
    rw [keys_ofApplied, List.mem_eraseDups, List.mem_filter]
    simp [and_comm]
  · rw [keys_ofApplied]
    exact eraseDups_filter_ordered _ _
  · intro name values
    have hgiven (given : AppliedDirective) :
        (applied.find? fun d => d.name == name) = some given ↔
          FirstWith (·.name = name) applied given := by
      simp [find?_eq_some_iff_firstWith]
    have hdeclared (declaration : DirectiveDeclaration) :
        (s.directives.reverse.find? fun d => d.name == name) = some declaration ↔
          LastWith (·.name = name) s.directives declaration := by
      simp [find?_eq_some_iff_firstWith, firstWith_reverse]
    simp only [get?_ofApplied, Option.bind_eq_some_iff, Option.map_eq_some_iff, hgiven, hdeclared]
    constructor
    · rintro ⟨given, hfirst, declaration, hlast, rfl⟩
      exact ⟨declaration, given, hlast, hfirst, argumentValues_coerces declaration given⟩
    · rintro ⟨declaration, given, hlast, hfirst, hvalues⟩
      exact ⟨given, hfirst, declaration, hlast,
        (argumentValues_coerces declaration given).unique hvalues⟩

end Uses

/-- Repeated declarations, arguments, applications and values. A null that is given counts. -/
example :
    let argument (name : String) (default : Option Json) : InputDeclaration :=
      ⟨name, none, .named "Int", default, []⟩
    let s : Schema := {
      types := ∅
      directives := [⟨"d", none, [argument "x" (some (.int 1))], []⟩, ⟨"e", none, [], []⟩,
        ⟨"d", none, [argument "y" none, argument "x" (some (.int 2)),
          argument "y" (some (.int 3)), argument "y" (some (.int 4)), argument "y" none], []⟩]
      applied := []
      roots := ⟨none, none, none⟩ }
    (ofApplied s [⟨"none", []⟩, ⟨"e", [("x", .int 5)]⟩, ⟨"d", [("x", .null), ("x", .int 6)]⟩,
      ⟨"d", [("y", .int 7)]⟩]).entries.map (fun e => (e.1, e.2.entries)) =
    [("d", [("x", .null), ("y", .int 4)]), ("e", [])] := by
  decide +kernel

end QueryModel.DirectiveUses
