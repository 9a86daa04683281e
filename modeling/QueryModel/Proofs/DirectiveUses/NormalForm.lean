import QueryModel.Proofs.DirectiveUses.Meaning

/-!
# Uses as a normal form

Uses that are read as applied directives have themselves as uses, also where a default has become a
value that is given. The places of directives of different names do not matter, nor do those of
arguments of different names.
-/

set_option autoImplicit false

namespace QueryModel

/-- The second list has the elements of the first in an order that keeps that of the elements of
each name. -/
structure Rearranged {α : Type} (name : α → String) (xs ys : List α) : Prop where
  perm : ys.Perm xs
  named : ∀ n, (ys.filter fun y => name y == n) = xs.filter fun x => name x == n

theorem Rearranged.find?_eq {α : Type} {name : α → String} {xs ys : List α}
    (h : Rearranged name xs ys) (n : String) :
    (ys.find? fun y => name y == n) = xs.find? fun x => name x == n := by
  rw [← List.head?_filter, h.named, List.head?_filter]

namespace DirectiveUses

section Places

variable {s : Schema} {applied other : List AppliedDirective}

theorem ofApplied_eq_of_useOf? (h : useOf? other = useOf? applied) :
    ofApplied s other = ofApplied s applied := by
  rw [ofApplied_eq_gather, h, ofApplied_eq_gather]

theorem ofApplied_rearranged (h : Rearranged AppliedDirective.name applied other) :
    ofApplied s other = ofApplied s applied := by
  apply ofApplied_eq_of_useOf?
  funext d
  rw [useOf?, h.find?_eq, useOf?]

theorem argumentValues_rearranged (d : DirectiveDeclaration) {given : AppliedDirective}
    {arguments : List (String × Json)} (h : Rearranged Prod.fst given.arguments arguments) :
    argumentValues d { given with arguments := arguments } = argumentValues d given := by
  have hfind (name : String) :
      arguments.lookup name = given.arguments.lookup name := by
    rw [Entries.lookup_eq_find?, h.find?_eq, Entries.lookup_eq_find?]
  have hvalue : argumentValue? { given with arguments := arguments } = argumentValue? given := by
    funext a
    rw [argumentValue?, hfind, argumentValue?]
  have hadd : addArgument { given with arguments := arguments } = addArgument given := by
    funext values a
    rw [addArgument, hvalue, addArgument]
  rw [argumentValues, hadd, argumentValues]

theorem ofApplied_arguments_rearranged {before after : List AppliedDirective}
    {given : AppliedDirective} {arguments : List (String × Json)}
    (h : Rearranged Prod.fst given.arguments arguments) :
    ofApplied s (before ++ { given with arguments := arguments } :: after) =
      ofApplied s (before ++ given :: after) := by
  apply ofApplied_eq_of_useOf?
  funext d
  simp only [useOf?, List.find?_append, List.find?_cons]
  cases before.find? fun d' => d'.name == d.name with
  | some found => rfl
  | none =>
    cases given.name == d.name with
    | true => exact congrArg some (argumentValues_rearranged d h)
    | false => rfl

end Places

section Again

theorem map_name_toApplied (uses : DirectiveUses) : uses.toApplied.map (·.name) = uses.keys := by
  rw [toApplied, List.map_map]
  rfl

theorem find?_toApplied (uses : DirectiveUses) (name : String) :
    (uses.toApplied.find? fun d => d.name == name) =
      (uses.get? name).map fun values => ⟨name, values.entries⟩ := by
  rw [Table.get?, toApplied]
  induction uses.entries with
  | nil => rfl
  | cons e rest ih =>
    obtain ⟨key, values⟩ := e
    by_cases hname : key = name
    · subst hname
      simp
    · rw [Entries.lookup_cons_of_ne (Ne.symm hname), ← ih]
      simp [hname]

theorem argumentValues_again (d : DirectiveDeclaration) (given : AppliedDirective) (name : String) :
    argumentValues d ⟨name, (argumentValues d given).entries⟩ = argumentValues d given := by
  have hfirst := argumentValues_coerces d given
  let again : AppliedDirective := ⟨name, (argumentValues d given).entries⟩
  apply (argumentValues_coerces d again).ascending.eq hfirst.ascending
  intro key
  have hcontains := hfirst.contains_iff key
  rw [Table.contains] at hcontains
  cases hvalue : (argumentValues d given).get? key with
  | some value =>
    rw [hvalue] at hcontains
    obtain ⟨a, ha, hname, -⟩ := hcontains.mp rfl
    rw [get?_argumentValues_given d again hvalue, if_pos ⟨a, ha, hname⟩]
  | none =>
    rw [get?_argumentValues_default d again hvalue, List.findSome?_eq_none_iff]
    intro a ha
    by_cases hname : a.name = key
    · rw [if_pos hname, ← Option.not_isSome_iff_eq_none]
      intro hdefault
      have hsome := hcontains.mpr ⟨a, List.mem_reverse.mp ha, hname, .inr hdefault⟩
      simp [hvalue] at hsome
    · rw [if_neg hname]

theorem ofApplied_again (s : Schema) (applied : List AppliedDirective) :
    ofApplied s (ofApplied s applied).toApplied = ofApplied s applied := by
  apply Table.ext_get?
  · rw [keys_ofApplied, map_name_toApplied, keys_ofApplied s applied]
    congr 1
    apply List.filter_congr
    intro name hname
    simp only [List.mem_eraseDups, List.mem_filter, hname, true_and, decide_eq_true_eq]
  · -- Earlier declarations of the name give other values on the way; the last one decides.
    intro name
    rw [get?_ofApplied, find?_toApplied, get?_ofApplied]
    cases applied.find? fun d => d.name == name with
    | none => rfl
    | some given =>
      cases s.directives.reverse.find? fun d => d.name == name with
      | none => rfl
      | some d =>
        simp only [Option.bind_some, Option.map_some, argumentValues_again]

end Again

/-- The uses on an element, read as applied directives, have themselves as uses. They are the same
after directives, or the arguments of one of them, have changed places without changing the order
of those of one name. -/
theorem ofApplied_normal_form (s : Schema) (applied : List AppliedDirective) :
    ofApplied s (ofApplied s applied).toApplied = ofApplied s applied ∧
    (∀ other, Rearranged AppliedDirective.name applied other →
      ofApplied s other = ofApplied s applied) ∧
    ∀ before given after arguments, applied = before ++ given :: after →
      Rearranged Prod.fst given.arguments arguments →
      ofApplied s (before ++ { given with arguments := arguments } :: after) =
        ofApplied s applied := by
  refine ⟨ofApplied_again s applied, fun other h => ofApplied_rearranged h, ?_⟩
  rintro before given after arguments rfl h
  exact ofApplied_arguments_rearranged h

/-- The argument `y` takes the default of its second declaration, which is given when the uses are
read again. A directive and an argument change places with others of another name. -/
theorem ofApplied_normal_form_repeated :
    let argument (name : String) (default : Option Json) : InputDeclaration :=
      ⟨name, none, .named "Int", default, []⟩
    let s : Schema := {
      types := ∅
      directives := [⟨"d", none, [argument "y" none, argument "x" (some (.int 1)),
        argument "y" (some (.int 2))], []⟩, ⟨"e", none, [], []⟩, ⟨"d", none,
        [argument "y" none, argument "x" none, argument "y" (some (.int 3))], []⟩]
      applied := []
      roots := ⟨none, none, none⟩ }
    let given : AppliedDirective := ⟨"d", [("x", .int 4), ("z", .null), ("x", .int 5)]⟩
    let applied : List AppliedDirective := [given, ⟨"e", []⟩, ⟨"d", []⟩]
    let other : List AppliedDirective := [⟨"e", []⟩, given, ⟨"d", []⟩]
    let arguments : List (String × Json) := [("z", .null), ("x", .int 4), ("x", .int 5)]
    (ofApplied s applied).toApplied = [⟨"d", [("x", .int 4), ("y", .int 3)]⟩, ⟨"e", []⟩] ∧
    ofApplied s (ofApplied s applied).toApplied = ofApplied s applied ∧
    Rearranged AppliedDirective.name applied other ∧ ofApplied s other = ofApplied s applied ∧
    Rearranged Prod.fst given.arguments arguments ∧
    ofApplied s [{ given with arguments := arguments }, ⟨"e", []⟩, ⟨"d", []⟩] =
      ofApplied s applied := by
  intro argument s given applied other arguments
  obtain ⟨hagain, hother, harguments⟩ := ofApplied_normal_form s applied
  have hplaces : Rearranged AppliedDirective.name applied other := by
    refine ⟨.swap _ _ _, fun n => ?_⟩
    by_cases hn : "d" = n
    · subst hn
      rfl
    · simp [applied, other, given, List.filter_cons, hn]
  have hvalues : Rearranged Prod.fst given.arguments arguments := by
    refine ⟨.swap _ _ _, fun n => ?_⟩
    by_cases hn : "x" = n
    · subst hn
      rfl
    · simp [arguments, given, List.filter_cons, hn]
  exact ⟨by decide +kernel, hagain, hplaces, hother other hplaces, hvalues,
    harguments [] given _ arguments rfl hvalues⟩

end DirectiveUses

end QueryModel
