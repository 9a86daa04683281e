import QueryModel.Proofs.Syntax.Shapes
import QueryModel.Syntax.ExecutableGrammar

/-!
# Token shapes of executable definitions

An executable definition always ends with its body, so it is read in the same way whatever follows
it. Its first token tells it from a definition of the type system.
-/

set_option autoImplicit false

namespace QueryModel.Syntax

open Reader

namespace Reader

variable {α : Type}

theorem body_takes {r : Reader Selection} (h : EnclosesSome r) :
    TakesClosed (fun _ u => ∃ inner, Enclosed inner ∧ u = sign "\x7b" :: inner ++ [sign "\x7d"])
      (body r) := by
  refine reads_isNext ?_ reads_missing
  exact ((takes_someBetween joins_enclosed h).weaken fun _ _ hu => hu.2).expecting
    fun _ _ => trivial

theorem body_encloses {r : Reader Selection} (h : EnclosesSome r) : EnclosesSome (body r) := by
  refine (body_takes h).bound.weaken ?_
  rintro _ _ ⟨inner, hinner, rfl⟩
  exact ⟨.between .curly hinner, by simp⟩

theorem fieldOf_encloses {nested : Reader (List Selection)} (h : EnclosesSome nested) :
    EnclosesSome (fieldOf nested) := by
  have hrest {finish : List (String × Value) → List Directive → List Selection → Reader Selection}
      (hfinish : ∀ args dirs items, Encloses (finish args dirs items)) :
      Encloses (arguments >>= fun args => directives >>= fun dirs =>
        isNext (sign "\x7b") >>= fun b =>
          if b then nested >>= fun items => finish args dirs items else finish args dirs []) := by
    refine arguments_encloses.bind fun args => directives_encloses.bind fun dirs =>
      (isNext_encloses _).bind fun b => ?_
    cases b
    · exact hfinish args dirs []
    · exact h.any.bind fun items => hfinish args dirs items
  refine name_encloses.bind fun first => (accept_encloses (by decide)).bind fun b => ?_
  cases b
  · exact hrest fun _ _ _ => encloses_pure _
  · exact name_encloses.any.bind fun n => hrest fun _ _ _ => encloses_pure _

theorem spreadOf_encloses {nested : Reader (List Selection)} (h : EnclosesSome nested) :
    Encloses (spreadOf nested) := by
  have hinline (condition : Option String) : Encloses (directives >>= fun dirs =>
      nested >>= fun items => pure (Selection.inlineFragment condition dirs items)) :=
    directives_encloses.bind fun _ => h.any.bind fun _ => encloses_pure _
  refine (accept_encloses (by decide)).bind fun b => ?_
  cases b with
  | true => exact name_encloses.any.bind fun n => hinline (some n)
  | false =>
    have hconditionless : Encloses conditionless :=
      (isNext_encloses _).bind fun _ => (isNext_encloses _).bind fun _ => encloses_pure _
    refine hconditionless.bind fun b => ?_
    cases b with
    | true => exact hinline none
    | false =>
      refine isNameNext_encloses.bind fun b => ?_
      cases b with
      | true =>
        exact name_encloses.any.bind fun _ => directives_encloses.bind fun _ => encloses_pure _
      | false => exact reads_missing

theorem selectionOf_encloses {nested : Reader (List Selection)} (h : EnclosesSome nested) :
    EnclosesSome (selectionOf nested) := by
  refine (takes_accept (sign "...")).bind (S := fun b _ v => Enclosed v ∧ (b = false → v ≠ []))
    (fun b => ?_) ?_
  · cases b with
    | true => exact (spreadOf_encloses h).weaken fun _ _ hv => ⟨hv, nofun⟩
    | false =>
      refine (isNameNext_encloses.bindSome fun b => ?_).weaken fun _ _ hv => ⟨hv.1, fun _ => hv.2⟩
      cases b with
      | true => exact fieldOf_encloses h
      | false => exact reads_missing
  · rintro (_ | _) _ _ v rfl ⟨hv, hne⟩
    · exact ⟨hv, hne rfl⟩
    · exact ⟨.plain (by decide) hv, by simp⟩

theorem selectionAt_encloses (n : Nat) : EnclosesSome (selectionAt n) := by
  induction n with
  | zero => exact selectionOf_encloses reads_missing
  | succ n ih => exact selectionOf_encloses (body_encloses ih)

theorem variableDefinition_encloses : EnclosesSome variableDefinition :=
  (expect_encloses (by decide)).bind fun _ => name_encloses.any.bind fun _ =>
    (expect_encloses (by decide)).any.bind fun _ => (typeAt_encloses nestingLimit).any.bind fun _ =>
      defaultValue_encloses.bind fun _ => encloses_pure _

def formOf : Definition → DefinitionForm
  | .shorthand _ => .shorthand
  | _ => .executable

theorem selectionSet_takes :
    TakesClosed (fun _ u => ∃ inner, Enclosed inner ∧ u = braces inner) selectionSet :=
  body_takes (selectionAt_encloses nestingLimit)

abbrev TakesHeaded (r : Reader Definition) : Prop :=
  TakesClosed (fun d u => formOf d = .executable ∧ HeadedTokens u) r

theorem header_bind {x : Reader α} {f : α → Reader Definition}
    (hx : TakesHeader x) (hf : ∀ a, TakesHeaded (f a)) :
    TakesHeaded (x >>= f) :=
  Reads.bind hx hf fun _ _ _ _ hu hv => ⟨hv.1, .prepend hu hv.2⟩

theorem selectionSet_headed {f : List Selection → Definition}
    (hf : ∀ items, formOf (f items) = .executable) :
    TakesHeaded (selectionSet >>= fun items => pure (f items)) := by
  refine selectionSet_takes.map ?_
  rintro items _ ⟨inner, hinner, rfl⟩
  exact ⟨hf items, [], inner, .nil, hinner, rfl⟩

theorem headed_definition {w : String} (hw : w ∈ executableWords) {r : Reader Definition}
    (h : TakesHeaded r) : Reads true (· = some (word w)) (fun d u => DefinitionTokens (formOf d) u)
      (advance >>= fun _ => r) (advance >>= fun _ => r) := by
  refine reads_advance h ?_
  rintro d _ ⟨hd, header, inner, hheader, hinner, rfl⟩
  rw [hd]
  exact .executable hw hheader hinner

theorem operation_takes (kind : OperationKind) {w : String} (hw : w ∈ executableWords) :
    Reads true (· = some (word w)) (fun d u => DefinitionTokens (formOf d) u) (operation kind)
      (operation kind) := by
  have hrest (n : Option String) : TakesHeaded
      (optionalBetween (sign "(") (sign ")") variableDefinition >>= fun declared =>
        directives >>= fun dirs => selectionSet >>= fun items =>
          pure (.operation kind n declared dirs items)) :=
    header_bind (optionalBetween_header variableDefinition_encloses) fun _ =>
      header_bind directives_header fun _ => selectionSet_headed fun _ => rfl
  refine headed_definition hw (reads_next? fun o _ => ?_)
  rcases o with _ | ⟨tokenKind, source⟩
  · exact (hrest none).expecting fun _ _ => trivial
  · cases tokenKind with
    | name =>
      exact reads_advance (hrest (some source)) fun _ _ hu =>
        ⟨hu.1, .prepend (.name source .nil) hu.2⟩
    | _ => exact (hrest none).expecting fun _ _ => trivial

theorem fragment_takes :
    Reads true (· = some (word "fragment")) (fun d u => DefinitionTokens (formOf d) u) fragment
      fragment :=
  headed_definition (by decide) <| header_bind name_header fun _ =>
    header_bind (expect_header "on") fun _ => header_bind name_header fun _ =>
      header_bind directives_header fun _ => selectionSet_headed fun _ => rfl

/-- An executable definition has the tokens of its form, and what follows it plays no part. -/
theorem executableDefinition_takes :
    TakesClosed (fun d u => DefinitionTokens (formOf d) u) executableDefinition := by
  refine reads_next? fun o _ => ?_
  split
  · refine (selectionSet_takes.map ?_).expecting fun _ _ => trivial
    rintro items _ ⟨inner, hinner, rfl⟩
    exact .shorthand hinner
  · exact operation_takes .query (by decide)
  · exact operation_takes .mutation (by decide)
  · exact operation_takes .subscription (by decide)
  · exact fragment_takes
  · exact reads_unexpected

end Reader

theorem DefinitionTokens.head_executable {d : Definition} {u : List Token}
    (h : DefinitionTokens (formOf d) u) :
    ∃ t ∈ DefinitionTokens.executableStarts, u.head? = some t := by
  generalize hform : formOf d = form at h
  cases h with
  | shorthand hinner => exact ⟨_, List.mem_cons_self, rfl⟩
  | executable hw hheader hinner =>
    exact ⟨_, List.mem_cons_of_mem _ (List.mem_map_of_mem hw), rfl⟩
  | bare | body => cases d <;> simp [formOf] at hform

theorem executableDefinition_error {ts : Tokens} {t : Token}
    (ht : t ∉ DefinitionTokens.executableStarts) (hts : ts.tokens.head? = some t)
    (r : Definition × Tokens) : executableDefinition ts ≠ .ok r := by
  intro h
  obtain ⟨used, hused, -, htokens, hne, -⟩ := executableDefinition_takes ts r.1 r.2 trivial h
  obtain ⟨u, hu, hhead⟩ := htokens.head_executable
  rw [hused, List.head?_append_of_ne_nil _ (hne rfl), hhead, Option.some.injEq] at hts
  exact ht (hts ▸ hu)

end QueryModel.Syntax
