import QueryModel.Document.Transform
import Mathlib.Data.List.Nodup

/-!
# Counted operations

The operations that are written without a name are named by a count. Which of them are counted is
said here from what is written alone: the definitions are those that can be read, up to the first
that does not resolve, and an operation among them is counted when its root type exists. The names
that a count gives are all different.
-/

set_option autoImplicit false

namespace QueryModel

open Syntax

def generatedName (kind : OperationKind) (count : Nat) : String :=
  "Anonymous_" ++ kind.text ++ "_" ++ toString count

def generatedNames (count : Nat) (kinds : List OperationKind) : List String :=
  kinds.mapIdx fun i kind => generatedName kind (count + 1 + i)

structure WrittenOperation where
  name : Option String
  kind : OperationKind

def Syntax.Definition.operation? : Definition → Option WrittenOperation
  | .shorthand _ => some ⟨none, .query⟩
  | .operation kind name _ _ _ => some ⟨name, kind⟩
  | .fragment _ _ _ _ => none

def operationsOf (written : List Definition) : List WrittenOperation :=
  written.filterMap Definition.operation?

/-- The names of the operations: those that are written, and the next ones of the count. -/
def namesFrom (count : Nat) : List WrittenOperation → List String
  | [] => []
  | ⟨some name, _⟩ :: rest => name :: namesFrom count rest
  | ⟨none, kind⟩ :: rest => generatedName kind (count + 1) :: namesFrom (count + 1) rest

def unnamedKinds (operations : List WrittenOperation) : List OperationKind :=
  (operations.filter (·.name.isNone)).map (·.kind)

/-- Of the names of the operations, those of the operations that are written without one. -/
def givenNames (operations : List WrittenOperation) (names : List String) : List String :=
  ((operations.zip names).filter (·.1.name.isNone)).map Prod.snd

section Names

theorem generatedNames_cons (count : Nat) (kind : OperationKind) (kinds : List OperationKind) :
    generatedNames count (kind :: kinds) =
      generatedName kind (count + 1) :: generatedNames (count + 1) kinds := by
  rw [generatedNames, List.mapIdx_cons, generatedNames]
  congr 2
  funext i other
  have hshift : count + 1 + (i + 1) = count + 1 + 1 + i := by omega
  rw [hshift]

theorem generatedNames_append (count : Nat) (kinds more : List OperationKind) :
    generatedNames count (kinds ++ more) =
      generatedNames count kinds ++ generatedNames (count + kinds.length) more := by
  induction kinds generalizing count with
  | nil => rfl
  | cons kind kinds ih =>
    rw [List.cons_append, generatedNames_cons, ih, generatedNames_cons, List.length_cons,
      Nat.add_right_comm, Nat.add_assoc, List.cons_append]

theorem unnamedKinds_append (operations more : List WrittenOperation) :
    unnamedKinds (operations ++ more) = unnamedKinds operations ++ unnamedKinds more := by
  rw [unnamedKinds, List.filter_append, List.map_append]
  rfl

theorem namesFrom_append (count : Nat) (operations more : List WrittenOperation) :
    namesFrom count (operations ++ more) =
      namesFrom count operations ++
        namesFrom (count + (unnamedKinds operations).length) more := by
  induction operations generalizing count with
  | nil => rfl
  | cons w operations ih =>
    obtain ⟨name | name, kind⟩ := w
    · have hcount : count + 1 + (unnamedKinds operations).length =
          count + (unnamedKinds (⟨none, kind⟩ :: operations)).length := by
        simp only [unnamedKinds, List.filter_cons, Option.isNone_none, if_true, List.map_cons,
          List.length_cons]
        omega
      rw [List.cons_append, namesFrom, ih, hcount, namesFrom, List.cons_append]
    · rw [List.cons_append, namesFrom, ih, namesFrom, List.cons_append]
      rfl

theorem givenNames_namesFrom (count : Nat) (operations : List WrittenOperation) :
    givenNames operations (namesFrom count operations) =
      generatedNames count (unnamedKinds operations) := by
  induction operations generalizing count with
  | nil => rfl
  | cons w operations ih =>
    obtain ⟨name | name, kind⟩ := w
    · have hrest := ih (count + 1)
      simp only [givenNames, unnamedKinds] at hrest ⊢
      simp only [namesFrom, List.zip_cons_cons, List.filter_cons, Option.isNone_none, if_true,
        List.map_cons, generatedNames_cons, hrest]
    · have hrest := ih count
      simp only [givenNames, unnamedKinds] at hrest ⊢
      simp only [namesFrom, List.zip_cons_cons, List.filter_cons, Option.isNone_some,
        Bool.false_eq_true, if_false, hrest]

theorem generatedName_inj {kind other : OperationKind} {m n : Nat}
    (h : generatedName kind m = generatedName other n) : kind = other ∧ m = n := by
  have htail : kind.text.toList ++ ('_' :: (toString m).toList) =
      other.text.toList ++ ('_' :: (toString n).toList) := by
    have hchars := congrArg String.toList h
    simp only [generatedName, String.toList_append, List.append_assoc] at hchars
    exact List.append_cancel_left hchars
  have hkind : kind = other := by
    -- The kinds differ in their first letters.
    have hhead := congrArg List.head? htail
    cases kind <;> cases other <;> first | rfl | exact absurd hhead (by simp [OperationKind.text])
  subst hkind
  have hdigits := (List.cons.inj (List.append_cancel_left htail)).2
  have hnumber := congrArg (fun ds => Nat.ofDigitChars 10 ds 0) hdigits
  exact ⟨rfl, by simpa [Nat.toString_eq_ofList_toDigits] using hnumber⟩

theorem exists_of_mem_generatedNames {count : Nat} {kinds : List OperationKind} {name : String}
    (h : name ∈ generatedNames count kinds) :
    ∃ kind number, count < number ∧ name = generatedName kind number := by
  obtain ⟨i, hi, rfl⟩ := List.mem_mapIdx.mp h
  exact ⟨_, _, by omega, rfl⟩

theorem generatedNames_nodup (count : Nat) (kinds : List OperationKind) :
    (generatedNames count kinds).Nodup := by
  induction kinds generalizing count with
  | nil => exact .nil
  | cons kind kinds ih =>
    rw [generatedNames_cons]
    refine List.nodup_cons.mpr ⟨fun hmem => ?_, ih (count + 1)⟩
    -- The names that follow have greater numbers.
    obtain ⟨other, number, hlt, hname⟩ := exists_of_mem_generatedNames hmem
    obtain ⟨_, rfl⟩ := generatedName_inj hname
    exact Nat.lt_irrefl _ hlt

end Names

def Syntax.Definition.root? (s : Schema) : Definition → Option TypeDeclaration
  | .shorthand _ => s.rootType? .query
  | .operation kind _ _ _ _ => s.rootType? kind
  | .fragment _ onType _ _ => s.type? onType

/-- The root type exists, and so does all that the selection and the variables name. -/
def Syntax.Definition.resolves (s : Schema) (d : Definition) : Bool :=
  (d.root? s).any fun root =>
    (SelectionSet.build s root d.items).isOk && (Variable.resolveAll s d.declaredVariables).isOk

/-- The definitions up to the first one that does not resolve, which is the last one reached. -/
def reached (s : Schema) : List Definition → List Definition
  | [] => []
  | d :: rest => if d.resolves s then d :: reached s rest else [d]

def begun (s : Schema) (written : List Definition) : List WrittenOperation :=
  operationsOf ((reached s written).filter fun d => (d.root? s).isSome)

/-- What is read for a call: its definitions up to the end, or up to a text that no grammar
reads. -/
structure Reading where
  written : List Definition
  complete : Bool

namespace Reading

def andThen (first second : Reading) : Reading :=
  if first.complete then ⟨first.written ++ second.written, second.complete⟩ else first

def Resolves (s : Schema) (r : Reading) : Prop :=
  r.complete = true ∧ ∀ d ∈ r.written, d.resolves s = true

def ofPiece (piece : String) : Reading :=
  match readExecutable piece with
  | .ok written => ⟨written, true⟩
  | .error _ => ⟨[], (readTypeSystem piece).isOk⟩

def ofPieces : List String → Reading
  | [] => ⟨[], true⟩
  | piece :: rest => (ofPiece piece).andThen (ofPieces rest)

def ofSource (source : Source) : Reading :=
  match readExecutable source.content with
  | .ok written => ⟨written, true⟩
  | .error _ => ofPieces (splitDefinitions source.content)

def ofSources : List Source → Reading
  | [] => ⟨[], true⟩
  | source :: rest => (ofSource source).andThen (ofSources rest)

end Reading

section Reached

variable {s : Schema}

theorem root?_isSome_of_resolves {d : Definition} (h : d.resolves s = true) :
    (d.root? s).isSome = true := by
  rw [Definition.resolves] at h
  cases hroot : d.root? s with
  | none => simp [hroot] at h
  | some root => rfl

theorem begun_cons_of_resolves {d : Definition} (h : d.resolves s = true) (rest : List Definition) :
    begun s (d :: rest) = operationsOf [d] ++ begun s rest := by
  have hfilter : (d :: reached s rest).filter (fun d => (d.root? s).isSome) =
      [d] ++ (reached s rest).filter fun d => (d.root? s).isSome := by
    simp [root?_isSome_of_resolves h]
  rw [begun, reached, if_pos h, hfilter, operationsOf, List.filterMap_append]
  rfl

theorem begun_cons_of_not {d : Definition} (h : ¬ d.resolves s = true) (rest : List Definition) :
    begun s (d :: rest) = begun s [d] := by
  rw [begun, reached, if_neg h, begun, reached, if_neg h]

theorem begun_append_of_forall {ds : List Definition} (h : ∀ d ∈ ds, d.resolves s = true)
    (es : List Definition) : begun s (ds ++ es) = operationsOf ds ++ begun s es := by
  induction ds with
  | nil => rfl
  | cons d ds ih =>
    obtain ⟨hd, hds⟩ := List.forall_mem_cons.mp h
    rw [List.cons_append, begun_cons_of_resolves hd, ih hds, ← List.append_assoc, operationsOf,
      operationsOf, ← List.filterMap_append]
    rfl

theorem begun_of_forall {ds : List Definition} (h : ∀ d ∈ ds, d.resolves s = true) :
    begun s ds = operationsOf ds := by
  have happend := begun_append_of_forall h []
  rwa [List.append_nil, show begun s [] = [] from rfl, List.append_nil] at happend

theorem begun_append_of_not {ds : List Definition} (h : ¬ ∀ d ∈ ds, d.resolves s = true)
    (es : List Definition) : begun s (ds ++ es) = begun s ds := by
  induction ds with
  | nil => exact absurd (List.forall_mem_nil _) h
  | cons d ds ih =>
    by_cases hd : d.resolves s = true
    · have hds : ¬ ∀ d ∈ ds, d.resolves s = true :=
        fun hds => h (List.forall_mem_cons.mpr ⟨hd, hds⟩)
      rw [List.cons_append, begun_cons_of_resolves hd, ih hds, begun_cons_of_resolves hd]
    · rw [List.cons_append, begun_cons_of_not hd, begun_cons_of_not hd ds]

theorem begun_singleton (d : Definition) :
    begun s [d] = if (d.root? s).isSome then operationsOf [d] else [] := by
  have hreached : reached s [d] = [d] := by
    rw [reached]
    split <;> rfl
  rw [begun, hreached]
  split
  · rename_i hroot
    simp [hroot]
  · rename_i hroot
    simp [hroot, operationsOf]

theorem operationsOf_append (ds es : List Definition) :
    operationsOf (ds ++ es) = operationsOf ds ++ operationsOf es :=
  List.filterMap_append

namespace Reading

variable {first second : Reading}

theorem resolves_andThen :
    (first.andThen second).Resolves s ↔ first.Resolves s ∧ second.Resolves s := by
  rw [andThen]
  cases hcomplete : first.complete with
  | false => simp [Resolves, hcomplete]
  | true =>
    simp only [Resolves, hcomplete, if_true, List.forall_mem_append, true_and]
    tauto

theorem written_andThen (h : first.Resolves s) :
    (first.andThen second).written = first.written ++ second.written := by
  rw [andThen, if_pos h.1]

theorem begun_andThen_of_not (h : ¬ first.Resolves s) :
    begun s (first.andThen second).written = begun s first.written := by
  rw [andThen]
  split
  · rename_i hcomplete
    exact begun_append_of_not (fun hall => h ⟨hcomplete, hall⟩) second.written
  · rfl

theorem andThen_nil (r : Reading) : r.andThen ⟨[], true⟩ = r := by
  obtain ⟨written, complete⟩ := r
  cases complete with
  | false => rfl
  | true => exact congrArg (Reading.mk · true) (List.append_nil written)

end Reading

end Reached

def Message.announced? : Message → Option String
  | .debug text _ =>
    let mark := "[transform_operation] transforming ".toList
    if mark.isPrefixOf text.toList then some (.ofList (text.toList.drop mark.length)) else none
  | .warn _ => none

def announced (messages : List Message) : List String := messages.filterMap Message.announced?

theorem Message.announced?_operation (name : String) (payload : Option Json) :
    announced? (.debug ("[transform_operation] transforming " ++ name) payload) = some name := by
  rw [announced?, String.toList_append, if_pos, List.drop_left, String.ofList_toList]
  exact List.isPrefixOf_iff_prefix.mpr (List.prefix_append _ _)

theorem Message.announced?_fragment (name : String) (payload : Option Json) :
    announced? (.debug ("[transform_fragment] transforming " ++ name) payload) = none := by
  rw [announced?, String.toList_append]
  rfl

end QueryModel
