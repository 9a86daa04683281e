import QueryModel.Syntax.CommonGrammar
import QueryModel.Syntax.Executable

/-!
# Grammar of executable definitions

After three dots the word `on` starts a type condition, a directive or a body an inline
fragment, and any other name is that of a spread fragment.
-/

set_option autoImplicit false

namespace QueryModel.Syntax

namespace Reader

def body (selection : Reader Selection) : Reader (List Selection) := do
  if ← isNext (sign "\x7b") then someBetween (sign "\x7b") (sign "\x7d") selection
  else missing

def fieldOf (nested : Reader (List Selection)) : Reader Selection := do
  let first ← name
  let second ← if ← accept (sign ":") then pure (some (← name)) else pure none
  let args ← arguments
  let dirs ← directives
  let items ← if ← isNext (sign "\x7b") then nested else pure []
  match second with
  | some n => return .field (some first) n args dirs items
  | none => return .field none first args dirs items

def conditionless : Reader Bool := do
  return (← isNext (sign "@")) || (← isNext (sign "\x7b"))

def spreadOf (nested : Reader (List Selection)) : Reader Selection := do
  if ← accept (word "on") then
    let condition ← name
    let dirs ← directives
    return .inlineFragment (some condition) dirs (← nested)
  else if ← conditionless then
    let dirs ← directives
    return .inlineFragment none dirs (← nested)
  else if ← isNameNext then
    let n ← name
    return .spread n (← directives)
  else missing

def selectionOf (nested : Reader (List Selection)) : Reader Selection := do
  if ← accept (sign "...") then spreadOf nested
  else if ← isNameNext then fieldOf nested
  else missing

def selectionAt : Nat → Reader Selection
  | 0 => selectionOf missing
  | n + 1 => selectionOf (body (selectionAt n))

def selectionSet : Reader (List Selection) := body (selectionAt nestingLimit)

def variableDefinition : Reader VariableDefinition := do
  expect (sign "$")
  let n ← name
  expect (sign ":")
  let t ← typeRef
  return ⟨n, t, ← defaultValue⟩

def operation (kind : OperationKind) : Reader Definition := do
  advance
  let n ← match ← next? with
    | some ⟨.name, n⟩ => advance; pure (some n)
    | _ => pure none
  let declaredVariables ← optionalBetween (sign "(") (sign ")") variableDefinition
  let dirs ← directives
  return .operation kind n declaredVariables dirs (← selectionSet)

def fragment : Reader Definition := do
  advance
  let n ← name
  expect (word "on")
  let onType ← name
  let dirs ← directives
  return .fragment n onType dirs (← selectionSet)

def executableDefinition : Reader Definition := do
  match ← next? with
  | some ⟨.punctuator, "\x7b"⟩ => return .shorthand (← selectionSet)
  | some ⟨.name, "query"⟩ => operation .query
  | some ⟨.name, "mutation"⟩ => operation .mutation
  | some ⟨.name, "subscription"⟩ => operation .subscription
  | some ⟨.name, "fragment"⟩ => fragment
  | _ => unexpected

end Reader

def readExecutable (text : String) : Except Failure (List Definition) :=
  (Reader.document Reader.executableDefinition).read text

end QueryModel.Syntax
