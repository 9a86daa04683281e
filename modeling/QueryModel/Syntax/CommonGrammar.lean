import QueryModel.Syntax.Reader
import QueryModel.Syntax.Value
import QueryModel.TypeRef

/-!
# Grammar of values, types and directives

The parts that executable and type system definitions share. A nested value or type
opens a bracket, so the nesting of brackets that a text may have bounds the recursion.
-/

set_option autoImplicit false

namespace QueryModel.Syntax.Reader

def namedValue (name : String) : Value :=
  if name = "true" then .boolean true
  else if name = "false" then .boolean false
  else if name = "null" then .null
  else .enum name

def entry (value : Reader Value) : Reader (String × Value) := do
  let key ← name
  expect (sign ":")
  return (key, ← value)

def text : Reader String := do
  let p ← position
  match ← next? with
  | some ⟨.stringValue, source⟩ => advance; literal p (stringValue source.toList)
  | some ⟨.blockString, source⟩ => advance; return blockValue source.toList
  | _ => unexpected

/-- A value whose nested values are read by `nested`. A constant has no variables. -/
def valueOf (constant : Bool) (nested : Reader Value) : Reader Value := do
  let p ← position
  match ← next? with
  | some ⟨.name, source⟩ => advance; return namedValue source
  | some ⟨.intValue, source⟩ => advance; return .int (← literal p (intValue source.toList))
  | some ⟨.floatValue, source⟩ => advance; return .float (← literal p (floatValue source.toList))
  | some ⟨.stringValue, _⟩ => return .string (← text)
  | some ⟨.blockString, _⟩ => return .string (← text)
  | some ⟨.punctuator, source⟩ =>
    if source = "[" then
      advance
      return .list (← manyUntil (sign "]") nested)
    else if source = "\x7b" then
      advance
      return .ofEntries (← manyUntil (sign "\x7d") (entry nested))
    else if source = "$" ∧ ¬ constant then
      advance
      return .variable (← name)
    else missing
  | none => missing

def valueAt (constant : Bool) : Nat → Reader Value
  | 0 => valueOf constant missing
  | n + 1 => valueOf constant (valueAt constant n)

def value : Reader Value := valueAt false nestingLimit

def constant : Reader Value := valueAt true nestingLimit

def typeOf (nested : Reader TypeRef) : Reader TypeRef := do
  let t ←
    if ← accept (sign "[") then
      let element ← nested
      expect (sign "]")
      pure (TypeRef.list element)
    else
      match ← next? with
      | some ⟨.name, n⟩ => advance; pure (TypeRef.named n)
      | _ => missing
  if ← accept (sign "!") then return .nonNull t else return t

def typeAt : Nat → Reader TypeRef
  | 0 => typeOf missing
  | n + 1 => typeOf (typeAt n)

def typeRef : Reader TypeRef := typeAt nestingLimit

def arguments : Reader (List (String × Value)) :=
  optionalBetween (sign "(") (sign ")") (entry value)

def directive : Reader Directive := do
  let n ← name
  return ⟨n, ← arguments⟩

def directives : Reader (List Directive) := each (sign "@") directive

def defaultValue : Reader (Option Value) := do
  if ← accept (sign "=") then return some (← constant) else return none

end QueryModel.Syntax.Reader
