import QueryModel.Error
import QueryModel.Json.Render
import QueryModel.Text.Alphanumeric
import QueryModel.Text.Lines

/-!
# Log lines

A line has a level, the name of what speaks, a message and notes to it. A threshold
decides which lines are shown. A message shows control characters that a terminal would
act on by their number; notes are shown as they are.
-/

set_option autoImplicit false

namespace QueryModel

def detailSetting : String := "CODEGEN_DEBUG"

/-- A setting counts as on unless it is blank, zero or the word for false. -/
def isOn (setting : String) : Bool :=
  let cs := Text.trim setting.toList
  !cs.isEmpty && cs != ['0'] && cs.map Text.asciiLower != "false".toList

def asksForDetails (setting : Option String) : Bool := setting.any isOn

inductive LogLevel where
  | error
  | warn
  | info
  | debug
  | trace
  deriving DecidableEq, Repr

namespace LogLevel

def text : LogLevel → String
  | .error => "ERROR"
  | .warn => "WARN"
  | .info => "INFO"
  | .debug => "DEBUG"
  | .trace => "TRACE"

def rank : LogLevel → Nat
  | .error => 1
  | .warn => 2
  | .info => 3
  | .debug => 4
  | .trace => 5

def ofText? (text : String) : Option LogLevel :=
  [.error, .warn, .info, .debug, .trace].find? fun level =>
    level.text.toList.map Text.asciiLower = text.toList.map Text.asciiLower

end LogLevel

structure LogThreshold where
  level : Option LogLevel
  deriving DecidableEq, Repr

namespace LogThreshold

def settingName : String := "RUST_LOG"

/-- A threshold is named by its level or turned off; an empty setting leaves errors, and
one that names nothing counts as missing. -/
def ofSetting : Option String → LogThreshold
  | none => ⟨some .info⟩
  | some setting =>
    if setting.isEmpty then ⟨some .error⟩
    else if setting.toList.map Text.asciiLower = "off".toList then ⟨none⟩
    else ⟨some ((LogLevel.ofText? setting).getD .info)⟩

def admits (t : LogThreshold) (level : LogLevel) : Bool :=
  t.level.any fun most => level.rank ≤ most.rank

end LogThreshold

structure LogLine where
  level : LogLevel
  speaker : String
  message : String
  /-- Names with the text of their value. -/
  notes : List (String × String)
  deriving DecidableEq, Repr

namespace LogLine

def ofMessage : Message → LogLine
  | .warn text => ⟨.warn, "gql_codegen_core::log", text, []⟩
  | .debug text payload =>
    ⟨.debug, "gql_codegen_core::log", text,
      (payload.map fun p => ("payload", p.sorted.compact)).toList⟩

def ofJournal (details : Bool) (journal : Journal) : List LogLine :=
  (journal.map ofMessage).filter fun line => details || line.level != .debug

/-- A character of a message: escape, bell, backspace, form feed, delete and the controls
beyond ASCII are written by number. -/
def messageChar (c : Char) : String :=
  let n := c.toNat
  if n == 0x1B || n == 0x07 || n == 0x08 || n == 0x0C || n == 0x7F then
    "\\x" ++ String.ofList ((Nat.toDigits 16 (0x100 + n)).drop 1)
  else if 0x80 ≤ n && n ≤ 0x9F then "\\u\x7b" ++ String.ofList (Nat.toDigits 16 n) ++ "\x7d"
  else String.singleton c

def render (l : LogLine) : String :=
  l.level.text ++ " " ++ l.speaker ++ ": " ++ String.join (l.message.toList.map messageChar) ++
    String.join (l.notes.map fun (name, value) => " " ++ name ++ "=" ++ value)

end LogLine

def LogThreshold.render (t : LogThreshold) (lines : List LogLine) : String :=
  String.join ((lines.filter fun l => t.admits l.level).map fun l => l.render ++ "\n")

end QueryModel
