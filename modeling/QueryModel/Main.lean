import QueryModel.Command.Basic

/-!
# Command line

Reads the files that the command names, runs it and prints or saves what it gives. The
command has no way to the network, so a request is never answered.
-/

set_option autoImplicit false

namespace QueryModel.Main

def readFault : IO.Error → ReadFault
  | .noFileOrDirectory .. => .missing
  | .permissionDenied .. => .denied
  | .inappropriateType _ code _ => if code = 21 then .directory else .throughFile
  | .invalidArgument _ code _ => if code = 36 then .nameTooLong else .nulInName
  | _ => .noData

def readText (path : String) : IO (Except ReadFault String) := do
  try
    let content ← IO.FS.readBinFile path
    match Text.ofBytes? content.toList with
    | some text => return .ok text
    | none => return .error .notText
  catch e => return .error (readFault e)

def saveText (path text : String) : IO (Except ReadFault Unit) := do
  try
    IO.FS.writeFile path text
    return .ok ()
  catch e => return .error (readFault e)

def surroundings (o : CommandOptions) : IO Surroundings := do
  let paths := (o.schema :: o.documents).eraseDups
  let texts ← paths.mapM fun path => return (path, ← readText path)
  return ⟨fun path => (texts.lookup path).getD (.error .missing), fun _ => none⟩

def finish (outcome : Command.Outcome) : IO UInt32 := do
  IO.print outcome.stdout
  IO.eprint outcome.stderr
  return UInt32.ofNat outcome.exitCode

def run (words : List String) : IO UInt32 := do
  match CommandOptions.ofWords words with
  | .error fault => finish (Command.usage fault)
  | .ok options =>
    let details := asksForDetails (← IO.getEnv detailSetting)
    let threshold := LogThreshold.ofSetting (← IO.getEnv LogThreshold.settingName)
    let report := Command.report (← surroundings options) details options
    match report.result with
    | .ok (.save path text) => finish (report.outcome threshold (← saveText path text))
    | _ => finish (report.outcome threshold (.ok ()))

end QueryModel.Main

def main (words : List String) : IO UInt32 := QueryModel.Main.run words
