import QueryModel.Error
import QueryModel.Text.Bytes
import QueryModel.Text.Encoding

/-!
# Files by path

A tree of files below a working folder. A path is followed step by step: every step but
the last has to be a folder, a point stays and two points go up. Nothing is known of what
lies outside the working folder.
-/

set_option autoImplicit false

namespace QueryModel

structure FileTree where
  files : List (List String × List UInt8)
  folders : List (List String)

inductive FileNode where
  | file (content : List UInt8)
  | folder

namespace FileTree

def empty : FileTree := ⟨[], []⟩

def stepsOf (path : String) : List String :=
  (path.toList.splitOn '/').map String.ofList

def stays (step : String) : Bool := step = "" || step = "."

/-- The place that steps lead to from a place, unless they leave the working folder. -/
def placeFrom (place : List String) : List String → Option (List String)
  | [] => some place
  | step :: rest =>
    if stays step then placeFrom place rest
    else if step = ".." then
      if place.isEmpty then none else placeFrom place.dropLast rest
    else placeFrom (place ++ [step]) rest

def setFile (t : FileTree) (place : List String) (content : List UInt8) : FileTree :=
  { t with files := (place, content) :: t.files }

def add (t : FileTree) (path : String) (content : List UInt8) : FileTree :=
  match placeFrom [] (stepsOf path) with
  | none => t
  | some place =>
    if path.toList.getLast? = some '/' then { t with folders := place :: t.folders }
    else t.setFile place content

def isFolder (t : FileTree) (place : List String) : Bool :=
  place.isEmpty || t.folders.any place.isPrefixOf || t.files.any fun f => place.isPrefixOf f.1

def node? (t : FileTree) (place : List String) : Option FileNode :=
  match t.files.lookup place with
  | some content => some (.file content)
  | none => if t.isFolder place then some .folder else none

def isLong (step : String) : Bool := 255 < step.utf8ByteSize

/-- Outside the working folder the first step to a name leads nowhere. -/
def outside : List String → Except ReadFault FileNode
  | [] => .ok .folder
  | step :: rest =>
    if stays step || step = ".." then outside rest
    else if isLong step then .error .nameTooLong
    else .error .missing

def follow (t : FileTree) (place : List String) : List String → Except ReadFault FileNode
  | [] => .ok .folder
  | step :: rest =>
    if stays step then t.follow place rest
    else if step = ".." then
      if place.isEmpty then outside rest else t.follow place.dropLast rest
    else if isLong step then .error .nameTooLong
    else
      match t.node? (place ++ [step]) with
      | none => .error .missing
      | some (.file content) => if rest.isEmpty then .ok (.file content) else .error .throughFile
      | some .folder => t.follow (place ++ [step]) rest

def pathFault? (path : String) : Option ReadFault :=
  if path.toList.contains '\x00' then some .nulInName
  else if path.isEmpty then some .missing
  else if 4096 ≤ path.utf8ByteSize then some .nameTooLong
  else none

def isAbsolute (path : String) : Bool := path.toList.head? = some '/'

def find (t : FileTree) (path : String) : Except ReadFault FileNode :=
  match pathFault? path with
  | some fault => .error fault
  | none => if isAbsolute path then outside (stepsOf path) else t.follow [] (stepsOf path)

def readText (t : FileTree) (path : String) : Except ReadFault String := do
  match ← t.find path with
  | .folder => throw .directory
  | .file content =>
    match Text.ofBytes? content with
    | some text => return text
    | none => throw .notText

def namedSteps (path : String) : List String × Bool :=
  let steps := (stepsOf path).reverse
  ((steps.dropWhile (· = "")).reverse, steps.head? = some "")

/-- The place of a file that is written, whose folder has to be there. A path that ends
with a slash or with points names a folder. -/
def target (t : FileTree) (path : String) : Except ReadFault (List String) := do
  if let some fault := pathFault? path then throw fault
  let (steps, slashed) := namedSteps path
  let name := steps.getLast?.getD ""
  let parent := steps.dropLast
  match ← if isAbsolute path then outside parent else t.follow [] parent with
  | .file _ => throw .throughFile
  | .folder =>
    if slashed || stays name || name = ".." then throw .directory
    if isLong name then throw .nameTooLong
    match if isAbsolute path then none else placeFrom [] parent with
    | none => throw .missing
    | some place =>
      match t.node? (place ++ [name]) with
      | some .folder => throw .directory
      | _ => return place ++ [name]

def writeText (t : FileTree) (path text : String) : Except ReadFault FileTree := do
  return t.setFile (← t.target path) (Text.bytes text.toList)

end FileTree

end QueryModel
