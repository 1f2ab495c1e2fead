import ThermalPrint.Text.Split

/-! The files that a run can read. A path is walked part by part, and each part must be in a directory,
so that a path may lead out of a directory but not through a file. -/

namespace ThermalPrint

/-- The texts of files by their paths, as seen from the working directory. A path that ends in a slash
is that of a directory. -/
abbrev Files := List (String × String)

namespace Files

/-- What stands between the slashes of a path. -/
def split (path : String) : List String := (Text.split '/' path.toList).map String.ofList

/-- Whether a path begins at the root and not in the working directory. -/
def isAbsolute (path : String) : Bool := path.toList.head? = some '/'

/-- The parts of a path that say something; the first of an absolute path is a slash. -/
def parts (path : String) : List String :=
  let named := (split path).filter fun p => p ≠ "" && p ≠ "."
  if isAbsolute path then "/" :: named else named

/-- A path without the parts that say nothing. -/
def tidy (path : String) : String :=
  match parts path with
  | "/" :: named => "/" ++ "/".intercalate named
  | named => "/".intercalate named

/-- Whether a path is written as that of a directory. -/
def namesDirectory (path : String) : Bool := path.toList.getLast? = some '/'

/-- Whether the parts name a directory that is known, or one in which something is known. -/
def isDirectory (files : Files) (path : List String) : Bool :=
  files.any fun (name, _) => path.isPrefixOf (parts name) && (path ≠ parts name || namesDirectory name)

/-- The text of the file that the parts name. -/
def text? (files : Files) (path : List String) : Option String :=
  (files.find? fun (name, _) => parts name = path && !namesDirectory name).map (·.2)

/-- Why a file cannot be read. -/
inductive Unreadable
  | missing
  | isDirectory
  | notDirectory
  | nameTooLong
deriving DecidableEq, Repr

def Unreadable.message : Unreadable → String
  | .missing => "No such file or directory (os error 2)"
  | .isDirectory => "Is a directory (os error 21)"
  | .notDirectory => "Not a directory (os error 20)"
  | .nameTooLong => "File name too long (os error 36)"

/-- The bytes that a name in a directory may have. -/
def nameLimit : Nat := 255

/-- The bytes that a path may have. -/
def pathLimit : Nat := 4095

/-- Where a walk along a path has come to. -/
inductive Place
  | directory (here : List String)
  | file (text : String)
deriving DecidableEq, Repr

/-- The directory above one. Above the root is the root. -/
def parent (here : List String) : List String :=
  match here.getLast? with
  | none | some ".." => here ++ [".."]
  | some "/" => here
  | some _ => here.dropLast

/-- Follows one part of a path. -/
def step (files : Files) (place : Place) (part : String) : Except Unreadable Place :=
  match place with
  | .file _ => .error .notDirectory
  | .directory here =>
    if part = "" ∨ part = "." then .ok (.directory here)
    else if part = ".." then .ok (.directory (parent here))
    else if nameLimit < part.utf8ByteSize then .error .nameTooLong
    else
      let there := here ++ [part]
      match files.text? there with
      | some text => .ok (.file text)
      | none => if files.isDirectory there then .ok (.directory there) else .error .missing

/-- Where a path leads. -/
def walk (files : Files) (path : String) : Except Unreadable Place :=
  if path.isEmpty then .error .missing
  else if pathLimit < path.utf8ByteSize then .error .nameTooLong
  else (split path).foldlM files.step (.directory (if isAbsolute path then ["/"] else []))

/-- Reads the file at a path. -/
def read (files : Files) (path : String) : Except Unreadable String := do
  match ← files.walk path with
  | .file text => return text
  | .directory _ => .error .isDirectory

/-- The text of the file at a path. -/
def find? (files : Files) (path : String) : Option String := (files.read path).toOption

/-- Whether anything is at a path. -/
def isPresent (files : Files) (path : String) : Bool := (files.walk path).isOk

example :
    let files : Files := [("d/x", "1"), ("r", "2")]
    (files.find? "d/../r", files.find? "r/../r", files.isPresent "d/.", files.isPresent "d/y") =
      (some "2", none, true, false) := by
  decide +kernel

end Files

end ThermalPrint
