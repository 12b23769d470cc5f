import TapTracker.Storage.Basic

/-!
# A simulated folder

A `Folder` holds files under relative paths; the directories are those on the way to a file.
`Folder.lookup` follows a path step by step, as a system does, and tells what stands at its end:
single dots stay, double dots go up, and a path that leaves the folder finds nothing.
-/

namespace TapTracker.Simulation

/-- The names on the way to a file. -/
abbrev Route := List String

/-- Files under their routes. -/
structure Folder where
  files : List (Route × ByteArray)

/-- Why a path cannot be used. -/
inductive PathError
  | noSuchFile
  | notADirectory
  | isADirectory
  | nameTooLong
  | nulInName
  | notText
deriving DecidableEq, Repr

/-- The error in words. -/
def PathError.message : PathError → String
  | noSuchFile => "No such file or directory (os error 2)"
  | notADirectory => "Not a directory (os error 20)"
  | isADirectory => "Is a directory (os error 21)"
  | nameTooLong => "File name too long (os error 36)"
  | nulInName => "file name contained an unexpected NUL byte"
  | notText => "stream did not contain valid UTF-8"

/-- What stands at the end of a path. -/
inductive Target
  | file (route : Route) (content : ByteArray)
  /-- Nothing yet, in a directory that is there; the path may ask for a directory at its end. -/
  | vacant (route : Route) (asDirectory : Bool)

namespace Folder

/-- The folder with files under their paths. -/
def ofFiles (files : List (String × ByteArray)) : Folder :=
  ⟨files.map fun (path, content) => (path.splitOn "/", content)⟩

/-- The content of the file at the end of a route. -/
def content? (f : Folder) (route : Route) : Option ByteArray :=
  (f.files.find? (·.1 == route)).map (·.2)

/-- The route leads to a directory. -/
def isDirectory (f : Folder) (route : Route) : Bool :=
  route.isEmpty || f.files.any fun (r, _) => route.isPrefixOf r && route != r

/-- Follows names from a directory.  `asDirectory` tells that the path asks for a directory at its
end. -/
def follow (f : Folder) (asDirectory : Bool) : Route → List String → Except PathError Target
  | _, [] => .error .isADirectory
  | route, name :: names =>
    if name = ".." then
      if route.isEmpty then .error .noSuchFile
      else f.follow asDirectory route.dropLast names
    else if 255 < name.utf8ByteSize then .error .nameTooLong
    else
      let next := route ++ [name]
      if f.isDirectory next then f.follow asDirectory next names
      else
        match f.content? next, names with
        | some content, [] =>
          if asDirectory then .error .notADirectory else .ok (.file next content)
        | some _, _ => .error .notADirectory
        | none, [] => .ok (.vacant next asDirectory)
        | none, _ => .error .noSuchFile

/-- What stands at the end of a path. -/
def lookup (f : Folder) (path : String) : Except PathError Target :=
  let names := path.splitOn "/"
  if path.contains '\x00' then .error .nulInName
  else if path.isEmpty then .error .noSuchFile
  else if 4096 ≤ path.utf8ByteSize then .error .nameTooLong
  else if names.head? = some "" then
    if names.all (·.isEmpty) then .error .isADirectory else .error .noSuchFile
  else
    f.follow (names.getLast?.any fun name => name = "" ∨ name = ".") []
      (names.filter fun name => name ≠ "" ∧ name ≠ ".")

/-- The text of the file at the end of a path. -/
def readText (f : Folder) (path : String) : Except PathError String :=
  match f.lookup path with
  | .error e => .error e
  | .ok (.vacant _ _) => .error .noSuchFile
  | .ok (.file _ content) =>
    match String.fromUTF8? content with
    | some text => .ok text
    | none => .error .notText

/-- The folder with a text as the content of the file at the end of a path. -/
def writeText (f : Folder) (path text : String) : Except PathError Folder :=
  match f.lookup path with
  | .error e => .error e
  | .ok (.vacant _ true) => .error .isADirectory
  | .ok (.vacant route false) => .ok ⟨f.files ++ [(route, text.toUTF8)]⟩
  | .ok (.file route _) =>
    .ok ⟨f.files.map fun (r, content) => if r = route then (r, text.toUTF8) else (r, content)⟩

/-- The files that are new or changed since an earlier state of the folder, under their paths. -/
def changesSince (after before : Folder) : List (String × ByteArray) :=
  let changed := after.files.filter fun (route, content) =>
    (before.content? route).map (·.data) ≠ some content.data
  changed.map fun (route, content) => ("/".intercalate route, content)

end Folder

end TapTracker.Simulation
