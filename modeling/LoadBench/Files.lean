import LoadBench.Path
import LoadBench.Text.Utf8

namespace LoadBench

open Text Text.Utf8

inductive IoFault where
  | missing
  | denied
  | alreadyExists
  | notFolder
  | isFolder
  | nameTooLong
  | notUtf8
  | nulInPath
  | nulInCommand
  | other (text : String)
deriving DecidableEq

namespace IoFault

def message : IoFault → String
  | .missing => "No such file or directory (os error 2)"
  | .denied => "Permission denied (os error 13)"
  | .alreadyExists => "File exists (os error 17)"
  | .notFolder => "Not a directory (os error 20)"
  | .isFolder => "Is a directory (os error 21)"
  | .nameTooLong => "File name too long (os error 36)"
  | .notUtf8 => "stream did not contain valid UTF-8"
  | .nulInPath => "file name contained an unexpected NUL byte"
  | .nulInCommand => "nul byte found in provided data"
  | .other text => text

end IoFault

inductive Entry where
  | folder
  | file (content : Bytes)
  | device

/-- Entries by the names that lead to them from the root; the root itself is a folder. Devices
swallow what is written to them and hold nothing. -/
structure Files where
  entries : List (List String × Entry)

namespace Files

def lookup? (files : Files) (place : List String) : Option Entry :=
  if place.isEmpty then some .folder else files.entries.lookup place

def insert (files : Files) (place : List String) (entry : Entry) : Files :=
  ⟨(place, entry) :: files.entries.filter (·.1 != place)⟩

def follow (files : Files) : List String → List String → Except IoFault (List String)
  | place, [] => .ok place
  | place, name :: rest =>
    if name = "" ∨ name = "." then follow files place rest
    else if name = ".." then follow files place.dropLast rest
    else if 255 < name.utf8ByteSize then .error .nameTooLong
    else if rest.all (· == "") then .ok (place ++ [name])
    else
      match files.lookup? (place ++ [name]) with
      | some .folder => follow files (place ++ [name]) rest
      | some _ => .error .notFolder
      | none => .error .missing

def place (files : Files) (path : String) : Except IoFault (List String) :=
  if path = "" then .error .missing
  else if path.toList.contains '\x00' then .error .nulInPath
  else follow files [] (Path.names path)

def endsInSlash (path : String) : Bool := path.endsWith "/"

def read (files : Files) (path : String) : Except IoFault Bytes := do
  match files.lookup? (← files.place path) with
  | none => .error .missing
  | some .folder => .error .isFolder
  | some .device => if endsInSlash path then .error .notFolder else .ok []
  | some (.file content) => if endsInSlash path then .error .notFolder else .ok content

def readText (files : Files) (path : String) : Except IoFault String := do
  match Utf8.decode? (← files.read path) with
  | some text => .ok text
  | none => .error .notUtf8

def write (files : Files) (path : String) (content : Bytes) : Except IoFault Files := do
  let place ← files.place path
  match files.lookup? place with
  | some .folder => .error .isFolder
  | some .device => if endsInSlash path then .error .notFolder else .ok files
  | some (.file _) =>
    if endsInSlash path then .error .notFolder else .ok (files.insert place (.file content))
  | none =>
    if endsInSlash path then .error .isFolder
    else
      match files.lookup? place.dropLast with
      | some .folder => .ok (files.insert place (.file content))
      | some _ => .error .notFolder
      | none => .error .missing

def isFolder (files : Files) (path : String) : Bool :=
  match files.place path with
  | .ok place =>
    match files.lookup? place with
    | some .folder => true
    | _ => false
  | .error _ => false

def isThere (files : Files) (path : String) : Bool :=
  match files.place path with
  | .ok place => (files.lookup? place).isSome
  | .error _ => false

def createFolder (files : Files) (path : String) : Except IoFault Files := do
  let place ← files.place path
  match files.lookup? place with
  | some _ => .error .alreadyExists
  | none =>
    match files.lookup? place.dropLast with
    | some .folder => .ok (files.insert place .folder)
    | some _ => .error .notFolder
    | none => .error .missing

/-- Creates a folder and those it lies in. Where one cannot be created, the files are left with those
created before it. -/
def makeFolders : Nat → Files → String → Except IoFault Unit × Files
  | 0, files, _ => (.ok (), files)
  | fuel + 1, files, path =>
    if path = "" then (.ok (), files)
    else
      match files.createFolder path with
      | .ok files => (.ok (), files)
      | .error .missing =>
        match Path.parent? path with
        | none => (.error .missing, files)
        | some parent =>
          match makeFolders fuel files parent with
          | (.error fault, files) => (.error fault, files)
          | (.ok (), files) =>
            match files.createFolder path with
            | .ok files => (.ok (), files)
            | .error fault => (if files.isFolder path then .ok () else .error fault, files)
      | .error fault => (if files.isFolder path then .ok () else .error fault, files)

def createFolders (fuel : Nat) (files : Files) (path : String) : Except IoFault Files :=
  match makeFolders fuel files path with
  | (.ok (), files) => .ok files
  | (.error fault, _) => .error fault

def createParent (files : Files) (path : String) : Except IoFault Files :=
  match Path.parent? path with
  | none => .ok files
  | some parent => createFolders (parent.length + 1) files parent

def withParent (files : Files) (path : String) : Files :=
  match Path.parent? path with
  | none => files
  | some parent => (makeFolders (parent.length + 1) files parent).2

def names (files : Files) (path : String) : List String :=
  match files.place path with
  | .ok place =>
    files.entries.filterMap fun entry =>
      if entry.1.dropLast == place && !entry.1.isEmpty then entry.1.getLast? else none
  | .error _ => []

end Files

end LoadBench
