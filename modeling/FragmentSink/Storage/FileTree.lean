import FragmentSink.Table
import FragmentSink.Text.Parts

/-
  A tree of files and folders, and what can go wrong with the
  paths in it.

  A path is walked name by name from a folder; `.` stays and
  `..` goes up.  Names and paths have a greatest length.
  Folders on the way to a new one are made in order, and those
  made before a failure stay.

  Key definitions include:
    * `FileTree`
    * `FileTree.resolve`
    * `FileTree.makeFolders`
    * `FileTree.write`
-/

namespace FragmentSink

------------------------------------------------------------
-- File Errors
------------------------------------------------------------

/- What can go wrong with a path. -/
inductive FileError where
| notFound
| alreadyExists
| notAFolder
| isAFolder
| nameTooLong
| zeroInName
| notText
deriving DecidableEq, Repr

namespace FileError

/- The wording of a file error, with the number the system gives it. -/
def message : FileError → String
| .notFound => "No such file or directory (os error 2)"
| .alreadyExists => "File exists (os error 17)"
| .notAFolder => "Not a directory (os error 20)"
| .isAFolder => "Is a directory (os error 21)"
| .nameTooLong => "File name too long (os error 36)"
| .zeroInName => "file name contained an unexpected NUL byte"
| .notText => "stream did not contain valid UTF-8"

end FileError

------------------------------------------------------------
-- File Trees
------------------------------------------------------------

/- What stands at a path. -/
inductive FileNode where
| file (content : ByteArray)
| folder

/- The names from the root to a file or folder. -/
abbrev FilePath := List (List Char)

/-
  The files and folders below a root, by their paths, and the
  folder that written paths without a leading slash start from.
-/
structure FileTree where
  nodes : Table FilePath FileNode
  current : FilePath := []

namespace FileTree

/- The tree that is only its root. -/
def empty : FileTree :=
  { nodes := .empty }

/- What stands at a path; the root is a folder. -/
def node? (t : FileTree) (path : FilePath) : Option FileNode :=
  if path.isEmpty then some .folder else t.nodes.get? path

/- Put a file or folder at a path. -/
def put (t : FileTree) (path : FilePath) (n : FileNode) : FileTree :=
  { t with nodes := t.nodes.insert path n }

/- The longest a name may be, in bytes. -/
def longestName : Nat := 255

/- The longest a written path may be, in bytes. -/
def longestPath : Nat := 4095

/- Whether a name is too long for a file or folder. -/
def isTooLong (name : List Char) : Bool :=
  longestName < (String.ofList name).utf8ByteSize

/- Whether a written path is too long for any file or folder. -/
def isPathTooLong (path : List Char) : Bool :=
  longestPath < (String.ofList path).utf8ByteSize

/- Why a written path cannot be that of a file or folder, if it cannot. -/
def refusal? (path : List Char) : Option FileError :=
  if path.contains '\x00' then some .zeroInName
  else if isPathTooLong path then some .nameTooLong
  else none

/- A path as it is written from the root. -/
def written (path : FilePath) : List Char :=
  path.flatMap ('/' :: ·)

/- The names written in a path, with the ones that stay or go up. -/
def namesOf (path : List Char) : List (List Char) :=
  (Parts.splitAt '/' path).filter fun s => !s.isEmpty

/- Whether a written path ends in a slash, and so can only name a folder. -/
def wantsFolder (path : List Char) : Bool :=
  path.getLast? = some '/'

/- The folder a written path starts from. -/
def start (t : FileTree) (path : List Char) : FilePath :=
  if path.head? = some '/' then [] else t.current

------------------------------------------------------------
-- Walking
------------------------------------------------------------

/- Walk names from a path; every name but the last must lead to a folder. -/
def walk
    (t : FileTree) :
    FilePath → List (List Char) → Except FileError FilePath
| here, [] => .ok here
| here, name :: names =>
    match t.node? here with
    | none => .error .notFound
    | some (.file _) => .error .notAFolder
    | some .folder =>
        if name = ['.'] then walk t here names
        else if name = ['.', '.'] then walk t here.dropLast names
        else if isTooLong name then .error .nameTooLong
        else
          match t.node? (here ++ [name]) with
          | none => .error .notFound
          | some _ => walk t (here ++ [name]) names

/- The file or folder a written path leads to. -/
def resolve
    (t : FileTree)
    (path : List Char) : Except FileError FilePath :=
  if path.isEmpty then .error .notFound
  else
    match refusal? path with
    | some e => .error e
    | none =>
        match t.walk (t.start path) (namesOf path) with
        | .error e => .error e
        | .ok found =>
            match t.node? found with
            | some (.file _) =>
                if wantsFolder path then .error .notAFolder
                else .ok found
            | _ => .ok found

------------------------------------------------------------
-- Making Folders and Files
------------------------------------------------------------

/- Make the folders on the way along names, in order. -/
def makeAlong
    (t : FileTree) :
    FilePath → List (List Char) →
      Except FileError Unit × FileTree
| _, [] => (.ok (), t)
| here, name :: names =>
    if name = ['.'] then makeAlong t here names
    else if name = ['.', '.'] then makeAlong t here.dropLast names
    else
      let next := here ++ [name]
      match t.node? next with
      | some .folder => makeAlong t next names
      | some (.file _) =>
          (.error
            (if names.isEmpty then .alreadyExists
             else .notAFolder), t)
      | none =>
          if isTooLong name then (.error .nameTooLong, t)
          else makeAlong (t.put next .folder) next names

/- Make the folder a written path names, with the folders on the way. -/
def makeFolders
    (t : FileTree)
    (path : List Char) : Except FileError Unit × FileTree :=
  match refusal? path with
  | some e => (.error e, t)
  | none => t.makeAlong (t.start path) (namesOf path)

/- Write a file below a folder, with the folders on the way. -/
def write
    (t : FileTree)
    (root : FilePath)
    (names : List (List Char))
    (content : ByteArray) : Except FileError Unit × FileTree :=
  match t.node? root with
  | some (.file _) => (.error .notAFolder, t)
  | none => (.error .notFound, t)
  | some .folder =>
      match t.makeAlong root names.dropLast with
      | (.error .alreadyExists, t) => (.error .notAFolder, t)
      | (.error e, t) => (.error e, t)
      | (.ok (), t) =>
          match t.node? (root ++ names) with
          | some .folder => (.error .isAFolder, t)
          | _ =>
              if (names.getLastD []) |> isTooLong then
                (.error .nameTooLong, t)
              else
                (.ok (), t.put (root ++ names) (.file content))

------------------------------------------------------------
-- Reading
------------------------------------------------------------

/- The bytes of the file a written path leads to. -/
def read
    (t : FileTree)
    (path : List Char) : Except FileError ByteArray :=
  match t.resolve path with
  | .error e => .error e
  | .ok found =>
      match t.node? found with
      | some (.file content) => .ok content
      | some .folder => .error .isAFolder
      | none => .error .notFound

/- The text of the file a written path leads to. -/
def readText
    (t : FileTree)
    (path : List Char) : Except FileError String :=
  match t.read path with
  | .error e => .error e
  | .ok content =>
      match String.fromUTF8? content with
      | some s => .ok s
      | none => .error .notText

/- The files below a folder, with their paths from it. -/
def filesBelow
    (t : FileTree)
    (root : FilePath) : List (FilePath × ByteArray) :=
  t.nodes.entries.filterMap fun (path, n) =>
    match n with
    | .folder => none
    | .file content =>
        if root.isPrefixOf path ∧ root.length < path.length then
          some (path.drop root.length, content)
        else none

end FileTree

end FragmentSink
