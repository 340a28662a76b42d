import FragmentSink.Storage.FileTree
import FragmentSink.Storage.Key
import FragmentSink.Storage.Location

/-
  Stores of fragments.

  An upload puts the payload of a fragment at the path of its
  key and replaces what stood there.  A store in memory never
  refuses; a local folder refuses where the path does not fit
  among its files and folders.

  Key definitions include:
    * `BlobStore`
    * `BlobStore.ofSettings`
    * `BlobStore.upload`
    * `BlobStore.contents`
-/

namespace FragmentSink

------------------------------------------------------------
-- Stores
------------------------------------------------------------

/- What holds the objects of a store. -/
inductive Backend where
| memory (objects : Table ObjectPath ByteArray)
| bucket (name : String) (below : Option ObjectPath)
| folder (root : FilePath) (tree : FileTree)

/- A store and the prefix of its keys. -/
structure BlobStore where
  backend : Backend
  keyPrefix : String

namespace BlobStore

/- The characters of ASCII that are not written as themselves in a file address. -/
def isSpecialInAddress (c : Char) : Bool :=
  Percent.isControl c ||
    [' ', '"', '<', '>', '\x60', '#', '?', '\x7b', '\x7d', '/',
      '%', '\\'].contains c

/- The address of a local file or folder. -/
def fileAddress (path : FilePath) : String :=
  let parts := path.map (Percent.encode isSpecialInAddress)
  if parts.isEmpty then "file:///"
  else String.ofList ("file://".toList ++ parts.flatMap ('/' :: ·))

/- The written form of what holds the objects. -/
def describe (s : BlobStore) : String :=
  match s.backend with
  | .memory _ => "InMemory"
  | .bucket name none => "AmazonS3(" ++ name ++ ")"
  | .bucket _ (some below) =>
      "PrefixObjectStore(" ++ below.text ++ ")"
  | .folder root _ =>
      "LocalFileSystem(" ++ fileAddress root ++ ")"

------------------------------------------------------------
-- Opening
------------------------------------------------------------

/- The error of a folder that cannot be made. -/
def cannotCreate (location : String) (e : FileError) : StorageError :=
  .invalidLocation
    ("Failed to create local storage directory " ++ location ++
      ": " ++ e.message)

/- The error of a folder that cannot be opened. -/
def cannotOpen (location : String) : StorageError :=
  .invalidLocation
    ("Failed to create local file system store: " ++
      "Generic LocalFileSystem error: " ++
      "Unable to canonicalize filesystem root: " ++ location)

/- Open a local folder, which is made where it does not exist. -/
def openFolder
    (location : String)
    (tree : FileTree) :
    Except StorageError (FilePath × FileTree) :=
  let path := location.toList
  let made : Except StorageError FileTree :=
    match tree.resolve path with
    | .ok _ => .ok tree
    | .error _ =>
        match tree.makeFolders path with
        | (.ok (), tree) => .ok tree
        | (.error e, _) => .error (cannotCreate location e)
  match made with
  | .error e => .error e
  | .ok tree =>
      match tree.resolve path with
      | .ok root =>
          if FileTree.isPathTooLong (FileTree.written root) then
            .error (cannotOpen location)
          else .ok (root, tree)
      | .error _ => .error (cannotOpen location)

/- Open the store a configuration names, among the files there are. -/
def ofSettings
    (s : StorageSettings)
    (tree : FileTree) : Except StorageError BlobStore :=
  match Location.ofSettings s with
  | .error e => .error e
  | .ok .memory => .ok ⟨.memory .empty, s.keyPrefix⟩
  | .ok (.bucket name below) =>
      .ok ⟨.bucket name below, s.keyPrefix⟩
  | .ok (.folder location) =>
      match openFolder location tree with
      | .error e => .error e
      | .ok (root, tree) =>
          .ok ⟨.folder root tree, s.keyPrefix⟩

------------------------------------------------------------
-- Uploads
------------------------------------------------------------

/- The path a store keeps a fragment at. -/
def pathOf (s : BlobStore) (t : OffsetToken) : ObjectPath :=
  .ofKey (storageKey s.keyPrefix t)

/- What follows the path of a file while it is written. -/
def unfinishedMark : List Char := "#1".toList

/- Write a file below a folder; while it is written its path is a little longer. -/
def writeFile
    (root : FilePath)
    (tree : FileTree)
    (path : ObjectPath)
    (content : ByteArray) : Except FileError Unit × FileTree :=
  if FileTree.isPathTooLong
      (FileTree.written (root ++ path.segments) ++ unfinishedMark)
  then (.error .nameTooLong, tree)
  else tree.write root path.segments content

/- Store the payload of a fragment at its path. -/
def upload
    (s : BlobStore)
    (f : Fragment) : Except StorageError Unit × BlobStore :=
  let key := storageKey s.keyPrefix f.token
  match s.backend with
  | .memory objects =>
      (.ok (),
        { s with
          backend :=
            .memory (objects.insert (s.pathOf f.token) f.payload) })
  | .bucket _ _ =>
      (.error (.upload key "error sending request"), s)
  | .folder root tree =>
      let (answer, tree) :=
        writeFile root tree (s.pathOf f.token) f.payload
      let s := { s with backend := .folder root tree }
      match answer with
      | .ok () => (.ok (), s)
      | .error e => (.error (.upload key e.message), s)

------------------------------------------------------------
-- Listings
------------------------------------------------------------

/- Whether a file is one that a write left unfinished: a number follows its first hash sign. -/
def isUnfinished (name : List Char) : Bool :=
  match Parts.cutAt? '#' name with
  | some (_, number) => !number.isEmpty && number.all Char.isDigit
  | none => false

/- The stored objects: paths in order, with what is stored there. -/
def contents (s : BlobStore) : List (String × ByteArray) :=
  let found : List (String × ByteArray) :=
    match s.backend with
    | .memory objects =>
        objects.entries.map fun (path, content) =>
          (path.text, content)
    | .bucket _ _ => []
    | .folder root tree =>
        ((tree.filesBelow root).filter fun (path, _) =>
            !isUnfinished (path.getLastD [])).map
          fun (path, content) =>
            ((ObjectPath.mk path).text, content)
  found.mergeSort fun a b => a.1 ≤ b.1

end BlobStore

end FragmentSink
