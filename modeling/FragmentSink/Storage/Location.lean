import FragmentSink.Config.Settings
import FragmentSink.Storage.ObjectPath

/-
  Locations of blob storage, as they are written in a
  configuration.

  A location is a bucket, the memory of the program or a local
  folder; every other scheme is refused.

  Key definitions include:
    * `Location`
    * `Location.ofText`
    * `Location.ofSettings`
-/

namespace FragmentSink

------------------------------------------------------------
-- Locations
------------------------------------------------------------

/- Where fragments can be stored. -/
inductive Location where
| bucket (name : String) (below : Option ObjectPath)
| memory
| folder (path : String)
deriving DecidableEq, Repr

namespace Location

/- Whether a text begins with another. -/
def startsWith (front : String) (cs : List Char) : Bool :=
  front.toList.isPrefixOf cs

/- The bucket written after its scheme, and the path below it. -/
def bucketOf
    (location : String)
    (rest : List Char) : Except StorageError Location :=
  let (name, below) :=
    match Parts.cutAt? '/' rest with
    | some (name, below) =>
        (name, Parts.trim (· = '/') below)
    | none => (rest, [])
  if name.isEmpty then
    .error (.invalidLocation (location ++ ": missing bucket"))
  else
    .ok
      (.bucket (String.ofList name)
        (if below.isEmpty then none
         else some (.ofKeyChars below)))

/- Read a location; the schemes are tried in order. -/
def ofText (location : String) : Except StorageError Location :=
  let cs := location.toList
  match Parts.stripFront? "s3://".toList cs with
  | some rest => bucketOf location rest
  | none =>
      if startsWith "memory://" cs then .ok .memory
      else if startsWith "gs://" cs then
        .error (.unsupported "GCS storage is not supported")
      else if startsWith "az://" cs || startsWith "abfs://" cs then
        .error (.unsupported "Azure storage is not supported")
      else if Parts.occursIn "://".toList cs then
        .error (.invalidLocation location)
      else .ok (.folder location)

/- The half of a pair of credentials that is missing. -/
def missingCredential? (s : StorageSettings) : Option String :=
  match s.accessKeyId, s.secretAccessKey with
  | some _, none => some "Missing SecretAccessKey"
  | none, some _ => some "Missing AccessKeyId"
  | _, _ => none

/- The location of a configuration; a bucket needs both credentials or none. -/
def ofSettings (s : StorageSettings) : Except StorageError Location :=
  match ofText s.location with
  | .ok (.bucket name below) =>
      match missingCredential? s with
      | none => .ok (.bucket name below)
      | some why =>
          .error
            (.invalidLocation
              (s.location ++ ": Generic S3 error: " ++ why))
  | answer => answer

end Location

end FragmentSink
