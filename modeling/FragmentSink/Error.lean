import FragmentSink.Fragment

/-
  The errors of the program, by cause, and their wording.

  Key definitions include:
    * `KafkaError`
    * `StorageError`
    * `Error`
    * `Error.message`
    * `Error.source?`
-/

namespace FragmentSink

------------------------------------------------------------
-- Errors of the Stream
------------------------------------------------------------

/- What can go wrong with the stream. -/
inductive KafkaError where
| connectionFailed (broker : String) (why : String)
| consumerGroup (why : String)
| offsetCommit (why : String)
| partitionAssignment (why : String)
| seek (target : OffsetToken) (why : String)
deriving DecidableEq, Repr

namespace KafkaError

/- The wording of a stream error. -/
def message : KafkaError → String
| .connectionFailed broker why =>
    "Connection failed to " ++ broker ++ ": " ++ why
| .consumerGroup why => "Consumer group error: " ++ why
| .offsetCommit why => "Offset commit failed: " ++ why
| .partitionAssignment why =>
    "Partition assignment error: " ++ why
| .seek target why =>
    "Seek to " ++ target.text ++ " failed: " ++ why

end KafkaError

------------------------------------------------------------
-- Errors of the Storage
------------------------------------------------------------

/- What can go wrong with the storage. -/
inductive StorageError where
| invalidLocation (location : String)
| unsupported (what : String)
| upload (key : String) (why : String)
deriving DecidableEq, Repr

namespace StorageError

/- The wording of a storage error. -/
def message : StorageError → String
| .invalidLocation location =>
    "Invalid storage location: " ++ location
| .unsupported what => "Unsupported storage backend: " ++ what
| .upload key why =>
    "Upload to " ++ key ++ " failed: " ++ why

end StorageError

------------------------------------------------------------
-- Errors of the Program
------------------------------------------------------------

/- What can end an operation of the program. -/
inductive Error where
| config (why : String)
| kafka (cause : KafkaError)
| storage (cause : StorageError)
| bufferCommitFailed
| io (why : String)
deriving DecidableEq, Repr

namespace Error

/- The wording of an error. -/
def message : Error → String
| .config why => "Configuration error: " ++ why
| .kafka cause => "Kafka error: " ++ cause.message
| .storage cause => "Storage error: " ++ cause.message
| .bufferCommitFailed =>
    "Buffer commit failed: batch was not durably written"
| .io why => "IO error: " ++ why

/- The wording of the cause behind an error, where there is one. -/
def source? : Error → Option String
| .config _ => none
| .kafka cause => some cause.message
| .storage cause => some cause.message
| .bufferCommitFailed => none
| .io why => some why

end Error

end FragmentSink
