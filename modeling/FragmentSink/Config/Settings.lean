import FragmentSink.Buffer.State
import FragmentSink.Error

/-
  The settings of the program, their defaults, and the rules a
  usable configuration obeys.

  Key definitions include:
    * `Settings`
    * `Settings.validate`
    * `BufferSettings.commitTimeout?`
-/

namespace FragmentSink

------------------------------------------------------------
-- Settings of the Stream
------------------------------------------------------------

/- Where a consumer without a committed offset starts. -/
inductive OffsetReset where
| earliest
| latest
deriving DecidableEq, Repr

namespace OffsetReset

/- The written name of a starting point. -/
def label : OffsetReset → String
| .earliest => "earliest"
| .latest => "latest"

end OffsetReset

/- How the brokers are authenticated to. -/
structure SecuritySettings where
  protocol : Option String := none
  saslMechanism : Option String := none
  saslUsername : Option String := none
  saslPassword : Option String := none
  caLocation : Option String := none
  certLocation : Option String := none
  keyLocation : Option String := none
deriving DecidableEq, Repr

/- Which stream is consumed, and how. -/
structure KafkaSettings where
  bootstrapServers : List String
  topic : String := "ingest-replay-recordings"
  consumerGroup : String := "ingest-replay-recordings-buffered"
  pollTimeoutMillis : UInt64 := 1000
  sessionTimeoutMillis : UInt32 := 30000
  heartbeatMillis : UInt32 := 3000
  maxPollIntervalMillis : UInt32 := 300000
  offsetReset : OffsetReset := .earliest
  security : SecuritySettings := {}
deriving DecidableEq, Repr

------------------------------------------------------------
-- Settings of the Storage
------------------------------------------------------------

/- Where fragments are stored. -/
structure StorageSettings where
  location : String
  keyPrefix : String := "recordings"
  region : Option String := none
  accessKeyId : Option String := none
  secretAccessKey : Option String := none
  endpoint : Option String := none
deriving DecidableEq, Repr

------------------------------------------------------------
-- Settings of the Buffers
------------------------------------------------------------

/- When buffers are flushed, and how long a flush may take. -/
structure BufferSettings where
  messageCount : UInt64 := 100
  sizeInBytes : UInt64 := 2500000
  timeInSeconds : UInt64 := 1
  commitTimeoutSeconds : UInt64 := 30
  maxConsecutiveFailures : UInt32 := 10
deriving DecidableEq, Repr

namespace BufferSettings

/- The longest a commit may take; zero seconds set no limit. -/
def commitTimeout? (b : BufferSettings) : Option Span :=
  if 0 < b.commitTimeoutSeconds then
    some (.ofSeconds b.commitTimeoutSeconds.toNat)
  else
    none

/- The bounds of every buffer. -/
def thresholds (b : BufferSettings) : Thresholds :=
  ⟨b.messageCount, b.sizeInBytes, b.timeInSeconds⟩

end BufferSettings

------------------------------------------------------------
-- Settings of the Endpoints and the Log
------------------------------------------------------------

/- The least severe record that is logged. -/
inductive LogLevel where
| trace
| debug
| info
| warn
| error
deriving DecidableEq, Repr

namespace LogLevel

/- The written name of a level. -/
def label : LogLevel → String
| .trace => "trace"
| .debug => "debug"
| .info => "info"
| .warn => "warn"
| .error => "error"

end LogLevel

/- The form of log records. -/
inductive LogFormat where
| json
| text
deriving DecidableEq, Repr

namespace LogFormat

/- The written name of a form. -/
def label : LogFormat → String
| .json => "json"
| .text => "text"

end LogFormat

/- The ports of the endpoints, and the log. -/
structure MonitoringSettings where
  metricsPort : UInt16 := 9090
  healthPort : UInt16 := 8080
  logLevel : LogLevel := .info
  logFormat : LogFormat := .json
deriving DecidableEq, Repr

------------------------------------------------------------
-- All Settings
------------------------------------------------------------

/- The settings of the program. -/
structure Settings where
  kafka : KafkaSettings
  storage : StorageSettings
  buffer : BufferSettings := {}
  monitoring : MonitoringSettings := {}
deriving DecidableEq, Repr

namespace Settings

/- The first rule that a configuration breaks, in the order they are checked in. -/
def complaint? (s : Settings) : Option String :=
  if s.kafka.bootstrapServers.isEmpty then
    some "At least one bootstrap server required"
  else if s.kafka.topic = "" then
    some "Kafka topic is required"
  else if s.kafka.consumerGroup = "" then
    some "Consumer group is required"
  else if s.storage.location = "" then
    some "Storage location is required"
  else if s.buffer.maxConsecutiveFailures = 0 then
    some "max_consecutive_commit_failures must be at least 1"
  else
    none

/- Refuse a configuration that breaks a rule. -/
def validate (s : Settings) : Except Error Unit :=
  match s.complaint? with
  | some why => .error (.config why)
  | none => .ok ()

end Settings

end FragmentSink
