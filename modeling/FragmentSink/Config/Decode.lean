import FragmentSink.Config.Settings
import FragmentSink.Text.Escaped
import FragmentSink.Toml.Document

/-
  Settings from a TOML document.

  The keys of a section are taken in the order of the document,
  and unknown keys are passed over; after that the keys that
  must be there are looked for.  A section may also be written
  as an array of its values, in the order the section lists
  them.

  Key definitions include:
    * `Complaint`
    * `Section.read`
    * `Settings.decode`
-/

namespace FragmentSink

open Toml (Value)

------------------------------------------------------------
-- Complaints
------------------------------------------------------------

/- Why a document does not give settings. -/
inductive Complaint where
/- It is not a TOML document. -/
| unreadable
| missing (key : String)
| wrongType (found expected : String)
| wrongValue (found expected : String)
| unknownVariant (name : String) (expected : String)
/- An array ends before a value that must be there. -/
| tooShort (length : Nat) (expected : String)
/- A choice is not given by its name. -/
| notAChoice (why : String)
deriving DecidableEq, Repr

namespace Complaint

/- The wording of a complaint about what a document says. -/
def message : Complaint → String
| .unreadable => ""
| .missing key => "missing field \x60" ++ key ++ "\x60"
| .wrongType found expected =>
    "invalid type: " ++ found ++ ", expected " ++ expected
| .wrongValue found expected =>
    "invalid value: " ++ found ++ ", expected " ++ expected
| .unknownVariant name expected =>
    "unknown variant \x60" ++ name ++ "\x60, expected " ++ expected
| .tooShort length expected =>
    "invalid length " ++ toString length ++ ", expected " ++ expected
| .notAChoice why => why

end Complaint

------------------------------------------------------------
-- Single Values
------------------------------------------------------------

namespace Decode

/- How a value is shown in a complaint. -/
def shown : Value → String
| .text s => "string " ++ Escaped.quoted s
| .integer n => "integer \x60" ++ toString n ++ "\x60"
| .float x => "floating point \x60" ++ x.textWithPoint ++ "\x60"
| .boolean b =>
    "boolean \x60" ++ (if b then "true" else "false") ++ "\x60"
| .moment _ => "map"
| .array _ => "sequence"
| .tables _ => "sequence"
| .table .. => "map"

/- A text. -/
def text (expected : String) : Value → Except Complaint String
| .text s => .ok s
| v => .error (.wrongType (shown v) expected)

/- A text that is no path. -/
def string : Value → Except Complaint String :=
  text "a string"

/- A text that is a path. -/
def pathString : Value → Except Complaint String :=
  text "path string"

/- A natural number below a bound. -/
def natural
    (bound : Nat)
    (expected : String) : Value → Except Complaint Nat
| .integer n =>
    if 0 ≤ n ∧ n < bound then .ok n.toNat
    else .error (.wrongValue (shown (.integer n)) expected)
| v => .error (.wrongType (shown v) expected)

/- A number of 64 bits. -/
def word64 (v : Value) : Except Complaint UInt64 :=
  (natural UInt64.size "u64" v).map .ofNat

/- A number of 32 bits. -/
def word32 (v : Value) : Except Complaint UInt32 :=
  (natural UInt32.size "u32" v).map .ofNat

/- A number of 16 bits. -/
def word16 (v : Value) : Except Complaint UInt16 :=
  (natural UInt16.size "u16" v).map .ofNat

/- A list of texts. -/
def texts : Value → Except Complaint (List String)
| .array vs => vs.mapM string
| .tables ts =>
    (ts.map (Value.table .header)).mapM string
| v => .error (.wrongType (shown v) "a sequence")

/- The names of choices, as they are listed in a complaint. -/
def listed (names : List String) : String :=
  let marked := names.map fun s => "\x60" ++ s ++ "\x60"
  match marked with
  | [a, b] => a ++ " or " ++ b
  | _ => "one of " ++ String.intercalate ", " marked

/- The choice of a name. -/
def named
    {α : Type}
    (choices : List (String × α))
    (name : String) : Except Complaint α :=
  match choices.find? fun c => c.1 = name with
  | some (_, choice) => .ok choice
  | none =>
      .error (.unknownVariant name (listed (choices.map Prod.fst)))

/- Whether a value holds nothing, as the companion of a choice must. -/
def isBare : Value → Except Complaint Unit
| .array [] => .ok ()
| .tables [] => .ok ()
| .table _ [] => .ok ()
| .tables _ => .error (.notAChoice "expected empty array")
| .array _ | .table .. => .error (.notAChoice "expected empty table")
| _ => .error (.notAChoice "expected table")

/- A choice by its name, or by a table whose one key is its name and whose value is empty. -/
def choice
    {α : Type}
    (choices : List (String × α)) : Value → Except Complaint α
| .text name => named choices name
| .table _ [] =>
    .error (.notAChoice "wanted exactly 1 element, found 0 elements")
| .table _ [(name, v)] => do
    let found ← named choices name
    isBare v
    .ok found
| .table .. =>
    .error (.notAChoice "wanted exactly 1 element, more than 1 element")
| _ => .error (.notAChoice "wanted string or table")

end Decode

------------------------------------------------------------
-- Sections
------------------------------------------------------------

/- When a value must be there. -/
inductive Need where
| always
/- In an array only. -/
| inArray
| never
deriving DecidableEq, Repr

/- A key of a section, and how its value is taken. -/
structure SectionKey (σ : Type) where
  key : String
  need : Need
  set : Value → σ → Except Complaint σ

namespace SectionKey

/- A key whose value replaces a default. -/
def optional
    {σ α : Type}
    (key : String)
    (decode : Value → Except Complaint α)
    (store : α → σ → σ) : SectionKey σ :=
  ⟨key, .never, fun v s => (decode v).map fun a => store a s⟩

/- A key that may be absent, but has no default. -/
def absentable
    {σ α : Type}
    (key : String)
    (decode : Value → Except Complaint α)
    (store : Option α → σ → σ) : SectionKey σ :=
  ⟨key, .inArray, fun v s =>
    (decode v).map fun a => store (some a) s⟩

/- A key that must be there. -/
def required
    {σ α : Type}
    (key : String)
    (decode : Value → Except Complaint α)
    (store : α → σ → σ) : SectionKey σ :=
  ⟨key, .always, fun v s => (decode v).map fun a => store a s⟩

end SectionKey

/- A section: its name in complaints, and its keys in order. -/
structure Section (σ : Type) where
  name : String
  keys : List (SectionKey σ)

namespace Section

variable {σ : Type}

/- Take the value of one key. -/
def take
    (s : Section σ)
    (key : String)
    (v : Value)
    (draft : σ) : Except Complaint σ :=
  match s.keys.find? fun f => f.key = key with
  | some f => f.set v draft
  | none => .ok draft

/- Take the keys of a table, and then look for those that must be there. -/
def readEntries
    (s : Section σ)
    (start : σ)
    (entries : Toml.Entries) : Except Complaint σ := do
  let draft ←
    entries.foldlM (fun d (key, v) => s.take key v d) start
  let present := entries.map Prod.fst
  match s.keys.find?
      fun f => f.need = .always ∧ f.key ∉ present with
  | some f => .error (.missing f.key)
  | none => .ok draft

/- Take the values of an array in the order of the keys. -/
def readElements
    (s : Section σ)
    (start : σ)
    (vs : List Value) : Except Complaint σ := do
  let draft ←
    (s.keys.zip vs).foldlM (fun d (f, v) => f.set v d) start
  match (s.keys.zipIdx.drop vs.length).find?
      fun (f, _) => f.need ≠ .never with
  | some (_, place) =>
      .error (.tooShort place
        ("struct " ++ s.name ++ " with " ++
          toString s.keys.length ++ " elements"))
  | none => .ok draft

/- A section; a moment is a section without known keys. -/
def read
    (s : Section σ)
    (start : σ) : Value → Except Complaint σ
| .table _ entries => s.readEntries start entries
| .moment _ => s.readEntries start []
| .array vs => s.readElements start vs
| .tables ts =>
    s.readElements start (ts.map (Value.table .header))
| v =>
    .error (.wrongType (Decode.shown v) ("struct " ++ s.name))

end Section

------------------------------------------------------------
-- The Sections of the Settings
------------------------------------------------------------

open SectionKey Decode

namespace SecuritySettings

/- The section of the security settings. -/
def layout : Section SecuritySettings :=
  ⟨"KafkaSecurityConfig",
    [absentable "protocol" string
      fun x s => { s with protocol := x },
     absentable "sasl_mechanism" string
      fun x s => { s with saslMechanism := x },
     absentable "sasl_username" string
      fun x s => { s with saslUsername := x },
     absentable "sasl_password" string
      fun x s => { s with saslPassword := x },
     absentable "ssl_ca_location" pathString
      fun x s => { s with caLocation := x },
     absentable "ssl_cert_location" pathString
      fun x s => { s with certLocation := x },
     absentable "ssl_key_location" pathString
      fun x s => { s with keyLocation := x }]⟩

end SecuritySettings

namespace OffsetReset

/- The starting points, by their names. -/
def choices : List (String × OffsetReset) :=
  [OffsetReset.earliest, .latest].map fun x => (x.label, x)

end OffsetReset

namespace KafkaSettings

/- The section of the stream. -/
def layout : Section KafkaSettings :=
  ⟨"KafkaConfig",
    [required "bootstrap_servers" texts
      fun x s => { s with bootstrapServers := x },
     optional "topic" string
      fun x s => { s with topic := x },
     optional "consumer_group" string
      fun x s => { s with consumerGroup := x },
     optional "poll_timeout_ms" word64
      fun x s => { s with pollTimeoutMillis := x },
     optional "session_timeout_ms" word32
      fun x s => { s with sessionTimeoutMillis := x },
     optional "heartbeat_interval_ms" word32
      fun x s => { s with heartbeatMillis := x },
     optional "max_poll_interval_ms" word32
      fun x s => { s with maxPollIntervalMillis := x },
     optional "auto_offset_reset" (choice OffsetReset.choices)
      fun x s => { s with offsetReset := x },
     optional "security" (SecuritySettings.layout.read {})
      fun x s => { s with security := x }]⟩

/- The settings of the stream before any key is taken. -/
def initial : KafkaSettings :=
  { bootstrapServers := [] }

end KafkaSettings

namespace StorageSettings

/- The section of the storage. -/
def layout : Section StorageSettings :=
  ⟨"StorageConfig",
    [required "location" string
      fun x s => { s with location := x },
     optional "key_prefix" string
      fun x s => { s with keyPrefix := x },
     absentable "aws_region" string
      fun x s => { s with region := x },
     absentable "aws_access_key_id" string
      fun x s => { s with accessKeyId := x },
     absentable "aws_secret_access_key" string
      fun x s => { s with secretAccessKey := x },
     absentable "s3_endpoint" string
      fun x s => { s with endpoint := x }]⟩

/- The settings of the storage before any key is taken. -/
def initial : StorageSettings :=
  { location := "" }

end StorageSettings

namespace BufferSettings

/- The section of the buffers. -/
def layout : Section BufferSettings :=
  ⟨"BufferConfig",
    [optional "max_buffer_message_count" word64
      fun x s => { s with messageCount := x },
     optional "max_buffer_size_in_bytes" word64
      fun x s => { s with sizeInBytes := x },
     optional "max_buffer_time_in_seconds" word64
      fun x s => { s with timeInSeconds := x },
     optional "commit_timeout_seconds" word64
      fun x s => { s with commitTimeoutSeconds := x },
     optional "max_consecutive_commit_failures" word32
      fun x s => { s with maxConsecutiveFailures := x }]⟩

end BufferSettings

namespace LogLevel

/- The levels, by their names. -/
def choices : List (String × LogLevel) :=
  [LogLevel.trace, .debug, .info, .warn, .error].map
    fun x => (x.label, x)

end LogLevel

namespace LogFormat

/- The forms, by their names. -/
def choices : List (String × LogFormat) :=
  [LogFormat.json, .text].map fun x => (x.label, x)

end LogFormat

namespace MonitoringSettings

/- The section of the endpoints and the log. -/
def layout : Section MonitoringSettings :=
  ⟨"MonitoringConfig",
    [optional "metrics_port" word16
      fun x s => { s with metricsPort := x },
     optional "health_port" word16
      fun x s => { s with healthPort := x },
     optional "log_level" (choice LogLevel.choices)
      fun x s => { s with logLevel := x },
     optional "log_format" (choice LogFormat.choices)
      fun x s => { s with logFormat := x }]⟩

end MonitoringSettings

------------------------------------------------------------
-- Documents
------------------------------------------------------------

namespace Settings

/- The sections of a document. -/
def layout : Section Settings :=
  ⟨"Config",
    [required "kafka"
      (KafkaSettings.layout.read KafkaSettings.initial)
      fun x s => { s with kafka := x },
     required "storage"
      (StorageSettings.layout.read StorageSettings.initial)
      fun x s => { s with storage := x },
     optional "buffer" (BufferSettings.layout.read {})
      fun x s => { s with buffer := x },
     optional "monitoring" (MonitoringSettings.layout.read {})
      fun x s => { s with monitoring := x }]⟩

/- The settings of a document, which may break the rules of a usable configuration. -/
def decode (document : String) : Except Complaint Settings :=
  match Toml.read? document with
  | none => .error .unreadable
  | some entries =>
      layout.readEntries
        ⟨.initial, .initial, {}, {}⟩
        entries

end Settings

end FragmentSink
