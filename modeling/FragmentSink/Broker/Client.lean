import FragmentSink.Config.Settings

/-
  The settings handed to the broker client, and which of them
  it accepts.

  Key definitions include:
    * `KafkaSettings.clientSettings`
    * `KafkaSettings.refusal?`
-/

namespace FragmentSink

namespace KafkaSettings

------------------------------------------------------------
-- Client Settings
------------------------------------------------------------

/- The addresses of the brokers, in one text. -/
def brokers (k : KafkaSettings) : String :=
  ",".intercalate k.bootstrapServers

/- The settings of the client, by name; offsets are committed by the program only. -/
def clientSettings (k : KafkaSettings) : List (String × String) :=
  let s := k.security
  [ ("bootstrap.servers", k.brokers),
    ("group.id", k.consumerGroup),
    ("enable.auto.commit", "false"),
    ("enable.auto.offset.store", "false"),
    ("auto.offset.reset", k.offsetReset.label),
    ("session.timeout.ms", toString k.sessionTimeoutMillis.toNat),
    ("heartbeat.interval.ms", toString k.heartbeatMillis.toNat),
    ("max.poll.interval.ms",
      toString k.maxPollIntervalMillis.toNat),
    ("partition.assignment.strategy", "cooperative-sticky") ] ++
  [ ("security.protocol", s.protocol),
    ("sasl.mechanism", s.saslMechanism),
    ("sasl.username", s.saslUsername),
    ("sasl.password", s.saslPassword),
    ("ssl.ca.location", s.caLocation),
    ("ssl.certificate.location", s.certLocation),
    ("ssl.key.location", s.keyLocation) ].filterMap
    fun (name, value) => value.map fun v => (name, v)

------------------------------------------------------------
-- Acceptance
------------------------------------------------------------

/- The longest session timeout and heartbeat interval, in milliseconds. -/
def longestSession : Nat := 3600000

/- The longest interval between polls, in milliseconds. -/
def longestPollInterval : Nat := 86400000

/- Whether a number lies between one and a bound. -/
def inBounds (n : UInt32) (bound : Nat) : Bool :=
  1 ≤ n.toNat ∧ n.toNat ≤ bound

------------------------------------------------------------
-- Values
------------------------------------------------------------

/- A blank of ASCII. -/
def isBlank (c : Char) : Bool :=
  c = ' ' || (9 ≤ c.toNat && c.toNat ≤ 13)

/- A value as the client reads it: blanks in front do not count. -/
def readValue (value : String) : String :=
  .ofList (value.toList.dropWhile isBlank)

/- Whether a value is given; an empty one is not. -/
def isGiven (value : Option String) : Bool :=
  value.any (· ≠ "")

/- Whether a setting can be handed over; it ends at its first zero. -/
def isWhole (setting : String × String) : Bool :=
  !setting.2.toList.contains '\x00'

------------------------------------------------------------
-- Security
------------------------------------------------------------

/- The protocols the client speaks; it has no encryption of its own. -/
inductive Protocol where
| plain
| authenticated
deriving DecidableEq, Repr

/- The protocol a setting names, in either case; a blank one is the plain one. -/
def protocol? (setting : Option String) : Option Protocol :=
  match setting with
  | none => some .plain
  | some value =>
      if value = "" then none
      else
        match (readValue value).toLower with
        | "" | "plaintext" => some .plain
        | "sasl_plaintext" => some .authenticated
        | _ => none

/- Whether a setting names one mechanism of authentication; the client need not know it. -/
def isOneMechanism (setting : Option String) : Bool :=
  match setting with
  | none => true
  | some value =>
      value ≠ "" && (readValue value).toList.all fun c =>
        c ≠ ',' ∧ c ≠ ' '

/-
  Why the client refuses its security settings, if it does; it
  knows only a name with a password.
-/
def securityRefusal? (s : SecuritySettings) : Option String :=
  let invalid (name : String) : Option String :=
    some ("Invalid value for configuration property \"" ++ name ++ "\"")
  let files := [s.caLocation, s.certLocation, s.keyLocation]
  if files.any Option.isSome then
    some "Configuration property not supported in this build"
  else if !isOneMechanism s.saslMechanism then
    invalid "sasl.mechanism"
  else
    match protocol? s.protocol with
    | none => invalid "security.protocol"
    | some .plain => none
    | some .authenticated =>
        if s.saslMechanism.map readValue ≠ some "PLAIN" then
          some "No provider for SASL mechanism"
        else if !isGiven s.saslUsername || !isGiven s.saslPassword then
          some "sasl.username and sasl.password must be set"
        else
          none

/- Why the client refuses its settings, if it does. -/
def refusal? (k : KafkaSettings) : Option String :=
  let outside (name : String) : Option String :=
    some ("Configuration property \"" ++ name ++
      "\" value is outside allowed range")
  if !k.clientSettings.all isWhole then
    some "A value holds a zero"
  else if !inBounds k.sessionTimeoutMillis longestSession then
    outside "session.timeout.ms"
  else if !inBounds k.heartbeatMillis longestSession then
    outside "heartbeat.interval.ms"
  else if !inBounds k.maxPollIntervalMillis longestPollInterval then
    outside "max.poll.interval.ms"
  else if (securityRefusal? k.security).isSome then
    securityRefusal? k.security
  else if k.maxPollIntervalMillis < k.sessionTimeoutMillis then
    some "\x60max.poll.interval.ms\x60 must be >= \x60session.timeout.ms\x60"
  else if readValue k.consumerGroup = "" then
    some "\x60group.id\x60 is not set"
  else
    none

end KafkaSettings

end FragmentSink
