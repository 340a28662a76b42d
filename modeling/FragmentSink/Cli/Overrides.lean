import FragmentSink.Cli.Options
import FragmentSink.Config.Settings

/-
  The settings that the command line of an ingestion may
  override.

  Overrides are applied before the rules of a usable
  configuration are looked at, so they may fill in what a file
  leaves empty.

  Key definitions include:
    * `Overrides`
    * `Overrides.apply`
    * `Overrides.ofArguments`

  Main statements:
    * `Overrides.apply_none`
-/

namespace FragmentSink

------------------------------------------------------------
-- Overrides
------------------------------------------------------------

/- What a command line overrides. -/
structure Overrides where
  servers : Option String := none
  topic : Option String := none
  consumerGroup : Option String := none
  messageCount : Option UInt64 := none
  sizeInBytes : Option UInt64 := none
  timeInSeconds : Option UInt64 := none
deriving DecidableEq, Repr

namespace Overrides

/- The servers of a list with commas, without the blanks around them and without empty ones. -/
def serversOf (s : String) : List String :=
  let parts := (Parts.splitAt ',' s.toList).map (Parts.trim Parts.isBlank)
  (parts.filter fun p => !p.isEmpty).map String.ofList

/- Settings with what is overridden. -/
def apply (o : Overrides) (s : Settings) : Settings :=
  { s with
    kafka :=
      { s.kafka with
        bootstrapServers :=
          (o.servers.map serversOf).getD s.kafka.bootstrapServers
        topic := o.topic.getD s.kafka.topic
        consumerGroup := o.consumerGroup.getD s.kafka.consumerGroup }
    buffer :=
      { s.buffer with
        messageCount := o.messageCount.getD s.buffer.messageCount
        sizeInBytes := o.sizeInBytes.getD s.buffer.sizeInBytes
        timeInSeconds :=
          o.timeInSeconds.getD s.buffer.timeInSeconds } }

/- Where nothing is overridden the settings stay as they are. -/
theorem apply_none (s : Settings) : ({} : Overrides).apply s = s := by
  rfl

------------------------------------------------------------
-- Command Lines
------------------------------------------------------------

/- The options that override settings. -/
def options : List Cli.CliOption :=
  [{ long := "bootstrap-servers", kind := .text },
   { long := "topic", kind := .text },
   { long := "consumer-group", kind := .text },
   { long := "max-buffer-message-count", kind := .word },
   { long := "max-buffer-size-in-bytes", kind := .word },
   { long := "max-buffer-time-in-seconds", kind := .word }]

/- The overrides among the values of a command line. -/
def ofReading (r : Cli.Reading) : Overrides :=
  let word (name : String) : Option UInt64 :=
    (r.value? name).bind Cli.word?
  { servers := r.value? "bootstrap-servers"
    topic := r.value? "topic"
    consumerGroup := r.value? "consumer-group"
    messageCount := word "max-buffer-message-count"
    sizeInBytes := word "max-buffer-size-in-bytes"
    timeInSeconds := word "max-buffer-time-in-seconds" }

/- The option that shows help. -/
def helpOption : Cli.CliOption :=
  { long := "help", short := some 'h', kind := .help }

/- The overrides of a command line that holds nothing else. -/
def ofArguments (args : List String) : Except Cli.Usage Overrides :=
  ((Cli.Level.mk (helpOption :: options) []).readAll args).map
    ofReading

end Overrides

end FragmentSink
