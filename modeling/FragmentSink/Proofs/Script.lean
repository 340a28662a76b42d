import FragmentSink.Config.Settings
import FragmentSink.Engine.World
import FragmentSink.Proofs.Journal

/-
  Worlds that follow a script.

  The stream brings what is listed and then is shut down, the
  storage ends uploads as listed and then stores all of them.
  Everything else succeeds, and the clock stands still.

  Main declarations:
    * `Script`
    * `Script.world`
    * `Script.journal`
-/

namespace FragmentSink

/- What a stream and a storage have left to answer. -/
structure Script where
  polls : List Poll
  uploads : List UploadEnd
  assigned : List PartitionKey

namespace Script

/- The next poll of a script, or its shutdown. -/
def nextPoll (s : Script) : Awaited Poll :=
  match s.polls with
  | [] => .dropped
  | answer :: _ => .done answer

/- The world that a script describes. -/
def world : World Script where
  now s := (⟨0⟩, s)
  ticks s := (0, s)
  upload _ s :=
    (s.uploads.headD .stored, { s with uploads := s.uploads.tail })
  armTimer _ s := s
  disarmTimer s := s
  poll s := (s.nextPoll, { s with polls := s.polls.tail })
  commitThrough _ s := (.done (.ok ()), s)
  rewind _ _ s := (.ok (), s)
  assigned s := (.ok s.assigned, s)
  sleep _ s := (.done (), s)
  noise s := (0, s)
  visitOrder ps s := (⟨ps, .refl ps⟩, s)
  limitShutdown _ s := s

/- Settings under which a buffer is full with two fragments. -/
def settings : Settings where
  kafka := { bootstrapServers := ["localhost:9092"] }
  storage := { location := "memory://" }
  buffer := { messageCount := 2 }

/- The partition a script is about. -/
def partition : PartitionKey :=
  ⟨"logs", 0⟩

/- A fragment of that partition. -/
def fragment (offset : Int64) : Fragment :=
  ⟨.empty, 5, ⟨partition, offset⟩⟩

/- The partition's fragments, with a gap between their offsets. -/
def journal : Journal partition where
  fragments := [fragment 3, fragment 4, fragment 6]
  keyed := by decide
  increasing := by decide

/- A batch that fails, and is then delivered and stored again. -/
def redelivered : Script where
  polls := [3, 4, 3, 4].map fun offset => .fragment (fragment offset)
  uploads := [.stored, .refused]
  assigned := [partition]

end Script

/- Settings under which a buffer is full with one fragment. -/
def eagerSettings : Settings :=
  { Script.settings with buffer := { messageCount := 1 } }

end FragmentSink
