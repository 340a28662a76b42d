import FragmentSink.Engine.Run
import FragmentSink.Rehearsal.Storage

/-
  A stream that follows a script, and the run of an engine
  over it.

  Each poll takes events of the script until one answers it.
  Partition logs are read in turn, and a rewind moves a log to
  its first fragment at or after the target.

  Key definitions include:
    * `StreamEvent`
    * `Scene`
    * `Scene.world`
    * `Scene.play`
-/

namespace FragmentSink

------------------------------------------------------------
-- Partition Logs
------------------------------------------------------------

/- The fragments of one partition, those before the reading position and those after it. -/
structure PartitionLog where
  key : PartitionKey
  read : List Fragment
  unread : List Fragment

namespace PartitionLog

/- A log of fragments of the given sizes with consecutive offsets. -/
def ofSizes
    (key : PartitionKey)
    (first : Int64)
    (sizes : List UInt64) : PartitionLog where
  key := key
  read := []
  unread :=
    sizes.zipIdx.map fun (size, i) =>
      ⟨.empty, size, ⟨key, first + Int64.ofNat i⟩⟩

/- Move a log to its first fragment at or after an offset. -/
def seek (l : PartitionLog) (offset : Int64) : PartitionLog :=
  let all := l.read ++ l.unread
  { l with
    read := all.takeWhile fun f => f.offset < offset
    unread := all.dropWhile fun f => f.offset < offset }

/- Take the next fragment of a log. -/
def next? (l : PartitionLog) : Option (Fragment × PartitionLog) :=
  match l.unread with
  | [] => none
  | f :: fs => some (f, { l with read := l.read ++ [f], unread := fs })

end PartitionLog

------------------------------------------------------------
-- Scripts
------------------------------------------------------------

/- What happens to the stream and around it. -/
inductive StreamEvent where
| next
| message (token : OffsetToken) (size : UInt64)
| quiet
| failed (cause : Error) (backoff : Span) (goOn : Bool)
| shutdown
| assign (partitions : Option (List PartitionKey))
| assignError
| commitFail (what : LimitedMatch)
| rewindFail (fails : Bool)
| shutdownIn (millis : Nat)
| rule (r : StorageRule)
deriving DecidableEq, Repr

/- What the stream answers when it is asked for the assignment. -/
inductive Assignment where
| everything
| listed (partitions : List PartitionKey)
| unreadable
deriving DecidableEq, Repr

/- A storage that follows rules, and a stream that follows a script. -/
structure Scene where
  storage : Rehearsal
  events : List StreamEvent
  logs : List PartitionLog
  cursor : Nat
  assignment : Assignment
  mentioned : List PartitionKey
  commitFails : List LimitedMatch
  rewindFails : Bool

namespace Scene

/- A scene before its first event. -/
def fresh
    (now : Timestamp)
    (rules : List StorageRule)
    (logs : List PartitionLog)
    (events : List StreamEvent) : Scene where
  storage := rules.foldl Rehearsal.addRule (.fresh now)
  events := events
  logs := logs
  cursor := 0
  assignment := .everything
  mentioned := logs.map (·.key)
  commitFails := []
  rewindFails := false

/- The scene with its storage changed. -/
def withStorage (c : Scene) (f : Rehearsal → Rehearsal) : Scene :=
  { c with storage := f c.storage }

------------------------------------------------------------
-- Reading the Logs
------------------------------------------------------------

/- Take a fragment from the first of the listed logs that has one. -/
def takeFrom (c : Scene) : List Nat → Option (Fragment × Scene)
| [] => none
| i :: is =>
    match c.logs[i]?.bind PartitionLog.next? with
    | none => takeFrom c is
    | some (f, log) =>
        some (f, { c with logs := c.logs.set i log, cursor := i + 1 })

/- The numbers of the logs, in turn from the cursor. -/
def turn (c : Scene) : List Nat :=
  let n := c.logs.length
  (List.range n).map fun i => (c.cursor + i) % n

/- Take the next fragment of the logs, read in turn. -/
def takeNext (c : Scene) : Poll × Scene :=
  match c.takeFrom c.turn with
  | none => (.quiet, c)
  | some (f, c) => (.fragment f, c)

/- Note that a partition was mentioned. -/
def mention (c : Scene) (p : PartitionKey) : Scene :=
  if c.mentioned.contains p then c
  else { c with mentioned := c.mentioned ++ [p] }

------------------------------------------------------------
-- Calls
------------------------------------------------------------

/- Take events until one answers the poll; without any left the scene shuts down. -/
def pollFrom : List StreamEvent → Scene → Awaited Poll × Scene
| [], c => (.dropped, { c with events := [] })
| e :: es, c =>
    let c := { c with events := es }
    match e with
    | .next =>
        let (answer, c) := c.takeNext
        (.done answer, c)
    | .message token size =>
        (.done (.fragment ⟨.empty, size, token⟩), c.mention token.key)
    | .quiet => (.done .quiet, c)
    | .failed cause backoff goOn =>
        (.done (.failed cause backoff goOn), c)
    | .shutdown => (.dropped, c)
    | .assign none =>
        pollFrom es { c with assignment := .everything }
    | .assign (some ps) =>
        pollFrom es { c with assignment := .listed ps }
    | .assignError => pollFrom es { c with assignment := .unreadable }
    | .commitFail what =>
        pollFrom es { c with commitFails := c.commitFails ++ [what] }
    | .rewindFail fails => pollFrom es { c with rewindFails := fails }
    | .shutdownIn millis =>
        pollFrom es (c.withStorage (·.cutAfter millis))
    | .rule r => pollFrom es (c.withStorage (·.addRule r))

/- Record a call and answer it. -/
def answer
    (c : Scene)
    (kind : ActionKind)
    (token : OffsetToken)
    (trouble : Option KafkaError) : Except Error Unit × Scene :=
  let record (e : ActionEnd) : Scene :=
    c.withStorage (·.record ⟨kind, token, e⟩)
  match trouble with
  | none => (.ok (), record .ok)
  | some cause => (.error (.kafka cause), record .fail)

/- Commit the offset after a fragment, as the script says. -/
def commitThrough
    (token : OffsetToken)
    (c : Scene) : Awaited (Except Error Unit) × Scene :=
  let (result, c) :=
    match LimitedMatch.use? token c.commitFails with
    | some fails =>
        Scene.answer { c with commitFails := fails } .commit token
          (some (.offsetCommit "scripted"))
    | none => c.answer .commit token none
  (.done result, c)

/- Move the log of a partition, as the script says. -/
def rewind
    (p : PartitionKey)
    (offset : Int64)
    (c : Scene) : Except Error Unit × Scene :=
  let token : OffsetToken := ⟨p, offset⟩
  if c.rewindFails then
    c.answer .rewind token (some (.seek token "scripted"))
  else
    let logs :=
      c.logs.map fun (l : PartitionLog) =>
        if l.key = p then l.seek offset else l
    Scene.answer { c with logs := logs } .rewind token none

/- The assigned partitions, as the script says. -/
def assigned (c : Scene) : Except Error (List PartitionKey) × Scene :=
  match c.assignment with
  | .everything => (.ok c.mentioned, c)
  | .listed ps => (.ok ps, c)
  | .unreadable =>
      (.error (.kafka (.partitionAssignment "scripted")), c)

/- Wait for a span. -/
def sleep (span : Span) (c : Scene) : Awaited Unit × Scene :=
  match c.storage.wait (some (Rehearsal.millisOf span)) with
  | (.finished, r) => (.done (), { c with storage := r })
  | (_, r) => (.dropped, { c with storage := r })

/- Call the storage of a scene. -/
def onStorage
    {α : Type}
    (f : Rehearsal → α × Rehearsal)
    (c : Scene) : α × Scene :=
  let (answer, r) := f c.storage
  (answer, { c with storage := r })

/- A scene as the world around an engine; partitions are visited in their order. -/
def world : World Scene where
  now := onStorage Rehearsal.surroundings.now
  ticks := onStorage Rehearsal.surroundings.ticks
  upload := fun f => onStorage (Rehearsal.surroundings.upload f)
  armTimer := fun span c =>
    c.withStorage (Rehearsal.surroundings.armTimer span)
  disarmTimer := fun c =>
    c.withStorage Rehearsal.surroundings.disarmTimer
  poll := fun c => pollFrom c.events c
  commitThrough := commitThrough
  rewind := rewind
  assigned := assigned
  sleep := sleep
  noise := fun c => (0, c)
  visitOrder := fun ps c =>
    (⟨ps.mergeSort PartitionKey.le, List.mergeSort_perm ps _⟩, c)
  limitShutdown := fun span c =>
    c.withStorage fun r =>
      { r with
        deadline := none
        cutoff := some (r.time + Rehearsal.millisOf span) }

------------------------------------------------------------
-- Playing a Scene
------------------------------------------------------------

/- Run an engine over a scene; every poll takes an event or is the last. -/
def play (e : Engine) (c : Scene) : Engine.Run Scene :=
  Engine.run world (c.events.length + 1) e c

end Scene

end FragmentSink
