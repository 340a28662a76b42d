import FragmentSink.Number.Word
import FragmentSink.Fragment
import FragmentSink.Table

/-
  What has been consumed and what has been committed, by
  partition.

  The lag of a partition is the distance between the two,
  never negative; a partition without a commit counts as
  committed up to the offset before zero.

  Key definitions include:
    * `OffsetTracker`
    * `OffsetTracker.rewind`
    * `OffsetTracker.lag`
    * `OffsetTracker.totalLag`
-/

namespace FragmentSink

------------------------------------------------------------
-- Tracked Offsets
------------------------------------------------------------

/- The last consumed and the last committed offset of each partition. -/
structure OffsetTracker where
  current : Table PartitionKey Int64
  committed : Table PartitionKey Int64

namespace OffsetTracker

/- The tracker that has seen nothing. -/
def empty : OffsetTracker :=
  ⟨.empty, .empty⟩

/- Note that a fragment was consumed. -/
def updateCurrent (o : OffsetTracker) (t : OffsetToken) : OffsetTracker :=
  { o with current := o.current.insert t.key t.offset }

/- Note that everything up to a fragment was committed. -/
def markCommitted (o : OffsetTracker) (t : OffsetToken) : OffsetTracker :=
  { o with committed := o.committed.insert t.key t.offset }

/-
  Note that consumption goes back to an offset: the one before
  it is the last consumed.  The first offset of all has none
  before it and faults.
-/
def rewind
    (o : OffsetTracker)
    (p : PartitionKey)
    (offset : Int64) : Except Fault OffsetTracker :=
  (Word.subInt offset 1).map fun last =>
    { o with current := o.current.insert p last }

/- Forget a partition. -/
def remove (o : OffsetTracker) (p : PartitionKey) : OffsetTracker :=
  ⟨o.current.erase p, o.committed.erase p⟩

/- The last consumed offset of a partition. -/
def current? (o : OffsetTracker) (p : PartitionKey) : Option Int64 :=
  o.current.get? p

/- The last committed offset of a partition. -/
def committed? (o : OffsetTracker) (p : PartitionKey) : Option Int64 :=
  o.committed.get? p

/- The partitions something was consumed from, in their order. -/
def partitions (o : OffsetTracker) : List PartitionKey :=
  o.current.keys.mergeSort PartitionKey.le

------------------------------------------------------------
-- Lag
------------------------------------------------------------

/- How far a consumed offset is ahead of the committed one. -/
def lagBetween
    (current : Int64)
    (committed : Option Int64) : Except Fault Int64 :=
  (Word.subInt current (committed.getD (-1))).map (max 0)

/- The lag of a partition, if something was consumed from it. -/
def lag
    (o : OffsetTracker)
    (p : PartitionKey) : Except Fault (Option Int64) :=
  match o.current? p with
  | none => .ok none
  | some c => (lagBetween c (o.committed? p)).map some

/- The sum of lags, added up in the given order. -/
def sumLags
    (o : OffsetTracker) :
    Int64 → List PartitionKey → Except Fault Int64
| total, [] => .ok total
| total, p :: ps =>
    match o.lag p with
    | .error e => .error e
    | .ok none => sumLags o total ps
    | .ok (some l) =>
        match Word.addInt total l with
        | .error e => .error e
        | .ok next => sumLags o next ps

/- The lag of all partitions together. -/
def totalLag (o : OffsetTracker) : Except Fault Int64 :=
  o.sumLags 0 o.partitions

end OffsetTracker

end FragmentSink
