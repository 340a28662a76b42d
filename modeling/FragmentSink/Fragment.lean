/-
  Recording fragments and where they stand in the stream.

  A fragment belongs to one partition of a topic and has an
  offset in it.  Partitions are ordered by topic, then by
  number.

  Key definitions include:
    * `PartitionKey`
    * `OffsetToken`
    * `Fragment`
-/

namespace FragmentSink

------------------------------------------------------------
-- Partitions
------------------------------------------------------------

/- One numbered partition of a topic. -/
structure PartitionKey where
  topic : String
  partition : Int32
deriving DecidableEq, Repr

namespace PartitionKey

/- The written form `topic/partition`. -/
def text (p : PartitionKey) : String :=
  p.topic ++ "/" ++ toString p.partition.toInt

/- Whether one partition stands before another, or is the same. -/
def le (p q : PartitionKey) : Bool :=
  if p.topic = q.topic then
    p.partition.toInt ≤ q.partition.toInt
  else
    p.topic ≤ q.topic

end PartitionKey

------------------------------------------------------------
-- Offset Tokens
------------------------------------------------------------

/- The place of one fragment: its partition and its offset there. -/
structure OffsetToken where
  key : PartitionKey
  offset : Int64
deriving DecidableEq, Repr

namespace OffsetToken

/- The written form `topic/partition@offset`. -/
def text (t : OffsetToken) : String :=
  t.key.text ++ "@" ++ toString t.offset.toInt

end OffsetToken

------------------------------------------------------------
-- Fragments
------------------------------------------------------------

/-
  A piece of a recording.  Buffers count the declared size,
  stores keep the payload.
-/
structure Fragment where
  payload : ByteArray
  size : UInt64
  token : OffsetToken

namespace Fragment

/- Fragments agree when their payloads, sizes and tokens do. -/
theorem eq_iff (f g : Fragment) :
    f.payload.data = g.payload.data ∧ f.size = g.size ∧
        f.token = g.token ↔
      f = g := by
  obtain ⟨⟨fData⟩, fSize, fToken⟩ := f
  obtain ⟨⟨gData⟩, gSize, gToken⟩ := g
  simp only [Fragment.mk.injEq, ByteArray.mk.injEq]

instance : DecidableEq Fragment := fun f g =>
  decidable_of_decidable_of_iff (eq_iff f g)

/- A fragment whose size is the length of its payload. -/
def ofPayload (payload : ByteArray) (token : OffsetToken) : Fragment :=
  ⟨payload, payload.size.toUInt64, token⟩

/- The partition a fragment belongs to. -/
def partitionKey (f : Fragment) : PartitionKey :=
  f.token.key

/- The offset of a fragment in its partition. -/
def offset (f : Fragment) : Int64 :=
  f.token.offset

end Fragment

end FragmentSink
