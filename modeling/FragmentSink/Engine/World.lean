import FragmentSink.Commit
import FragmentSink.Error

/-
  What the ingestion engine needs of the world around it.

  Every call takes a state of the world to the next.  A call
  that is awaited may never come back: the task that waits is
  dropped, by a shutdown or with the whole program.

  Key definitions include:
    * `Awaited`
    * `Poll`
    * `World`
-/

namespace FragmentSink

------------------------------------------------------------
-- Awaited Answers
------------------------------------------------------------

/- The answer to an awaited call, or the end of the task that waits for it. -/
inductive Awaited (α : Type) where
| done (answer : α)
| dropped
deriving DecidableEq, Repr

/- What a poll of the stream brings. -/
inductive Poll where
| fragment (f : Fragment)
| quiet
| failed (cause : Error) (backoff : Span) (goOn : Bool)
deriving DecidableEq

------------------------------------------------------------
-- Worlds
------------------------------------------------------------

/-
  The world around an engine: besides what a buffer needs, the
  stream it reads and a way to wait.

  The order in which partitions are visited is the world's
  choice, but it visits each of them once.
-/
structure World (σ : Type) extends Surroundings σ where
  poll : σ → Awaited Poll × σ
  commitThrough :
    OffsetToken → σ → Awaited (Except Error Unit) × σ
  rewind : PartitionKey → Int64 → σ → Except Error Unit × σ
  assigned : σ → Except Error (List PartitionKey) × σ
  sleep : Span → σ → Awaited Unit × σ
  noise : σ → UInt64 × σ
  visitOrder :
    (ps : List PartitionKey) → σ →
      { qs : List PartitionKey // qs.Perm ps } × σ
  limitShutdown : Span → σ → σ

end FragmentSink
