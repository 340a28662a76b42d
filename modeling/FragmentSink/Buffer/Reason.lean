/-
  Why a buffer is flushed, and which of its bounds are reached.

  Of several reached bounds the count names the flush, then
  the size, then the time.

  Main statements:
    * `Readiness.isReady_iff_reason`
-/

namespace FragmentSink

------------------------------------------------------------
-- Flush Reasons
------------------------------------------------------------

/- The reasons for a flush. -/
inductive FlushReason where
| messageCount
| byteSize
| commitTime
| shutdown
deriving DecidableEq, Repr

namespace FlushReason

/- Every reason, in the order they are listed in. -/
def all : List FlushReason :=
  [.messageCount, .byteSize, .commitTime, .shutdown]

/- The written name of a reason. -/
def label : FlushReason → String
| .messageCount => "message_count"
| .byteSize => "byte_size"
| .commitTime => "commit_time"
| .shutdown => "shutdown"

end FlushReason

------------------------------------------------------------
-- Readiness
------------------------------------------------------------

/- Which bounds of a buffer are reached. -/
structure Readiness where
  count : Bool
  size : Bool
  time : Bool
deriving DecidableEq, Repr

namespace Readiness

/- Whether some bound is reached. -/
def isReady (r : Readiness) : Bool :=
  r.count || r.size || r.time

/- The reason of the flush that the reached bounds ask for. -/
def reason (r : Readiness) : Option FlushReason :=
  if r.count then
    some .messageCount
  else if r.size then
    some .byteSize
  else if r.time then
    some .commitTime
  else
    none

/- A buffer is ready exactly when it has a reason for a flush. -/
theorem isReady_iff_reason (r : Readiness) :
    r.isReady = r.reason.isSome := by
  rcases r with ⟨count, size, time⟩
  cases count <;> cases size <;> cases time <;> rfl

end Readiness

end FragmentSink
