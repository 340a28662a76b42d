/-
  Faults: the ways a call can be cut short by its own
  arithmetic or by an argument it cannot handle.

  A fault is no answer of the program but the end of the call
  it happens in.  State written before the fault stays written.

  Key definitions include:
    * `Fault`
    * `Fault.message`
-/

namespace FragmentSink

------------------------------------------------------------
-- Faults
------------------------------------------------------------

/-
  The ways a call can be cut short: a sum or difference that
  leaves its word, an instant that leaves the calendar, a
  fragment handed to the buffer of another partition, or a
  topic with a zero in it handed to the broker client.
-/
inductive Fault where
| addition
| subtraction
| instant
| misrouted
| zeroInTopic (bytes : List UInt8)
deriving DecidableEq, Repr

namespace Fault

/- Numbers with commas between them. -/
def listed (ns : List Nat) : String :=
  ", ".intercalate (ns.map toString)

/- The text a fault is reported with. -/
def message : Fault → String
| .addition => "attempt to add with overflow"
| .subtraction => "attempt to subtract with overflow"
| .instant => "\x60DateTime + TimeDelta\x60 overflowed"
| .misrouted => "assertion \x60left == right\x60 failed"
| .zeroInTopic bytes =>
    "called \x60Result::unwrap()\x60 on an \x60Err\x60 value: NulError(" ++
      toString (bytes.takeWhile (· ≠ 0)).length ++ ", [" ++
      listed (bytes.map UInt8.toNat) ++ "])"

end Fault

end FragmentSink
