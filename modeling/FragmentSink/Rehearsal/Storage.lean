import FragmentSink.Engine.World

/-
  A storage that follows rules, in virtual time.

  Time moves only when something waits.  An upload waits for
  the first delay that matches it and then fails if the next
  uploads are to fail or a failure rule matches it.

  Key definitions include:
    * `StorageRule`
    * `Rehearsal`
    * `Rehearsal.wait`
    * `Rehearsal.upload`
    * `Rehearsal.surroundings`
-/

namespace FragmentSink

------------------------------------------------------------
-- Rules
------------------------------------------------------------

/- The fragments a rule is about: one partition, and one offset or all. -/
structure Match where
  partition : Int32
  offset : Option Int64
deriving DecidableEq, Repr

namespace Match

/- Whether a fragment is one the rule is about; its topic does not matter. -/
def covers (m : Match) (t : OffsetToken) : Bool :=
  m.partition = t.key.partition &&
    m.offset.all (· = t.offset)

end Match

/- What matches, and how often it still applies. -/
structure LimitedMatch where
  what : Match
  times : Nat
deriving DecidableEq, Repr

namespace LimitedMatch

/- Use up one application of the first match that has one left. -/
def use? (t : OffsetToken) :
    List LimitedMatch → Option (List LimitedMatch)
| [] => none
| m :: ms =>
    if m.what.covers t && 0 < m.times then
      some ({ m with times := m.times - 1 } :: ms)
    else
      (use? t ms).map (m :: ·)

end LimitedMatch

/- A change of how uploads go; without milliseconds a delay never ends. -/
inductive StorageRule where
| failNext (n : Nat)
| fail (what : LimitedMatch)
| delay (what : Match) (millis : Option Nat)
| heal
deriving DecidableEq, Repr

------------------------------------------------------------
-- Actions
------------------------------------------------------------

/- How a recorded call ended. -/
inductive ActionEnd where
| ok
| fail
| cancelled
deriving DecidableEq, Repr

namespace ActionEnd

/- The written name of an end. -/
def label : ActionEnd → String
| .ok => "ok"
| .fail => "fail"
| .cancelled => "cancelled"

end ActionEnd

/- The calls that are recorded. -/
inductive ActionKind where
| upload
| commit
| rewind
deriving DecidableEq, Repr

namespace ActionKind

/- The written name of a call. -/
def label : ActionKind → String
| .upload => "upload"
| .commit => "commit"
| .rewind => "rewind"

end ActionKind

/- A recorded call: what was called for which place, and how it ended. -/
structure Action where
  kind : ActionKind
  token : OffsetToken
  ending : ActionEnd
deriving DecidableEq, Repr

------------------------------------------------------------
-- Rehearsals
------------------------------------------------------------

/-
  A storage that follows rules, its virtual time in
  milliseconds, the instants at which waiting is ended, a clock
  set by hand, and the calls so far.
-/
structure Rehearsal where
  failNext : Nat
  fails : List LimitedMatch
  delays : List (Match × Option Nat)
  time : Nat
  deadline : Option Nat
  cutoff : Option Nat
  clock : ManualClock
  log : List Action

namespace Rehearsal

/- A storage without rules, at the start of its time. -/
def fresh (now : Timestamp) : Rehearsal where
  failNext := 0
  fails := []
  delays := []
  time := 0
  deadline := none
  cutoff := none
  clock := ⟨now⟩
  log := []

/- Add a rule. -/
def addRule (r : Rehearsal) : StorageRule → Rehearsal
| .failNext n => { r with failNext := n }
| .fail what => { r with fails := r.fails ++ [what] }
| .delay what millis =>
    { r with delays := r.delays ++ [(what, millis)] }
| .heal => { r with failNext := 0, fails := [], delays := [] }

/- Record a call. -/
def record (r : Rehearsal) (a : Action) : Rehearsal :=
  { r with log := r.log ++ [a] }

------------------------------------------------------------
-- Waiting
------------------------------------------------------------

/- End waiting after some milliseconds, where it does not end sooner. -/
def cutAfter (r : Rehearsal) (millis : Nat) : Rehearsal :=
  let instant := r.time + millis
  { r with
    cutoff := some ((r.cutoff.map (min instant)).getD instant) }

/- How a wait ends. -/
inductive WaitEnd where
| finished
| expired
| dropped
deriving DecidableEq, Repr

/- Whether an instant comes no later than another that may never come. -/
def notAfter (t : Nat) : Option Nat → Bool
| none => true
| some u => t ≤ u

/-
  Wait for a number of milliseconds, or forever.  Of several
  ends at one instant the wait being over counts first, then
  the deadline, then the cutoff.
-/
def wait (r : Rehearsal) (millis : Option Nat) : WaitEnd × Rehearsal :=
  let cutShort : WaitEnd × Rehearsal :=
    match r.deadline, r.cutoff with
    | some d, cut =>
        if notAfter d cut then
          (.expired, { r with time := max r.time d })
        else
          (.dropped, { r with time := max r.time (cut.getD d) })
    | none, some c => (.dropped, { r with time := max r.time c })
    | none, none => (.dropped, r)
  match millis.map (r.time + ·) with
  | none => cutShort
  | some finish =>
      if notAfter finish r.deadline && notAfter finish r.cutoff then
        (.finished, { r with time := finish })
      else
        cutShort

------------------------------------------------------------
-- Uploads
------------------------------------------------------------

/- How long an upload takes. -/
def delayOf (r : Rehearsal) (t : OffsetToken) : Option Nat :=
  match r.delays.find? fun rule => rule.1.covers t with
  | none => some 0
  | some rule => rule.2

/- Whether an upload whose wait is over fails, with the rule used up. -/
def refuses (r : Rehearsal) (t : OffsetToken) : Bool × Rehearsal :=
  if 0 < r.failNext then
    (true, { r with failNext := r.failNext - 1 })
  else
    match LimitedMatch.use? t r.fails with
    | some fails => (true, { r with fails := fails })
    | none => (false, r)

/- Upload a fragment as the rules say. -/
def upload (f : Fragment) (r : Rehearsal) : UploadEnd × Rehearsal :=
  let ended (r : Rehearsal) (e : ActionEnd) : Rehearsal :=
    r.record ⟨.upload, f.token, e⟩
  match r.wait (r.delayOf f.token) with
  | (.expired, r) => (.expired, ended r .cancelled)
  | (.dropped, r) => (.dropped, ended r .cancelled)
  | (.finished, r) =>
      match r.refuses f.token with
      | (true, r) => (.refused, ended r .fail)
      | (false, r) => (.stored, ended r .ok)

/- The whole milliseconds of a span. -/
def millisOf (s : Span) : Nat :=
  s.nanos / 1000000

/- A rehearsal as the world around a buffer. -/
def surroundings : Surroundings Rehearsal where
  now := fun r => (r.clock.shown, r)
  ticks := fun r => (r.time * 1000000, r)
  upload := upload
  armTimer := fun span r =>
    { r with deadline := some (r.time + millisOf span) }
  disarmTimer := fun r => { r with deadline := none }

end Rehearsal

end FragmentSink
