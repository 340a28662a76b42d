import FragmentSink.Proofs.Engine.Attribution
import FragmentSink.Proofs.Engine.Halting
import FragmentSink.Proofs.Engine.Lanes
import Mathlib

/-
  Outlines of an engine, and what serving a partition does to
  them.

  An outline shows what is kept for each partition, the
  metrics, the statuses and the calls made for each partition.
  It leaves out how long anything took and in which order the
  tables were filled.  Serving one partition has an effect on
  the outline, and the effects of two partitions commute.

  Main declarations:
    * `Moment.outline`
    * `Effect`
    * `Outline.apply_comm`
    * `Outline.foldl_perm`
-/

namespace FragmentSink

variable {p q : PartitionKey}

------------------------------------------------------------
-- Statuses
------------------------------------------------------------

/- The statuses of components by their names. -/
abbrev Statuses := String → Option ComponentStatus

namespace Statuses

/- Give a component a status. -/
def mark
    (s : Statuses)
    (c : Component)
    (status : ComponentStatus) : Statuses :=
  Function.update s c.name (some status)

/- Give the storage and the buffer a status each. -/
def markBoth
    (s : Statuses)
    (storage buffer : ComponentStatus) : Statuses :=
  (s.mark .storage storage).mark .buffer buffer

/- Only the latest statuses count. -/
@[simp] theorem markBoth_markBoth
    (s : Statuses)
    (storage buffer storage' buffer' : ComponentStatus) :
    (s.markBoth storage buffer).markBoth storage' buffer' =
      s.markBoth storage' buffer' := by
  have hNames : Component.storage.name ≠ Component.buffer.name := by
    decide
  simp only [markBoth, mark]
  rw [Function.update_comm hNames, Function.update_idem,
    Function.update_comm hNames.symm, Function.update_idem,
    Function.update_comm hNames]

end Statuses

@[simp] theorem Health.status?_mark
    (h : Health)
    (c : Component)
    (status : ComponentStatus) :
    (h.mark c status).status? =
      Statuses.mark h.status? c status := by
  funext name
  by_cases hName : name = c.name
  · subst hName
    simp [Health.mark, Health.set, Health.status?, Statuses.mark]
  · simp [Health.mark, Health.set, Health.status?, Statuses.mark,
      hName, Ne.symm hName]

------------------------------------------------------------
-- Tallies
------------------------------------------------------------

/- The metrics but for how long commits took. -/
def Metrics.timeless (m : Metrics) : Metrics :=
  { m with
    durations := { m.durations with sumMillis := 0, within := [] } }

/- What is counted when a partition was served. -/
inductive Tally where
| nothing
| flushed (reason : FlushReason) (fragments bytes : UInt64)
| failed

namespace Tally

/- Count it, as something that took no time. -/
def apply : Tally → Metrics → Metrics
| .nothing, m => m
| .flushed reason fragments bytes, m =>
    m.recordFlush reason fragments bytes ⟨0⟩
| .failed, m => (m.recordCommitFailure ⟨0⟩).recordRedelivery

/- Counters do not tell in which order they were moved. -/
theorem apply_comm (t u : Tally) (m : Metrics) :
    t.apply (u.apply m) = u.apply (t.apply m) := by
  have hBump (f : FlushReason → UInt64) (a b : FlushReason) :
      bump (bump f a) b = bump (bump f b) a := by
    funext x
    simp only [bump]
    split <;> split <;> rfl
  have hAdd (a b c : UInt64) : a + b + c = a + c + b := by
    rw [UInt64.add_assoc, UInt64.add_comm b, ← UInt64.add_assoc]
  cases t with
  | nothing => rfl
  | flushed reason fragments bytes =>
      cases u with
      | nothing => rfl
      | flushed reason' fragments' bytes' =>
          simp only [apply, Metrics.recordFlush]
          rw [hBump, hAdd _ fragments', hAdd _ bytes']
      | failed => rfl
  | failed => cases u <;> rfl

end Tally

@[simp] theorem Metrics.timeless_recordFlush
    (m : Metrics)
    (reason : FlushReason)
    (fragments bytes : UInt64)
    (duration : Span) :
    (m.recordFlush reason fragments bytes duration).timeless =
      Tally.apply (.flushed reason fragments bytes)
        m.timeless := by
  simp [timeless, Tally.apply, recordFlush,
    DurationHistogram.observe, Span.millis]

@[simp] theorem Metrics.timeless_recordCommitFailure
    (m : Metrics)
    (duration : Span) :
    (m.recordCommitFailure duration).recordRedelivery.timeless =
      Tally.failed.apply m.timeless := by
  simp [timeless, Tally.apply, recordCommitFailure,
    recordRedelivery, recordError, DurationHistogram.observe,
    Span.millis]

------------------------------------------------------------
-- Effects
------------------------------------------------------------

/- What serving a partition means for its budget. -/
inductive Mood where
| still
| failing
| recovered
deriving DecidableEq

/- The status of a buffer while a failed batch is awaited again. -/
def Engine.awaiting : ComponentStatus :=
  .degraded "Awaiting redelivery of failed batch"

namespace Mood

/- A change of a lane treats the budget in it so. -/
def Fits : Mood → (Lane → Lane) → Prop
| .still, change => ∀ l, (change l).budget = l.budget
| .failing, change => ∀ l, (change l).budget ≠ none
| .recovered, change => ∀ l, (change l).budget = none

/- What this means for whether no partition is failing. -/
def Moves : Mood → Prop → Prop → Prop
| .still, before, after => after ↔ before
| .failing, _, after => ¬ after
| .recovered, before, after => before → after

open Classical in
/- The statuses after a partition was served, given whether none is failing then. -/
noncomputable def report
    (mood : Mood)
    (calm : Prop)
    (s : Statuses) : Statuses :=
  match mood with
  | .still => s
  | .failing => s.markBoth Engine.retrying Engine.awaiting
  | .recovered => if calm then s.markBoth .healthy .healthy else s

/-
  The statuses do not tell which of two partitions was served
  first.  Failing ones make them degraded in any order; one
  that recovers makes them healthy only if no other fails, and
  the last to recover is the one that does.
-/
theorem report_comm
    {mood mood' : Mood}
    {first second both : Prop}
    (s : Statuses)
    (hMoves : mood.Moves second both)
    (hMoves' : mood'.Moves first both) :
    mood'.report both (mood.report first s) =
      mood.report both (mood'.report second s) := by
  cases mood with
  | still =>
      have hSame : both = second := propext hMoves
      subst hSame
      cases mood' <;> rfl
  | failing =>
      have hNot : ¬ both := hMoves
      cases mood' with
      | still => rfl
      | failing => rfl
      | recovered =>
          simp only [report, if_neg hNot]
          split <;> simp
  | recovered =>
      cases mood' with
      | still =>
          have hSame : both = first := propext hMoves'
          subst hSame
          rfl
      | failing =>
          have hNot : ¬ both := hMoves'
          simp only [report, if_neg hNot]
          split <;> simp
      | recovered =>
          simp only [report]
          by_cases hBoth : both
          · rw [if_pos hBoth, if_pos hBoth]
            split <;> split <;> simp
          · rw [if_neg hBoth, if_neg hBoth,
              if_neg fun hFirst => hBoth (hMoves' hFirst),
              if_neg fun hSecond => hBoth (hMoves hSecond)]

end Mood

/- No partition is failing. -/
def Calm (lanes : PartitionKey → Lane) : Prop :=
  ∀ q, (lanes q).budget = none

/- A change that fits a mood moves the whole accordingly. -/
theorem Mood.Fits.moves
    {mood : Mood}
    {change : Lane → Lane}
    (hFits : mood.Fits change)
    (lanes : PartitionKey → Lane)
    (p : PartitionKey) :
    mood.Moves (Calm lanes)
      (Calm (Function.update lanes p (change (lanes p)))) := by
  have hOthers
      (hBudget : (change (lanes p)).budget = (lanes p).budget) :
      Calm (Function.update lanes p (change (lanes p))) ↔
        Calm lanes := by
    apply forall_congr'
    intro q
    by_cases hKey : q = p
    · subst hKey
      rw [Function.update_self, hBudget]
    · rw [Function.update_of_ne hKey]
  cases mood with
  | still => exact hOthers (hFits _)
  | failing =>
      intro hCalm
      have hHere := hCalm p
      rw [Function.update_self] at hHere
      exact hFits _ hHere
  | recovered =>
      intro hCalm
      exact (hOthers ((hFits _).trans (hCalm p).symm)).mpr hCalm

/-
  What is done to a partition when it is served: how its lane
  changes, what is counted, and the calls that are made for
  it, newest first.
-/
structure Effect where
  change : Lane → Lane
  tally : Tally
  calls : History
  mood : Mood
  fits : mood.Fits change

/- Nothing is done. -/
def Effect.none : Effect where
  change := id
  tally := .nothing
  calls := []
  mood := .still
  fits _ := rfl

------------------------------------------------------------
-- Outlines
------------------------------------------------------------

/- What an engine and its history show of each partition and of the whole. -/
@[ext] structure Outline where
  lanes : PartitionKey → Lane
  metrics : Metrics
  statuses : Statuses
  running : Bool
  calls : PartitionKey → History

/-
  The outline of a moment: the lanes of all partitions, the
  metrics but for measured durations, the statuses, and the
  uploads, commits and rewinds of each partition.
-/
def Moment.outline (m : Moment) : Outline where
  lanes := m.engine.lane
  metrics := m.engine.metrics.timeless
  statuses := m.engine.health.status?
  running := m.engine.health.running
  calls p := m.history.callsFor p

namespace Outline

/- The outline after a partition was served. -/
noncomputable def apply
    (o : Outline)
    (p : PartitionKey)
    (x : Effect) : Outline where
  lanes := Function.update o.lanes p (x.change (o.lanes p))
  metrics := x.tally.apply o.metrics
  statuses :=
    x.mood.report
      (Calm (Function.update o.lanes p (x.change (o.lanes p))))
      o.statuses
  running := o.running
  calls := Function.update o.calls p (x.calls ++ o.calls p)

variable (o : Outline)
variable (x y : Effect)

@[simp] theorem apply_none : o.apply p .none = o := by
  ext1 <;> simp [apply, Effect.none, Tally.apply, Mood.report]

end Outline

------------------------------------------------------------
-- Effects Commute
------------------------------------------------------------

namespace Outline

/- The effects of two partitions commute. -/
theorem apply_comm
    (o : Outline)
    (x y : Effect)
    (hOther : p ≠ q) :
    (o.apply p x).apply q y = (o.apply q y).apply p x := by
  have hQ {α : Type} (f : PartitionKey → α) (a : α) :
      Function.update f p a q = f q :=
    Function.update_of_ne (Ne.symm hOther) _ _
  have hP {α : Type} (f : PartitionKey → α) (a : α) :
      Function.update f q a p = f p :=
    Function.update_of_ne hOther _ _
  have hLanes := Function.update_comm hOther
    (x.change (o.lanes p)) (y.change (o.lanes q)) o.lanes
  have hMoves := x.fits.moves
    (Function.update o.lanes q (y.change (o.lanes q))) p
  have hMoves' := y.fits.moves
    (Function.update o.lanes p (x.change (o.lanes p))) q
  rw [hP, ← hLanes] at hMoves
  rw [hQ] at hMoves'
  unfold apply
  simp only [hQ, hP]
  congr 1
  · exact y.tally.apply_comm x.tally o.metrics
  · rw [← hLanes]
    exact Mood.report_comm o.statuses hMoves hMoves'
  · exact Function.update_comm hOther _ _ _

/- So partitions may be served in any order. -/
theorem foldl_perm
    {ps qs : List PartitionKey}
    (hPerm : ps.Perm qs)
    (x : PartitionKey → Effect)
    (o : Outline) :
    ps.foldl (fun o p => o.apply p (x p)) o =
      qs.foldl (fun o p => o.apply p (x p)) o := by
  apply hPerm.foldl_eq'
  intro p _ q _ o
  by_cases hKey : p = q
  · rw [hKey]
  · exact o.apply_comm (x p) (x q) hKey

end Outline

end FragmentSink
