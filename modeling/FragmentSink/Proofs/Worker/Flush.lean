import FragmentSink.Proofs.History
import FragmentSink.Worker

/-
  What the flush of a worker does, told by the history it
  leaves behind.

  A flush of pending fragments uploads them in their order, up
  to the first that is not stored.  How it ends, the worker it
  leaves and the events it adds all depend on that upload.

  Main declarations:
    * `Uploaded`
    * `Worker.Flushed`
    * `Worker.Ticked`
    * `Worker.ticked_tick`
-/

namespace FragmentSink

variable {σ : Type}

------------------------------------------------------------
-- Uploads of a Batch
------------------------------------------------------------

/- An upload that ends badly, but does end. -/
def UploadEnd.Fails : UploadEnd → Prop
| .refused => True
| .expired => True
| .stored => False
| .dropped => False

theorem UploadEnd.Fails.ne_stored
    {ending : UploadEnd}
    (hFails : ending.Fails) :
    ending ≠ .stored := by
  rintro rfl
  exact hFails

/-
  The uploads of a batch on top of a history: all of it is
  stored, or a first part is and the next upload ends the
  commit.
-/
inductive Uploaded :
    List Fragment → History → CommitEnd → History → Prop
| durable (batch : List Fragment) (h : History) :
    Uploaded batch h .durable (storedRow batch ++ h)
| failed
    (before : List Fragment)
    (f : Fragment)
    (after : List Fragment)
    (h : History)
    (ending : UploadEnd)
    (hEnding : ending.Fails) :
    Uploaded (before ++ f :: after) h .failed
      (.upload f ending :: (storedRow before ++ h))
| dropped
    (before : List Fragment)
    (f : Fragment)
    (after : List Fragment)
    (h : History) :
    Uploaded (before ++ f :: after) h .dropped
      (.upload f .dropped :: (storedRow before ++ h))

/- A stored fragment in front of a batch is the oldest of its uploads. -/
theorem Uploaded.cons
    {batch : List Fragment}
    {f : Fragment}
    {h h' : History}
    {ending : CommitEnd}
    (hUploaded :
      Uploaded batch (.upload f .stored :: h) ending h') :
    Uploaded (f :: batch) h ending h' := by
  have hRow (fs : List Fragment) :
      storedRow fs ++ .upload f .stored :: h =
        storedRow (f :: fs) ++ h := by
    simp [storedRow]
  cases hUploaded with
  | durable =>
      rw [hRow]
      exact .durable (f :: batch) h
  | failed before g after _ bad hBad =>
      rw [hRow]
      exact .failed (f :: before) g after h bad hBad
  | dropped before g after =>
      rw [hRow]
      exact .dropped (f :: before) g after h

/- A durable batch was stored as a whole. -/
theorem Uploaded.eq_of_durable
    {batch : List Fragment}
    {h h' : History}
    (hUploaded : Uploaded batch h .durable h') :
    h' = storedRow batch ++ h := by
  cases hUploaded
  rfl

/- A commit adds the uploads of its own fragments. -/
theorem Uploaded.grows
    {P : Event → Prop}
    {batch : List Fragment}
    {h h' : History}
    {ending : CommitEnd}
    (hUploaded : Uploaded batch h ending h')
    (hUpload : ∀ f ∈ batch, ∀ ending, P (.upload f ending)) :
    Grows P h h' := by
  have hPart
      {before after : List Fragment}
      {f : Fragment}
      (hBatch : batch = before ++ f :: after)
      (ending : UploadEnd) :
      Grows P h
        (.upload f ending :: (storedRow before ++ h)) := by
    subst hBatch
    rw [List.forall_mem_append, List.forall_mem_cons] at hUpload
    exact (Grows.storedRow h fun g hg =>
      hUpload.1 g hg .stored).cons (hUpload.2.1 ending)
  cases hUploaded with
  | durable => exact .storedRow h fun f hf => hUpload f hf .stored
  | failed before f after _ ending hEnding => exact hPart rfl ending
  | dropped before f after => exact hPart rfl .dropped

/- The commit of a batch makes the uploads that its history shows. -/
theorem uploaded_commitAll
    (env : Surroundings σ)
    (batch : List Fragment)
    (s : σ)
    (h : History) :
    Uploaded batch h
      (commitAll env.recorded batch (s, h)).1
      (commitAll env.recorded batch (s, h)).2.2 := by
  induction batch generalizing s h with
  | nil => exact .durable [] h
  | cons f batch ih =>
      simp only [commitAll, Surroundings.recorded, noting]
      cases hUpload : (env.upload f s).1 with
      | stored =>
          exact Uploaded.cons
            (ih (env.upload f s).2 (.upload f .stored :: h))
      | refused =>
          exact .failed [] f batch h .refused trivial
      | expired =>
          exact .failed [] f batch h .expired trivial
      | dropped => exact .dropped [] f batch h

/- A limit on a commit changes when it ends, not what it notes. -/
theorem uploaded_commitWithin
    (env : Surroundings σ)
    (limit : Option Span)
    (batch : List Fragment)
    (s : σ)
    (h : History) :
    Uploaded batch h
      (commitWithin env.recorded limit batch (s, h)).1
      (commitWithin env.recorded limit batch (s, h)).2.2 := by
  cases limit with
  | none => exact uploaded_commitAll env batch s h
  | some span =>
      exact uploaded_commitAll env batch (env.armTimer span s) h

------------------------------------------------------------
-- Flushes and Ticks
------------------------------------------------------------

namespace Worker

/- The worker after its batch was committed. -/
def afterCommit (w : Worker) (now : Timestamp) : Worker :=
  { w.taken.renewAt now with redelivery := none }

/- The worker after a batch failed that began with a fragment. -/
def afterFailure
    (w : Worker)
    (first : Fragment)
    (now : Timestamp) : Worker :=
  { w.taken.renewAt now with redelivery := some first.offset }

/-
  A flush on top of a history: its end, the worker it leaves
  and the history it leaves.
-/
inductive Flushed
    (w : Worker)
    (reason : FlushReason)
    (h : History) :
    FlushEnd → Worker → History → Prop
| empty
    (now : Timestamp)
    (hPending : w.pending = []) :
    Flushed w reason h .nothing (w.renewAt now)
      (.clock now :: h)
| durable
    (first : Fragment)
    (rest : List Fragment)
    (duration : Span)
    (now : Timestamp)
    (hPending : w.pending = first :: rest) :
    Flushed w reason h
      (.committed (w.describe first rest reason duration))
      (w.afterCommit now)
      (.clock now :: (storedRow (first :: rest) ++ h))
| failed
    (first : Fragment)
    (rest : List Fragment)
    (uploads : History)
    (now : Timestamp)
    (hPending : w.pending = first :: rest)
    (hUploaded : Uploaded (first :: rest) h .failed uploads) :
    Flushed w reason h .failed (w.afterFailure first now)
      (.clock now :: uploads)
| dropped
    (first : Fragment)
    (rest : List Fragment)
    (uploads : History)
    (hPending : w.pending = first :: rest)
    (hUploaded : Uploaded (first :: rest) h .dropped uploads) :
    Flushed w reason h .dropped w.taken uploads

/-
  A tick on top of a history.  It reads the clock once, and
  flushes where the buffer is ready at that instant.
-/
inductive Ticked (w : Worker) (h : History) :
    FlushEnd → Worker → History → Prop
| idle
    (now : Timestamp)
    (hReason : (w.state.readinessAt now).reason = none) :
    Ticked w h .nothing w (.clock now :: h)
| ready
    {answer : FlushEnd}
    {w' : Worker}
    {h' : History}
    (now : Timestamp)
    (reason : FlushReason)
    (hReason : (w.state.readinessAt now).reason = some reason)
    (hFlushed :
      w.Flushed reason (.clock now :: h) answer w' h') :
    Ticked w h answer w' h'

/- A flush over a recorded world does what its history tells. -/
theorem flushed_flush
    (env : Surroundings σ)
    (reason : FlushReason)
    (w : Worker)
    (s : σ)
    (h : History) :
    w.Flushed reason h
      (w.flush env.recorded reason (s, h)).1
      (w.flush env.recorded reason (s, h)).2.1
      (w.flush env.recorded reason (s, h)).2.2.2 := by
  unfold flush flushBy
  rw [within_commitAll]
  cases hPending : w.pending with
  | nil => exact .empty _ hPending
  | cons first rest =>
      have hUploaded :=
        uploaded_commitWithin env w.commitLimit (first :: rest)
          (env.ticks s).2 h
      simp only [Surroundings.recorded] at hUploaded ⊢
      rcases hCommit :
          commitWithin _ w.commitLimit (first :: rest)
            ((env.ticks s).2, h) with
        ⟨ending, s', h'⟩
      rw [hCommit] at hUploaded
      cases ending with
      | durable =>
          cases hUploaded.eq_of_durable
          exact .durable first rest _ _ hPending
      | failed => exact .failed first rest h' _ hPending hUploaded
      | dropped => exact .dropped first rest h' hPending hUploaded

/- A tick over a recorded world does what its history tells. -/
theorem ticked_tick
    (env : Surroundings σ)
    (w : Worker)
    (s : σ)
    (h : History) :
    w.Ticked h
      (w.tick env.recorded (s, h)).1
      (w.tick env.recorded (s, h)).2.1
      (w.tick env.recorded (s, h)).2.2.2 := by
  have hFlushed (reason : FlushReason) :=
    flushed_flush env reason w (env.now s).2
      (.clock (env.now s).1 :: h)
  unfold tick tickBy
  rw [show env.recorded.now (s, h) =
    noting .clock (env.now s) h from rfl]
  simp only [noting]
  cases hReason :
      (w.state.readinessAt (env.now s).1).reason with
  | none => exact .idle _ hReason
  | some reason => exact .ready _ reason hReason (hFlushed reason)

------------------------------------------------------------
-- Growing Histories
------------------------------------------------------------

section Grows

variable {P : Event → Prop}
variable {h h' : History}
variable {w w' : Worker}
variable {answer : FlushEnd}

/- A flush adds readings of the clock and uploads of what is pending. -/
theorem Flushed.grows
    {reason : FlushReason}
    (hFlushed : w.Flushed reason h answer w' h')
    (hClock : ∀ now, P (.clock now))
    (hUpload : ∀ f ∈ w.pending, ∀ ending, P (.upload f ending)) :
    Grows P h h' := by
  cases hFlushed with
  | empty now => exact (Grows.refl P h).cons (hClock now)
  | durable first rest duration now hPending =>
      rw [hPending] at hUpload
      exact (Grows.storedRow h fun f hf =>
        hUpload f hf .stored).cons (hClock now)
  | failed first rest uploads now hPending hUploaded =>
      rw [hPending] at hUpload
      exact (hUploaded.grows hUpload).cons (hClock now)
  | dropped first rest uploads hPending hUploaded =>
      rw [hPending] at hUpload
      exact hUploaded.grows hUpload

theorem Ticked.grows
    (hTicked : w.Ticked h answer w' h')
    (hClock : ∀ now, P (.clock now))
    (hUpload : ∀ f ∈ w.pending, ∀ ending, P (.upload f ending)) :
    Grows P h h' := by
  have hHere (now : Timestamp) : Grows P h (.clock now :: h) :=
    (Grows.refl P h).cons (hClock now)
  cases hTicked with
  | idle now => exact hHere now
  | ready now reason hReason hFlushed =>
      exact (hHere now).trans (hFlushed.grows hClock hUpload)

/- The events of a flush steer no partition. -/
theorem Flushed.still
    {p : PartitionKey}
    {reason : FlushReason}
    (hFlushed : w.Flushed reason h answer w' h') :
    Grows (fun e => ¬ e.Steers p) h h' :=
  hFlushed.grows (fun _ => id) fun _ _ _ => id

theorem Ticked.still
    {p : PartitionKey}
    (hTicked : w.Ticked h answer w' h') :
    Grows (fun e => ¬ e.Steers p) h h' :=
  hTicked.grows (fun _ => id) fun _ _ _ => id

/- They are all calls. -/
theorem Flushed.calls
    {reason : FlushReason}
    (hFlushed : w.Flushed reason h answer w' h') :
    Grows Event.IsCall h h' :=
  hFlushed.grows (fun _ => trivial) fun _ _ _ => trivial

theorem Ticked.calls
    (hTicked : w.Ticked h answer w' h') :
    Grows Event.IsCall h h' :=
  hTicked.grows (fun _ => trivial) fun _ _ _ => trivial

end Grows

------------------------------------------------------------
-- What Is Handed Over
------------------------------------------------------------

/-
  What became of the pending fragments, by the end of a flush.
  A committed batch is the row that was stored just before,
  a failed one is known by its first offset.
-/
def HandsOver (w w' : Worker) (h' : History) : FlushEnd → Prop
| .nothing => w'.pending = w.pending
| .committed b =>
    w'.pending = [] ∧
      h'.rowBefore = w.pending ∧
      w.pending.getLast?.map (·.token) = some b.last
| .failed =>
    w'.pending = [] ∧
      ∃ first rest,
        w.pending = first :: rest ∧
          w'.redelivery = some first.offset
| .dropped => w'.pending = []

theorem Flushed.handsOver
    {reason : FlushReason}
    {h h' : History}
    {w w' : Worker}
    {answer : FlushEnd}
    (hFlushed : w.Flushed reason h answer w' h')
    (hTop : h.topRow = []) :
    w.HandsOver w' h' answer := by
  cases hFlushed with
  | empty => exact rfl
  | durable first rest duration now hPending =>
      have hRow :
          History.rowBefore
              (.clock now :: (storedRow (first :: rest) ++ h)) =
            first :: rest := by
        simp [History.rowBefore, hTop,
          History.topRow_storedRow_append]
      refine ⟨rfl, hRow.trans hPending.symm, ?_⟩
      rw [hPending,
        List.getLast?_eq_some_getLast (List.cons_ne_nil _ _)]
      rfl
  | failed first rest uploads now hPending =>
      exact ⟨rfl, first, rest, hPending, rfl⟩
  | dropped => exact rfl

theorem Ticked.handsOver
    {h h' : History}
    {w w' : Worker}
    {answer : FlushEnd}
    (hTicked : w.Ticked h answer w' h') :
    w.HandsOver w' h' answer := by
  cases hTicked with
  | idle => exact rfl
  | ready now reason hReason hFlushed =>
      exact hFlushed.handsOver rfl

end Worker

end FragmentSink
