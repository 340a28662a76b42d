import FragmentSink.Proofs.Recording
import FragmentSink.Proofs.Script
import FragmentSink.Proofs.Worker.Flush

/-
  The bookkeeping of one worker over any sequence of calls.

  Every fragment that is submitted is handed on in exactly one
  batch or is still pending, in the order of submission.  The
  counters of the buffer mirror the pending fragments, and an
  answer describes the batch it is about.

  What is handed on is read off the executor: every call is
  made with one that lists the batches it is handed.

  Main declarations:
    * `Executor.listing`
    * `Worker.Call.run_eq_visit`
    * `Worker.visits`
    * `Worker.Account`
    * `Worker.Visit.Faithful`
    * `Worker.account_of_visits`
-/

namespace FragmentSink

variable {σ : Type}

------------------------------------------------------------
-- Uploads of a History
------------------------------------------------------------

/- The uploads of a history and how they ended, oldest first. -/
def History.uploads : History → List (Fragment × UploadEnd)
| [] => []
| .upload f ending :: h => uploads h ++ [(f, ending)]
| _ :: h => uploads h

theorem History.uploads_storedRow_append
    (fs : List Fragment)
    (h : History) :
    uploads (storedRow fs ++ h) =
      uploads h ++ fs.map fun f => (f, .stored) := by
  induction fs generalizing h with
  | nil => simp
  | cons f fs ih =>
      have hRow := ih (.upload f .stored :: h)
      simp only [uploads] at hRow
      simp [storedRow, hRow]

/- The sizes of a list of fragments, added up without a bound. -/
def totalSize : List Fragment → Nat
| [] => 0
| f :: fs => f.size.toNat + totalSize fs

theorem totalSize_append (fs gs : List Fragment) :
    totalSize (fs ++ gs) = totalSize fs + totalSize gs := by
  induction fs with
  | nil => exact (Nat.zero_add _).symm
  | cons f fs ih =>
      simp only [List.cons_append, totalSize, ih]
      omega

------------------------------------------------------------
-- Batches That Are Handed On
------------------------------------------------------------

/- The same surroundings, whose states carry something along. -/
def Surroundings.carrying
    {α : Type}
    (env : Surroundings σ) : Surroundings (σ × α) where
  now t := ((env.now t.1).1, (env.now t.1).2, t.2)
  ticks t := ((env.ticks t.1).1, (env.ticks t.1).2, t.2)
  upload f t := ((env.upload f t.1).1, (env.upload f t.1).2, t.2)
  armTimer span t := (env.armTimer span t.1, t.2)
  disarmTimer t := (env.disarmTimer t.1, t.2)

/- The same executor, which lists the batches that it is handed. -/
def Executor.listing
    (commit : Executor σ) : Executor (σ × List (List Fragment)) :=
  fun batch t =>
    ((commit batch t.1).1, (commit batch t.1).2, t.2 ++ [batch])

/- A limit changes nothing about what an executor is handed. -/
theorem Executor.within_listing
    (commit : Executor σ)
    (env : Surroundings σ)
    (limit : Option Span)
    (batch : List Fragment)
    (s : σ)
    (handed : List (List Fragment)) :
    commit.listing.within env.carrying limit batch (s, handed) =
      ((commit.within env limit batch s).1,
        (commit.within env limit batch s).2,
        handed ++ [batch]) := by
  cases limit <;> rfl

namespace Worker

/- All that is pending as one batch, if there is anything. -/
def batches (w : Worker) : List (List Fragment) :=
  match w.pending with
  | [] => []
  | first :: rest => [first :: rest]

@[simp] theorem flatten_batches (w : Worker) :
    w.batches.flatten = w.pending := by
  unfold batches
  cases w.pending <;> simp

theorem batches_of_nil
    {w : Worker}
    (hPending : w.pending = []) :
    w.batches = [] := by
  rw [batches, hPending]

theorem batches_single (w : Worker) :
    w.batches = [] ∨
      w.pending ≠ [] ∧ w.batches = [w.pending] := by
  unfold batches
  cases w.pending <;> simp

/- The same batches, where the buffer is ready at an instant. -/
def dueBatches
    (w : Worker)
    (now : Timestamp) : List (List Fragment) :=
  match (w.state.readinessAt now).reason with
  | some _ => w.batches
  | none => []

/- A flush hands on what is pending, and goes as it does unlisted. -/
theorem flushBy_listing
    (commit : Executor σ)
    (env : Surroundings σ)
    (reason : FlushReason)
    (w : Worker)
    (s : σ)
    (handed : List (List Fragment)) :
    w.flushBy commit.listing env.carrying reason (s, handed) =
      ((w.flushBy commit env reason s).1,
        (w.flushBy commit env reason s).2.1,
        (w.flushBy commit env reason s).2.2,
        handed ++ w.batches) := by
  unfold flushBy batches
  cases w.pending with
  | nil => simp [Surroundings.carrying]
  | cons first rest =>
      have hTicks :
          env.carrying.ticks (s, handed) =
            ((env.ticks s).1, (env.ticks s).2, handed) :=
        rfl
      simp only [hTicks, Executor.within_listing]
      rcases commit.within env w.commitLimit (first :: rest)
          (env.ticks s).2 with
        ⟨ending, t⟩
      cases ending <;> rfl

theorem tickBy_listing
    (commit : Executor σ)
    (env : Surroundings σ)
    (w : Worker)
    (s : σ)
    (handed : List (List Fragment)) :
    w.tickBy commit.listing env.carrying (s, handed) =
      ((w.tickBy commit env s).1,
        (w.tickBy commit env s).2.1,
        (w.tickBy commit env s).2.2,
        handed ++ w.dueBatches (env.now s).1) := by
  have hNow :
      env.carrying.now (s, handed) =
        ((env.now s).1, (env.now s).2, handed) :=
    rfl
  unfold tickBy dueBatches
  simp only [hNow]
  cases (w.state.readinessAt (env.now s).1).reason with
  | none => simp
  | some reason => exact w.flushBy_listing commit env reason _ _

------------------------------------------------------------
-- Calls and Visits
------------------------------------------------------------

/- The calls that are made to a worker. -/
inductive Call where
| submit (f : Fragment)
| tick
| flush (reason : FlushReason)

/- Make a call to a worker that hands its batches to an executor. -/
def Call.runBy
    (commit : Executor σ)
    (env : Surroundings σ) :
    Call → Worker → σ → Except Fault (FlushEnd × Worker × σ)
| .submit f, w, s => w.submitBy commit env f s
| .tick, w, s => .ok (w.tickBy commit env s)
| .flush reason, w, s => .ok (w.flushBy commit env reason s)

/-
  A call that was made to a worker: the worker before and
  after it, the batches that the executor was handed, the
  answer and the events.
-/
structure Visit where
  call : Call
  before : Worker
  handed : List (List Fragment)
  answer : Except Fault FlushEnd
  events : History
  after : Worker

/- The fragments that were handed on in a visit. -/
def Visit.batch (v : Visit) : List Fragment :=
  v.handed.flatten

@[simp] theorem Visit.batch_mk
    (call : Call)
    (w w' : Worker)
    (handed : List (List Fragment))
    (answer : Except Fault FlushEnd)
    (events : History) :
    batch ⟨call, w, handed, answer, events, w'⟩ =
      handed.flatten :=
  rfl

/- A call together with the world it leaves behind. -/
def Call.visit
    (env : Surroundings σ)
    (call : Call)
    (w : Worker)
    (s : σ) : Visit × σ :=
  match
    call.runBy (Executor.listing (commitAll env.recorded))
      env.recorded.carrying w ((s, []), [])
  with
  | .error fault => (⟨call, w, [], .error fault, [], w⟩, s)
  | .ok (answer, w', (s', events), handed) =>
      (⟨call, w, handed, .ok answer, events, w'⟩, s')

/- Listing changes nothing about a call but the list. -/
theorem Call.runBy_listing
    (commit : Executor σ)
    (env : Surroundings σ)
    (call : Call)
    (w : Worker)
    (s : σ)
    (handed : List (List Fragment)) :
    ∃ batches,
      call.runBy commit.listing env.carrying w (s, handed) =
        (call.runBy commit env w s).map fun went =>
          (went.1, went.2.1, went.2.2, handed ++ batches) := by
  cases call with
  | submit f =>
      refine ⟨(w.append f).dueBatches (env.now s).1, ?_⟩
      simp only [runBy, submitBy, tickBy_listing]
      split <;> rfl
  | tick =>
      refine ⟨w.dueBatches (env.now s).1, ?_⟩
      simp only [runBy, tickBy_listing]
      rfl
  | flush reason =>
      refine ⟨w.batches, ?_⟩
      simp only [runBy, flushBy_listing]
      rfl

/- Nor does the record of its events. -/
theorem Call.unnoted_runBy
    (env : Surroundings σ)
    (call : Call)
    (w : Worker)
    (t : σ × History) :
    (call.runBy (commitAll env.recorded) env.recorded w t).map
        unnoted =
      call.runBy (commitAll env) env w t.1 := by
  cases call with
  | submit f =>
      simp only [runBy, submitBy]
      split
      · exact congrArg Except.ok (unnoted_tick env _ t)
      · rfl
  | tick => exact congrArg Except.ok (unnoted_tick env w t)
  | flush reason =>
      exact congrArg Except.ok (unnoted_flush env reason w t)

/- A visit ends as the call itself does. -/
theorem Call.run_eq_visit
    (env : Surroundings σ)
    (call : Call)
    (w : Worker)
    (s : σ) :
    call.runBy (commitAll env) env w s =
      (call.visit env w s).1.answer.map fun answer =>
        (answer, (call.visit env w s).1.after,
          (call.visit env w s).2) := by
  rcases call.runBy_listing (commitAll env.recorded) env.recorded
      w (s, []) [] with
    ⟨batches, hListed⟩
  rw [visit, hListed, ← call.unnoted_runBy env w (s, [])]
  cases call.runBy (commitAll env.recorded) env.recorded w
      (s, []) <;> rfl

/-
  The visits of a list of calls, up to the first call that is
  dropped before it has run to its end.
-/
def visits
    (env : Surroundings σ) :
    List Call → Worker → σ → List Visit
| [], _, _ => []
| call :: calls, w, s =>
    match (call.visit env w s).1.answer with
    | .ok .dropped => []
    | _ =>
        (call.visit env w s).1 ::
          visits env calls (call.visit env w s).1.after
            (call.visit env w s).2

------------------------------------------------------------
-- One Visit
------------------------------------------------------------

/- The worker whose buffer a call then looks at. -/
inductive Call.Loads (w : Worker) : Call → Worker → Prop
| submit
    (f : Fragment)
    (hRouted : f.partitionKey = w.partition) :
    Loads w (.submit f) (w.append f)
| tick : Loads w .tick w
| flush (reason : FlushReason) : Loads w (.flush reason) w

namespace Visit

/- All that a visit can be. -/
inductive Made : Visit → Prop
| misrouted
    (w : Worker)
    (f : Fragment)
    (hMisrouted : f.partitionKey ≠ w.partition) :
    Made ⟨.submit f, w, [], .error .misrouted, [], w⟩
| idle
    {w loaded : Worker}
    {call : Call}
    (now : Timestamp)
    (hLoads : call.Loads w loaded) :
    Made ⟨call, w, [], .ok .nothing, [.clock now], loaded⟩
| flushed
    {w loaded w' : Worker}
    {call : Call}
    {h events : History}
    {answer : FlushEnd}
    (reason : FlushReason)
    (hLoads : call.Loads w loaded)
    (hUploads : h.uploads = [])
    (hFlushed : loaded.Flushed reason h answer w' events) :
    Made ⟨call, w, loaded.batches, .ok answer, events, w'⟩

end Visit

/- The visit of a call that ticks a worker. -/
def Call.ticking
    (env : Surroundings σ)
    (call : Call)
    (w loaded : Worker)
    (s : σ) : Visit :=
  ⟨call, w, loaded.dueBatches (env.now s).1,
    .ok (loaded.tick env.recorded (s, [])).1,
    (loaded.tick env.recorded (s, [])).2.2.2,
    (loaded.tick env.recorded (s, [])).2.1⟩

theorem Call.made_ticking
    (env : Surroundings σ)
    {w loaded : Worker}
    {call : Call}
    (s : σ)
    (hLoads : call.Loads w loaded) :
    (call.ticking env w loaded s).Made := by
  have hFlushed (reason : FlushReason) :=
    flushed_flush env reason loaded (env.now s).2
      [.clock (env.now s).1]
  unfold ticking Worker.tick tickBy dueBatches
  rw [show env.recorded.now (s, []) =
    noting .clock (env.now s) [] from rfl]
  simp only [noting]
  cases (loaded.state.readinessAt (env.now s).1).reason with
  | none => exact .idle _ hLoads
  | some reason =>
      exact .flushed reason hLoads rfl (hFlushed reason)

theorem Call.before_visit
    (env : Surroundings σ)
    (call : Call)
    (w : Worker)
    (s : σ) :
    (call.visit env w s).1.before = w := by
  unfold visit
  split <;> rfl

theorem Call.visit_tick
    (env : Surroundings σ)
    (w : Worker)
    (s : σ) :
    (tick.visit env w s).1 = tick.ticking env w w s := by
  simp only [visit, runBy, tickBy_listing]
  rfl

theorem Call.visit_submit_of_routed
    (env : Surroundings σ)
    {f : Fragment}
    {w : Worker}
    (s : σ)
    (hRouted : f.partitionKey = w.partition) :
    ((submit f).visit env w s).1 =
      (submit f).ticking env w (w.append f) s := by
  simp only [visit, runBy, submitBy, if_pos hRouted,
    tickBy_listing]
  rfl

theorem Call.visit_submit_of_misrouted
    (env : Surroundings σ)
    {f : Fragment}
    {w : Worker}
    (s : σ)
    (hMisrouted : f.partitionKey ≠ w.partition) :
    ((submit f).visit env w s).1 =
      ⟨.submit f, w, [], .error .misrouted, [], w⟩ := by
  simp only [visit, runBy, submitBy, if_neg hMisrouted]

theorem Call.visit_flush
    (env : Surroundings σ)
    (reason : FlushReason)
    (w : Worker)
    (s : σ) :
    ((flush reason).visit env w s).1 =
      ⟨.flush reason, w, w.batches,
        .ok (w.flush env.recorded reason (s, [])).1,
        (w.flush env.recorded reason (s, [])).2.2.2,
        (w.flush env.recorded reason (s, [])).2.1⟩ := by
  simp only [visit, runBy, flushBy_listing]
  rfl

theorem Call.made_visit
    (env : Surroundings σ)
    (call : Call)
    (w : Worker)
    (s : σ) :
    (call.visit env w s).1.Made := by
  cases call with
  | submit f =>
      by_cases hRouted : f.partitionKey = w.partition
      · rw [visit_submit_of_routed env s hRouted]
        exact made_ticking env s (.submit f hRouted)
      · rw [visit_submit_of_misrouted env s hRouted]
        exact .misrouted w f hRouted
  | tick =>
      rw [visit_tick]
      exact made_ticking env s .tick
  | flush reason =>
      rw [visit_flush]
      exact .flushed reason (.flush reason) rfl
        (flushed_flush env reason w s [])

------------------------------------------------------------
-- Counters
------------------------------------------------------------

/-
  The counters of a buffer are those of the pending fragments,
  cut at the largest word.
-/
structure Mirrors (w : Worker) : Prop where
  count : w.state.count.toNat = min w.pending.length Word.top
  bytes :
    w.state.bytes.toNat = min (totalSize w.pending) Word.top

theorem Mirrors.of_open
    {w : Worker}
    {thresholds : Thresholds}
    {now : Timestamp}
    (hState : w.state = .openAt thresholds now)
    (hPending : w.pending = []) :
    w.Mirrors := by
  constructor
  · simp [hState, hPending, BufferState.openAt]
  · simp [hState, hPending, BufferState.openAt, totalSize]

theorem Mirrors.append
    {w : Worker}
    (hMirrors : w.Mirrors)
    (f : Fragment) :
    (w.append f).Mirrors := by
  have hCount := hMirrors.count
  have hBytes := hMirrors.bytes
  constructor
  · have hAppend := w.state.toNat_count_append f.size
    simp only [Worker.append, List.length_append,
      List.length_singleton]
    omega
  · have hAppend := w.state.toNat_bytes_append f.size
    have hTotal :
        totalSize (w.pending ++ [f]) =
          totalSize w.pending + f.size.toNat :=
      totalSize_append w.pending [f]
    simp only [Worker.append, hTotal]
    omega

------------------------------------------------------------
-- Accounts
------------------------------------------------------------

/- The fragments that a call brings. -/
def Call.fragments : Call → List Fragment
| .submit f => [f]
| .tick => []
| .flush _ => []

namespace Visit

/- The fragments that a visit took in. -/
def accepted (v : Visit) : List Fragment :=
  match v.answer with
  | .ok _ => v.call.fragments
  | .error _ => []

@[simp] theorem accepted_ok
    (call : Call)
    (w w' : Worker)
    (handed : List (List Fragment))
    (answer : FlushEnd)
    (events : History) :
    accepted ⟨call, w, handed, .ok answer, events, w'⟩ =
      call.fragments :=
  rfl

@[simp] theorem accepted_error
    (call : Call)
    (w w' : Worker)
    (handed : List (List Fragment))
    (fault : Fault)
    (events : History) :
    accepted ⟨call, w, handed, .error fault, events, w'⟩ = [] :=
  rfl

/- Where the stream resumes, as far as one visit can tell. -/
def redelivery (v : Visit) : Option Int64 :=
  match v.answer with
  | .ok .failed => v.batch.head?.map (·.offset)
  | _ => none

end Visit

/- Where the stream resumes after the latest batch of a list of visits. -/
def redeliveryAfter (vs : List Visit) : Option Int64 :=
  (vs.filter fun v => !v.batch.isEmpty).getLast?.bind
    Visit.redelivery

theorem redeliveryAfter_append_empty
    {vs : List Visit}
    {v : Visit}
    (hBatch : v.batch = []) :
    redeliveryAfter (vs ++ [v]) = redeliveryAfter vs := by
  simp [redeliveryAfter, hBatch]

theorem redeliveryAfter_append_batch
    {vs : List Visit}
    {v : Visit}
    (hBatch : v.batch ≠ []) :
    redeliveryAfter (vs ++ [v]) = v.redelivery := by
  simp [redeliveryAfter, hBatch]

/-
  The account of a list of visits.  What was handed on and
  what is still pending is what was submitted, once and in
  order.
-/
structure Account
    (p : PartitionKey)
    (thresholds : Thresholds)
    (vs : List Visit)
    (w : Worker) : Prop where
  partition : w.partition = p
  thresholds : w.state.thresholds = thresholds
  mirrors : w.Mirrors
  complete :
    vs.flatMap (·.batch) ++ w.pending =
      vs.flatMap (·.accepted)
  redelivery : w.redelivery = redeliveryAfter vs

namespace Visit

/- A committed batch, described by its fragments. -/
structure Describes
    (b : CommittedBatch)
    (p : PartitionKey)
    (batch : List Fragment) : Prop where
  partition : b.partition = p
  first : batch.head?.map (·.offset) = some b.first
  last : batch.getLast?.map (·.token) = some b.last
  fragments : b.fragments = UInt64.ofNat batch.length
  bytes : b.bytes.toNat = min (totalSize batch) Word.top

/-
  What the answer of a visit says about its batch.  The
  executor is handed one nonempty batch, or is left alone.
-/
structure Faithful
    (p : PartitionKey)
    (thresholds : Thresholds)
    (v : Visit) : Prop where
  single :
    v.handed = [] ∨ v.batch ≠ [] ∧ v.handed = [v.batch]
  idle : v.answer = .ok .nothing → v.handed = []
  quiet : v.batch = [] → v.events.uploads = []
  committed_iff :
    (∃ b, v.answer = .ok (.committed b)) ↔
      v.batch ≠ [] ∧
        v.events.uploads = v.batch.map fun f => (f, .stored)
  described :
    ∀ b, v.answer = .ok (.committed b) →
      Describes b p v.batch
  failed_iff :
    v.answer = .ok .failed ↔
      ∃ stored f ending unsent,
        v.batch = stored ++ f :: unsent ∧
        ending.Fails ∧
        v.events.uploads =
          (stored.map fun g => (g, .stored)) ++ [(f, ending)]
  renewed :
    v.answer = .ok .failed →
      v.after.pending = [] ∧
      ∃ now,
        v.events.head? = some (.clock now) ∧
        v.after.state = .openAt thresholds now
  misrouted_iff :
    ∀ fault, v.answer = .error fault ↔
      fault = .misrouted ∧
        ∃ f, v.call = .submit f ∧ f.partitionKey ≠ p
  unmoved :
    ∀ fault, v.answer = .error fault →
      v.after = v.before ∧ v.events = [] ∧ v.handed = []

end Visit

------------------------------------------------------------
-- Keeping Account
------------------------------------------------------------

section Account

variable {p : PartitionKey}
variable {thresholds : Thresholds}
variable {vs : List Visit}
variable {w loaded : Worker}
variable {call : Call}

/- A call loads the worker itself, with the fragment it brings. -/
theorem Call.Loads.kept
    (hLoads : call.Loads w loaded) :
    loaded.partition = w.partition ∧
      loaded.state.thresholds = w.state.thresholds ∧
      loaded.redelivery = w.redelivery ∧
      loaded.pending = w.pending ++ call.fragments := by
  cases hLoads with
  | submit f => exact ⟨rfl, rfl, rfl, rfl⟩
  | tick => exact ⟨rfl, rfl, rfl, by simp [fragments]⟩
  | flush => exact ⟨rfl, rfl, rfl, by simp [fragments]⟩

theorem Call.Loads.routed
    (hLoads : call.Loads w loaded)
    (hPartition : w.partition = p) :
    ∀ f, call = .submit f → f.partitionKey = p := by
  rintro f rfl
  cases hLoads with
  | submit _ hRouted => exact hRouted.trans hPartition

theorem Call.Loads.mirrors
    (hLoads : call.Loads w loaded)
    (hMirrors : w.Mirrors) :
    loaded.Mirrors := by
  cases hLoads with
  | submit f => exact hMirrors.append f
  | tick => exact hMirrors
  | flush => exact hMirrors

/- A call that is not refused puts what it loads into the account. -/
theorem Account.of_loads
    {events : History}
    {answer : FlushEnd}
    (hAccount : Account p thresholds vs w)
    (hLoads : call.Loads w loaded) :
    Account p thresholds
      (vs ++ [⟨call, w, [], .ok answer, events, loaded⟩])
      loaded := by
  rcases hLoads.kept with
    ⟨hPartition, hThresholds, hRedelivery, hPending⟩
  refine
    ⟨hPartition.trans hAccount.partition,
      hThresholds.trans hAccount.thresholds,
      hLoads.mirrors hAccount.mirrors, ?_, ?_⟩
  · simp [hPending, ← hAccount.complete]
  · rw [redeliveryAfter_append_empty rfl, hRedelivery]
    exact hAccount.redelivery

/- A flush hands the whole account on, and starts anew. -/
theorem Account.of_flushed
    {h events : History}
    {answer : FlushEnd}
    {reason : FlushReason}
    {w' : Worker}
    (hAccount : Account p thresholds vs w)
    (hLoads : call.Loads w loaded)
    (hFlushed : loaded.Flushed reason h answer w' events)
    (hAnswer : answer ≠ .dropped) :
    Account p thresholds
      (vs ++ [⟨call, w, loaded.batches, .ok answer, events, w'⟩])
      w' := by
  have hLoaded :
      Account p thresholds
        (vs ++ [⟨call, w, [], .ok .nothing, events, loaded⟩])
        loaded :=
    hAccount.of_loads hLoads
  have hComplete := hLoaded.complete
  have hOpen (now : Timestamp) :
      loaded.state.renewAt now = .openAt thresholds now := by
    simp [BufferState.renewAt, hLoaded.thresholds]
  simp only [List.flatMap_append, List.flatMap_singleton,
    List.append_assoc, Visit.batch_mk, List.flatten_nil,
    List.nil_append, Visit.accepted_ok] at hComplete
  cases hFlushed with
  | empty now hPending =>
      refine
        ⟨hLoaded.partition, hLoaded.thresholds,
          .of_open (hOpen now) hPending, ?_, ?_⟩
      · simp [hPending, renewAt, ← hComplete]
      · rw [redeliveryAfter_append_empty (by simp [hPending])]
        have hRedelivery := hLoaded.redelivery
        rw [redeliveryAfter_append_empty rfl] at hRedelivery
        exact hRedelivery
  | durable first rest duration now hPending =>
      refine
        ⟨hLoaded.partition, hLoaded.thresholds,
          .of_open (hOpen now) rfl, ?_, ?_⟩
      · simp [afterCommit, renewAt, taken, ← hComplete]
      · rw [redeliveryAfter_append_batch (by simp [hPending])]
        rfl
  | failed first rest uploads now hPending =>
      refine
        ⟨hLoaded.partition, hLoaded.thresholds,
          .of_open (hOpen now) rfl, ?_, ?_⟩
      · simp [afterFailure, renewAt, taken, ← hComplete]
      · rw [redeliveryAfter_append_batch (by simp [hPending])]
        simp [Visit.redelivery, hPending, afterFailure]
  | dropped => exact absurd rfl hAnswer

/- A visit that ran to its end keeps the account. -/
theorem Account.of_made
    {v : Visit}
    (hAccount : Account p thresholds vs v.before)
    (hMade : v.Made)
    (hAnswer : v.answer ≠ .ok .dropped) :
    Account p thresholds (vs ++ [v]) v.after := by
  cases hMade with
  | misrouted w f hMisrouted =>
      refine
        ⟨hAccount.partition, hAccount.thresholds,
          hAccount.mirrors, ?_, ?_⟩
      · simp [← hAccount.complete]
      · rw [redeliveryAfter_append_empty rfl]
        exact hAccount.redelivery
  | idle now hLoads => exact hAccount.of_loads hLoads
  | flushed reason hLoads hUploads hFlushed =>
      have hEnded := fun hEq => hAnswer (congrArg Except.ok hEq)
      exact hAccount.of_flushed hLoads hFlushed hEnded

------------------------------------------------------------
-- Faithful Answers
------------------------------------------------------------

/- An upload that was stored is not one that failed. -/
theorem row_ne_of_fails
    {stored batch : List Fragment}
    {f : Fragment}
    {ending : UploadEnd}
    (hEnding : ending ≠ .stored) :
    (stored.map fun g => (g, UploadEnd.stored)) ++ [(f, ending)] ≠
      batch.map fun g => (g, .stored) := by
  intro hEq
  have hMem :
      (f, ending) ∈ batch.map fun g => (g, UploadEnd.stored) := by
    rw [← hEq]
    simp
  rcases List.mem_map.mp hMem with ⟨g, -, hPair⟩
  exact hEnding (Prod.mk.inj hPair).2.symm

/- The uploads of a failed batch end with the one that failed. -/
theorem uploads_of_failed
    {batch : List Fragment}
    {h events : History}
    (hUploads : h.uploads = [])
    (hUploaded : Uploaded batch h .failed events) :
    ∃ stored f ending unsent,
      batch = stored ++ f :: unsent ∧
      ending.Fails ∧
      events.uploads =
        (stored.map fun g => (g, .stored)) ++ [(f, ending)] := by
  cases hUploaded with
  | failed stored f unsent _ ending hEnding =>
      refine ⟨stored, f, ending, unsent, rfl, hEnding, ?_⟩
      simp [History.uploads, History.uploads_storedRow_append,
        hUploads]

/- The description of a committed batch is the batch's own. -/
theorem describes_describe
    {first : Fragment}
    {rest : List Fragment}
    {reason : FlushReason}
    {duration : Span}
    (hPartition : w.partition = p)
    (hMirrors : w.Mirrors)
    (hPending : w.pending = first :: rest) :
    Visit.Describes (w.describe first rest reason duration)
      p (first :: rest) := by
  refine ⟨hPartition, rfl, ?_, rfl, ?_⟩
  · rw [List.getLast?_eq_some_getLast (List.cons_ne_nil _ _)]
    rfl
  · rw [← hPending]
    exact hMirrors.bytes

/- A call that ends was not refused, and is none to be refused. -/
theorem ok_misrouted_iff
    {answer : FlushEnd}
    (hRouted : ∀ f, call = .submit f → f.partitionKey = p)
    (fault : Fault) :
    (.ok answer : Except Fault FlushEnd) = .error fault ↔
      fault = .misrouted ∧
        ∃ f, call = .submit f ∧ f.partitionKey ≠ p := by
  constructor
  · intro hEq
    cases hEq
  · rintro ⟨-, f, hCall, hOther⟩
    exact absurd (hRouted f hCall) hOther

/- A visit of a flush answers for the batch that it handed on. -/
theorem Visit.faithful_of_flushed
    {h events : History}
    {answer : FlushEnd}
    {reason : FlushReason}
    {w' : Worker}
    (hPartition : loaded.partition = p)
    (hThresholds : loaded.state.thresholds = thresholds)
    (hMirrors : loaded.Mirrors)
    (hUploads : h.uploads = [])
    (hFlushed : loaded.Flushed reason h answer w' events)
    (hAnswer : answer ≠ .dropped)
    (hRouted : ∀ f, call = .submit f → f.partitionKey = p) :
    Faithful p thresholds
      ⟨call, w, loaded.batches, .ok answer, events, w'⟩ := by
  have hSingle := loaded.batches_single
  rw [← loaded.flatten_batches] at hSingle
  have hOpen (now : Timestamp) :
      loaded.state.renewAt now = .openAt thresholds now := by
    simp [BufferState.renewAt, hThresholds]
  cases hFlushed with
  | empty now hPending =>
      refine
        ⟨hSingle, fun _ => batches_of_nil hPending,
          fun _ => hUploads, ?_, ?_, ?_, ?_,
          ok_misrouted_iff hRouted, ?_⟩
      · simp [hPending]
      · simp
      · simp [hPending]
      · simp
      · simp
  | durable first rest duration now hPending =>
      have hRow :
          History.uploads
              (.clock now :: (storedRow (first :: rest) ++ h)) =
            (first :: rest).map fun f => (f, .stored) := by
        simp [History.uploads, hUploads,
          History.uploads_storedRow_append]
      refine
        ⟨hSingle, ?_, ?_, ?_, ?_, ?_, ?_,
          ok_misrouted_iff hRouted, ?_⟩
      · simp
      · simp [hPending]
      · simp [hPending, hRow]
      · rintro b hEq
        cases hEq
        rw [Visit.batch_mk, flatten_batches, hPending]
        exact describes_describe hPartition hMirrors hPending
      · constructor
        · simp
        · rintro ⟨stored, f, ending, unsent, -, hEnding, hEq⟩
          rw [hRow] at hEq
          exact absurd hEq.symm
            (row_ne_of_fails hEnding.ne_stored)
      · simp
      · simp
  | failed first rest uploads now hPending hUploaded =>
      rcases uploads_of_failed hUploads hUploaded with
        ⟨stored, f, ending, unsent, hBatch, hEnding, hEvents⟩
      refine
        ⟨hSingle, ?_, ?_, ?_, ?_, ?_, ?_,
          ok_misrouted_iff hRouted, ?_⟩
      · simp
      · simp [hPending]
      · constructor
        · simp
        · rintro ⟨-, hEq⟩
          simp only [History.uploads, hEvents] at hEq
          exact absurd hEq (row_ne_of_fails hEnding.ne_stored)
      · simp
      · refine ⟨fun _ => ?_, fun _ => rfl⟩
        exact ⟨stored, f, ending, unsent,
          loaded.flatten_batches.trans (hPending.trans hBatch),
          hEnding, hEvents⟩
      · intro _
        exact ⟨rfl, now, rfl, hOpen now⟩
      · simp
  | dropped => exact absurd rfl hAnswer

/- Every visit that ran to its end answers faithfully. -/
theorem Visit.faithful_of_made
    {v : Visit}
    (hAccount : Account p thresholds vs v.before)
    (hMade : v.Made)
    (hAnswer : v.answer ≠ .ok .dropped) :
    v.Faithful p thresholds := by
  have hPartition := hAccount.partition
  cases hMade with
  | misrouted w f hMisrouted =>
      have hOther : f.partitionKey ≠ p :=
        fun hEq => hMisrouted (hEq.trans hPartition.symm)
      refine
        ⟨.inl rfl, fun _ => rfl, fun _ => rfl, ?_, ?_, ?_, ?_, ?_,
          fun _ _ => ⟨rfl, rfl, rfl⟩⟩
      · simp
      · simp
      · simp
      · simp
      · intro fault
        constructor
        · intro hEq
          cases hEq
          exact ⟨rfl, f, rfl, hOther⟩
        · rintro ⟨rfl, -⟩
          rfl
  | idle now hLoads =>
      refine
        ⟨.inl rfl, fun _ => rfl, fun _ => rfl, ?_, ?_, ?_, ?_, ?_,
          ?_⟩
      · simp
      · simp
      · simp
      · simp
      · exact ok_misrouted_iff (hLoads.routed hPartition)
      · simp
  | flushed reason hLoads hUploads hFlushed =>
      rcases hLoads.kept with ⟨hKept, hThresholds, -, -⟩
      exact Visit.faithful_of_flushed
        (hKept.trans hPartition)
        (hThresholds.trans hAccount.thresholds)
        (hLoads.mirrors hAccount.mirrors)
        hUploads hFlushed
        (fun hEq => hAnswer (congrArg Except.ok hEq))
        (hLoads.routed hPartition)

end Account

------------------------------------------------------------
-- Sequences of Calls
------------------------------------------------------------

/-
  What every visit that runs to its end keeps holds before
  each of the visits that a list of calls makes.
-/
theorem visits_induction
    {env : Surroundings σ}
    {motive : List Visit → Worker → Prop}
    (hVisit :
      ∀ (vs : List Visit) (call : Call) (w : Worker) (s : σ),
        motive vs w →
        (call.visit env w s).1.answer ≠ .ok .dropped →
        motive (vs ++ [(call.visit env w s).1])
          (call.visit env w s).1.after)
    (calls : List Call)
    {w : Worker}
    {s : σ}
    {past earlier later : List Visit}
    {v : Visit}
    (hStart : motive past w)
    (hVisits : visits env calls w s = earlier ++ v :: later) :
    motive (past ++ earlier) v.before ∧
      v.answer ≠ .ok .dropped ∧
      ∃ (call : Call) (t : σ),
        v = (call.visit env v.before t).1 := by
  induction calls generalizing w s past earlier with
  | nil => simp [visits] at hVisits
  | cons call calls ih =>
      have hBefore := call.before_visit env w s
      have hKept := hVisit past call w s hStart
      simp only [visits] at hVisits
      have hEnds :
          (call.visit env w s).1.answer ≠ .ok .dropped := by
        intro hDropped
        simp [hDropped] at hVisits
      have hRest :
          (call.visit env w s).1 ::
              visits env calls (call.visit env w s).1.after
                (call.visit env w s).2 =
            earlier ++ v :: later := by
        rw [← hVisits]
        split
        case h_1 hDropped => exact absurd hDropped hEnds
        case h_2 => rfl
      cases earlier with
      | nil =>
          rw [List.nil_append, List.cons.injEq] at hRest
          rcases hRest with ⟨rfl, -⟩
          rw [List.append_nil, hBefore]
          exact ⟨hStart, hEnds, call, s, rfl⟩
      | cons u earlier =>
          rw [List.cons_append, List.cons.injEq] at hRest
          rcases hRest with ⟨rfl, hRest⟩
          have hLater := ih (hKept hEnds) hRest
          rwa [List.append_assoc] at hLater

/- The account of a worker goes on through all its visits. -/
theorem account_of_visits_from
    (env : Surroundings σ)
    (p : PartitionKey)
    (thresholds : Thresholds)
    (calls : List Call)
    {w : Worker}
    {s : σ}
    {past earlier later : List Visit}
    {v : Visit}
    (hAccount : Account p thresholds past w)
    (hVisits : visits env calls w s = earlier ++ v :: later) :
    Account p thresholds (past ++ (earlier ++ [v])) v.after ∧
      v.Faithful p thresholds := by
  have hKeeps
      (vs : List Visit)
      (call : Call)
      (w : Worker)
      (t : σ)
      (hAccount : Account p thresholds vs w)
      (hEnds : (call.visit env w t).1.answer ≠ .ok .dropped) :
      Account p thresholds (vs ++ [(call.visit env w t).1])
        (call.visit env w t).1.after := by
    rw [← call.before_visit env w t] at hAccount
    exact hAccount.of_made (call.made_visit env w t) hEnds
  rcases visits_induction hKeeps calls hAccount hVisits with
    ⟨hBefore, hEnds, call, t, hVisit⟩
  have hMade : v.Made := by
    rw [hVisit]
    exact call.made_visit env v.before t
  rw [← List.append_assoc]
  exact ⟨hBefore.of_made hMade hEnds,
    Visit.faithful_of_made hBefore hMade hEnds⟩

/-
  After every call to a worker, what it was given has been
  handed on or is pending, the counters mirror the buffer and
  the answer is faithful to the batch.
-/
theorem account_of_visits
    (env : Surroundings σ)
    (p : PartitionKey)
    (thresholds : Thresholds)
    (limit : Option Span)
    (opened : Timestamp)
    (calls : List Call)
    (s : σ)
    {earlier later : List Visit}
    {v : Visit}
    (hVisits :
      visits env calls (.openAt p thresholds limit opened) s =
        earlier ++ v :: later) :
    Account p thresholds (earlier ++ [v]) v.after ∧
      v.Faithful p thresholds := by
  have hAccount :
      Account p thresholds []
        (.openAt p thresholds limit opened) :=
    ⟨rfl, rfl, .of_open rfl rfl, rfl, rfl⟩
  exact account_of_visits_from env p thresholds calls
    hAccount hVisits

/- Two fragments are submitted, and the second upload is refused. -/
def refusedVisits : List Visit :=
  visits Script.world.toSurroundings
    [.submit ⟨.empty, 5, ⟨⟨"logs", 0⟩, 3⟩⟩,
      .submit ⟨.empty, 5, ⟨⟨"logs", 0⟩, 4⟩⟩]
    (.openAt ⟨"logs", 0⟩ ⟨2, 100, 60⟩ none ⟨0⟩)
    ⟨[], [.stored, .refused], []⟩

theorem lt_length_refusedVisits : 1 < refusedVisits.length := by
  decide +kernel

theorem account_of_refusedVisits :
    ∃ earlier v later,
      refusedVisits = earlier ++ v :: later ∧
        v.after.redelivery = some 3 ∧
        v.batch.length = 2 ∧
        v.handed.length = 1 ∧
        Account ⟨"logs", 0⟩ ⟨2, 100, 60⟩
          (earlier ++ [v]) v.after ∧
        v.Faithful ⟨"logs", 0⟩ ⟨2, 100, 60⟩ := by
  have hSplit :
      refusedVisits =
        refusedVisits.take 1 ++
          refusedVisits.get ⟨1, lt_length_refusedVisits⟩ ::
            refusedVisits.drop 2 := by
    rw [List.get_eq_getElem,
      ← List.drop_eq_getElem_cons lt_length_refusedVisits,
      List.take_append_drop]
  refine ⟨_, _, _, hSplit, ?_, ?_, ?_, ?_⟩
  · decide +kernel
  · decide +kernel
  · decide +kernel
  · exact account_of_visits _ _ _ _ _ _ _ hSplit

end Worker

end FragmentSink
