import FragmentSink.Proofs.Engine.Balance
import FragmentSink.Proofs.Engine.Finish
import FragmentSink.Proofs.Engine.Stops
import FragmentSink.Proofs.Worker.Calls
import Mathlib

/-
  What the gauges of an engine say about its workers.

  The gauges are sums of the counters of all buffers, so they
  are true as long as every counter mirrors what is pending.
  A flush that is dropped in the middle of an upload has taken
  the pending fragments and not their count.  The buffer stays
  torn until it is flushed again, and where the final flush is
  dropped that does not happen.

  Main declarations:
    * `Worker.Torn`
    * `Engine.GaugesTrue`
    * `Engine.GaugesSet.true_iff`
    * `gauges_of_run`
-/

namespace FragmentSink

variable {p q : PartitionKey}
variable {w w' : Worker}
variable {h h' : History}
variable {m m₁ m' start : Moment}
variable {r : Except Stop Unit}
variable {answer : FlushEnd}

------------------------------------------------------------
-- Torn Workers
------------------------------------------------------------

namespace Worker

/- A worker that counts a batch that was taken from it. -/
structure Torn (w : Worker) : Prop where
  pending : w.pending = []
  count : w.state.count ≠ 0

/- The counters mirror what is pending, or a batch was torn away. -/
def Kept (w : Worker) : Prop :=
  w.Mirrors ∨ w.Torn

/- A flush that runs to its end starts the buffer anew. -/
theorem Flushed.mirrors
    {reason : FlushReason}
    (hFlushed : w.Flushed reason h answer w' h')
    (hEnded : answer ≠ .dropped) :
    w'.Mirrors := by
  cases hFlushed with
  | empty now hPending => exact .of_open rfl hPending
  | durable => exact .of_open rfl rfl
  | failed => exact .of_open rfl rfl
  | dropped => exact absurd rfl hEnded

/- One that is dropped tears the pending fragments away. -/
theorem Flushed.torn
    {reason : FlushReason}
    (hFlushed : w.Flushed reason h .dropped w' h')
    (hKept : w.Kept) :
    w'.Torn := by
  cases hFlushed with
  | dropped first rest uploads hPending =>
      refine ⟨rfl, ?_⟩
      rcases hKept with hMirrors | hTorn
      · intro hZero
        have hCount := hMirrors.count
        have hTaken : w.state.count = 0 := hZero
        rw [hTaken, hPending, List.length_cons] at hCount
        have hTop : 0 < Word.top := by decide
        have hNone : (0 : UInt64).toNat = 0 := rfl
        omega
      · cases hTorn.pending.symm.trans hPending

theorem Ticked.mirrors
    (hTicked : w.Ticked h answer w' h')
    (hMirrors : w.Mirrors)
    (hEnded : answer ≠ .dropped) :
    w'.Mirrors := by
  cases hTicked with
  | idle => exact hMirrors
  | ready now reason hReason hFlushed =>
      exact hFlushed.mirrors hEnded

theorem Ticked.torn
    (hTicked : w.Ticked h .dropped w' h')
    (hMirrors : w.Mirrors) :
    w'.Torn := by
  cases hTicked with
  | ready now reason hReason hFlushed =>
      exact hFlushed.torn (.inl hMirrors)

end Worker

------------------------------------------------------------
-- All Workers
------------------------------------------------------------

namespace Engine

/- Something holds of every worker. -/
def Each (P : Worker → Prop) (e : Engine) : Prop :=
  ∀ p w, e.workers.get? p = some w → P w

/- It holds of every worker outside a list of partitions. -/
def Outside
    (ps : List PartitionKey)
    (P : Worker → Prop)
    (e : Engine) : Prop :=
  ∀ p w, e.workers.get? p = some w → p ∉ ps → P w

variable {e e' : Engine}
variable {P Q : Worker → Prop}
variable {ps : List PartitionKey}

theorem outside_nil_iff : e.Outside [] P ↔ e.Each P := by
  constructor
  · intro hOutside p w hFound
    exact hOutside p w hFound List.not_mem_nil
  · intro hEach p w hFound _
    exact hEach p w hFound

/- A worker that is put in place takes its partition off the list. -/
theorem Outside.putWorker
    (hOutside : e.Outside (p :: ps) P)
    (hWorker : P w) :
    (e.putWorker p w).Outside ps P := by
  intro q u hFound hOut
  rw [Engine.putWorker, Table.get?_insert] at hFound
  by_cases hKey : p = q
  · rw [if_pos hKey] at hFound
    cases hFound
    exact hWorker
  · rw [if_neg hKey] at hFound
    refine hOutside q u hFound ?_
    rw [List.mem_cons, not_or]
    exact ⟨Ne.symm hKey, hOut⟩

theorem Each.putWorker
    (hEach : e.Each P)
    (hWorker : P w) :
    (e.putWorker p w).Each P := by
  have hOutside : e.Outside [p] P :=
    fun q u hFound _ => hEach q u hFound
  exact outside_nil_iff.mp (hOutside.putWorker hWorker)

theorem Each.mono
    (hEach : e.Each P)
    (hThen : ∀ w, P w → Q w) :
    e.Each Q :=
  fun p w hFound => hThen w (hEach p w hFound)

theorem Each.congr
    (hEach : e.Each P)
    (hWorkers : e'.workers = e.workers) :
    e'.Each P := by
  intro p w hFound
  rw [hWorkers] at hFound
  exact hEach p w hFound

/- So it holds of the workers one after the other. -/
theorem Each.of_mem_values
    (hEach : e.Each P)
    (hMem : w ∈ e.workers.values) :
    P w := by
  rcases List.mem_map.mp hMem with ⟨entry, hEntry, rfl⟩
  exact hEach _ _ (Table.get?_of_mem hEntry)

end Engine

open Engine

/- A worker's tick keeps all counters, up to a stop. -/
theorem Worked.mirrors
    (hWorked : Worked p w m r m')
    (hEach : m.engine.Each Worker.Mirrors)
    (hMirrors : w.Mirrors) :
    (r = .ok () → m'.engine.Each Worker.Mirrors) ∧
      m'.engine.Each Worker.Kept := by
  cases hWorked with
  | settled elapsed hTicked hAnswer hSettled =>
      have hAfter : m'.engine.Each Worker.Mirrors :=
        (hEach.putWorker
          (hTicked.mirrors hMirrors hAnswer)).congr
            hSettled.workers_eq
      exact ⟨fun _ => hAfter, hAfter.mono fun _ => .inl⟩
  | cut hTicked =>
      refine ⟨nofun, ?_⟩
      exact (hEach.mono fun _ => .inl).putWorker
        (.inr (hTicked.torn hMirrors))

theorem Readied.mirrors
    (hReadied : Readied p m w m₁)
    (hEach : m.engine.Each Worker.Mirrors) :
    w.Mirrors ∧ m₁.engine.Each Worker.Mirrors := by
  cases hReadied with
  | kept w hWorker =>
      exact ⟨hEach p w hWorker, hEach⟩
  | opened now hNone =>
      have hOpen : (m.engine.openWorker p now).Mirrors :=
        .of_open rfl rfl
      exact ⟨hOpen, hEach.putWorker hOpen⟩

/- A move keeps all counters, up to a stop. -/
theorem Move.mirrors
    (hMove : Move m r m')
    (hEach : m.engine.Each Worker.Mirrors) :
    (r = .ok () → m'.engine.Each Worker.Mirrors) ∧
      m'.engine.Each Worker.Kept := by
  have hStill
      {e : Engine}
      (hAfter : e.Each Worker.Mirrors) :
      (r = .ok () → e.Each Worker.Mirrors) ∧
        e.Each Worker.Kept :=
    ⟨fun _ => hAfter, hAfter.mono fun _ => .inl⟩
  cases hMove with
  | @delivered f w m₁ m' r hReadied hRouted hWorked =>
      rcases hReadied.mirrors hEach with ⟨hMirrors, hReady⟩
      exact hWorked.mirrors hReady (hMirrors.append f)
  | ticked hWorker hWorked =>
      exact hWorked.mirrors hEach (hEach _ _ hWorker)
  | misrouted hReadied => exact hStill (hReadied.mirrors hEach).2
  | released ps =>
      apply hStill
      intro q u hFound
      simp only [keepOnly, Table.get?_filterKeys] at hFound
      split at hFound
      case isTrue => exact hEach q u hFound
      case isFalse => cases hFound
  | _ => exact hStill hEach

theorem Reaches.mirrors
    (hReaches : Reaches start (.after r) m)
    (hStart : start.engine.Each Worker.Mirrors) :
    (r = .ok () → m.engine.Each Worker.Mirrors) ∧
      m.engine.Each Worker.Kept :=
  hReaches.loop_induction
    (motive := fun r m =>
      (r = .ok () → m.engine.Each Worker.Mirrors) ∧
        m.engine.Each Worker.Kept)
    ⟨fun _ => hStart, hStart.mono fun _ => .inl⟩
    fun _ _ _ _ hBefore hMove => hMove.mirrors (hBefore.1 rfl)

------------------------------------------------------------
-- The Final Flush
------------------------------------------------------------

/- The latest event was a wait that was dropped. -/
def History.EndsDropped (h : History) : Prop :=
  h.head?.bind Event.stop? = some .dropped

instance (h : History) : Decidable h.EndsDropped :=
  inferInstanceAs (Decidable (_ = _))

/- Nothing of a flush that ends was dropped, and its buffer is anew. -/
theorem FlushedOut.mirrors
    {ps : List PartitionKey}
    (hOut : FlushedOut p m (.ok ()) m')
    (hKept : m.engine.Each Worker.Kept)
    (hOthers : m.engine.Outside (p :: ps) Worker.Mirrors) :
    m'.engine.Each Worker.Kept ∧
      m'.engine.Outside ps Worker.Mirrors := by
  have hPut
      {w : Worker}
      (hMirrors : w.Mirrors) :
      (m.engine.putWorker p w).Each Worker.Kept ∧
        (m.engine.putWorker p w).Outside ps Worker.Mirrors :=
    ⟨hKept.putWorker (.inl hMirrors),
      hOthers.putWorker hMirrors⟩
  cases hOut with
  | unstored hWorker hFlushed hAnswer =>
      apply hPut
      apply hFlushed.mirrors
      rintro rfl
      rcases hAnswer with hNothing | hFailed
      · cases hNothing
      · cases hFailed
  | acknowledged hWorker hFlushed =>
      exact hPut (hFlushed.mirrors nofun)
  | unacknowledged cause hWorker hFlushed =>
      exact hPut (hFlushed.mirrors nofun)

theorem Uploaded.endsDropped
    {batch : List Fragment}
    (hUploaded : Uploaded batch h .dropped h') :
    h'.EndsDropped := by
  cases hUploaded
  rfl

/- One that is dropped ends with the wait at which it is. -/
theorem FlushedOut.endsDropped
    {why : Stop}
    (hOut : FlushedOut p m (.error why) m')
    (hKept : m.engine.Each Worker.Kept) :
    m'.engine.Each Worker.Kept ∧ m'.history.EndsDropped := by
  cases hOut with
  | cut hWorker hFlushed =>
      refine ⟨hKept.putWorker
        (.inr (hFlushed.torn (hKept p _ hWorker))), ?_⟩
      cases hFlushed with
      | dropped first rest uploads hPending hUploaded =>
          exact hUploaded.endsDropped
  | lost hWorker hFlushed =>
      exact ⟨hKept.putWorker (.inl (hFlushed.mirrors nofun)), rfl⟩

/- A final flush that is not dropped starts all buffers anew. -/
theorem FlushedEach.mirrors
    {ps : List PartitionKey}
    (hFlushed : FlushedEach ps m r m')
    (hKept : m.engine.Each Worker.Kept)
    (hOthers : m.engine.Outside ps Worker.Mirrors) :
    m'.engine.Each Worker.Kept ∧
      (m'.engine.Each Worker.Mirrors ∨
        m'.history.EndsDropped) := by
  induction hFlushed with
  | done m =>
      exact ⟨hKept, .inl (outside_nil_iff.mp hOthers)⟩
  | skipped hNone _ ih =>
      apply ih hKept
      intro q u hFound hOut
      refine hOthers q u hFound ?_
      rw [List.mem_cons, not_or]
      refine ⟨?_, hOut⟩
      rintro rfl
      cases hNone.symm.trans hFound
  | flushed hOut _ ih =>
      rcases hOut.mirrors hKept hOthers with ⟨hAfter, hRest⟩
      exact ih hAfter hRest
  | stopped hOut =>
      rcases hOut.endsDropped hKept with ⟨hAfter, hDropped⟩
      exact ⟨hAfter, .inr hDropped⟩

theorem FlushedAll.mirrors
    (hFlushed : FlushedAll m r m')
    (hKept : m.engine.Each Worker.Kept) :
    m'.engine.Each Worker.Kept ∧
      (m'.engine.Each Worker.Mirrors ∨
        m'.history.EndsDropped) := by
  rcases hFlushed with ⟨ps, hPerm, hEach⟩
  apply hEach.mirrors hKept
  -- Every partition with a worker is visited.
  intro q u hFound hOut
  refine absurd (hPerm.mem_iff.mpr (Table.mem_keys_iff.mpr ?_)) hOut
  intro hNone
  cases hNone.symm.trans hFound

------------------------------------------------------------
-- Sums of Counters
------------------------------------------------------------

/- The counters of workers, added up without a bound. -/
theorem Engine.sumBuffered_eq_ok
    {ws : List Worker}
    {fragments bytes count size : UInt64}
    (hSums : sumBuffered fragments bytes ws = .ok (count, size)) :
    count.toNat =
        fragments.toNat + (ws.map (·.state.count.toNat)).sum ∧
      size.toNat =
        bytes.toNat + (ws.map (·.state.bytes.toNat)).sum := by
  induction ws generalizing fragments bytes with
  | nil =>
      cases hSums
      simp
  | cons w ws ih =>
      unfold sumBuffered at hSums
      split at hSums
      case h_1 count size hCount hSize =>
        rw [Word.addNat_eq_ok_iff] at hCount hSize
        have hRest := ih hSums
        simp only [List.map_cons, List.sum_cons]
        omega
      case h_2 => cases hSums
      case h_3 => cases hSums

section Sums

variable {ws : List Worker}

/- Numbers that are counted up to the largest word add up exactly where their sum fits. -/
theorem sum_of_saturated
    {counted exact : Worker → Nat}
    (hEach : ∀ w ∈ ws, counted w = min (exact w) Word.top)
    (hFits : (ws.map exact).sum < UInt64.size) :
    (ws.map counted).sum = (ws.map exact).sum := by
  have hTop : Word.top + 1 = UInt64.size := by decide
  induction ws with
  | nil => rfl
  | cons w ws ih =>
      rw [List.forall_mem_cons] at hEach
      have hOwn := hEach.1
      simp only [List.map_cons, List.sum_cons] at hFits ⊢
      have hRest := ih hEach.2 (by omega)
      omega

theorem totalSize_pending (ws : List Worker) :
    totalSize (ws.flatMap (·.pending)) =
      (ws.map fun w => totalSize w.pending).sum := by
  induction ws with
  | nil => rfl
  | cons w ws ih =>
      rw [List.flatMap_cons, totalSize_append, ih, List.map_cons,
        List.sum_cons]

/- Where what is pending fits, mirrored counters are exact. -/
theorem count_of_mirrors
    (hMirrors : ∀ w ∈ ws, w.Mirrors)
    (hCount : (ws.flatMap (·.pending)).length < UInt64.size) :
    (ws.map (·.state.count.toNat)).sum =
      (ws.flatMap (·.pending)).length := by
  rw [List.length_flatMap] at hCount ⊢
  exact sum_of_saturated (fun w hMem => (hMirrors w hMem).count)
    hCount

theorem sum_of_mirrors
    (hMirrors : ∀ w ∈ ws, w.Mirrors)
    (hCount : (ws.flatMap (·.pending)).length < UInt64.size)
    (hBytes : totalSize (ws.flatMap (·.pending)) < UInt64.size) :
    (ws.map (·.state.count.toNat)).sum =
        (ws.flatMap (·.pending)).length ∧
      (ws.map (·.state.bytes.toNat)).sum =
        totalSize (ws.flatMap (·.pending)) := by
  refine ⟨count_of_mirrors hMirrors hCount, ?_⟩
  rw [totalSize_pending] at hBytes ⊢
  exact sum_of_saturated (fun w hMem => (hMirrors w hMem).bytes)
    hBytes

/- A worker that is kept counts all that is pending, or more. -/
theorem Worker.Kept.length_le
    (hKept : w.Kept)
    (hCount : w.pending.length < UInt64.size) :
    w.pending.length ≤ w.state.count.toNat := by
  have hTop : Word.top + 1 = UInt64.size := by decide
  rcases hKept with hMirrors | hTorn
  · have hOwn := hMirrors.count
    omega
  · rw [hTorn.pending]
    exact Nat.zero_le _

theorem Worker.Torn.length_lt
    (hTorn : w.Torn) :
    w.pending.length < w.state.count.toNat := by
  rw [hTorn.pending]
  apply Nat.pos_of_ne_zero
  intro hZero
  exact hTorn.count (UInt64.toNat_inj.mp hZero)

theorem length_le_sum_of_kept
    (hKept : ∀ w ∈ ws, w.Kept)
    (hCount : (ws.flatMap (·.pending)).length < UInt64.size) :
    (ws.flatMap (·.pending)).length ≤
      (ws.map (·.state.count.toNat)).sum := by
  induction ws with
  | nil => exact Nat.le_refl 0
  | cons w ws ih =>
      rw [List.forall_mem_cons] at hKept
      simp only [List.flatMap_cons, List.length_append,
        List.map_cons, List.sum_cons] at hCount ⊢
      have hFirst := hKept.1.length_le (by omega)
      have hRest := ih hKept.2 (by omega)
      omega

/- A torn worker counts fragments that are not pending. -/
theorem length_lt_sum_of_torn
    (hKept : ∀ w ∈ ws, w.Kept)
    (hCount : (ws.flatMap (·.pending)).length < UInt64.size)
    (hMem : w ∈ ws)
    (hTorn : w.Torn) :
    (ws.flatMap (·.pending)).length <
      (ws.map (·.state.count.toNat)).sum := by
  induction ws with
  | nil => cases hMem
  | cons u ws ih =>
      rw [List.forall_mem_cons] at hKept
      simp only [List.flatMap_cons, List.length_append,
        List.map_cons, List.sum_cons] at hCount ⊢
      rcases List.mem_cons.mp hMem with rfl | hRest
      · have hFirst := hTorn.length_lt
        have hOthers := length_le_sum_of_kept hKept.2 (by omega)
        omega
      · have hFirst := hKept.1.length_le (by omega)
        have hOthers := ih hKept.2 (by omega) hRest
        omega

end Sums

------------------------------------------------------------
-- True Gauges
------------------------------------------------------------

namespace Engine

variable {e : Engine}

/- What the workers hold can be counted in words. -/
structure Fits (e : Engine) : Prop where
  fragments : e.allPending.length < UInt64.size
  bytes : totalSize e.allPending < UInt64.size
  partitions : e.workers.size < UInt64.size

/- The gauges say what is pending, and for how many partitions. -/
structure GaugesTrue (e : Engine) : Prop where
  fragments :
    e.metrics.bufferedFragments.toNat = e.allPending.length
  bytes :
    e.metrics.bufferedBytes.toNat = totalSize e.allPending
  partitions :
    e.metrics.activePartitions.toNat = e.workers.size

/- The gauges are set to the sums of all counters. -/
structure GaugesSet (e : Engine) : Prop where
  sums :
    sumBuffered 0 0 e.workers.values =
      .ok (e.metrics.bufferedFragments, e.metrics.bufferedBytes)
  partitions :
    e.metrics.activePartitions = UInt64.ofNat e.workers.size

theorem Gauged.gaugesSet
    {metrics : Metrics}
    (hGauged : e.Gauged metrics)
    (health : Health) :
    GaugesSet
      { e with metrics := metrics, health := health } := by
  cases hGauged with
  | set hSums hLag => exact ⟨hSums, rfl⟩

/- Gauges that were set would be set to the same again. -/
theorem Gauged.again
    {metrics : Metrics}
    (hGauged : e.Gauged metrics) :
    Gauged { e with metrics := metrics } metrics := by
  cases hGauged with
  | set hSums hLag => exact .set hSums hLag

theorem GaugesSet.toNat_eq (hSet : e.GaugesSet) :
    e.metrics.bufferedFragments.toNat =
        (e.workers.values.map (·.state.count.toNat)).sum ∧
      e.metrics.bufferedBytes.toNat =
        (e.workers.values.map (·.state.bytes.toNat)).sum := by
  have hSums := sumBuffered_eq_ok hSet.sums
  have hZero : (0 : UInt64).toNat = 0 := rfl
  omega

/- Gauges that are set are true where all counters are. -/
theorem GaugesSet.gaugesTrue
    (hSet : e.GaugesSet)
    (hMirrors : e.Each Worker.Mirrors)
    (hFits : e.Fits) :
    e.GaugesTrue := by
  have hSums := hSet.toNat_eq
  have hCounters :=
    sum_of_mirrors (fun _ => hMirrors.of_mem_values)
      hFits.fragments hFits.bytes
  constructor
  · exact hSums.1.trans hCounters.1
  · exact hSums.2.trans hCounters.2
  · rw [hSet.partitions]
    exact UInt64.toNat_ofNat_of_lt hFits.partitions

/- A torn worker makes them untrue, and nothing else does. -/
theorem GaugesSet.true_iff
    (hSet : e.GaugesSet)
    (hKept : e.Each Worker.Kept)
    (hFits : e.Fits) :
    e.GaugesTrue ↔ e.Each fun w => ¬ w.Torn := by
  constructor
  · intro hTrue p w hFound hTorn
    have hMem : w ∈ e.workers.values :=
      Table.mem_values_of_get? hFound
    have hMore :=
      length_lt_sum_of_torn (fun _ => hKept.of_mem_values)
        hFits.fragments hMem hTorn
    rw [← hSet.toNat_eq.1, hTrue.fragments] at hMore
    exact Nat.lt_irrefl _ hMore
  · intro hWhole
    apply hSet.gaugesTrue _ hFits
    intro p w hFound
    rcases hKept p w hFound with hMirrors | hTorn
    · exact hMirrors
    · exact absurd hTorn (hWhole p w hFound)

end Engine

------------------------------------------------------------
-- Gauges of Runs
------------------------------------------------------------

/- Where a stop does not matter, only the last part does. -/
theorem Activity.leads_last
    {σ α β : Type}
    {x : Activity σ α}
    {f : α → Activity σ β}
    {s : Session σ}
    {Q : β → Session σ → Prop}
    (hLast : ∀ a t, (f a).Leads t Q fun _ _ => True) :
    (x >>= f).Leads s Q fun _ _ => True := by
  rw [leads_bind]
  unfold Leads
  split
  case h_1 a t hRun => exact hLast a t
  case h_2 => trivial

/- A step that runs to its end has set the gauges. -/
theorem leads_step_gauged
    {σ : Type}
    (world : World σ)
    (s : Session σ) :
    (Engine.step world).Leads s
      (fun _ t => t.engine.Gauged t.engine.metrics)
      (fun _ _ => True) := by
  unfold Engine.step
  apply Activity.leads_last
  intro answer t
  apply Activity.leads_last
  intro _ t
  apply Activity.leads_last
  intro _ t
  apply Activity.leads_last
  intro _ t
  exact leads_updateGauges (fun _ hGauged => hGauged.again)
    (fun _ _ _ => trivial)

theorem leads_stepping_gauged
    {σ : Type}
    (world : World σ)
    (done : Nat)
    (s : Session σ) :
    (Engine.stepping world (done + 1)).Leads s
      (fun _ t => t.engine.Gauged t.engine.metrics)
      (fun _ _ => True) := by
  induction done generalizing s with
  | zero =>
      rw [Engine.stepping, Activity.leads_bind]
      exact leads_step_gauged world s
  | succ done ih =>
      rw [Engine.stepping]
      apply Activity.leads_last
      intro _ t
      exact ih t

theorem leads_stepping_gaugesSet
    {σ : Type}
    (world : World σ)
    (done : Nat)
    (s : Session σ) :
    (Engine.stepping world (done + 1)).Leads s
      (fun _ t => t.engine.GaugesSet) (fun _ _ => True) :=
  Activity.Leads.mono (leads_stepping_gauged world done s)
    (fun _ t hGauged => hGauged.gaugesSet t.engine.health)
    (fun _ _ hStopped => hStopped)

theorem Ended.gauges
    {ending : RunEnd}
    (hEnded : Ended r m ending m')
    (hClosed : ending.IsClosed)
    (hKept : m.engine.Each Worker.Kept) :
    m'.engine.GaugesSet ∧ m'.engine.Each Worker.Kept ∧
      (m'.engine.Each Worker.Mirrors ∨
        m'.history.EndsDropped) := by
  cases hEnded with
  | unfinished => cases hClosed
  | faulted => cases hClosed
  | @closed why m₀ m₁ r metrics hWhy hFlushed hGauged =>
      refine ⟨hGauged.gaugesSet _, ?_⟩
      rcases hFlushed.mirrors hKept with ⟨hAfter, hEnd⟩
      refine ⟨hAfter.congr rfl, ?_⟩
      exact hEnd.imp_left fun hMirrors => hMirrors.congr rfl
  | overflowed => cases hClosed

/-
  The gauges are true after every step.  After the final flush
  they are true if no worker is torn, and one can only be torn
  where that flush was itself dropped.
-/
theorem gauges_of_run
    {σ : Type}
    (world : World σ)
    (settings : Settings)
    (steps : Nat)
    (s : σ)
    (run : Engine.Run (σ × History))
    (hRun :
      Engine.run world.recorded steps (.fresh settings) (s, []) =
        run) :
    (∀ done t,
        (Engine.stepping world.recorded (done + 1)).run.run
            ⟨(Engine.fresh settings).started, s, []⟩ =
          (.ok (), t) →
        t.engine.Fits → t.engine.GaugesTrue) ∧
      (run.ending.IsClosed → run.last.engine.Fits →
        (run.last.engine.GaugesTrue ↔
            run.last.engine.Each fun w => ¬ w.Torn) ∧
          (run.last.engine.GaugesTrue ∨
            run.last.world.2.EndsDropped)) := by
  subst hRun
  have hStart :
      (Engine.fresh settings).started.Each Worker.Mirrors :=
    nofun
  constructor
  · intro done t hSteps hFits
    have hReaches := reaches_stepping world (done + 1) hSteps
    have hSet :=
      (leads_stepping_gaugesSet world.recorded done _).of_run_ok
        hSteps
    exact hSet.gaugesTrue ((hReaches.mirrors hStart).1 rfl) hFits
  · intro hClosed hFits
    rcases ended_run world steps (.fresh settings) s [] with
      ⟨r, t, hSteps, hEnded⟩
    have hReaches := reaches_stepping world steps hSteps
    rcases hEnded.gauges hClosed (hReaches.mirrors hStart).2 with
      ⟨hSet, hKept, hEnd⟩
    refine ⟨hSet.true_iff hKept hFits, ?_⟩
    exact hEnd.imp_left fun hMirrors =>
      hSet.gaugesTrue hMirrors hFits

/- The upload of a full buffer is dropped with its step. -/
def Script.cutStep : Script where
  polls := [3, 4].map fun offset => .fragment (fragment offset)
  uploads := [.dropped]
  assigned := [partition]

@[irreducible] def firstStep :
    Except Stop Unit × Session (Script × History) :=
  (Engine.stepping Script.world.recorded 1).run.run
    ⟨(Engine.fresh Script.settings).started, Script.cutStep, []⟩

@[irreducible] def mendedRun : Engine.Run (Script × History) :=
  Engine.run Script.world.recorded 9 (.fresh Script.settings)
    (Script.cutStep, [])

theorem gauges_of_mendedRun :
    firstStep.1 = .ok () ∧
      firstStep.2.engine.allPending = [Script.fragment 3] ∧
      firstStep.2.engine.GaugesTrue ∧
      mendedRun.ending = .stopped ∧
      mendedRun.loop.EndsDropped ∧
      mendedRun.last.engine.GaugesTrue := by
  have hFirst : firstStep.1 = .ok () := by decide +kernel
  have hFirstFits : firstStep.2.engine.Fits := by
    constructor <;> decide +kernel
  have hStopped : mendedRun.ending = .stopped := by
    decide +kernel
  have hFits : mendedRun.last.engine.Fits := by
    constructor <;> decide +kernel
  have hEnd : ¬ mendedRun.last.world.2.EndsDropped := by
    decide +kernel
  have hSteps :
      (Engine.stepping Script.world.recorded 1).run.run
          ⟨(Engine.fresh Script.settings).started,
            Script.cutStep, []⟩ =
        (.ok (), firstStep.2) := by
    rw [← hFirst, Prod.eta, firstStep]
  have hClosed : mendedRun.ending.IsClosed := by
    rw [hStopped]
    trivial
  have hGauges :=
    gauges_of_run Script.world Script.settings 9 Script.cutStep
      mendedRun (by rw [mendedRun])
  refine ⟨hFirst, ?_, hGauges.1 0 _ hSteps hFirstFits, hStopped,
    ?_, ?_⟩
  · decide +kernel
  · decide +kernel
  · exact (hGauges.2 hClosed hFits).2.resolve_right hEnd

/- The final flush is dropped in the only upload of the run. -/
def Script.cutFlush : Script where
  polls := [.fragment (fragment 3)]
  uploads := [.dropped]
  assigned := [partition]

@[irreducible] def tornRun : Engine.Run (Script × History) :=
  Engine.run Script.world.recorded 9 (.fresh Script.settings)
    (Script.cutFlush, [])

/- Its gauges count a fragment that is not pending any more. -/
theorem not_gaugesTrue_of_tornRun :
    tornRun.ending = .stopped ∧
      tornRun.last.engine.Fits ∧
      tornRun.last.engine.allPending = [] ∧
      tornRun.last.engine.metrics.bufferedFragments = 1 ∧
      ¬ tornRun.last.engine.GaugesTrue := by
  have hPending : tornRun.last.engine.allPending = [] := by
    decide +kernel
  have hCounted :
      tornRun.last.engine.metrics.bufferedFragments = 1 := by
    decide +kernel
  refine ⟨?_, ?_, hPending, hCounted, ?_⟩
  · decide +kernel
  · constructor <;> decide +kernel
  · intro hTrue
    have hFragments := hTrue.fragments
    rw [hPending, hCounted] at hFragments
    cases hFragments

end FragmentSink
