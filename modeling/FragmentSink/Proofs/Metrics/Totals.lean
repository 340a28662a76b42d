import FragmentSink.Metrics.Counters
import Mathlib.Data.List.Induction
import Mathlib.Data.UInt

/-
  What the counters and gauges stand for after any list of
  records.

  A counter is the number or the sum of the records it names,
  as far as its word can tell, and a gauge is the value it was
  last set to.  Both are read off the list of records alone.

  Main declarations:
    * `Metrics.Record`
    * `Metrics.ofRecords`
    * `Metrics.recordAll_eq_ofRecords`
    * `Metrics.Totals`
-/

namespace FragmentSink

------------------------------------------------------------
-- Records
------------------------------------------------------------

/- What is recorded: an event that is counted, or the setting of a gauge. -/
inductive Metrics.Record where
| fragment (size : UInt64)
| error (kind : ErrorType)
| flush
    (reason : FlushReason)
    (fragments bytes : UInt64)
    (duration : Span)
| commitFailure (duration : Span)
| redelivery
| buffered (fragments bytes : UInt64)
| activePartitions (n : UInt64)
| consumerLag (n : UInt64)
deriving DecidableEq, Repr

namespace Metrics

/- Make one record. -/
def record (m : Metrics) : Record → Metrics
| .fragment size => m.recordFragment size
| .error kind => m.recordError kind
| .flush reason fragments bytes duration =>
    m.recordFlush reason fragments bytes duration
| .commitFailure duration => m.recordCommitFailure duration
| .redelivery => m.recordRedelivery
| .buffered fragments bytes => m.setBuffered fragments bytes
| .activePartitions n => m.setActivePartitions n
| .consumerLag n => m.setConsumerLag n

/- Make records one after the other, from zero. -/
def recordAll (rs : List Record) : Metrics :=
  rs.foldl record zero

------------------------------------------------------------
-- What Records Name
------------------------------------------------------------

/- The sizes of the fragments that were consumed. -/
def sizes (rs : List Record) : List UInt64 :=
  rs.filterMap fun
    | .fragment size => some size
    | _ => none

/- The kinds of the errors; a commit that failed is one of the buffer. -/
def errorKinds (rs : List Record) : List ErrorType :=
  rs.filterMap fun
    | .error kind => some kind
    | .commitFailure _ => some .buffer
    | _ => none

/- The reasons of the flushes. -/
def reasons (rs : List Record) : List FlushReason :=
  rs.filterMap fun
    | .flush reason _ _ _ => some reason
    | _ => none

/- The fragments and bytes of the flushes. -/
def batches (rs : List Record) : List (UInt64 × UInt64) :=
  rs.filterMap fun
    | .flush _ fragments bytes _ => some (fragments, bytes)
    | _ => none

/- The durations of the flushes and of the commits that failed. -/
def commitDurations (rs : List Record) : List Span :=
  rs.filterMap fun
    | .flush _ _ _ duration => some duration
    | .commitFailure duration => some duration
    | _ => none

/- The durations of the commits that failed. -/
def failedDurations (rs : List Record) : List Span :=
  rs.filterMap fun
    | .commitFailure duration => some duration
    | _ => none

/- The fragments and bytes that were set as buffered. -/
def bufferedSet (rs : List Record) : List (UInt64 × UInt64) :=
  rs.filterMap fun
    | .buffered fragments bytes => some (fragments, bytes)
    | _ => none

/- The numbers that were set as active partitions. -/
def activeSet (rs : List Record) : List UInt64 :=
  rs.filterMap fun
    | .activePartitions n => some n
    | _ => none

/- The numbers that were set as the lag. -/
def lagSet (rs : List Record) : List UInt64 :=
  rs.filterMap fun
    | .consumerLag n => some n
    | _ => none

/- The sum of words, without a bound. -/
def total (ns : List UInt64) : Nat :=
  (ns.map UInt64.toNat).sum

/- How often each label stands in a list, as words. -/
def countEach
    {κ : Type} [DecidableEq κ]
    (ks : List κ) : κ → UInt64 :=
  fun k => .ofNat (ks.count k)

/- The number of durations that stay within a bound of milliseconds. -/
def countWithin (bound : Nat) (ds : List Span) : Nat :=
  ds.countP fun d => d.millis.toNat ≤ bound

/- The histogram of a list of durations. -/
def histogramOf (ds : List Span) : DurationHistogram where
  sumMillis := .ofNat (total (ds.map Span.millis))
  count := .ofNat ds.length
  within := durationBounds.map fun b => .ofNat (countWithin b ds)
  unbounded := .ofNat ds.length

/- The counters and gauges that stand for a list of records. -/
def ofRecords (rs : List Record) : Metrics where
  fragmentsConsumed := .ofNat (sizes rs).length
  bytesConsumed := .ofNat (total (sizes rs))
  errors := countEach (errorKinds rs)
  flushes := .ofNat (reasons rs).length
  flushesByReason := countEach (reasons rs)
  fragmentsFlushed := .ofNat (total ((batches rs).map Prod.fst))
  bytesFlushed := .ofNat (total ((batches rs).map Prod.snd))
  commitFailures := .ofNat (failedDurations rs).length
  redeliveries := .ofNat (rs.count .redelivery)
  bufferedFragments := ((bufferedSet rs).getLastD (0, 0)).1
  bufferedBytes := ((bufferedSet rs).getLastD (0, 0)).2
  activePartitions := (activeSet rs).getLastD 0
  consumerLag := (lagSet rs).getLastD 0
  durations := histogramOf (commitDurations rs)

------------------------------------------------------------
-- Every Record Counts
------------------------------------------------------------

/- A label that comes in once more counts one more. -/
theorem countEach_append_singleton
    {κ : Type} [DecidableEq κ]
    (ks : List κ)
    (k : κ) :
    countEach (ks ++ [k]) = bump (countEach ks) k := by
  funext x
  by_cases hLabel : x = k
  · simp [countEach, bump, hLabel, UInt64.ofNat_add]
  · simp [countEach, bump, hLabel, Ne.symm hLabel]

/- One more duration is counted within every bound it does not pass. -/
theorem histogramOf_append_singleton
    (ds : List Span)
    (d : Span) :
    histogramOf (ds ++ [d]) = (histogramOf ds).observe d := by
  have hWithin :
      (durationBounds.map fun b =>
          UInt64.ofNat (countWithin b (ds ++ [d]))) =
        durationBounds.map fun b =>
          if d.millis.toNat ≤ b then
            UInt64.ofNat (countWithin b ds) + 1
          else
            UInt64.ofNat (countWithin b ds) := by
    refine List.map_congr_left fun b _ => ?_
    by_cases hBound : d.millis.toNat ≤ b
    · simp [countWithin, hBound, UInt64.ofNat_add]
    · simp [countWithin, hBound]
  simp only [histogramOf, DurationHistogram.observe, hWithin,
    List.zipWith_map_right, List.zipWith_self]
  simp [total, UInt64.ofNat_add]

/- One more record changes the counters as it is made. -/
theorem ofRecords_append_singleton
    (rs : List Record)
    (r : Record) :
    ofRecords (rs ++ [r]) = (ofRecords rs).record r := by
  cases r <;>
    simp [ofRecords, sizes, errorKinds, reasons, batches,
      commitDurations, failedDurations, bufferedSet, activeSet,
      lagSet, total, countEach_append_singleton,
      histogramOf_append_singleton, record, recordFragment,
      recordError, recordFlush, recordCommitFailure,
      recordRedelivery, setBuffered, setActivePartitions,
      setConsumerLag, UInt64.ofNat_add]

/- The counters and gauges after any records stand for them. -/
theorem recordAll_eq_ofRecords (rs : List Record) :
    recordAll rs = ofRecords rs := by
  induction rs using List.reverseRecOn with
  | nil => rfl
  | append_singleton rs r ih =>
      rw [ofRecords_append_singleton, ← ih, recordAll,
        List.foldl_append]
      rfl

------------------------------------------------------------
-- Totals over Labels
------------------------------------------------------------

section Labels

variable {κ : Type} [DecidableEq κ]
variable {labels : List κ}

/- A bump adds to a sum over labels as often as its label is among them. -/
theorem sum_bump
    (labels : List κ)
    (counts : κ → UInt64)
    (k : κ) :
    (labels.map (bump counts k)).sum =
      (labels.map counts).sum + .ofNat (labels.count k) := by
  induction labels with
  | nil => rfl
  | cons x labels ih =>
      simp only [List.map_cons, List.sum_cons, ih, bump,
        List.count_cons, UInt64.ofNat_add]
      by_cases hLabel : x = k
      · simp only [hLabel, beq_self_eq_true, if_true]
        grind
      · simp only [hLabel, beq_iff_eq, if_false]
        grind

/- Over labels that each stand once, the counts add up to the length. -/
theorem sum_countEach
    (hOnce : ∀ k, labels.count k = 1)
    (ks : List κ) :
    (labels.map (countEach ks)).sum = .ofNat ks.length := by
  induction ks using List.reverseRecOn with
  | nil =>
      clear hOnce
      induction labels with
      | nil => rfl
      | cons x labels ih =>
          rw [List.map_cons, List.sum_cons, ih]
          rfl
  | append_singleton ks k ih =>
      rw [countEach_append_singleton, sum_bump, ih, hOnce,
        List.length_append, UInt64.ofNat_add]
      rfl

end Labels

theorem count_reasons (reason : FlushReason) :
    FlushReason.all.count reason = 1 := by
  cases reason <;> rfl

theorem count_errorTypes (kind : ErrorType) :
    ErrorType.all.count kind = 1 := by
  cases kind <;> rfl

------------------------------------------------------------
-- Buckets in Order
------------------------------------------------------------

/- Numbers that fit a word are in the order of their words. -/
theorem ofNat_le_ofNat
    {a b : Nat}
    (hOrder : a ≤ b)
    (hFits : b < UInt64.size) :
    UInt64.ofNat a ≤ UInt64.ofNat b := by
  rw [UInt64.le_iff_toNat_le,
    UInt64.toNat_ofNat_of_lt' (Nat.lt_of_le_of_lt hOrder hFits),
    UInt64.toNat_ofNat_of_lt' hFits]
  exact hOrder

/- What stays within a bound stays within every greater one. -/
theorem countWithin_mono
    {bound greater : Nat}
    (hOrder : bound ≤ greater)
    (ds : List Span) :
    countWithin bound ds ≤ countWithin greater ds := by
  refine List.countP_mono_left fun d _ hWithin => ?_
  exact decide_eq_true
    (Nat.le_trans (of_decide_eq_true hWithin) hOrder)

/-
  While the durations fit a word, the counts of the buckets
  rise with their bounds and never pass the number of all.
-/
theorem histogramOf_rising
    {ds : List Span}
    (hFits : ds.length < UInt64.size) :
    (durationBounds.zip (histogramOf ds).within).Pairwise
        (fun a b => a.1 < b.1 ∧ a.2 ≤ b.2) ∧
      ∀ n ∈ (histogramOf ds).within,
        n ≤ (histogramOf ds).unbounded := by
  have hBounds : durationBounds.Pairwise (· < ·) := by decide
  have hAll (b : Nat) : countWithin b ds ≤ ds.length :=
    List.countP_le_length
  constructor
  · simp only [histogramOf, List.zip_eq_zipWith,
      List.zipWith_map_right, List.zipWith_self]
    rw [List.pairwise_map]
    refine hBounds.imp fun hLess => ⟨hLess, ?_⟩
    exact ofNat_le_ofNat (countWithin_mono (Nat.le_of_lt hLess) ds)
      (Nat.lt_of_le_of_lt (hAll _) hFits)
  · intro n hMem
    rcases List.mem_map.mp hMem with ⟨b, -, rfl⟩
    exact ofNat_le_ofNat (hAll b) hFits

------------------------------------------------------------
-- Records in Any Order
------------------------------------------------------------

/- The counters by themselves: the gauges are at zero. -/
def withoutGauges (m : Metrics) : Metrics :=
  ((m.setBuffered 0 0).setActivePartitions 0).setConsumerLag 0

theorem total_perm
    {ns ns' : List UInt64}
    (hPerm : ns'.Perm ns) :
    total ns' = total ns :=
  (hPerm.map _).sum_nat

theorem countEach_perm
    {κ : Type} [DecidableEq κ]
    {ks ks' : List κ}
    (hPerm : ks'.Perm ks) :
    countEach ks' = countEach ks := by
  funext k
  exact congrArg UInt64.ofNat (hPerm.count_eq k)

theorem histogramOf_perm
    {ds ds' : List Span}
    (hPerm : ds'.Perm ds) :
    histogramOf ds' = histogramOf ds := by
  have hWithin (b : Nat) : countWithin b ds' = countWithin b ds :=
    hPerm.countP_eq _
  simp only [histogramOf, total_perm (hPerm.map Span.millis),
    hPerm.length_eq, hWithin]

/- The counters do not depend on the order of the records. -/
theorem withoutGauges_perm
    {rs rs' : List Record}
    (hPerm : rs'.Perm rs) :
    (ofRecords rs').withoutGauges =
      (ofRecords rs).withoutGauges := by
  have hSizes : (sizes rs').Perm (sizes rs) := hPerm.filterMap _
  have hErrors : (errorKinds rs').Perm (errorKinds rs) :=
    hPerm.filterMap _
  have hReasons : (reasons rs').Perm (reasons rs) :=
    hPerm.filterMap _
  have hBatches : (batches rs').Perm (batches rs) :=
    hPerm.filterMap _
  have hDurations :
      (commitDurations rs').Perm (commitDurations rs) :=
    hPerm.filterMap _
  have hFailed :
      (failedDurations rs').Perm (failedDurations rs) :=
    hPerm.filterMap _
  simp only [ofRecords, withoutGauges, setBuffered,
    setActivePartitions, setConsumerLag, hSizes.length_eq,
    total_perm hSizes, countEach_perm hErrors,
    hReasons.length_eq, countEach_perm hReasons,
    total_perm (hBatches.map _), hFailed.length_eq,
    hPerm.count_eq, histogramOf_perm hDurations]

------------------------------------------------------------
-- Totals
------------------------------------------------------------

/- Every commit that took its time was a flush or a failure. -/
theorem length_commitDurations (rs : List Record) :
    (commitDurations rs).length =
      (reasons rs).length + (failedDurations rs).length := by
  induction rs with
  | nil => rfl
  | cons r rs ih =>
      simp only [commitDurations, reasons, failedDurations] at ih
      cases r <;>
        simp [commitDurations, reasons, failedDurations, ih]
      · omega
      · omega

/-
  What metrics mean after a list of records.  They stand for
  the records; totals and parts, and the three ways of counting
  durations, agree; buckets are in order while the durations
  fit a word; and but for the gauges the order of the records
  does not matter.
-/
structure Totals (rs : List Record) (m : Metrics) : Prop where
  counted : m = ofRecords rs
  errorsTotal :
    (m.errors .kafka).toNat + (m.errors .buffer).toNat <
        UInt64.size →
      m.errorsTotal = .ok (.ofNat (errorKinds rs).length)
  flushes : m.flushes = (FlushReason.all.map m.flushesByReason).sum
  observed :
    m.durations.unbounded = m.durations.count ∧
      m.durations.count = m.flushes + m.commitFailures
  rising :
    (commitDurations rs).length < UInt64.size →
      (durationBounds.zip m.durations.within).Pairwise
          (fun a b => a.1 < b.1 ∧ a.2 ≤ b.2) ∧
        ∀ n ∈ m.durations.within, n ≤ m.durations.unbounded
  unordered :
    ∀ rs', rs'.Perm rs →
      (recordAll rs').withoutGauges = m.withoutGauges

/- Whatever is recorded, and in whatever order, the metrics say. -/
theorem totals_recordAll (rs : List Record) :
    (recordAll rs).Totals rs := by
  rw [recordAll_eq_ofRecords]
  refine ⟨rfl, ?_, ?_, ⟨rfl, ?_⟩, histogramOf_rising, ?_⟩
  · intro hFits
    have hSum := sum_countEach count_errorTypes (errorKinds rs)
    rw [← hSum]
    exact (if_pos hFits).trans (by simp [ofRecords, ErrorType.all])
  · exact (sum_countEach count_reasons (reasons rs)).symm
  · simp only [ofRecords, histogramOf, length_commitDurations,
      UInt64.ofNat_add]
  · intro rs' hPerm
    rw [recordAll_eq_ofRecords]
    exact withoutGauges_perm hPerm

end Metrics

end FragmentSink
