import FragmentSink.Proofs.Worker.Flush

/-
  What became of the fragments that were delivered, read off a
  history.

  A fragment is pending from its delivery on.  An acknowledged
  commit, a failed commit and an assignment each take pending
  fragments away, and every event leaves each fragment in
  exactly one place.

  Main declarations:
    * `Ledger`
    * `ledger`
    * `Ledger.Complete`
    * `complete_ledger`
-/

namespace FragmentSink

variable {p q : PartitionKey}
variable {h h' : History}

------------------------------------------------------------
-- Ledgers
------------------------------------------------------------

/-
  The fragments that were delivered, those still pending, and
  those that were stored and acknowledged, that were in a batch
  that failed, or whose partition was given away.  The
  acknowledged commits and the rewinds are counted.
-/
structure Ledger where
  delivered : List Fragment
  pending : List Fragment
  flushed : List Fragment
  failed : List Fragment
  released : List Fragment
  commits : Nat
  rewinds : Nat

namespace Ledger

/- The ledger before anything has happened. -/
def empty : Ledger :=
  ⟨[], [], [], [], [], 0, 0⟩

/- The pending fragments whose partitions pass a test. -/
def taken
    (l : Ledger)
    (test : PartitionKey → Bool) : List Fragment :=
  l.pending.filter fun f => test f.partitionKey

/- The fragments that are left when these are taken. -/
def left
    (l : Ledger)
    (test : PartitionKey → Bool) : List Fragment :=
  l.taken fun p => !test p

/- The pending fragments of a partition. -/
def pendingOf (l : Ledger) (p : PartitionKey) : List Fragment :=
  l.taken (· = p)

/- A fragment is delivered, and pending. -/
def deliver (l : Ledger) (f : Fragment) : Ledger :=
  { l with
    delivered := l.delivered ++ [f]
    pending := l.pending ++ [f] }

/- What is pending of a partition was stored and acknowledged. -/
def flush (l : Ledger) (p : PartitionKey) : Ledger :=
  { l with
    pending := l.left (· = p)
    flushed := l.flushed ++ l.pendingOf p
    commits := l.commits + 1 }

/- What is pending of a partition was in a batch that failed. -/
def fail (l : Ledger) (p : PartitionKey) : Ledger :=
  { l with
    pending := l.left (· = p)
    failed := l.failed ++ l.pendingOf p }

/- What is pending of other than the listed partitions is dropped. -/
def release (l : Ledger) (ps : List PartitionKey) : Ledger :=
  { l with
    pending := l.taken ps.contains
    released := l.released ++ l.left ps.contains }

/-
  The ledger after an event.  A commit ends with its first bad
  upload, so a batch fails once.
-/
def after (l : Ledger) : Event → Ledger
| .poll (.done (.fragment f)) => l.deliver f
| .upload f .refused => l.fail f.partitionKey
| .upload f .expired => l.fail f.partitionKey
| .commit t (.done (.ok _)) => l.flush t.key
| .rewind _ _ (.ok _) => { l with rewinds := l.rewinds + 1 }
| .assigned (.ok ps) => l.release ps
| _ => l

end Ledger

/- The ledger of a history. -/
def ledger : History → Ledger
| [] => .empty
| e :: h => (ledger h).after e

------------------------------------------------------------
-- Complete Ledgers
------------------------------------------------------------

namespace Ledger

variable {l : Ledger}

/- Every fragment that was delivered is in exactly one place. -/
def Complete (l : Ledger) : Prop :=
  l.delivered.Perm
    (l.flushed ++ l.pending ++ l.failed ++ l.released)

/- What is taken and what is left is what was pending. -/
theorem taken_append_left_perm
    (l : Ledger)
    (test : PartitionKey → Bool) :
    (l.taken test ++ l.left test).Perm l.pending :=
  List.filter_append_perm _ l.pending

theorem Complete.deliver
    (hComplete : l.Complete)
    (f : Fragment) :
    (l.deliver f).Complete := by
  unfold Complete at hComplete ⊢
  rw [List.perm_iff_count] at hComplete ⊢
  intro g
  have hCount := hComplete g
  simp only [Ledger.deliver, List.count_append] at hCount ⊢
  omega

/- Fragments that are taken have to be put in one place. -/
theorem Complete.move
    {l' : Ledger}
    (hComplete : l.Complete)
    (test : PartitionKey → Bool)
    (hDelivered : l'.delivered = l.delivered)
    (hLeft : l'.pending = l.left test)
    (hPlaced :
      ∀ f,
        (l'.flushed ++ l'.failed ++ l'.released).count f =
          (l.flushed ++ l.failed ++ l.released).count f +
            (l.taken test).count f) :
    l'.Complete := by
  have hSplit := l.taken_append_left_perm test
  unfold Complete at hComplete ⊢
  rw [List.perm_iff_count] at hComplete hSplit ⊢
  intro f
  have hCount := hComplete f
  have hParts := hSplit f
  have hPlace := hPlaced f
  rw [hDelivered, hLeft]
  simp only [List.count_append] at hCount hParts hPlace ⊢
  omega

theorem Complete.flush
    (hComplete : l.Complete)
    (p : PartitionKey) :
    (l.flush p).Complete := by
  refine hComplete.move (· = p) rfl rfl fun f => ?_
  simp only [Ledger.flush, pendingOf, List.count_append]
  omega

theorem Complete.fail
    (hComplete : l.Complete)
    (p : PartitionKey) :
    (l.fail p).Complete := by
  refine hComplete.move (· = p) rfl rfl fun f => ?_
  simp only [Ledger.fail, pendingOf, List.count_append]
  omega

theorem Complete.release
    (hComplete : l.Complete)
    (ps : List PartitionKey) :
    (l.release ps).Complete := by
  let given (p : PartitionKey) : Bool := !ps.contains p
  have hLeft : l.taken ps.contains = l.left given := by
    simp [left, taken, given]
  refine hComplete.move given rfl hLeft fun f => ?_
  have hTaken : l.left ps.contains = l.taken given := rfl
  simp only [Ledger.release, hTaken, List.count_append]
  omega

/- Events move fragments, and lose none. -/
theorem Complete.after
    (hComplete : l.Complete)
    (e : Event) :
    (l.after e).Complete := by
  unfold Ledger.after
  split
  case h_1 f => exact hComplete.deliver f
  case h_2 f => exact hComplete.fail f.partitionKey
  case h_3 f => exact hComplete.fail f.partitionKey
  case h_4 t _ => exact hComplete.flush t.key
  case h_5 => exact hComplete
  case h_6 ps => exact hComplete.release ps
  case h_7 => exact hComplete

end Ledger

theorem complete_ledger (h : History) : (ledger h).Complete := by
  induction h with
  | nil => exact .nil
  | cons e h ih => exact ih.after e

------------------------------------------------------------
-- Pending of One Partition
------------------------------------------------------------

namespace Ledger

variable {l : Ledger}

theorem pendingOf_deliver
    (l : Ledger)
    (f : Fragment)
    (q : PartitionKey) :
    (l.deliver f).pendingOf q =
      l.pendingOf q ++ if f.partitionKey = q then [f] else [] := by
  by_cases hKey : f.partitionKey = q <;>
    simp [pendingOf, taken, deliver, hKey]

/- Taking some partitions takes all of these and nothing else. -/
theorem filter_taken
    (l : Ledger)
    (test : PartitionKey → Bool)
    (q : PartitionKey) :
    ((l.taken test).filter fun f => f.partitionKey = q) =
      if test q then l.pendingOf q else [] := by
  rw [taken, List.filter_filter]
  by_cases hTest : test q = true
  · rw [if_pos hTest]
    refine List.filter_congr fun f _ => ?_
    by_cases hKey : f.partitionKey = q <;> simp [hKey, hTest]
  · rw [if_neg hTest, List.filter_eq_nil_iff]
    intro f _
    by_cases hKey : f.partitionKey = q <;> simp [hKey, hTest]

/- Where one partition's are taken, those of the others are left. -/
theorem filter_left
    (l : Ledger)
    (p q : PartitionKey) :
    ((l.left (· = p)).filter fun f => f.partitionKey = q) =
      if p = q then [] else l.pendingOf q := by
  rw [left, filter_taken]
  by_cases hKey : p = q
  · simp [hKey]
  · simp [hKey, Ne.symm hKey]

theorem pendingOf_flush
    (l : Ledger)
    (p q : PartitionKey) :
    (l.flush p).pendingOf q =
      if p = q then [] else l.pendingOf q :=
  l.filter_left p q

theorem pendingOf_fail
    (l : Ledger)
    (p q : PartitionKey) :
    (l.fail p).pendingOf q =
      if p = q then [] else l.pendingOf q :=
  l.filter_left p q

theorem pendingOf_release
    (l : Ledger)
    (ps : List PartitionKey)
    (q : PartitionKey) :
    (l.release ps).pendingOf q =
      if ps.contains q then l.pendingOf q else [] :=
  l.filter_taken ps.contains q

/- What is pending is determined partition by partition. -/
theorem perm_of_pendingOf
    {fs : List Fragment}
    (hPending :
      ∀ p, l.pendingOf p = fs.filter fun f => f.partitionKey = p) :
    l.pending.Perm fs := by
  rw [List.perm_iff_count]
  intro f
  have hSame := congrArg (List.count f) (hPending f.partitionKey)
  rw [pendingOf, taken, List.count_filter (by simp),
    List.count_filter (by simp)] at hSame
  exact hSame

end Ledger

------------------------------------------------------------
-- Ledgers of Flushes
------------------------------------------------------------

/- Stored uploads leave the ledger as it is. -/
theorem ledger_storedRow_append
    (fs : List Fragment)
    (h : History) :
    ledger (storedRow fs ++ h) = ledger h := by
  induction fs generalizing h with
  | nil => rfl
  | cons f fs ih =>
      rw [storedRow, List.append_assoc, ih]
      rfl

/- A batch that fails is put in its place. -/
theorem Uploaded.ledger_of_failed
    {batch : List Fragment}
    (hUploaded : Uploaded batch h .failed h')
    (hKeyed : ∀ f ∈ batch, f.partitionKey = p) :
    ledger h' = (ledger h).fail p := by
  cases hUploaded with
  | failed before f after _ ending hEnding =>
      have hKey : f.partitionKey = p := hKeyed f (by simp)
      rw [ledger, ledger_storedRow_append, ← hKey]
      cases ending with
      | stored => cases hEnding
      | refused => rfl
      | expired => rfl
      | dropped => cases hEnding

/- The ledger after a tick of a partition that ends in some way. -/
def Ledger.ticked
    (l : Ledger)
    (p : PartitionKey) : FlushEnd → Ledger
| .failed => l.fail p
| _ => l

namespace Worker

variable {w w' : Worker}
variable {answer : FlushEnd}

theorem Flushed.ledger_eq
    {reason : FlushReason}
    (hFlushed : w.Flushed reason h answer w' h')
    (hKeyed : ∀ f ∈ w.pending, f.partitionKey = p)
    (hAnswer : answer ≠ .dropped) :
    ledger h' = (ledger h).ticked p answer := by
  cases hFlushed with
  | empty => rfl
  | durable first rest duration now hPending =>
      exact ledger_storedRow_append _ h
  | failed first rest uploads now hPending hUploaded =>
      rw [hPending] at hKeyed
      exact hUploaded.ledger_of_failed hKeyed
  | dropped => exact absurd rfl hAnswer

/- A tick changes the ledger only where its batch fails. -/
theorem Ticked.ledger_eq
    (hTicked : w.Ticked h answer w' h')
    (hKeyed : ∀ f ∈ w.pending, f.partitionKey = p)
    (hAnswer : answer ≠ .dropped) :
    ledger h' = (ledger h).ticked p answer := by
  cases hTicked with
  | idle => rfl
  | ready now reason hReason hFlushed =>
      exact hFlushed.ledger_eq hKeyed hAnswer

/- A committed batch counts the fragments that were pending. -/
theorem Ticked.fragments_eq
    {b : CommittedBatch}
    (hTicked : w.Ticked h (.committed b) w' h') :
    b.fragments = UInt64.ofNat w.pending.length := by
  cases hTicked with
  | ready now reason hReason hFlushed =>
      cases hFlushed with
      | durable first rest duration now hPending =>
          rw [hPending]
          rfl

end Worker

end FragmentSink
