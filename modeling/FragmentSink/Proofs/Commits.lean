import FragmentSink.Proofs.Journal

/-
  The commits of one partition, read off a history.

  Every commit stands for the batch that was stored directly
  before it.  Those that were acknowledged, one after the
  other, are what the partition is done with.

  Main declarations:
    * `History.commitCalls`
    * `History.doneBatches`
    * `History.lastDone`
    * `Journal.Tiled`
-/

namespace FragmentSink

------------------------------------------------------------
-- Commit Calls
------------------------------------------------------------

/- A commit, the batch that was stored before it, and its answer. -/
structure CommitCall where
  batch : List Fragment
  token : OffsetToken
  answer : Awaited (Except Error Unit)

/- Whether a commit was answered, and well. -/
def CommitCall.isDone (call : CommitCall) : Bool :=
  match call.answer with
  | .done (.ok _) => true
  | _ => false

namespace History

variable {p : PartitionKey}
variable {h h' : History}

/- The commits of a partition, oldest first. -/
def commitCalls (p : PartitionKey) : History → List CommitCall
| [] => []
| .commit t a :: h =>
    if t.key = p then
      commitCalls p h ++ [⟨rowBefore h, t, a⟩]
    else
      commitCalls p h
| _ :: h => commitCalls p h

/- The acknowledged commits of a partition, oldest first. -/
def doneCalls (p : PartitionKey) (h : History) : List CommitCall :=
  (commitCalls p h).filter CommitCall.isDone

/- The batches a partition is done with, one after the other. -/
def doneBatches
    (p : PartitionKey)
    (h : History) : List (List Fragment) :=
  (doneCalls p h).map (·.batch)

/- The last acknowledged offset of a partition, if there is one. -/
def lastDone (p : PartitionKey) (h : History) : Option Int64 :=
  (doneCalls p h).getLast?.map (·.token.offset)

theorem commitCalls_cons
    {e : Event}
    (hEvent : ¬ e.Steers p) :
    commitCalls p (e :: h) = commitCalls p h := by
  cases e with
  | commit => exact if_neg hEvent
  | _ => rfl

/- Events that do not steer a partition commit nothing of it. -/
theorem commitCalls_grows
    (hGrows : Grows (fun e => ¬ e.Steers p) h h') :
    commitCalls p h' = commitCalls p h :=
  hGrows.induction (motive := fun g =>
      commitCalls p g = commitCalls p h) rfl
    fun _ _ hEvent hEq => (commitCalls_cons hEvent).trans hEq

theorem commitCalls_commit
    {t : OffsetToken}
    (hKey : t.key = p)
    (a : Awaited (Except Error Unit)) :
    commitCalls p (.commit t a :: h) =
      commitCalls p h ++ [⟨rowBefore h, t, a⟩] :=
  if_pos hKey

end History

------------------------------------------------------------
-- Tiled Journals
------------------------------------------------------------

namespace Journal

open History

variable {p : PartitionKey}
variable {j : Journal p}
variable {h h' : History}
variable {pending rest : List Fragment}

/-
  The batches a partition is done with, the pending fragments
  and the rest make up its journal.  Every commit names the
  last fragment of its batch, each later than the one before,
  and all of them earlier than what is pending.
-/
structure Tiled
    (j : Journal p)
    (h : History)
    (pending rest : List Fragment) : Prop where
  split :
    (doneBatches p h).flatten ++ (pending ++ rest) = j.fragments
  named :
    ∀ call ∈ commitCalls p h,
      call.batch.getLast?.map (·.token) = some call.token
  increasing :
    (commitCalls p h).Pairwise fun c d =>
      c.token.offset < d.token.offset
  before :
    ∀ call ∈ commitCalls p h, ∀ f ∈ pending,
      call.token.offset < f.offset

/- What is done and what is pending only depends on the commits. -/
theorem Tiled.of_commitCalls_eq
    (hTiled : j.Tiled h pending rest)
    (hCalls : commitCalls p h' = commitCalls p h) :
    j.Tiled h' pending rest := by
  have hBatches : doneBatches p h' = doneBatches p h := by
    rw [doneBatches, doneCalls, hCalls]
    rfl
  refine ⟨?_, ?_, ?_, ?_⟩
  · rw [hBatches]
    exact hTiled.split
  · rw [hCalls]
    exact hTiled.named
  · rw [hCalls]
    exact hTiled.increasing
  · rw [hCalls]
    exact hTiled.before

/- Nothing has been done at the start. -/
theorem tiled_nil (j : Journal p) : j.Tiled [] [] j.fragments :=
  ⟨rfl, nofun, .nil, nofun⟩

/- Pending fragments may be given up. -/
theorem Tiled.giveUp
    (hTiled : j.Tiled h pending rest) :
    j.Tiled h [] (pending ++ rest) :=
  ⟨hTiled.split, hTiled.named, hTiled.increasing, nofun⟩

/- What is done comes before what is not. -/
theorem Tiled.lt
    {f g : Fragment}
    (hTiled : j.Tiled h pending rest)
    (hDone : f ∈ (doneBatches p h).flatten)
    (hOpen : g ∈ pending ++ rest) :
    f.offset < g.offset := by
  have hIncreasing := j.increasing
  rw [← hTiled.split, List.pairwise_append] at hIncreasing
  exact hIncreasing.2.2 f hDone g hOpen

/- An acknowledged commit names a fragment that is done. -/
theorem Tiled.exists_done
    {call : CommitCall}
    (hTiled : j.Tiled h pending rest)
    (hCall : call ∈ commitCalls p h)
    (hDone : call.isDone = true) :
    ∃ f ∈ (doneBatches p h).flatten, f.token = call.token := by
  have hNamed := hTiled.named call hCall
  rcases hLast : call.batch.getLast? with _ | f
  · simp [hLast] at hNamed
  · rw [hLast] at hNamed
    refine ⟨f, ?_, Option.some.inj hNamed⟩
    apply List.mem_flatten.mpr
    refine ⟨call.batch, ?_, List.mem_of_getLast? hLast⟩
    exact List.mem_map.mpr
      ⟨call, List.mem_filter.mpr ⟨hCall, hDone⟩, rfl⟩

/- A fragment that is next in line becomes pending. -/
theorem Tiled.deliver
    {f : Fragment}
    (hTiled : j.Tiled h pending (f :: rest))
    (hAllDone :
      ∀ call ∈ commitCalls p h, call.isDone = true) :
    j.Tiled h (pending ++ [f]) rest := by
  refine ⟨?_, hTiled.named, hTiled.increasing, ?_⟩
  · rw [← hTiled.split]
    simp
  · intro call hCall g hMember
    rcases List.mem_append.mp hMember with hOld | hNew
    · exact hTiled.before call hCall g hOld
    · rw [List.mem_singleton.mp hNew]
      rcases hTiled.exists_done hCall (hAllDone call hCall) with
        ⟨d, hDone, hToken⟩
      have hLess := hTiled.lt (g := f) hDone (by simp)
      rw [← hToken]
      exact hLess

section Commit

variable {t : OffsetToken}
variable {a : Awaited (Except Error Unit)}

/- A commit of what is pending names a fragment later than all before. -/
theorem Tiled.commit_calls
    (hTiled : j.Tiled h pending rest)
    (hKey : t.key = p)
    (hRow : rowBefore h = pending)
    (hLast : pending.getLast?.map (·.token) = some t) :
    (∀ call ∈ commitCalls p (.commit t a :: h),
        call.batch.getLast?.map (·.token) = some call.token) ∧
      (commitCalls p (.commit t a :: h)).Pairwise fun c d =>
        c.token.offset < d.token.offset := by
  have hNewest :
      ∀ call ∈ commitCalls p h,
        call.token.offset < t.offset := by
    intro call hCall
    rcases hFound : pending.getLast? with _ | f
    · simp [hFound] at hLast
    · rw [hFound] at hLast
      cases Option.some.inj hLast
      exact hTiled.before call hCall f
        (List.mem_of_getLast? hFound)
  rw [commitCalls_commit hKey, hRow]
  constructor
  · intro call hCall
    rcases List.mem_append.mp hCall with hOld | hNew
    · exact hTiled.named call hOld
    · rw [List.mem_singleton.mp hNew]
      exact hLast
  · refine List.pairwise_append.mpr
      ⟨hTiled.increasing, List.pairwise_singleton _ _, ?_⟩
    intro call hCall new hNew
    rw [List.mem_singleton.mp hNew]
    exact hNewest call hCall

theorem doneBatches_commit
    (hKey : t.key = p)
    (hDone : a = .done (.ok ())) :
    doneBatches p (.commit t a :: h) =
      doneBatches p h ++ [rowBefore h] := by
  subst hDone
  rw [doneBatches, doneCalls, commitCalls_commit hKey,
    List.filter_append, List.map_append]
  rfl

theorem doneCalls_commit_of_not_done
    (hKey : t.key = p)
    (hDone : a ≠ .done (.ok ())) :
    doneCalls p (.commit t a :: h) = doneCalls p h := by
  rcases a with (cause | ⟨⟩) | _
  · simp [doneCalls, commitCalls_commit hKey, CommitCall.isDone]
  · exact absurd rfl hDone
  · simp [doneCalls, commitCalls_commit hKey, CommitCall.isDone]

/- An acknowledged commit is done with what was pending. -/
theorem Tiled.commit
    (hTiled : j.Tiled h pending rest)
    (hKey : t.key = p)
    (hRow : rowBefore h = pending)
    (hLast : pending.getLast?.map (·.token) = some t) :
    j.Tiled (.commit t (.done (.ok ())) :: h) [] rest := by
  rcases hTiled.commit_calls hKey hRow hLast with
    ⟨hNamed, hIncreasing⟩
  refine ⟨?_, hNamed, hIncreasing, nofun⟩
  rw [doneBatches_commit hKey rfl, hRow, ← hTiled.split]
  simp

/- Any other commit gives up what was pending. -/
theorem Tiled.commit_of_not_done
    (hTiled : j.Tiled h pending rest)
    (hKey : t.key = p)
    (hRow : rowBefore h = pending)
    (hLast : pending.getLast?.map (·.token) = some t)
    (hDone : a ≠ .done (.ok ())) :
    j.Tiled (.commit t a :: h) [] (pending ++ rest) := by
  rcases hTiled.commit_calls hKey hRow hLast with
    ⟨hNamed, hIncreasing⟩
  refine ⟨?_, hNamed, hIncreasing, nofun⟩
  rw [doneBatches, doneCalls_commit_of_not_done hKey hDone]
  exact hTiled.split

end Commit

/- The last acknowledged offset is that of the last fragment done. -/
theorem Tiled.lastDone_eq
    (hTiled : j.Tiled h pending rest) :
    lastDone p h =
      (doneBatches p h).flatten.getLast?.map (·.offset) := by
  unfold lastDone doneBatches
  rcases List.eq_nil_or_concat (doneCalls p h) with
    hNone | ⟨before, call, hCalls⟩
  · simp [hNone]
  · have hMember : call ∈ doneCalls p h := by simp [hCalls]
    have hNamed := hTiled.named call (List.mem_filter.mp hMember).1
    rcases hLast : call.batch.getLast? with _ | f
    · simp [hLast] at hNamed
    · rw [hLast] at hNamed
      have hToken : f.token = call.token := Option.some.inj hNamed
      simp [hCalls, hLast, Fragment.offset, hToken]

/- A source sent back to the first pending fragment delivers them all. -/
theorem Tiled.since_first
    {first : Fragment}
    {more : List Fragment}
    (hTiled : j.Tiled h (first :: more) rest) :
    j.since first.offset = (first :: more) ++ rest := by
  unfold since
  rw [← hTiled.split, List.dropWhile_append_of_pos]
  · apply List.dropWhile_cons_of_neg
    simp [Int64.lt_irrefl]
  · intro f hDone
    exact decide_eq_true (hTiled.lt hDone List.mem_cons_self)

/- The journal after an acknowledged offset, or all of it. -/
def afterDone (j : Journal p) : Option Int64 → List Fragment
| none => j.fragments
| some offset => j.past offset

/- What is pending or to come is what follows the acknowledged offset. -/
theorem Tiled.open_eq
    (hTiled : j.Tiled h pending rest) :
    pending ++ rest = j.afterDone (lastDone p h) := by
  rw [hTiled.lastDone_eq]
  rcases hLast : (doneBatches p h).flatten.getLast? with _ | f
  · have hSplit := hTiled.split
    rw [List.getLast?_eq_none_iff.mp hLast] at hSplit
    exact hSplit
  · have hIncreasing := j.increasing
    rw [← hTiled.split, List.pairwise_append] at hIncreasing
    have hDropped :
        ∀ g ∈ (doneBatches p h).flatten,
          decide (g.offset ≤ f.offset) = true := by
      rcases List.getLast?_eq_some_iff.mp hLast with
        ⟨before, hDone⟩
      rw [hDone, List.pairwise_append] at hIncreasing
      intro g hMember
      rw [hDone] at hMember
      rcases List.mem_append.mp hMember with hBefore | hEq
      · have hLess := hIncreasing.1.2.2 g hBefore f (by simp)
        exact decide_eq_true (Int64.le_of_lt hLess)
      · rw [List.mem_singleton.mp hEq]
        exact decide_eq_true (Int64.le_refl f.offset)
    have hStays :
        (pending ++ rest).dropWhile (·.offset ≤ f.offset) =
          pending ++ rest := by
      rcases hOpen : pending ++ rest with _ | ⟨first, others⟩
      · rfl
      · have hLess :=
          hTiled.lt (List.mem_of_getLast? hLast)
            (hOpen ▸ List.mem_cons_self)
        apply List.dropWhile_cons_of_neg
        simpa using hLess
    simp only [Option.map_some, afterDone, past]
    rw [← hTiled.split, List.dropWhile_append_of_pos hDropped,
      hStays]

end Journal

end FragmentSink
