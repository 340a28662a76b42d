import FragmentSink.Proofs.Journal

/-
  Histories whose commits are covered.

  A commit is covered when everything of its partition up to
  the committed offset has been stored before.  What a source
  has passed by is then stored or pending, event by event, and
  that keeps the next commit covered.

  Main declarations:
    * `Journal.Covers`
    * `Journal.CommitsCovered`
    * `Journal.Safe`
    * `Journal.Delivering`
-/

namespace FragmentSink

variable {p : PartitionKey}
variable {j : Journal p}
variable {h h' : History}
variable {pending : List Fragment}

------------------------------------------------------------
-- Covered Commits
------------------------------------------------------------

namespace Journal

/-
  A commit covers its partition when its offset is in the
  journal and everything up to it has been stored.
-/
structure Covers
    (j : Journal p)
    (t : OffsetToken)
    (h : History) : Prop where
  known : ∃ f ∈ j.fragments, f.token = t
  stored :
    ∀ f ∈ j.fragments, f.offset ≤ t.offset →
      .upload f .stored ∈ h

/- Every commit of a partition covers it. -/
def CommitsCovered (j : Journal p) : History → Prop
| [] => True
| .commit t _ :: h =>
    (t.key = p → j.Covers t h) ∧ j.CommitsCovered h
| _ :: h => j.CommitsCovered h

theorem CommitsCovered.tail
    {e : Event}
    (hCovered : j.CommitsCovered (e :: h)) :
    j.CommitsCovered h := by
  cases e with
  | commit => exact hCovered.2
  | _ => exact hCovered

theorem CommitsCovered.of_suffix
    (hCovered : j.CommitsCovered h')
    (hSuffix : h <:+ h') :
    j.CommitsCovered h := by
  rcases hSuffix with ⟨es, rfl⟩
  induction es with
  | nil => exact hCovered
  | cons e es ih => exact ih hCovered.tail

/- Events that do not steer a partition commit nothing of it. -/
theorem CommitsCovered.cons
    {e : Event}
    (hCovered : j.CommitsCovered h)
    (hEvent : ¬ e.Steers p) :
    j.CommitsCovered (e :: h) := by
  cases e with
  | commit t a => exact ⟨fun hKey => absurd hKey hEvent, hCovered⟩
  | _ => exact hCovered

/- What a history's commits cover is stored before them. -/
theorem CommitsCovered.stored_of_mem
    {t : OffsetToken}
    {a : Awaited (Except Error Unit)}
    {f : Fragment}
    (hCovered : j.CommitsCovered h)
    (hCommit : .commit t a ∈ h)
    (hKey : t.key = p)
    (hFragment : f ∈ j.fragments)
    (hOffset : f.offset ≤ t.offset) :
    .upload f .stored ∈ h := by
  rcases List.append_of_mem hCommit with ⟨later, earlier, rfl⟩
  have hHere :=
    hCovered.of_suffix (List.suffix_append later _)
  have hStored := (hHere.1 hKey).stored f hFragment hOffset
  exact List.mem_append_right _ (List.mem_cons_of_mem _ hStored)

/- A source that resumes skips only what has been stored. -/
theorem Follows.mem_resume
    {c : Cursor}
    {f : Fragment}
    (hFollows : j.Follows h c)
    (hCovered : j.CommitsCovered h)
    (hFragment : f ∈ j.fragments) :
    f ∈ c.resume ∨ .upload f .stored ∈ h := by
  induction hFollows with
  | start => exact .inl hFragment
  | @event h c e hFollows hBrings ih =>
      have hBefore :
          f ∈ c.resume ∨ .upload f .stored ∈ e :: h :=
        (ih hCovered.tail).imp_right (List.mem_cons_of_mem _)
      rcases j.resume_next c e with hKept | ⟨t, a, rfl, hKey, hPast⟩
      · rw [hKept]
        exact hBefore
      · rw [hPast]
        by_cases hOffset : f.offset ≤ t.offset
        · exact .inr (hCovered.stored_of_mem
            List.mem_cons_self hKey hFragment hOffset)
        · exact .inl (mem_past hFragment hOffset)
  | rebalanced _ ih => exact ih hCovered
  | @counted h c t a _ hCommit hKey ih =>
      by_cases hOffset : f.offset ≤ t.offset
      · exact .inr (hCovered.stored_of_mem
          hCommit hKey hFragment hOffset)
      · exact .inl (mem_past hFragment hOffset)
  | strayed _ _ _ ih =>
      exact (ih hCovered).imp_right (List.mem_cons_of_mem _)

------------------------------------------------------------
-- Nothing Is Skipped
------------------------------------------------------------

/- Whatever a source has passed by is stored or pending. -/
def Kept
    (j : Journal p)
    (pending : List Fragment)
    (h : History)
    (c : Cursor) : Prop :=
  ∀ f ∈ j.fragments,
    f ∈ c.unread ∨ .upload f .stored ∈ h ∨ f ∈ pending

/-
  A source that changes hands passes nothing by, so only what
  an event itself does to its place has to be looked at.
-/
theorem Follows.kept_cons
    {e : Event}
    {c : Cursor}
    (hFollows : j.Follows (e :: h) c)
    (hCovered : j.CommitsCovered (e :: h))
    (hSent : ∀ offset cause, e ≠ .rewind p offset (.error cause))
    (hEvent :
      ∀ c, j.Follows h c → c.Brings p e →
        j.Kept pending (e :: h) (j.next c e)) :
    j.Kept pending (e :: h) c := by
  generalize hAll : e :: h = all at hFollows
  induction hFollows with
  | start => cases hAll
  | event e hBefore hBrings =>
      cases hAll
      exact hEvent _ hBefore hBrings
  | @rebalanced all c hFollows ih =>
      subst hAll
      intro f hFragment
      have hResume := hFollows.mem_resume hCovered hFragment
      exact hResume.imp_right .inl
  | counted _ _ _ ih => exact ih hAll
  | strayed offset cause =>
      cases hAll
      exact absurd rfl (hSent offset cause)

/-
  What an engine that has stopped still promises: its commits
  are covered, and what is pending can be committed once it is
  stored.
-/
structure Safe
    (j : Journal p)
    (pending : List Fragment)
    (h : History) : Prop where
  covered : j.CommitsCovered h
  known : ∀ g ∈ pending, g ∈ j.fragments
  upTo :
    ∀ g ∈ pending, ∀ f ∈ j.fragments,
      f.offset ≤ g.offset →
        .upload f .stored ∈ h ∨ f ∈ pending

/-
  What a running engine promises besides: what comes before
  the pending fragments is stored, and nothing is skipped
  wherever the source may stand.
-/
structure Delivering
    (j : Journal p)
    (pending : List Fragment)
    (h : History) : Prop extends j.Safe pending h where
  before :
    ∀ g, pending.head? = some g →
      ∀ f ∈ j.fragments, f.offset < g.offset →
        .upload f .stored ∈ h
  kept : ∀ c, j.Follows h c → j.Kept pending h c

theorem Safe.cons
    {e : Event}
    (hSafe : j.Safe pending h)
    (hEvent : ¬ e.Steers p) :
    j.Safe pending (e :: h) := by
  refine ⟨hSafe.covered.cons hEvent, hSafe.known, ?_⟩
  intro g hg f hFragment hOffset
  exact (hSafe.upTo g hg f hFragment hOffset).imp_left
    (List.mem_cons_of_mem e)

theorem Delivering.cons
    {e : Event}
    (hDelivering : j.Delivering pending h)
    (hEvent : ¬ e.Steers p) :
    j.Delivering pending (e :: h) := by
  have hSafe := hDelivering.toSafe.cons hEvent
  refine ⟨hSafe, ?_, ?_⟩
  · intro g hg f hFragment hOffset
    exact List.mem_cons_of_mem e
      (hDelivering.before g hg f hFragment hOffset)
  · intro c hFollows
    apply hFollows.kept_cons hSafe.covered
    · rintro offset cause rfl
      exact hEvent rfl
    · intro c hBefore _ f hFragment
      rw [j.next_of_not_steers c hEvent]
      exact (hDelivering.kept c hBefore f hFragment).imp_right
        (Or.imp_left (List.mem_cons_of_mem e))

/- Events that do not steer a partition keep every promise. -/
theorem Safe.grows
    (hSafe : j.Safe pending h)
    (hGrows : Grows (fun e => ¬ e.Steers p) h h') :
    j.Safe pending h' :=
  hGrows.induction hSafe fun _ _ hEvent hKept =>
    hKept.cons hEvent

theorem Delivering.grows
    (hDelivering : j.Delivering pending h)
    (hGrows : Grows (fun e => ¬ e.Steers p) h h') :
    j.Delivering pending h' :=
  hGrows.induction hDelivering fun _ _ hEvent hKept =>
    hKept.cons hEvent

/- An empty buffer has nothing to promise but its commits. -/
theorem Safe.of_covered
    (hCovered : j.CommitsCovered h) :
    j.Safe [] h :=
  ⟨hCovered, nofun, nofun⟩

/- Pending fragments that are stored need not be pending. -/
theorem Delivering.of_stored
    (hDelivering : j.Delivering pending h)
    (hStored : ∀ f ∈ pending, .upload f .stored ∈ h) :
    j.Delivering [] h := by
  refine ⟨.of_covered hDelivering.covered, nofun, ?_⟩
  intro c hFollows f hFragment
  rcases hDelivering.kept c hFollows f hFragment with
    hUnread | hDone | hPending
  · exact .inl hUnread
  · exact .inr (.inl hDone)
  · exact .inr (.inl (hStored f hPending))

/- A stored batch may be committed up to any of its fragments. -/
theorem Safe.covers
    {g : Fragment}
    (hSafe : j.Safe pending h)
    (hMember : g ∈ pending)
    (hStored : ∀ f ∈ pending, .upload f .stored ∈ h) :
    j.Covers g.token h := by
  refine ⟨⟨g, hSafe.known g hMember, rfl⟩, ?_⟩
  intro f hFragment hOffset
  rcases hSafe.upTo g hMember f hFragment hOffset with
    hDone | hPending
  · exact hDone
  · exact hStored f hPending

/- A commit that covers its partition keeps the promises. -/
theorem CommitsCovered.commit
    {t : OffsetToken}
    (hCovered : j.CommitsCovered h)
    (hCovers : j.Covers t h)
    (a : Awaited (Except Error Unit)) :
    j.CommitsCovered (.commit t a :: h) :=
  ⟨fun _ => hCovers, hCovered⟩

theorem Delivering.commit
    {t : OffsetToken}
    (hDelivering : j.Delivering [] h)
    (hCovers : j.Covers t h)
    (a : Awaited (Except Error Unit)) :
    j.Delivering [] (.commit t a :: h) := by
  have hCovered := hDelivering.covered.commit hCovers a
  refine ⟨.of_covered hCovered, nofun, ?_⟩
  intro c hFollows
  apply hFollows.kept_cons hCovered nofun
  intro c hBefore _ f hFragment
  rw [unread_next_commit]
  exact (hDelivering.kept c hBefore f hFragment).imp_right
    (Or.imp_left (List.mem_cons_of_mem _))

/- A rewind makes up for what is no longer pending. -/
theorem Delivering.of_rewind
    {offset : Int64}
    (hCovered : j.CommitsCovered h)
    (hStored :
      ∀ f ∈ j.fragments, f.offset < offset →
        .upload f .stored ∈ h) :
    j.Delivering [] (.rewind p offset (.ok ()) :: h) := by
  refine ⟨.of_covered hCovered, nofun, ?_⟩
  intro c hFollows
  apply hFollows.kept_cons hCovered nofun
  intro c _ _ f hFragment
  have hUnread :
      (j.next c (.rewind p offset (.ok ()))).unread =
        j.since offset := by
    simp [next]
  rw [hUnread]
  by_cases hOffset : f.offset < offset
  · exact .inr (.inl (List.mem_cons_of_mem _
      (hStored f hFragment hOffset)))
  · exact .inl (mem_since hFragment hOffset)

/- A delivered fragment becomes pending, and nothing is passed by. -/
theorem Delivering.deliver
    {f : Fragment}
    {c : Cursor}
    (hDelivering : j.Delivering pending h)
    (hKey : f.partitionKey = p)
    (hFollows : j.Follows (.poll (.done (.fragment f)) :: h) c) :
    j.Delivering (pending ++ [f])
      (.poll (.done (.fragment f)) :: h) := by
  rcases hFollows.brings with ⟨c, hBefore, hBrings⟩
  have hHead := hBrings hKey
  have hStands := hBefore.stands
  -- what is not unread behind the fragment has been passed by
  have hPassed :
      ∀ g ∈ j.fragments, g.offset ≤ f.offset →
        g = f ∨ .upload g .stored ∈ h ∨ g ∈ pending := by
    intro g hFragment hOffset
    rcases hDelivering.kept c hBefore g hFragment with
      hUnread | hDone
    · rcases hStands.eq_or_lt hHead hUnread with hEq | hLess
      · exact .inl hEq
      · grind
    · exact .inr hDone
  refine ⟨⟨hDelivering.covered, ?_, ?_⟩, ?_, ?_⟩
  · intro g hMember
    rcases List.mem_append.mp hMember with hOld | hNew
    · exact hDelivering.known g hOld
    · rw [List.mem_singleton.mp hNew]
      exact hStands.mem_of_head? hHead
  · intro g hMember f' hFragment hOffset
    rcases List.mem_append.mp hMember with hOld | hNew
    · have hUpTo := hDelivering.upTo g hOld f' hFragment hOffset
      grind
    · have hUpTo := hPassed f' hFragment
      grind
  · intro g hFirst f' hFragment hOffset
    cases pending with
    | nil =>
        cases hFirst
        have hUpTo := hPassed f' hFragment
        grind
    | cons first rest =>
        exact List.mem_cons_of_mem _
          (hDelivering.before g hFirst f' hFragment hOffset)
  · intro c hFollows
    apply hFollows.kept_cons hDelivering.covered nofun
    intro c hBefore hBrings g hFragment
    have hHead := hBrings hKey
    have hUnread :
        (j.next c (.poll (.done (.fragment f)))).unread =
          c.unread.tail := by
      simp [next, hKey]
    rw [hUnread]
    have hKept := hDelivering.kept c hBefore g hFragment
    cases hList : c.unread with
    | nil => simp [hList] at hHead
    | cons first rest =>
        rw [hList] at hHead hKept
        cases hHead
        grind

/- A source that starts after what was acknowledged passes nothing by. -/
theorem Delivering.of_resume
    {e : Event}
    (hCovered : j.CommitsCovered h)
    (hCovered' : j.CommitsCovered (e :: h))
    (hSent : ∀ offset cause, e ≠ .rewind p offset (.error cause))
    (hResume : ∀ c, (j.next c e).unread = c.resume) :
    j.Delivering [] (e :: h) := by
  refine ⟨.of_covered hCovered', nofun, ?_⟩
  intro c hFollows
  apply hFollows.kept_cons hCovered' hSent
  intro c hBefore _ f hFragment
  rw [hResume]
  have hMember := hBefore.mem_resume hCovered hFragment
  exact hMember.imp_right fun hDone =>
    .inl (List.mem_cons_of_mem e hDone)

/- A partition that is still assigned goes on as before. -/
theorem Delivering.assigned
    {ps : List PartitionKey}
    (hDelivering : j.Delivering pending h)
    (hAssigned : p ∈ ps) :
    j.Delivering pending (.assigned (.ok ps) :: h) := by
  refine ⟨⟨hDelivering.covered, hDelivering.known, ?_⟩, ?_, ?_⟩
  · intro g hg f hFragment hOffset
    exact (hDelivering.upTo g hg f hFragment hOffset).imp_left
      (List.mem_cons_of_mem _)
  · intro g hg f hFragment hOffset
    exact List.mem_cons_of_mem _
      (hDelivering.before g hg f hFragment hOffset)
  · intro c hFollows
    apply hFollows.kept_cons hDelivering.covered nofun
    intro c hBefore _ f hFragment
    have hPlace : j.next c (.assigned (.ok ps)) = c :=
      if_pos hAssigned
    rw [hPlace]
    exact (hDelivering.kept c hBefore f hFragment).imp_right
      (Or.imp_left (List.mem_cons_of_mem _))

end Journal

end FragmentSink
