import FragmentSink.Proofs.Engine.Moves

/-
  How often the commits of a partition have failed in a row,
  and the histories in which a budget for them is kept.

  In such a history every failed commit is followed by the
  reaction that its number in the row asks for, and nothing
  else sends the partition back.

  Main declarations:
    * `failuresInRow`
    * `Reaction`
    * `Budgeted`
    * `Budgeted.lt_or_halted`
    * `Budgeted.reacted`
    * `Budgeted.rewound`
-/

namespace FragmentSink

open History

variable {p : PartitionKey}
variable {e : Event}
variable {es h h' earlier rest : History}

------------------------------------------------------------
-- Failures in a Row
------------------------------------------------------------

namespace Event

/-
  A commit of a partition failed.  A commit ends with its
  first bad upload, so there is one such event for each.
-/
def Fails (p : PartitionKey) : Event → Prop
| .upload f ending => f.partitionKey = p ∧ ending.Fails
| _ => False

/-
  A partition is cleared of its failures: a batch of it was
  acknowledged, an assignment left it out, or an engine was
  started.
-/
def Clears (p : PartitionKey) : Event → Prop
| .commit t (.done (.ok _)) => t.key = p
| .assigned (.ok ps) => p ∉ ps
| .started => True
| _ => False

/- A partition is sent back, or was to be. -/
def Rewinds (p : PartitionKey) : Event → Prop
| .rewind q _ _ => q = p
| _ => False

instance : (ending : UploadEnd) → Decidable ending.Fails
| .refused => isTrue trivial
| .expired => isTrue trivial
| .stored => isFalse id
| .dropped => isFalse id

instance (p : PartitionKey) : DecidablePred (Fails p)
| .upload f ending =>
    inferInstanceAs
      (Decidable (f.partitionKey = p ∧ ending.Fails))
| .clock _ | .poll _ | .commit _ _ | .rewind _ _ _ | .assigned _
| .noise _ | .sleep _ _ | .closing | .started => isFalse id

instance (p : PartitionKey) : DecidablePred (Clears p)
| .commit t (.done (.ok _)) => inferInstanceAs (Decidable (t.key = p))
| .assigned (.ok ps) => inferInstanceAs (Decidable (p ∉ ps))
| .started => isTrue trivial
| .commit _ (.done (.error _)) | .commit _ .dropped
| .assigned (.error _) | .clock _ | .upload _ _ | .poll _
| .rewind _ _ _ | .noise _ | .sleep _ _ | .closing => isFalse id

/- None of these happens to a partition. -/
structure Calm (p : PartitionKey) (e : Event) : Prop where
  spares : ¬ e.Fails p
  keeps : ¬ e.Clears p
  leaves : ¬ e.Rewinds p

theorem Clears.not_fails
    (hClears : e.Clears p) :
    ¬ e.Fails p := by
  cases e with
  | upload => cases hClears
  | _ => exact id

/- What happens beside a partition is calm for it. -/
theorem calm_of_not_about
    (hBeside : ¬ e.About p) :
    e.Calm p := by
  refine ⟨?_, ?_, ?_⟩
  · intro hFails
    cases e with
    | upload => exact hBeside hFails.1
    | _ => exact hFails
  · intro hClears
    cases e with
    | commit t answer =>
        rcases answer with (_ | _) | _
        · exact hClears
        · exact hBeside hClears
        · exact hClears
    | assigned answer =>
        cases answer with
        | error => exact hClears
        | ok => exact hBeside trivial
    | started => exact hBeside trivial
    | _ => exact hClears
  · intro hRewinds
    cases e with
    | rewind => exact hBeside hRewinds
    | _ => exact hRewinds

end Event

/-
  The failed commits of a partition since the latest event
  that cleared it.
-/
def failuresInRow (p : PartitionKey) : History → Nat
| [] => 0
| e :: h =>
    if e.Fails p then failuresInRow p h + 1
    else if e.Clears p then 0
    else failuresInRow p h

theorem failuresInRow_of_fails
    (hFails : e.Fails p) :
    failuresInRow p (e :: h) = failuresInRow p h + 1 :=
  if_pos hFails

theorem failuresInRow_of_clears
    (hClears : e.Clears p) :
    failuresInRow p (e :: h) = 0 := by
  rw [failuresInRow, if_neg hClears.not_fails, if_pos hClears]

theorem failuresInRow_of_spares
    (hFails : ¬ e.Fails p)
    (hClears : ¬ e.Clears p) :
    failuresInRow p (e :: h) = failuresInRow p h := by
  rw [failuresInRow, if_neg hFails, if_neg hClears]

/- What is not a failure adds none. -/
theorem failuresInRow_cons_le
    (hFails : ¬ e.Fails p) :
    failuresInRow p (e :: h) ≤ failuresInRow p h := by
  by_cases hClears : e.Clears p
  · rw [failuresInRow_of_clears hClears]
    exact Nat.zero_le _
  · exact Nat.le_of_eq (failuresInRow_of_spares hFails hClears)

theorem failuresInRow_append
    (hFails : ∀ e ∈ es, ¬ e.Fails p)
    (hClears : ∀ e ∈ es, ¬ e.Clears p) :
    failuresInRow p (es ++ h) = failuresInRow p h := by
  induction es with
  | nil => rfl
  | cons e es ih =>
      rw [List.forall_mem_cons] at hFails hClears
      exact (failuresInRow_of_spares hFails.1 hClears.1).trans
        (ih hFails.2 hClears.2)

theorem failuresInRow_grows
    (hCalm : Grows (Event.Calm p) h h') :
    failuresInRow p h' = failuresInRow p h := by
  rcases hCalm with ⟨es, rfl, hCalm⟩
  exact failuresInRow_append (fun e he => (hCalm e he).spares)
    (fun e he => (hCalm e he).keeps)

/-
  The first offset of the batch of which an upload ended badly.
  The fragments before it were stored since the latest reading
  of the clock.
-/
def History.batchStart (f : Fragment) (earlier : History) : Int64 :=
  (earlier.topRow.headD f).offset

------------------------------------------------------------
-- Reactions
------------------------------------------------------------

/-
  How an engine reacts to a failed commit, the newest event
  first, and whether it goes on.  The failure is one of a row,
  in which it has a number from one on, and its batch began at
  an offset.
-/
inductive Reaction
    (policy : RetryPolicy)
    (p : PartitionKey)
    (offset : Int64)
    (number : Nat) : Except Stop Unit → History → Prop
| halt
    (n : UInt64)
    (now : Timestamp)
    (hSpent : number = policy.maxRetries.toNat) :
    Reaction policy p offset number
      (.error (.failed .bufferCommitFailed))
      [.noise n, .clock now]
| unsent
    (n : UInt64)
    (now : Timestamp)
    (cause : Error)
    (hLeft : number < policy.maxRetries.toNat) :
    Reaction policy p offset number (.error (.failed cause))
      [.rewind p offset (.error cause), .noise n, .clock now]
| untracked
    (n : UInt64)
    (now : Timestamp)
    (fault : Fault)
    (hLeft : number < policy.maxRetries.toNat)
    (hFault : Word.subInt offset 1 = .error fault) :
    Reaction policy p offset number (.error (.fault fault))
      [.rewind p offset (.ok ()), .noise n, .clock now]
| wait
    (n : UInt64)
    (now : Timestamp)
    (answer : Awaited Unit)
    (hLeft : number < policy.maxRetries.toNat) :
    Reaction policy p offset number answer.ending
      [.sleep
          (.ofMillis
            (policy.delay (UInt32.ofNat (number - 1)) n).toNat)
          answer,
        .rewind p offset (.ok ()), .noise n, .clock now]

/-
  Where a history is split that goes on after an event: before
  that event, or among those after it.
-/
theorem split_append_cons
    (hSplit : es ++ e :: h = rest ++ earlier) :
    (∃ between, rest = es ++ e :: between ∧
        h = between ++ earlier) ∨
      ∃ back, es = rest ++ back ∧ earlier = back ++ e :: h := by
  rcases List.append_eq_append_iff.mp hSplit with
    ⟨front, hRest, hBehind⟩ | ⟨back, hFront, hAfter⟩
  · cases front with
    | nil =>
        exact .inr ⟨[], by simpa using hRest.symm, hBehind.symm⟩
    | cons e' between =>
        cases hBehind
        exact .inl ⟨between, hRest, rfl⟩
  · exact .inr ⟨back, hFront, hAfter⟩

namespace Reaction

variable {policy : RetryPolicy}
variable {offset : Int64}
variable {number : Nat}
variable {r : Except Stop Unit}

/- A reaction is no further failure. -/
theorem spares
    (hReaction : Reaction policy p offset number r es) :
    ∀ e ∈ es, ¬ e.Fails p := by
  cases hReaction <;> simp [Event.Fails]

/- Nor does it clear the partition of its failures. -/
theorem keeps
    (hReaction : Reaction policy p offset number r es) :
    ∀ e ∈ es, ¬ e.Clears p := by
  cases hReaction <;> simp [Event.Clears]

theorem lt_or_halts
    (hReaction : Reaction policy p offset number r es) :
    number < policy.maxRetries.toNat ∨
      number = policy.maxRetries.toNat ∧
        r = .error (.failed .bufferCommitFailed) ∧
          ∃ n now, es = [.noise n, .clock now] := by
  cases hReaction with
  | halt n now hSpent => exact .inr ⟨hSpent, rfl, n, now, rfl⟩
  | unsent n now cause hLeft => exact .inl hLeft
  | untracked n now fault hLeft => exact .inl hLeft
  | wait n now answer hLeft => exact .inl hLeft

/- The failure and some of its reaction count as one failure more. -/
theorem failuresInRow_eq
    {front back : History}
    (hReaction : Reaction policy p offset number r (front ++ back))
    (hFails : e.Fails p) :
    failuresInRow p (back ++ e :: h) = failuresInRow p h + 1 := by
  have hBack (e : Event) (he : e ∈ back) : e ∈ front ++ back :=
    List.mem_append_right front he
  rw [failuresInRow_append
      (fun e he => hReaction.spares e (hBack e he))
      (fun e he => hReaction.keeps e (hBack e he)),
    failuresInRow_of_fails hFails]

/- Its one rewind follows the failure, after the noise is read. -/
theorem rewound
    {later : History}
    {target : Int64}
    {answer : Except Error Unit}
    (hReaction :
      Reaction policy p offset number r
        (later ++ .rewind p target answer :: es)) :
    target = offset ∧ ∃ n now, es = [.noise n, .clock now] := by
  have hNone
      {later : History}
      {n : UInt64}
      {now : Timestamp} :
      later ++ .rewind p target answer :: es ≠
        [.noise n, .clock now] := by
    intro hAll
    have hMember :
        Event.rewind p target answer ∈ [.noise n, .clock now] := by
      simp [← hAll]
    simp at hMember
  have hFront
      {later : History}
      {first : Except Error Unit}
      {n : UInt64}
      {now : Timestamp}
      (hAll :
        later ++ .rewind p target answer :: es =
          [.rewind p offset first, .noise n, .clock now]) :
      target = offset ∧ ∃ n now, es = [.noise n, .clock now] := by
    cases later with
    | nil =>
        cases hAll
        exact ⟨rfl, n, now, rfl⟩
    | cons e later => exact absurd (List.cons.inj hAll).2 hNone
  generalize hAll : later ++ .rewind p target answer :: es = all
    at hReaction
  cases hReaction with
  | halt n now => exact absurd hAll hNone
  | unsent n now => exact hFront hAll
  | untracked n now => exact hFront hAll
  | wait n now =>
      cases later with
      | nil => cases hAll
      | cons e later => exact hFront (List.cons.inj hAll).2

end Reaction

------------------------------------------------------------
-- Budgeted Histories
------------------------------------------------------------

/-
  The histories in which a budget is kept for a partition, and
  whether the engine goes on after them.  Every failed commit
  is reacted to at once, and only a reaction sends the
  partition back.
-/
inductive Budgeted (policy : RetryPolicy) (p : PartitionKey) :
    Except Stop Unit → History → Prop
| fresh : Budgeted policy p (.ok ()) []
| aside
    {e : Event}
    {h : History}
    (hBudgeted : Budgeted policy p (.ok ()) h)
    (hFails : ¬ e.Fails p)
    (hRewinds : ¬ e.Rewinds p) :
    Budgeted policy p (.ok ()) (e :: h)
| struck
    {f : Fragment}
    {bad : UploadEnd}
    {h answer : History}
    {r : Except Stop Unit}
    (hBudgeted : Budgeted policy p (.ok ()) h)
    (hFails : Event.Fails p (.upload f bad))
    (hReaction :
      Reaction policy p (batchStart f h) (failuresInRow p h + 1)
        r answer) :
    Budgeted policy p r (answer ++ .upload f bad :: h)

namespace Budgeted

variable {policy : RetryPolicy}
variable {r : Except Stop Unit}

theorem calm
    (hBudgeted : Budgeted policy p (.ok ()) h)
    (hCalm : Grows (Event.Calm p) h h') :
    Budgeted policy p (.ok ()) h' :=
  hCalm.induction hBudgeted fun _ _ hEvent hHere =>
    hHere.aside hEvent.spares hEvent.leaves

/- While the engine goes on, the failures in a row are too few. -/
theorem lt_maxRetries
    (hBudgeted : Budgeted policy p r h)
    (hPolicy : 1 ≤ policy.maxRetries.toNat)
    (hGoesOn : r = .ok ())
    (hSplit : h = rest ++ earlier) :
    failuresInRow p earlier < policy.maxRetries.toNat := by
  induction hBudgeted generalizing rest earlier with
  | fresh =>
      cases (List.append_eq_nil_iff.mp hSplit.symm).2
      exact hPolicy
  | aside _ hFails hRewinds ih =>
      cases rest with
      | nil =>
          subst hSplit
          exact Nat.lt_of_le_of_lt (failuresInRow_cons_le hFails)
            (ih rfl (List.nil_append _).symm)
      | cons e rest => exact ih rfl (List.cons.inj hSplit).2
  | struck _ hFails hReaction ih =>
      rcases split_append_cons hSplit with
        ⟨between, -, hBefore⟩ | ⟨back, rfl, rfl⟩
      · exact ih rfl hBefore
      · rw [hReaction.failuresInRow_eq hFails]
        rcases hReaction.lt_or_halts with hLeft | ⟨-, hHalts, -⟩
        · exact hLeft
        · cases hGoesOn.symm.trans hHalts

/-
  Up to any moment the failures in a row are fewer than the
  policy allows, or as many: then the engine halts, and at
  most the noise and the clock are read before it does.
-/
theorem lt_or_halted
    (hBudgeted : Budgeted policy p r h)
    (hPolicy : 1 ≤ policy.maxRetries.toNat)
    (hSplit : h = rest ++ earlier) :
    failuresInRow p earlier < policy.maxRetries.toNat ∨
      failuresInRow p earlier = policy.maxRetries.toNat ∧
        r = .error (.failed .bufferCommitFailed) ∧
          ∃ n now, rest <+: [.noise n, .clock now] := by
  cases hBudgeted with
  | fresh =>
      exact .inl (Budgeted.fresh.lt_maxRetries hPolicy rfl hSplit)
  | aside hBudgeted hFails hRewinds =>
      exact .inl ((hBudgeted.aside hFails hRewinds).lt_maxRetries
        hPolicy rfl hSplit)
  | struck hBudgeted hFails hReaction =>
      rcases split_append_cons hSplit with
        ⟨between, -, hBefore⟩ | ⟨back, rfl, rfl⟩
      · exact .inl
          (hBudgeted.lt_maxRetries hPolicy rfl hBefore)
      · rw [hReaction.failuresInRow_eq hFails]
        rcases hReaction.lt_or_halts with
          hLeft | ⟨hSpent, hHalts, n, now, hAll⟩
        · exact .inl hLeft
        · exact .inr ⟨hSpent, hHalts, n, now,
            hAll ▸ List.prefix_append rest back⟩

/-
  Every failed commit was reacted to at once, by its number
  in the row, and nothing comes after a reaction with which
  the engine stops.
-/
theorem reacted
    {f : Fragment}
    {bad : UploadEnd}
    (hBudgeted : Budgeted policy p r h)
    (hSplit : h = rest ++ .upload f bad :: earlier)
    (hFails : Event.Fails p (.upload f bad)) :
    ∃ later answer r',
      rest = later ++ answer ∧
        Reaction policy p (batchStart f earlier)
          (failuresInRow p earlier + 1) r' answer ∧
        (r' = .ok () ∨ later = [] ∧ r' = r) := by
  induction hBudgeted generalizing rest with
  | fresh => simp at hSplit
  | aside _ hSpares hRewinds ih =>
      cases rest with
      | nil =>
          cases hSplit
          exact absurd hFails hSpares
      | cons e rest =>
          cases hSplit
          rcases ih rfl with
            ⟨later, answer, r', rfl, hReaction, hGoesOn⟩
          exact ⟨_ :: later, answer, r', rfl, hReaction,
            .inl (hGoesOn.elim id And.right)⟩
  | @struck g bad' h answer r hBefore hStruck hReaction ih =>
      rcases split_append_cons hSplit with
        ⟨between, rfl, rfl⟩ | ⟨back, rfl, hAfter⟩
      · rcases ih rfl with
          ⟨later, answer', r', rfl, hReaction', hGoesOn⟩
        refine ⟨answer ++ .upload g bad' :: later, answer', r',
          by simp, hReaction', ?_⟩
        exact .inl (hGoesOn.elim id And.right)
      · cases back with
        | nil =>
            cases hAfter
            rw [List.append_nil] at hReaction
            exact ⟨[], rest, r, rfl, hReaction, .inr ⟨rfl, rfl⟩⟩
        | cons e back =>
            cases hAfter
            exact absurd hFails
              (hReaction.spares _ (by simp))

/-
  A partition was sent back right after a commit of it failed,
  and to the first offset of the failed batch.
-/
theorem rewound
    {target : Int64}
    {answer : Except Error Unit}
    (hBudgeted : Budgeted policy p r h)
    (hSplit : h = rest ++ .rewind p target answer :: earlier) :
    ∃ n now f bad before,
      earlier =
          .noise n :: .clock now :: .upload f bad :: before ∧
        Event.Fails p (.upload f bad) ∧
        target = batchStart f before := by
  induction hBudgeted generalizing rest with
  | fresh => simp at hSplit
  | aside _ hSpares hRewinds ih =>
      cases rest with
      | nil =>
          cases hSplit
          exact absurd rfl hRewinds
      | cons e rest => exact ih (List.cons.inj hSplit).2
  | @struck f bad h answer' r _ hFails hReaction ih =>
      rcases split_append_cons hSplit with
        ⟨between, -, hBefore⟩ | ⟨back, rfl, hAfter⟩
      · exact ih hBefore
      · cases back with
        | nil => cases hAfter
        | cons e back =>
            cases hAfter
            rcases hReaction.rewound with ⟨rfl, n, now, rfl⟩
            exact ⟨n, now, f, bad, h, rfl, hFails, rfl⟩

end Budgeted

end FragmentSink
