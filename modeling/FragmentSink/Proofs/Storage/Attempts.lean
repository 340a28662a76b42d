import FragmentSink.Commit

/-
  What can be seen of the uploads of one commit.

  The uploads of a batch begin in order and one after the
  other, each when the one before it was stored, and the commit
  is durable exactly when all of them were.  Over a storage
  that takes its time, a commit leaves nothing behind but the
  state of the storage.

  Main declarations:
    * `UploadSign`
    * `Attempt`
    * `InOrder`
    * `SlowStorage`
    * `inOrder_of_slowStorage`
-/

namespace FragmentSink

variable {σ τ : Type}

------------------------------------------------------------
-- Signs of Uploads
------------------------------------------------------------

/- What is seen of an upload: it begins, or it ends with an answer. -/
inductive UploadSign where
| begun (f : Fragment)
| ended (f : Fragment) (isStored : Bool)
deriving DecidableEq

/- The signs of an upload; one that is cut off begins but does not end. -/
def UploadEnd.signs (f : Fragment) : UploadEnd → List UploadSign
| .stored => [.begun f, .ended f true]
| .refused => [.begun f, .ended f false]
| .expired => [.begun f]
| .dropped => [.begun f]

/- The same surroundings, with the signs of all uploads so far. -/
def Surroundings.watched
    (env : Surroundings σ) : Surroundings (σ × List UploadSign) where
  now s := ((env.now s.1).1, (env.now s.1).2, s.2)
  ticks s := ((env.ticks s.1).1, (env.ticks s.1).2, s.2)
  upload f s :=
    ((env.upload f s.1).1, (env.upload f s.1).2,
      s.2 ++ (env.upload f s.1).1.signs f)
  armTimer span s := (env.armTimer span s.1, s.2)
  disarmTimer s := (env.disarmTimer s.1, s.2)

/- The fragments whose uploads have begun, in order. -/
def begunOf (signs : List UploadSign) : List Fragment :=
  signs.filterMap fun
    | .begun f => some f
    | .ended _ _ => none

/- The fragments whose uploads have ended as stored, in order. -/
def storedOf (signs : List UploadSign) : List Fragment :=
  signs.filterMap fun
    | .ended f true => some f
    | _ => none

/- The last upload has begun but not ended. -/
def IsCut (signs : List UploadSign) : Prop :=
  ∃ f, signs.getLast? = some (.begun f)

------------------------------------------------------------
-- Attempts
------------------------------------------------------------

/-
  An attempt to upload a batch: how it ends, the signs of its
  uploads and the world it leaves behind.
-/
inductive Attempt
    (env : Surroundings σ) :
    List Fragment → σ → CommitEnd → List UploadSign → σ → Prop
| done (s : σ) : Attempt env [] s .durable [] s
| stored
    {f : Fragment}
    {fs : List Fragment}
    {s s' s'' : σ}
    {ending : CommitEnd}
    {signs : List UploadSign}
    (hUpload : env.upload f s = (.stored, s'))
    (hRest : Attempt env fs s' ending signs s'') :
    Attempt env (f :: fs) s ending
      (.begun f :: .ended f true :: signs) s''
| refused
    {f : Fragment}
    {fs : List Fragment}
    {s s' : σ}
    (hUpload : env.upload f s = (.refused, s')) :
    Attempt env (f :: fs) s .failed
      [.begun f, .ended f false] s'
| expired
    {f : Fragment}
    {fs : List Fragment}
    {s s' : σ}
    (hUpload : env.upload f s = (.expired, s')) :
    Attempt env (f :: fs) s .failed [.begun f] s'
| dropped
    {f : Fragment}
    {fs : List Fragment}
    {s s' : σ}
    (hUpload : env.upload f s = (.dropped, s')) :
    Attempt env (f :: fs) s .dropped [.begun f] s'

/- The commit of a batch is an attempt, whatever was seen before. -/
theorem attempt_commitAll
    (env : Surroundings σ)
    (batch : List Fragment)
    (s : σ)
    (before : List UploadSign) :
    ∃ signs,
      Attempt env batch s (commitAll env batch s).1 signs
          (commitAll env batch s).2 ∧
        commitAll env.watched batch (s, before) =
          ((commitAll env batch s).1,
            (commitAll env batch s).2, before ++ signs) := by
  induction batch generalizing s before with
  | nil => exact ⟨[], .done s, by simp [commitAll]⟩
  | cons f fs ih =>
      rcases hUpload : env.upload f s with ⟨ending, s'⟩
      have hWatched :
          env.watched.upload f (s, before) =
            (ending, s', before ++ ending.signs f) := by
        simp [Surroundings.watched, hUpload]
      simp only [commitAll, hUpload, hWatched]
      cases ending with
      | stored =>
          rcases ih s' (before ++ UploadEnd.stored.signs f) with
            ⟨signs, hRest, hSigns⟩
          refine ⟨_, .stored hUpload hRest, hSigns.trans ?_⟩
          rw [List.append_assoc]
          rfl
      | refused => exact ⟨_, .refused hUpload, rfl⟩
      | expired => exact ⟨_, .expired hUpload, rfl⟩
      | dropped => exact ⟨_, .dropped hUpload, rfl⟩

/- An attempt whose commit may have a limit. -/
theorem attempt_commitWithin
    (env : Surroundings σ)
    (limit : Option Span)
    (batch : List Fragment)
    (s : σ)
    (before : List UploadSign) :
    ∃ signs s',
      Attempt env batch
          ((limit.map (env.armTimer · s)).getD s)
          (commitWithin env limit batch s).1 signs s' ∧
        commitWithin env.watched limit batch (s, before) =
          ((commitWithin env limit batch s).1,
            (commitWithin env limit batch s).2,
            before ++ signs) ∧
        (commitWithin env limit batch s).2 =
          if limit.isSome then env.disarmTimer s' else s' := by
  cases limit with
  | none =>
      rcases attempt_commitAll env batch s before with
        ⟨signs, hAttempt, hSigns⟩
      exact ⟨signs, _, hAttempt, hSigns, rfl⟩
  | some span =>
      rcases attempt_commitAll env batch (env.armTimer span s) before
        with ⟨signs, hAttempt, hSigns⟩
      have hArmed :
          env.watched.armTimer span (s, before) =
            (env.armTimer span s, before) :=
        rfl
      refine ⟨signs, _, hAttempt, ?_, rfl⟩
      simp only [commitWithin, Executor.within, hArmed, hSigns]
      rfl

------------------------------------------------------------
-- What Signs Say
------------------------------------------------------------

/-
  What the signs of an attempt say.  Uploads begin in the order
  of the batch; when one begins, all before it have ended and
  were stored.  The attempt is durable exactly when the whole
  batch was stored.  A refused upload is its last sign, and it
  fails for no reason but such an upload or one that is cut.
-/
structure InOrder
    (batch : List Fragment)
    (ending : CommitEnd)
    (signs : List UploadSign) : Prop where
  front : begunOf signs <+: batch
  turns :
    ∀ before f after, signs = before ++ .begun f :: after →
      storedOf before = begunOf before
  durable_iff : ending = .durable ↔ storedOf signs = batch
  refusal :
    ∀ before f after, signs = before ++ .ended f false :: after →
      after = [] ∧ ending = .failed
  failure :
    ending = .failed →
      (∃ f, signs.getLast? = some (.ended f false)) ∨ IsCut signs

/- A stored upload in front leaves the last sign as it is. -/
theorem getLast?_of_cons
    {sign : UploadSign}
    {signs : List UploadSign}
    (f : Fragment)
    (hLast : signs.getLast? = some sign) :
    (.begun f :: .ended f true :: signs).getLast? = some sign := by
  rw [List.getLast?_cons_cons, List.getLast?_cons, hLast]
  rfl

/- One more stored upload in front keeps the order. -/
theorem InOrder.cons
    {batch : List Fragment}
    {ending : CommitEnd}
    {signs : List UploadSign}
    (hOrder : InOrder batch ending signs)
    (f : Fragment) :
    InOrder (f :: batch) ending
      (.begun f :: .ended f true :: signs) := by
  refine ⟨?_, ?_, ?_, ?_, ?_⟩
  · exact List.cons_prefix_cons.mpr ⟨rfl, hOrder.front⟩
  · intro before g after hSigns
    rcases before with _ | ⟨first, _ | ⟨second, before⟩⟩
    · rfl
    · simp at hSigns
    · simp only [List.cons_append, List.cons.injEq] at hSigns
      rcases hSigns with ⟨rfl, rfl, hRest⟩
      exact congrArg (f :: ·) (hOrder.turns before g after hRest)
  · rw [hOrder.durable_iff]
    simp [storedOf]
  · intro before g after hSigns
    rcases before with _ | ⟨first, _ | ⟨second, before⟩⟩
    · simp at hSigns
    · simp at hSigns
    · simp only [List.cons_append, List.cons.injEq] at hSigns
      rcases hSigns with ⟨rfl, rfl, hRest⟩
      exact hOrder.refusal before g after hRest
  · intro hFailed
    rcases hOrder.failure hFailed with ⟨g, hLast⟩ | ⟨g, hLast⟩
    · exact .inl ⟨g, getLast?_of_cons f hLast⟩
    · exact .inr ⟨g, getLast?_of_cons f hLast⟩

/- An upload that is the last one and not stored ends the order. -/
theorem inOrder_refused
    (f : Fragment)
    (fs : List Fragment) :
    InOrder (f :: fs) .failed [.begun f, .ended f false] := by
  refine ⟨List.cons_prefix_cons.mpr ⟨rfl, List.nil_prefix⟩,
    ?_, by simp [storedOf], ?_, fun _ => .inl ⟨f, rfl⟩⟩
  · intro before g after hSigns
    rcases before with _ | ⟨first, _ | ⟨second, before⟩⟩
    · rfl
    · simp at hSigns
    · simp at hSigns
  · intro before g after hSigns
    rcases before with _ | ⟨first, _ | ⟨second, before⟩⟩
    · simp at hSigns
    · simp at hSigns
      exact ⟨hSigns.2.2, rfl⟩
    · simp at hSigns

theorem inOrder_cut
    {ending : CommitEnd}
    (hEnding : ending ≠ .durable)
    (f : Fragment)
    (fs : List Fragment) :
    InOrder (f :: fs) ending [.begun f] := by
  refine ⟨List.cons_prefix_cons.mpr ⟨rfl, List.nil_prefix⟩,
    ?_, by simp [storedOf, hEnding], ?_, fun _ => .inr ⟨f, rfl⟩⟩
  · intro before g after hSigns
    rcases before with _ | ⟨first, before⟩
    · rfl
    · simp at hSigns
  · intro before g after hSigns
    rcases before with _ | ⟨first, before⟩
    · simp at hSigns
    · simp at hSigns

/- The signs of every attempt are in order. -/
theorem Attempt.inOrder
    {env : Surroundings σ}
    {batch : List Fragment}
    {s s' : σ}
    {ending : CommitEnd}
    {signs : List UploadSign}
    (hAttempt : Attempt env batch s ending signs s') :
    InOrder batch ending signs := by
  induction hAttempt with
  | done =>
      exact ⟨List.prefix_rfl, by simp, by simp [storedOf],
        by simp, nofun⟩
  | stored hUpload hRest ih => exact ih.cons _
  | refused => exact inOrder_refused _ _
  | expired => exact inOrder_cut (by decide) _ _
  | dropped => exact inOrder_cut (by decide) _ _

------------------------------------------------------------
-- Storages That Take Their Time
------------------------------------------------------------

/-
  How a storage serves an upload: the nanoseconds it takes, if
  it ever ends, whether it is prompt enough to end well at the
  very deadline, whether it is stored then, and the state of the
  storage after it, or after so many nanoseconds of it.
-/
structure Service (τ : Type) where
  takes : Option Nat
  isPrompt : Bool
  isStored : Bool
  after : τ
  abandoned : Nat → τ

/- A storage whose states remember all it was asked for. -/
abbrev SlowStorage (τ : Type) :=
  Fragment → τ → Service τ

/- A storage, the time in nanoseconds, and when waiting is ended. -/
structure Timed (τ : Type) where
  store : τ
  time : Nat
  deadline : Option Nat

/- The answer to an upload that is served to its end. -/
def Service.answer (service : Service τ) : UploadEnd :=
  if service.isStored then .stored else .refused

/- Whether an upload is over before it is cut off at a deadline. -/
def Timed.isInTime
    (s : Timed τ)
    (service : Service τ)
    (takes deadline : Nat) : Bool :=
  s.time + takes < deadline ||
    (service.isPrompt && s.time + takes = deadline)

/- An upload was served to its end. -/
def Timed.served
    (s : Timed τ)
    (service : Service τ)
    (takes : Nat) : UploadEnd × Timed τ :=
  (service.answer, ⟨service.after, s.time + takes, s.deadline⟩)

/- An upload was cut off at the deadline. -/
def Timed.cutOff
    (s : Timed τ)
    (service : Service τ)
    (deadline : Nat) : UploadEnd × Timed τ :=
  (.expired,
    ⟨service.abandoned (deadline - s.time), deadline, s.deadline⟩)

/- An upload goes on as long as it takes, or up to the deadline. -/
def SlowStorage.upload
    (storage : SlowStorage τ)
    (f : Fragment)
    (s : Timed τ) : UploadEnd × Timed τ :=
  let service := storage f s.store
  match service.takes, s.deadline with
  | some n, none => s.served service n
  | some n, some d =>
      if s.isInTime service n d then s.served service n
      else s.cutOff service d
  | none, some d => s.cutOff service d
  | none, none => (.dropped, s)

/-
  Such a storage as surroundings.  Without a limit an upload
  that never ends is waited for until the task is dropped.
-/
def SlowStorage.surroundings
    (storage : SlowStorage τ) : Surroundings (Timed τ) where
  now s := (⟨s.time⟩, s)
  ticks s := (s.time, s)
  upload := storage.upload
  armTimer span s :=
    { s with deadline := some (s.time + span.nanos) }
  disarmTimer s := { s with deadline := none }

------------------------------------------------------------
-- Nothing but the Storage
------------------------------------------------------------

/- A way to see one world as another, in which uploads and timers go the same. -/
structure Surroundings.Maps
    {σ' : Type}
    (env : Surroundings σ)
    (env' : Surroundings σ')
    (view : σ → σ') : Prop where
  upload :
    ∀ f s,
      env'.upload f (view s) =
        ((env.upload f s).1, view (env.upload f s).2)
  armTimer :
    ∀ span s,
      env'.armTimer span (view s) = view (env.armTimer span s)
  disarmTimer :
    ∀ s, env'.disarmTimer (view s) = view (env.disarmTimer s)

section Maps

variable {σ' : Type}
variable {env : Surroundings σ}
variable {env' : Surroundings σ'}
variable {view : σ → σ'}

theorem Surroundings.Maps.commitAll
    (hMaps : env.Maps env' view)
    (batch : List Fragment)
    (s : σ) :
    commitAll env' batch (view s) =
      ((commitAll env batch s).1,
        view (commitAll env batch s).2) := by
  induction batch generalizing s with
  | nil => rfl
  | cons f fs ih =>
      have hUpload := hMaps.upload f s
      rw [FragmentSink.commitAll, FragmentSink.commitAll, hUpload]
      rcases env.upload f s with ⟨ending, s'⟩
      cases ending with
      | stored => exact ih s'
      | refused => rfl
      | expired => rfl
      | dropped => rfl

/- A commit goes the same in both worlds. -/
theorem Surroundings.Maps.commitWithin
    (hMaps : env.Maps env' view)
    (limit : Option Span)
    (batch : List Fragment)
    (s : σ) :
    commitWithin env' limit batch (view s) =
      ((commitWithin env limit batch s).1,
        view (commitWithin env limit batch s).2) := by
  cases limit with
  | none => exact hMaps.commitAll batch s
  | some span =>
      simp only [FragmentSink.commitWithin, Executor.within,
        hMaps.armTimer, hMaps.commitAll, hMaps.disarmTimer]

end Maps

section Slow

variable {storage : SlowStorage τ}
variable {batch : List Fragment}
variable {f : Fragment}
variable {s s' : Timed τ}
variable {ending : CommitEnd}
variable {signs : List UploadSign}

/- The same storage some nanoseconds later. -/
def Timed.later (n : Nat) (s : Timed τ) : Timed τ :=
  ⟨s.store, s.time + n, s.deadline.map (· + n)⟩

theorem served_later
    (n : Nat)
    (s : Timed τ)
    (service : Service τ)
    (takes : Nat) :
    (s.later n).served service takes =
      ((s.served service takes).1,
        (s.served service takes).2.later n) := by
  have hTime : s.time + n + takes = s.time + takes + n := by omega
  simp [Timed.served, Timed.later, hTime]

theorem cutOff_later
    (n : Nat)
    (s : Timed τ)
    (service : Service τ)
    (d : Nat) :
    (s.later n).cutOff service (d + n) =
      ((s.cutOff service d).1, (s.cutOff service d).2.later n) := by
  have hLeft : d + n - (s.time + n) = d - s.time := by omega
  simp [Timed.cutOff, Timed.later, hLeft]

theorem isInTime_later
    (n : Nat)
    (s : Timed τ)
    (service : Service τ)
    (takes d : Nat) :
    (s.later n).isInTime service takes (d + n) =
      s.isInTime service takes d := by
  have hBefore :
      s.time + n + takes < d + n ↔ s.time + takes < d := by omega
  have hAt :
      s.time + n + takes = d + n ↔ s.time + takes = d := by omega
  simp only [Timed.isInTime, Timed.later, hBefore, hAt]

/- Uploads do not tell what time it is. -/
theorem upload_later
    (storage : SlowStorage τ)
    (n : Nat)
    (f : Fragment)
    (s : Timed τ) :
    storage.upload f (s.later n) =
      ((storage.upload f s).1, (storage.upload f s).2.later n) := by
  have hStore : (s.later n).store = s.store := rfl
  have hDeadline :
      (s.later n).deadline = s.deadline.map (· + n) := rfl
  simp only [SlowStorage.upload, hStore, hDeadline]
  rcases (storage f s.store).takes with _ | takes
  · rcases s.deadline with _ | d
    · rfl
    · exact cutOff_later n s _ d
  · rcases s.deadline with _ | d
    · exact served_later n s _ takes
    · simp only [Option.map_some, isInTime_later]
      split
      · exact served_later n s _ takes
      · exact cutOff_later n s _ d

/- Nor what was seen before. -/
theorem maps_later
    (storage : SlowStorage τ)
    (n : Nat)
    (before : List UploadSign) :
    storage.surroundings.watched.Maps storage.surroundings.watched
      fun s => (s.1.later n, before ++ s.2) where
  upload f s := by
    simp [Surroundings.watched, SlowStorage.surroundings,
      upload_later]
  armTimer span s := by
    simp [Surroundings.watched, SlowStorage.surroundings,
      Timed.later]
    omega
  disarmTimer s := rfl

theorem answer_ne_expired (service : Service τ) :
    service.answer ≠ .expired ∧ service.answer ≠ .dropped := by
  unfold Service.answer
  split
  · exact ⟨nofun, nofun⟩
  · exact ⟨nofun, nofun⟩

/-
  All that an upload can come to: it is served, by the deadline
  if there is one, or cut off there, or waited for in vain.
-/
theorem upload_cases
    (storage : SlowStorage τ)
    (f : Fragment)
    (s : Timed τ) :
    (∃ takes,
      storage.upload f s = s.served (storage f s.store) takes ∧
        ∀ d, s.deadline = some d → s.time + takes ≤ d) ∨
      (∃ d,
        storage.upload f s = s.cutOff (storage f s.store) d ∧
          s.deadline = some d) ∨
        storage.upload f s = (.dropped, s) ∧
          s.deadline = none := by
  simp only [SlowStorage.upload]
  rcases (storage f s.store).takes with _ | takes
  · rcases hDeadline : s.deadline with _ | d
    · exact .inr (.inr ⟨rfl, rfl⟩)
    · exact .inr (.inl ⟨d, rfl, rfl⟩)
  · rcases hDeadline : s.deadline with _ | d
    · exact .inl ⟨takes, rfl, nofun⟩
    · by_cases hInTime :
          s.isInTime (storage f s.store) takes d = true
      · refine .inl ⟨takes, if_pos hInTime, ?_⟩
        rintro d' ⟨⟩
        simp only [Timed.isInTime, Bool.or_eq_true,
          Bool.and_eq_true, decide_eq_true_eq] at hInTime
        omega
      · exact .inr (.inl ⟨d, if_neg hInTime, rfl⟩)

/- What the answer to an upload says about the deadline, which stays. -/
theorem deadline_of_upload
    {answer : UploadEnd}
    (hUpload : storage.upload f s = (answer, s')) :
    s'.deadline = s.deadline ∧
      (answer = .expired → s.deadline ≠ none) ∧
      (answer = .dropped → s.deadline = none) := by
  have hAnswer := answer_ne_expired (storage f s.store)
  rcases upload_cases storage f s with
    ⟨takes, hServed, -⟩ | ⟨d, hCut, hDeadline⟩ |
      ⟨hDropped, hDeadline⟩
  · cases hServed.symm.trans hUpload
    exact ⟨rfl, fun h => absurd h hAnswer.1,
      fun h => absurd h hAnswer.2⟩
  · cases hCut.symm.trans hUpload
    exact ⟨rfl, fun _ => by simp [hDeadline], nofun⟩
  · cases hDropped.symm.trans hUpload
    exact ⟨rfl, nofun, fun _ => hDeadline⟩

/- An upload is over by the deadline, and one that expires is cut off there. -/
theorem time_of_upload
    {answer : UploadEnd}
    {d : Nat}
    (hUpload : storage.upload f s = (answer, s'))
    (hDeadline : s.deadline = some d) :
    s'.time ≤ d ∧ (answer = .expired → s'.time = d) := by
  have hAnswer := (answer_ne_expired (storage f s.store)).1
  rcases upload_cases storage f s with
    ⟨takes, hServed, hInTime⟩ | ⟨d', hCut, hSame⟩ | ⟨-, hNone⟩
  · cases hServed.symm.trans hUpload
    exact ⟨hInTime d hDeadline, fun h => absurd h hAnswer⟩
  · cases hSame.symm.trans hDeadline
    cases hCut.symm.trans hUpload
    exact ⟨Nat.le_refl _, fun _ => rfl⟩
  · cases hNone.symm.trans hDeadline

/- How an attempt ends whose last upload was cut off. -/
def cutEnd (deadline : Option Nat) : CommitEnd :=
  if deadline.isSome then .failed else .dropped

theorem isCut_of_cons
    (hCut : IsCut (.begun f :: .ended f true :: signs)) :
    IsCut signs := by
  rcases hCut with ⟨g, hLast⟩
  rw [List.getLast?_cons_cons, List.getLast?_cons] at hLast
  rcases hSigns : signs.getLast? with _ | sign
  · simp [hSigns] at hLast
  · rw [hSigns] at hLast
    exact ⟨g, hSigns.trans hLast⟩

/- An attempt keeps the deadline, and fails where that cuts it off. -/
theorem Attempt.cut
    (hAttempt :
      Attempt storage.surroundings batch s ending signs s') :
    s'.deadline = s.deadline ∧
      (IsCut signs → ending = cutEnd s.deadline) := by
  induction hAttempt with
  | done => exact ⟨rfl, by simp [IsCut]⟩
  | stored hUpload hRest ih =>
      have hKept := (deadline_of_upload hUpload).1
      rw [hKept] at ih
      refine ⟨ih.1, fun hCut => ih.2 ?_⟩
      exact isCut_of_cons hCut
  | refused hUpload =>
      exact ⟨(deadline_of_upload hUpload).1, by simp [IsCut]⟩
  | expired hUpload =>
      rcases deadline_of_upload hUpload with ⟨hKept, hSome, -⟩
      refine ⟨hKept, fun _ => ?_⟩
      rw [cutEnd, if_pos (Option.isSome_iff_ne_none.mpr (hSome rfl))]
  | dropped hUpload =>
      rcases deadline_of_upload hUpload with ⟨hKept, -, hNone⟩
      refine ⟨hKept, fun _ => ?_⟩
      rw [cutEnd, hNone rfl]
      rfl

/- An attempt is over by the deadline, and where it is cut off it ends there. -/
theorem Attempt.time
    {d : Nat}
    (hAttempt :
      Attempt storage.surroundings batch s ending signs s')
    (hDeadline : s.deadline = some d)
    (hTime : s.time ≤ d) :
    s'.time ≤ d ∧ (IsCut signs → s'.time = d) := by
  induction hAttempt with
  | done => exact ⟨hTime, by simp [IsCut]⟩
  | stored hUpload hRest ih =>
      have hKept := (deadline_of_upload hUpload).1
      have hSoon := (time_of_upload hUpload hDeadline).1
      have hRestTime := ih (hKept.trans hDeadline) hSoon
      exact ⟨hRestTime.1, fun hCut =>
        hRestTime.2 (isCut_of_cons hCut)⟩
  | refused hUpload =>
      exact ⟨(time_of_upload hUpload hDeadline).1,
        by simp [IsCut]⟩
  | expired hUpload =>
      have hOver := time_of_upload hUpload hDeadline
      exact ⟨hOver.1, fun _ => hOver.2 rfl⟩
  | dropped hUpload =>
      have hNone := (deadline_of_upload hUpload).2.2 rfl
      rw [hDeadline] at hNone
      cases hNone

/- The timer of a commit is armed for it, and none runs on. -/
theorem attempt_of_slowStorage
    (storage : SlowStorage τ)
    (limit : Option Span)
    (batch : List Fragment)
    (store : τ) :
    ∃ ending signs store' spent,
      InOrder batch ending signs ∧
        (IsCut signs →
          ending = if limit.isSome then .failed else .dropped) ∧
        (∀ span, limit = some span →
          spent ≤ span.nanos ∧
            (IsCut signs → spent = span.nanos)) ∧
        commitWithin storage.surroundings.watched limit batch
            (⟨store, 0, none⟩, []) =
          (ending, ⟨store', spent, none⟩, signs) := by
  rcases attempt_commitWithin storage.surroundings limit batch
      ⟨store, 0, none⟩ [] with
    ⟨signs, s', hAttempt, hSigns, hAfter⟩
  have hIdle :
      (commitWithin storage.surroundings limit batch
        ⟨store, 0, none⟩).2.deadline = none := by
    rw [hAfter]
    cases limit with
    | none => exact hAttempt.cut.1
    | some span => rfl
  rcases hCommit :
      commitWithin storage.surroundings limit batch
        ⟨store, 0, none⟩ with
    ⟨ending, store', spent, deadline⟩
  rw [hCommit] at hAttempt hSigns hAfter hIdle
  cases hIdle
  refine ⟨ending, signs, store', spent,
    hAttempt.inOrder, ?_, ?_, hSigns⟩
  · intro hCut
    refine (hAttempt.cut.2 hCut).trans ?_
    cases limit with
    | none => rfl
    | some span => rfl
  · rintro span rfl
    have hSpent : spent = s'.time :=
      congrArg Timed.time hAfter
    have hArmed :
        (storage.surroundings.armTimer span
          (⟨store, 0, none⟩ : Timed τ)).deadline =
            some span.nanos := by
      simp [SlowStorage.surroundings]
    rw [hSpent]
    exact hAttempt.time hArmed (Nat.zero_le _)

/-
  The commit of a batch to a storage that takes its time.  Its
  uploads are in order.  Where the last one is cut off, the
  commit has failed by its limit, or never ends without one.
  All of this depends on the state of the storage alone: at any
  time, and whatever was committed before, the same uploads
  begin and end, the commit ends the same and leaves the same
  state, and no timer runs on.  A limit is the longest that a
  commit takes, and where an upload is cut off it took so long.
-/
theorem inOrder_of_slowStorage
    (storage : SlowStorage τ)
    (limit : Option Span)
    (batch : List Fragment)
    (store : τ) :
    ∃ ending signs store' spent,
      InOrder batch ending signs ∧
        (IsCut signs →
          ending = if limit.isSome then .failed else .dropped) ∧
        (∀ span, limit = some span →
          spent ≤ span.nanos ∧
            (IsCut signs → spent = span.nanos)) ∧
        ∀ time before,
          commitWithin storage.surroundings limit batch
                ⟨store, time, none⟩ =
              (ending, ⟨store', time + spent, none⟩) ∧
            commitWithin storage.surroundings.watched limit batch
                (⟨store, time, none⟩, before) =
              (ending, ⟨store', time + spent, none⟩,
                before ++ signs) := by
  rcases attempt_of_slowStorage storage limit batch store with
    ⟨ending, signs, store', spent, hOrder, hCut, hSpent, hCommit⟩
  refine ⟨ending, signs, store', spent, hOrder, hCut, hSpent, ?_⟩
  intro time before
  have hWatched :
      commitWithin storage.surroundings.watched limit batch
          (⟨store, time, none⟩, before) =
        (ending, ⟨store', time + spent, none⟩, before ++ signs) := by
    have hLater :=
      (maps_later storage time before).commitWithin limit batch
        (⟨store, 0, none⟩, [])
    rw [hCommit] at hLater
    simpa [Timed.later, Nat.add_comm] using hLater
  refine ⟨?_, hWatched⟩
  rcases attempt_commitWithin storage.surroundings limit batch
      ⟨store, time, none⟩ before with
    ⟨_, _, -, hSigns, -⟩
  rw [hWatched] at hSigns
  simp only [Prod.mk.injEq] at hSigns
  exact Prod.ext hSigns.1.symm hSigns.2.1.symm

end Slow

end FragmentSink
