import FragmentSink.Engine.World

/-
  Histories of the calls that are made to a world.

  A recorded world answers as the world it is made from, and
  notes every call that a stream, a storage, a clock or a
  waiting engine can tell.  The newest event stands first, so
  what happened before an event is what stands behind it.

  Main declarations:
    * `Event`
    * `World.recorded`
    * `Grows`
    * `storedRow`
    * `History.topRow`
-/

namespace FragmentSink

------------------------------------------------------------
-- Events
------------------------------------------------------------

/-
  A call to the world together with its answer.  Beside the
  calls stand the start of an engine and the beginning of its
  final flush.
-/
inductive Event where
| clock (now : Timestamp)
| upload (f : Fragment) (ending : UploadEnd)
| poll (answer : Awaited Poll)
| commit
    (t : OffsetToken)
    (answer : Awaited (Except Error Unit))
| rewind
    (p : PartitionKey)
    (offset : Int64)
    (answer : Except Error Unit)
| assigned (answer : Except Error (List PartitionKey))
| noise (n : UInt64)
| sleep (span : Span) (answer : Awaited Unit)
| closing
| started

/- What has happened, the newest event first. -/
abbrev History := List Event

namespace Event

/-
  The events that move the place of one partition's stream:
  deliveries, commits and rewinds, the assignments, which may
  leave the partition out, and the start of an engine.
-/
def Steers (p : PartitionKey) : Event → Prop
| .poll (.done (.fragment f)) => f.partitionKey = p
| .commit t _ => t.key = p
| .rewind q _ _ => q = p
| .assigned (.ok _) => True
| .started => True
| _ => False

/- The events about one partition: these and its uploads. -/
def About (p : PartitionKey) : Event → Prop
| .upload f _ => f.partitionKey = p
| e => e.Steers p

/-
  The calls of an engine: all events but the two that mark a
  start and a final flush.
-/
def IsCall : Event → Prop
| .closing => False
| .started => False
| _ => True

theorem About.of_steers
    {p : PartitionKey}
    {e : Event}
    (hSteers : e.Steers p) :
    e.About p := by
  cases e with
  | upload => cases hSteers
  | _ => exact hSteers

end Event

------------------------------------------------------------
-- Recorded Worlds
------------------------------------------------------------

variable {σ α : Type}

/- An answer of the world, noted as an event. -/
def noting
    (event : α → Event)
    (answer : α × σ)
    (h : History) : α × (σ × History) :=
  (answer.1, answer.2, event answer.1 :: h)

/-
  The same surroundings, which note the clock and the uploads.
  The running counter and the timers leave no trace.
-/
def Surroundings.recorded
    (env : Surroundings σ) : Surroundings (σ × History) where
  now s := noting .clock (env.now s.1) s.2
  ticks s := ((env.ticks s.1).1, (env.ticks s.1).2, s.2)
  upload f s := noting (.upload f) (env.upload f s.1) s.2
  armTimer span s := (env.armTimer span s.1, s.2)
  disarmTimer s := (env.disarmTimer s.1, s.2)

/- The same world, which notes every call an engine makes to it. -/
def World.recorded (world : World σ) : World (σ × History) where
  toSurroundings := world.toSurroundings.recorded
  poll s := noting .poll (world.poll s.1) s.2
  commitThrough t s :=
    noting (.commit t) (world.commitThrough t s.1) s.2
  rewind p offset s :=
    noting (.rewind p offset) (world.rewind p offset s.1) s.2
  assigned s := noting .assigned (world.assigned s.1) s.2
  sleep span s := noting (.sleep span) (world.sleep span s.1) s.2
  noise s := noting .noise (world.noise s.1) s.2
  visitOrder ps s :=
    ((world.visitOrder ps s.1).1,
      (world.visitOrder ps s.1).2, s.2)
  limitShutdown span s :=
    (world.limitShutdown span s.1, .closing :: s.2)

------------------------------------------------------------
-- Growing Histories
------------------------------------------------------------

/- A history that goes on with events of one kind only. -/
def Grows (P : Event → Prop) (h h' : History) : Prop :=
  ∃ es, h' = es ++ h ∧ ∀ e ∈ es, P e

namespace Grows

variable {P Q : Event → Prop}
variable {h h' h'' : History}

theorem refl (P : Event → Prop) (h : History) : Grows P h h :=
  ⟨[], rfl, nofun⟩

theorem cons
    {e : Event}
    (hGrows : Grows P h h')
    (hEvent : P e) :
    Grows P h (e :: h') := by
  rcases hGrows with ⟨es, rfl, hEvents⟩
  exact ⟨e :: es, rfl, List.forall_mem_cons.mpr ⟨hEvent, hEvents⟩⟩

theorem trans
    (hFirst : Grows P h h')
    (hThen : Grows P h' h'') :
    Grows P h h'' := by
  rcases hFirst with ⟨es, rfl, hEvents⟩
  rcases hThen with ⟨es', rfl, hEvents'⟩
  refine ⟨es' ++ es, by simp, ?_⟩
  exact List.forall_mem_append.mpr ⟨hEvents', hEvents⟩

theorem suffix (hGrows : Grows P h h') : h <:+ h' := by
  rcases hGrows with ⟨es, rfl, -⟩
  exact List.suffix_append es h

/- What growing histories keep is kept event by event. -/
theorem induction
    {motive : History → Prop}
    (hGrows : Grows P h h')
    (hStart : motive h)
    (hEvent : ∀ e h, P e → motive h → motive (e :: h)) :
    motive h' := by
  rcases hGrows with ⟨es, rfl, hEvents⟩
  induction es with
  | nil => exact hStart
  | cons e es ih =>
      rw [List.forall_mem_cons] at hEvents
      exact hEvent e _ hEvents.1 (ih hEvents.2)

end Grows

------------------------------------------------------------
-- Rows of Uploads
------------------------------------------------------------

/- The history of uploads that stored a list of fragments in order. -/
def storedRow : List Fragment → History
| [] => []
| f :: fs => storedRow fs ++ [.upload f .stored]

@[simp] theorem storedRow_nil : storedRow [] = [] :=
  rfl

theorem mem_storedRow
    {f : Fragment}
    {fs : List Fragment}
    (hFragment : f ∈ fs) :
    .upload f .stored ∈ storedRow fs := by
  induction fs with
  | nil => cases hFragment
  | cons g fs ih =>
      rcases List.mem_cons.mp hFragment with rfl | hRest
      · exact List.mem_append_right _ List.mem_cons_self
      · exact List.mem_append_left _ (ih hRest)

theorem Grows.storedRow
    {P : Event → Prop}
    {fs : List Fragment}
    (h : History)
    (hUpload : ∀ f ∈ fs, P (.upload f .stored)) :
    Grows P h (storedRow fs ++ h) := by
  induction fs generalizing h with
  | nil => exact .refl P h
  | cons f fs ih =>
      rw [List.forall_mem_cons] at hUpload
      have hFirst : Grows P h (.upload f .stored :: h) :=
        (Grows.refl P h).cons hUpload.1
      have hRest := ih (.upload f .stored :: h) hUpload.2
      simpa [FragmentSink.storedRow] using hFirst.trans hRest

namespace History

/-
  The fragments of the unbroken row of stored uploads on top
  of a history, oldest first.
-/
def topRow : History → List Fragment
| .upload f .stored :: h => topRow h ++ [f]
| _ => []

/- The row that was stored before the latest reading of the clock. -/
def rowBefore : History → List Fragment
| .clock _ :: h => topRow h
| _ => []

theorem topRow_storedRow_append
    (fs : List Fragment)
    (h : History) :
    topRow (storedRow fs ++ h) = topRow h ++ fs := by
  induction fs generalizing h with
  | nil => simp
  | cons f fs ih =>
      have hRow := ih (.upload f .stored :: h)
      simp only [topRow] at hRow
      simp [storedRow, hRow]

end History

end FragmentSink
