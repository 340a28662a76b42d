import FragmentSink.Fragment
import FragmentSink.Time

/-
  What a buffer needs of the world around it, and the commit
  of a batch.

  The fragments of a batch are uploaded one after the other.
  The first upload that does not end well ends the commit; a
  timer may end it while an upload is waited for, and so may
  whoever drops the task.

  The sizes of the fragments that were committed are added up
  for a line of the log only, and are left out here.

  Main statements:
    * `commitAll_append_of_durable`
-/

namespace FragmentSink

------------------------------------------------------------
-- Surroundings
------------------------------------------------------------

/- How the wait for an upload ends. -/
inductive UploadEnd where
| stored
| refused
| expired
| dropped
deriving DecidableEq, Repr

/-
  The world around a buffer, with states of type `σ`: a clock
  that may be set, a counter that runs, a storage, and a timer
  that ends the wait for an upload.
-/
structure Surroundings (σ : Type) where
  now : σ → Timestamp × σ
  ticks : σ → Nat × σ
  upload : Fragment → σ → UploadEnd × σ
  armTimer : Span → σ → σ
  disarmTimer : σ → σ

------------------------------------------------------------
-- Batch Commits
------------------------------------------------------------

/- How the commit of a batch ends. -/
inductive CommitEnd where
| durable
| failed
| dropped
deriving DecidableEq, Repr

variable {σ : Type}

/- Whatever commits a batch that it is handed. -/
abbrev Executor (σ : Type) :=
  List Fragment → σ → CommitEnd × σ

/- Upload the fragments of a batch in order, up to the first that is not stored. -/
def commitAll
    (env : Surroundings σ) : Executor σ
| [], s => (.durable, s)
| f :: fs, s =>
    match env.upload f s with
    | (.stored, s) => commitAll env fs s
    | (.refused, s) => (.failed, s)
    | (.expired, s) => (.failed, s)
    | (.dropped, s) => (.dropped, s)

/- Hand a batch to an executor, within a span if there is a limit. -/
def Executor.within
    (commit : Executor σ)
    (env : Surroundings σ)
    (limit : Option Span) : Executor σ :=
  fun batch s =>
    match limit with
    | none => commit batch s
    | some span =>
        let (answer, s) := commit batch (env.armTimer span s)
        (answer, env.disarmTimer s)

/- Commit a batch, within a span if there is a limit. -/
def commitWithin
    (env : Surroundings σ)
    (limit : Option Span) : Executor σ :=
  Executor.within (commitAll env) env limit

theorem within_commitAll (env : Surroundings σ) :
    Executor.within (commitAll env) env = commitWithin env :=
  rfl

/- A commit of two batches in one goes on with the second where the first is durable. -/
theorem commitAll_append_of_durable
    {env : Surroundings σ}
    {fs gs : List Fragment} {s t : σ}
    (h : commitAll env fs s = (.durable, t)) :
    commitAll env (fs ++ gs) s = commitAll env gs t := by
  induction fs generalizing s with
  | nil =>
      cases h
      rfl
  | cons f fs ih =>
      simp only [List.cons_append, commitAll] at h ⊢
      split at h <;> simp_all

end FragmentSink
