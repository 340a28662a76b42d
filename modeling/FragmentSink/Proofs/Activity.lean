import FragmentSink.Engine.State

/-
  Rules for what an activity leads to.

  An activity either goes on with an answer or stops early,
  and in both cases leaves a session behind.  What it leads to
  is described part by part, along its own binds.

  Main declarations:
    * `Activity.Leads`
    * `Activity.leads_bind`
    * `Activity.leads_await`
    * `Activity.Leads.mono`
-/

namespace FragmentSink

namespace Activity

variable {σ α β : Type}

------------------------------------------------------------
-- Outcomes of Activities
------------------------------------------------------------

/-
  From a session, an activity goes on with an answer and a
  session in `Q`, or stops early with a reason and a session
  in `E`.
-/
def Leads
    (x : Activity σ α)
    (s : Session σ)
    (Q : α → Session σ → Prop)
    (E : Stop → Session σ → Prop) : Prop :=
  match x.run.run s with
  | (.ok a, t) => Q a t
  | (.error e, t) => E e t

/- What an activity leads to is what its run shows. -/
theorem Leads.of_run_ok
    {x : Activity σ α}
    {s t : Session σ}
    {a : α}
    {Q : α → Session σ → Prop}
    {E : Stop → Session σ → Prop}
    (hLeads : x.Leads s Q E)
    (hRun : x.run.run s = (.ok a, t)) :
    Q a t := by
  unfold Leads at hLeads
  rw [hRun] at hLeads
  exact hLeads

theorem Leads.of_run_error
    {x : Activity σ α}
    {s t : Session σ}
    {e : Stop}
    {Q : α → Session σ → Prop}
    {E : Stop → Session σ → Prop}
    (hLeads : x.Leads s Q E)
    (hRun : x.run.run s = (.error e, t)) :
    E e t := by
  unfold Leads at hLeads
  rw [hRun] at hLeads
  exact hLeads

/- What an activity can only lead to is its run. -/
theorem run_eq_of_leads
    {x : Activity σ α}
    {s t : Session σ}
    {r : Except Stop α}
    (hLeads :
      x.Leads s
        (fun a u => .ok a = r ∧ u = t)
        (fun e u => .error e = r ∧ u = t)) :
    x.run.run s = (r, t) := by
  unfold Leads at hLeads
  split at hLeads
  case h_1 a u hRun =>
    rw [hRun, hLeads.1, hLeads.2]
  case h_2 e u hRun =>
    rw [hRun, hLeads.1, hLeads.2]

/- Weaker descriptions follow from stronger ones. -/
theorem Leads.mono
    {x : Activity σ α}
    {s : Session σ}
    {Q Q' : α → Session σ → Prop}
    {E E' : Stop → Session σ → Prop}
    (hLeads : x.Leads s Q E)
    (hGoesOn : ∀ a t, Q a t → Q' a t)
    (hStops : ∀ e t, E e t → E' e t) :
    x.Leads s Q' E' := by
  unfold Leads at hLeads ⊢
  split at hLeads
  case h_1 a t hRun => exact hGoesOn a t hLeads
  case h_2 e t hRun => exact hStops e t hLeads

------------------------------------------------------------
-- Rules
------------------------------------------------------------

section Rules

variable {s : Session σ}
variable {E : Stop → Session σ → Prop}

/- The run of a bind is the run of its first part, then of the second. -/
theorem run_bind
    (x : Activity σ α)
    (f : α → Activity σ β)
    (s : Session σ) :
    (x >>= f).run.run s =
      match x.run.run s with
      | (.ok a, t) => (f a).run.run t
      | (.error e, t) => (.error e, t) := by
  simp only [ExceptT.run_bind, StateT.run_bind]
  rcases x.run.run s with ⟨r, t⟩
  cases r with
  | ok a => rfl
  | error e => rfl

theorem leads_bind
    {x : Activity σ α}
    {f : α → Activity σ β}
    {Q : β → Session σ → Prop} :
    (x >>= f).Leads s Q E ↔
      x.Leads s (fun a t => (f a).Leads t Q E) E := by
  unfold Leads
  rw [run_bind]
  rcases x.run.run s with ⟨r, t⟩
  cases r with
  | ok a => rfl
  | error e => rfl

theorem leads_get {Q : Session σ → Session σ → Prop} :
    (get : Activity σ (Session σ)).Leads s Q E ↔ Q s s :=
  Iff.rfl

theorem leads_set
    {t : Session σ}
    {Q : PUnit → Session σ → Prop} :
    (set t : Activity σ PUnit).Leads s Q E ↔ Q ⟨⟩ t :=
  Iff.rfl

theorem leads_modify
    {f : Session σ → Session σ}
    {Q : PUnit → Session σ → Prop} :
    (modify f : Activity σ PUnit).Leads s Q E ↔ Q ⟨⟩ (f s) :=
  Iff.rfl

theorem leads_engine {Q : Engine → Session σ → Prop} :
    engine.Leads s Q E ↔ Q s.engine s :=
  Iff.rfl

theorem leads_update
    {f : Engine → Engine}
    {Q : Unit → Session σ → Prop} :
    (update f).Leads s Q E ↔ Q () ⟨f s.engine, s.world⟩ :=
  Iff.rfl

theorem leads_call
    {f : σ → α × σ}
    {Q : α → Session σ → Prop} :
    (call f).Leads s Q E ↔
      Q (f s.world).1 ⟨s.engine, (f s.world).2⟩ :=
  Iff.rfl

/- A call that is awaited stops the activity where it is dropped. -/
theorem leads_await
    {f : σ → Awaited α × σ}
    {Q : α → Session σ → Prop} :
    (await f).Leads s Q E ↔
      match (f s.world).1 with
      | .done a => Q a ⟨s.engine, (f s.world).2⟩
      | .dropped => E .dropped ⟨s.engine, (f s.world).2⟩ := by
  unfold await
  rw [leads_bind, leads_call]
  cases (f s.world).1 with
  | done a => exact Iff.rfl
  | dropped => exact Iff.rfl

theorem leads_orFault
    {x : Except Fault α}
    {Q : α → Session σ → Prop}
    (hOk : ∀ a, x = .ok a → Q a s)
    (hFault : ∀ f, x = .error f → E (.fault f) s) :
    (orFault x : Activity σ α).Leads s Q E := by
  cases x with
  | ok a => exact hOk a rfl
  | error f => exact hFault f rfl

theorem leads_orFail
    {x : Except Error α}
    {Q : α → Session σ → Prop}
    (hOk : ∀ a, x = .ok a → Q a s)
    (hFail : ∀ e, x = .error e → E (.failed e) s) :
    (orFail x : Activity σ α).Leads s Q E := by
  cases x with
  | ok a => exact hOk a rfl
  | error e => exact hFail e rfl

/- The run of a guarded activity goes on with the handler after a stop. -/
theorem run_tryCatch
    (x : Activity σ α)
    (handle : Stop → Activity σ α)
    (s : Session σ) :
    (tryCatch x handle).run.run s =
      match x.run.run s with
      | (.ok a, t) => (.ok a, t)
      | (.error e, t) => (handle e).run.run t := by
  simp only [tryCatch, tryCatchThe, MonadExceptOf.tryCatch,
    ExceptT.tryCatch, ExceptT.run_mk, StateT.run_bind]
  rw [show StateT.run x s = x.run.run s from rfl]
  rcases x.run.run s with ⟨r, t⟩
  cases r with
  | ok a => rfl
  | error e => rfl

/- A stop that is caught goes on with its handler. -/
theorem leads_tryCatch
    {x : Activity σ α}
    {handle : Stop → Activity σ α}
    {Q : α → Session σ → Prop} :
    (tryCatch x handle).Leads s Q E ↔
      x.Leads s Q (fun e t => (handle e).Leads t Q E) := by
  unfold Leads
  rw [run_tryCatch]
  rcases x.run.run s with ⟨r, t⟩
  cases r with
  | ok a => rfl
  | error e => rfl

end Rules

end Activity

end FragmentSink
