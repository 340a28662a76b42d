import FragmentSink.Table

/-
  The health of the program's components, and what follows
  from it for the whole.

  One unhealthy component makes the whole unhealthy, else one
  degraded component makes it degraded.  The program is ready
  while its consumer runs and nothing is unhealthy.

  Main statements:
    * `Health.operational_iff`
-/

namespace FragmentSink

------------------------------------------------------------
-- Component Statuses
------------------------------------------------------------

/- What is known of one component; trouble carries its reason. -/
inductive ComponentStatus where
| healthy
| degraded (reason : String)
| unhealthy (reason : String)
| unknown
deriving DecidableEq, Repr

namespace ComponentStatus

/- The written name of a status. -/
def label : ComponentStatus → String
| .healthy => "healthy"
| .degraded _ => "degraded"
| .unhealthy _ => "unhealthy"
| .unknown => "unknown"

/- The reason a status carries. -/
def reason? : ComponentStatus → Option String
| .degraded why => some why
| .unhealthy why => some why
| _ => none

/- Whether a status is the unhealthy one. -/
def isUnhealthy : ComponentStatus → Bool
| .unhealthy _ => true
| _ => false

/- Whether a status is the degraded one. -/
def isDegraded : ComponentStatus → Bool
| .degraded _ => true
| _ => false

end ComponentStatus

/- The names of the components of an ingestion. -/
inductive Component where
| kafka
| storage
| buffer
deriving DecidableEq, Repr

namespace Component

/- The components of an ingestion, in the order they are registered. -/
def all : List Component :=
  [.kafka, .storage, .buffer]

/- The name a component is registered under. -/
def name : Component → String
| .kafka => "kafka"
| .storage => "storage"
| .buffer => "buffer"

end Component

------------------------------------------------------------
-- Overall Health
------------------------------------------------------------

/- The health of the whole. -/
inductive OverallHealth where
| healthy
| degraded
| unhealthy
deriving DecidableEq, Repr

namespace OverallHealth

/- The written name of an overall health. -/
def label : OverallHealth → String
| .healthy => "healthy"
| .degraded => "degraded"
| .unhealthy => "unhealthy"

end OverallHealth

/- The statuses of all components, and whether the consumer runs. -/
structure Health where
  components : Table String ComponentStatus
  running : Bool

namespace Health

/- No component and no running consumer. -/
def empty : Health :=
  ⟨.empty, false⟩

/- Give a component a status. -/
def set (h : Health) (name : String) (s : ComponentStatus) : Health :=
  { h with components := h.components.insert name s }

/- Register a component of which nothing is known yet. -/
def register (h : Health) (name : String) : Health :=
  h.set name .unknown

/- Give a component of an ingestion a status. -/
def mark (h : Health) (c : Component) (s : ComponentStatus) : Health :=
  h.set c.name s

/- The status of a component. -/
def status? (h : Health) (name : String) : Option ComponentStatus :=
  h.components.get? name

/- The components of an ingestion, with nothing known of them. -/
def forIngestion : Health :=
  Component.all.foldl (fun h c => h.register c.name) empty

/- Note that the consumer runs. -/
def consumerStarted (h : Health) : Health :=
  { h with running := true }

/- Note that the consumer has stopped. -/
def consumerStopped (h : Health) : Health :=
  { h with running := false }

/- The health of the whole. -/
def overall (h : Health) : OverallHealth :=
  if h.components.values.any ComponentStatus.isUnhealthy then
    .unhealthy
  else if h.components.values.any ComponentStatus.isDegraded then
    .degraded
  else
    .healthy

/- Whether the program can do its work. -/
def isOperational (h : Health) : Bool :=
  h.overall ≠ .unhealthy

/- Whether the program does its work. -/
def isReady (h : Health) : Bool :=
  h.running && h.isOperational

/- The whole is operational exactly when no component is unhealthy. -/
theorem operational_iff (h : Health) :
    h.isOperational = true ↔
      ∀ s ∈ h.components.values, s.isUnhealthy = false := by
  unfold isOperational overall
  cases hBad :
      h.components.values.any ComponentStatus.isUnhealthy with
  | true =>
      obtain ⟨s, hs, hUn⟩ := List.any_eq_true.mp hBad
      simp only [if_true, ne_eq, not_true_eq_false,
        decide_false, Bool.false_eq_true, false_iff]
      intro hAll
      rw [hAll s hs] at hUn
      cases hUn
  | false =>
      have hAll :
          ∀ s ∈ h.components.values, s.isUnhealthy = false := by
        simpa [List.any_eq_false] using hBad
      cases h.components.values.any
          ComponentStatus.isDegraded <;>
        simpa using hAll

end Health

end FragmentSink
