import FragmentSink.Health
import FragmentSink.Metrics.Exposition

/-
  The endpoints that show the health and the metrics of a
  running consumer.

  Unknown paths are not found, and only reading is allowed; a
  request for the head alone is answered without the body.

  Key definitions include:
    * `Resource.page`
    * `Endpoint.answer`
-/

namespace FragmentSink

------------------------------------------------------------
-- Answers
------------------------------------------------------------

/- What the body of an answer holds. -/
inductive PageBody where
| empty
| health (h : Health)
| metrics (exposition : String)

/- An answer of an endpoint. -/
structure Page where
  code : Nat
  contentType : String := ""
  body : PageBody := .empty

------------------------------------------------------------
-- Endpoints
------------------------------------------------------------

/- The ports that are listened on. -/
inductive Endpoint where
| health
| metrics
deriving DecidableEq, Repr

/- What is shown there. -/
inductive Resource where
| health
| liveness
| readiness
| metrics
deriving DecidableEq, Repr

namespace Resource

/- The code of a health: only what is not fine is unavailable. -/
def codeOf (fine : Bool) : Nat :=
  if fine then 200 else 503

/- The page of a resource. -/
def page
    (r : Resource)
    (h : Health)
    (m : Metrics) : Except Fault Page :=
  match r with
  | .health =>
      .ok ⟨codeOf h.isOperational, "application/json", .health h⟩
  | .liveness => .ok { code := codeOf h.isOperational }
  | .readiness => .ok { code := codeOf h.isReady }
  | .metrics =>
      (m.exposition Metrics.standardPrefix).map fun text =>
        ⟨200, "text/plain; version=0.0.4; charset=utf-8",
          .metrics text⟩

end Resource

namespace Endpoint

/- The resource at a path. -/
def resource? (e : Endpoint) (path : String) : Option Resource :=
  match e, path with
  | .health, "/health" => some .health
  | .health, "/healthz" => some .liveness
  | .health, "/readyz" => some .readiness
  | .metrics, "/metrics" => some .metrics
  | _, _ => none

/- The path of a request target, without its query. -/
def pathOf (target : String) : String :=
  .ofList (target.toList.takeWhile (· ≠ '?'))

/- The answer to a request. -/
def answer
    (e : Endpoint)
    (method target : String)
    (h : Health)
    (m : Metrics) : Except Fault Page :=
  match e.resource? (pathOf target) with
  | none => .ok { code := 404 }
  | some r =>
      if method = "GET" then r.page h m
      else if method = "HEAD" then
        (r.page h m).map fun page => { page with body := .empty }
      else .ok { code := 405 }

end Endpoint

end FragmentSink
