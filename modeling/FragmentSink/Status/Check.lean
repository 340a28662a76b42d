import FragmentSink.Http.Exchange
import FragmentSink.Status.HealthReport
import FragmentSink.Status.Samples

/-
  Showing the status of a running consumer.

  The health is asked first.  Where nothing answers, nothing
  else is asked; else the metrics are asked from where they are
  served by default on the same host.

  Key definitions include:
    * `Status.healthAddress`
    * `Status.metricsAddress`
    * `Status.lines`
-/

namespace FragmentSink

namespace Status

------------------------------------------------------------
-- Addresses
------------------------------------------------------------

/- An address without the slashes at its end. -/
def withoutSlashes (cs : List Char) : List Char :=
  Parts.trimEnd (· = '/') cs

/- The address of the health. -/
def healthAddress (address : String) : String :=
  .ofList (withoutSlashes address.toList ++ "/health".toList)

/- The address at which the metrics are served by default. -/
def metricsAddress (address : String) : String :=
  let moved :=
    Parts.replace ":8080".toList ":9090".toList address.toList
  let bare := Parts.replace "/health".toList [] moved
  .ofList (withoutSlashes bare ++ "/metrics".toList)

------------------------------------------------------------
-- Lines
------------------------------------------------------------

/- The lines where the health is not answered. -/
def unansweredLines (why : FetchFailure) : List String :=
  ["Failed to connect to health endpoint: " ++ why.message,
   "",
   "Is the replaysink consumer running?",
   "Start it with: replaysink --config <path-to-config> ingest"]

/- The lines of an answer about the health. -/
def healthLines (r : Response) : List String :=
  match HealthReport.ofBody? r.body with
  | some report => report.lines r.code
  | none =>
      ["Failed to parse health response: error decoding response body",
       "HTTP Status: " ++ r.codeText]

/- The lines of an answer about the metrics. -/
def metricsLines (answer : Except FetchFailure Response) : List String :=
  match answer with
  | .ok r => Samples.rows (Samples.ofText r.text)
  | .error why => ["Failed to fetch metrics: " ++ why.message]

/- The lines that show the status of the consumer at an address. -/
def lines (web : Web) (address : String) : List String :=
  ["Checking health at " ++ address ++ "...", ""] ++
    match web.fetch (healthAddress address) with
    | .error why => unansweredLines why
    | .ok health =>
        let metrics := metricsAddress address
        healthLines health ++
          ["", "--- Metrics ---",
           "Fetching from " ++ metrics ++ "...", ""] ++
          metricsLines (web.fetch metrics)

end Status

end FragmentSink
