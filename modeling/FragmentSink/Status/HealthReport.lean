import FragmentSink.Json.Value
import FragmentSink.Text.Uppercase

/-
  The health that a running consumer reports, and how it is
  shown.

  A report is an object, or an array of its parts in order.
  An object may hold more than the report; a part must not be
  repeated, but of a repeated component the last one counts.

  Key definitions include:
    * `HealthReport.ofBody?`
    * `HealthReport.lines`
-/

namespace FragmentSink

------------------------------------------------------------
-- Reports
------------------------------------------------------------

/- What is reported of one component. -/
structure ComponentReport where
  status : String
  message : Option String
deriving DecidableEq, Repr

/- What is reported of the whole. -/
structure HealthReport where
  status : String
  components : List (String × ComponentReport)
deriving DecidableEq, Repr

------------------------------------------------------------
-- Reading
------------------------------------------------------------

namespace Report

/- The values of a key. -/
def valuesOf
    (key : String)
    (members : List (Option String × Json.Value)) : List Json.Value :=
  (members.filter fun m => m.1 = some key).map Prod.snd

/- The value of a key that must be there once. -/
def one?
    (key : String)
    (members : List (Option String × Json.Value)) : Option Json.Value :=
  match valuesOf key members with
  | [v] => some v
  | _ => none

/- Whether every key of an object is a text. -/
def hasKeys (members : List (Option String × Json.Value)) : Bool :=
  members.all fun m => m.1.isSome

/- A text. -/
def text? : Json.Value → Option String
| .text s => s
| _ => none

/- A text that may be absent. -/
def absentable? : Json.Value → Option (Option String)
| .null => some none
| .text (some s) => some (some s)
| _ => none

end Report

namespace ComponentReport

open Report

/- A report of a component. -/
def ofJson? : Json.Value → Option ComponentReport
| .array [status, message] => do
    some ⟨← text? status, ← absentable? message⟩
| .object members =>
    if hasKeys members then do
      let status ← (one? "status" members).bind text?
      match valuesOf "message" members with
      | [] => some ⟨status, none⟩
      | [message] => some ⟨status, ← absentable? message⟩
      | _ => none
    else none
| _ => none

end ComponentReport

namespace HealthReport

open Report

/- Set the report of a component, in the place of an earlier one. -/
def put
    (reports : List (String × ComponentReport))
    (name : String)
    (r : ComponentReport) : List (String × ComponentReport) :=
  (reports.filter fun e => e.1 ≠ name) ++ [(name, r)]

/- The reports of the components. -/
def components? : Json.Value → Option (List (String × ComponentReport))
| .object members =>
    members.foldlM
      (fun reports (key, v) =>
        key.bind fun name =>
          (ComponentReport.ofJson? v).map fun r =>
            put reports name r)
      []
| _ => none

/- A report of the whole. -/
def ofJson? : Json.Value → Option HealthReport
| .array [status, components] => do
    some ⟨← text? status, ← components? components⟩
| .object members =>
    if hasKeys members then do
      let status ← (one? "status" members).bind text?
      let components ←
        (one? "components" members).bind components?
      some ⟨status, components⟩
    else none
| _ => none

/- The report in the body of an answer. -/
def ofBody? (body : String) : Option HealthReport :=
  (Json.read? body).bind ofJson?

------------------------------------------------------------
-- Showing
------------------------------------------------------------

/- The mark of a status. -/
def mark (status : String) : String :=
  match status with
  | "healthy" => "[OK]"
  | "degraded" => "[WARN]"
  | "unhealthy" => "[FAIL]"
  | _ => "[?]"

/- The line of a component. -/
def componentLine (name : String) (r : ComponentReport) : String :=
  "  " ++ mark r.status ++ " " ++ name ++ ": " ++ r.status ++
    (match r.message with
     | some why => " (" ++ why ++ ")"
     | none => "")

/- The lines of a report, with those of the components in the order of their texts. -/
def lines (h : HealthReport) (code : Nat) : List String :=
  let overall :=
    mark h.status ++ " Overall Status: " ++
      Uppercase.ofText h.status ++ " (HTTP " ++ toString code ++ ")"
  let components :=
    (h.components.map fun (name, r) => componentLine name r).mergeSort
      fun a b => a ≤ b
  [overall, ""] ++
    (if components.isEmpty then [] else "Components:" :: components)

end HealthReport

end FragmentSink
