import FragmentSink.Number.Shortest
import FragmentSink.Text.Decimal
import FragmentSink.Text.Parts

/-
  The whole samples of an exposition of metrics, and the rows
  that are shown of them.

  A sample is a line of a name and a number of 64 bits, with
  white space between them; comments and all other lines are
  passed over.  Of a repeated name the last sample counts.

  Key definitions include:
    * `Samples.ofText`
    * `Samples.rows`
    * `Samples.rounded`
-/

namespace FragmentSink

namespace Samples

------------------------------------------------------------
-- Reading
------------------------------------------------------------

/- The name and number of a line that is a sample. -/
def ofLine? (line : List Char) : Option (String × UInt64) :=
  if line.isEmpty ∨ line.head? = some '#' then none
  else
    match Parts.words line with
    | name :: number :: _ =>
        (Decimal.readNat? UInt64.size number).map fun n =>
          (String.ofList name, UInt64.ofNat n)
    | _ => none

/- The samples of a text, in order. -/
def ofText (s : String) : List (String × UInt64) :=
  (Parts.lines s.toList).filterMap ofLine?

/- The number of the last sample of a name. -/
def get?
    (samples : List (String × UInt64))
    (name : String) : Option UInt64 :=
  (samples.reverse.find? fun e => e.1 = name).map Prod.snd

------------------------------------------------------------
-- Showing
------------------------------------------------------------

/- A number in thousands, millions or milliards with two places, or as it is below a thousand. -/
def rounded (n : UInt64) : String :=
  let inUnits (unit : Nat) : String :=
    ((Binary64.ofNat n.toNat).divNat unit).fixed 2
  if 1000000000 ≤ n then inUnits 1000000000 ++ "B"
  else if 1000000 ≤ n then inUnits 1000000 ++ "M"
  else if 1000 ≤ n then inUnits 1000 ++ "K"
  else toString n.toNat

/- The names of the samples that are shown, with their labels. -/
def shown : List (String × String) :=
  [("replaysink_fragments_consumed_total", "Fragments Consumed:"),
   ("replaysink_fragments_flushed_total", "Fragments Flushed: "),
   ("replaysink_bytes_flushed_total", "Bytes Flushed:     "),
   ("replaysink_flushes_total", "Buffer Commits:    "),
   ("replaysink_commit_failures_total", "Commit Failures:   "),
   ("replaysink_redeliveries_total", "Redeliveries:      "),
   ("replaysink_buffered_fragments", "Buffered Now:      "),
   ("replaysink_consumer_lag", "Uncommitted:       "),
   ("replaysink_errors_total", "Errors:            ")]

/- The rows of the samples there are. -/
def rows (samples : List (String × UInt64)) : List String :=
  (shown.filterMap fun (name, label) =>
      (get? samples name).map fun n => label ++ " " ++ rounded n) ++
    (if samples.isEmpty then ["No metrics available yet."] else [])

end Samples

end FragmentSink
