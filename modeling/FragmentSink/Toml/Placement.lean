import FragmentSink.Toml.Value

/-
  Where the keys and headers of a TOML document put things.

  No key is set twice.  A dotted key adds only to tables that
  dotted keys opened; a header opens a table once, and may do
  so after the headers of the tables within it.  An array of
  tables is entered at its last element.

  Key definitions include:
    * `Toml.Value.assign?`
    * `Toml.Value.enter?`
    * `Toml.Value.openTable?`
    * `Toml.Value.openElement?`
-/

namespace FragmentSink

namespace Toml

namespace Value

------------------------------------------------------------
-- Dotted Keys
------------------------------------------------------------

/-
  Whether a dotted key may go through a table.  The last table
  on its way must be one that dotted keys opened.
-/
def allowsDotted (form : TableForm) (isLast : Bool) : Bool :=
  match form with
  | .dotted => true
  | .way => !isLast
  | .header | .inline => false

/- Set a dotted key, opening the tables on its way. -/
def assign? (v : Value) : List String → Entries → Option Entries
| [], _ => none
| [key], entries =>
    modify? key
      (fun
        | none => some v
        | some _ => none)
      entries
| key :: next :: path, entries =>
    modify? key
      (fun
        | none =>
            (assign? v (next :: path) []).map (.table .dotted)
        | some (.table form inner) =>
            if allowsDotted form path.isEmpty then
              (assign? v (next :: path) inner).map (.table form)
            else none
        | some (.tables elements) =>
            match elements.getLast? with
            | some inner =>
                if path.isEmpty then none
                else
                  (assign? v (next :: path) inner).map
                    fun inner =>
                      .tables (elements.dropLast ++ [inner])
            | none => none
        | some _ => none)
      entries

------------------------------------------------------------
-- Headers
------------------------------------------------------------

/- Change the table at the end of a path, opening the tables on the way. -/
def enter?
    (change : Entries → Option Entries) :
    List String → Entries → Option Entries
| [], entries => change entries
| key :: path, entries =>
    modify? key
      (fun
        | none => (enter? change path []).map (.table .way)
        | some (.table .inline _) => none
        | some (.table form inner) =>
            (enter? change path inner).map (.table form)
        | some (.tables elements) =>
            match elements.getLast? with
            | some inner =>
                (enter? change path inner).map fun inner =>
                  .tables (elements.dropLast ++ [inner])
            | none => none
        | some _ => none)
      entries

/- The value of a key. -/
def get? (key : String) (entries : Entries) : Option Value :=
  (entries.find? fun e => e.1 = key).map Prod.snd

/-
  Open a table in the one it belongs to.  One that was opened
  on the way moves to the end.
-/
def openHere? (key : String) (entries : Entries) : Option Entries :=
  match get? key entries with
  | none => some (entries ++ [(key, .table .header [])])
  | some (.table .way inner) =>
      some ((entries.filter fun e => e.1 ≠ key) ++
        [(key, .table .header inner)])
  | some _ => none

/- Open the table of a header. -/
def openTable?
    (path : List String)
    (entries : Entries) : Option Entries :=
  match path.getLast? with
  | some key => enter? (openHere? key) path.dropLast entries
  | none => none

/- Open the next element of the array of tables of a header. -/
def openElement?
    (path : List String)
    (entries : Entries) : Option Entries :=
  match path.getLast? with
  | some key =>
      enter?
        (modify? key
          fun
          | none => some (.tables [[]])
          | some (.tables elements) =>
              some (.tables (elements ++ [[]]))
          | some _ => none)
        path.dropLast entries
  | none => none

end Value

end Toml

end FragmentSink
