import FragmentSink.Number.Shortest

/-
  The values of a TOML document.

  A table remembers how it was opened, which decides whether
  it may still be added to.

  Key definitions include:
    * `Toml.Value`
    * `Toml.Value.modify?`
-/

namespace FragmentSink

namespace Toml

------------------------------------------------------------
-- Values
------------------------------------------------------------

/- How a table was opened. -/
inductive TableForm where
/- By its own header. -/
| header
/- On the way to the header of another table. -/
| way
/- By a dotted key. -/
| dotted
/- Between braces, where it is also closed. -/
| inline
deriving DecidableEq, Repr

/- A value of a document; a moment is a date, a time, or both, as written. -/
inductive Value where
| text (s : String)
| integer (n : Int)
| float (x : Binary64)
| boolean (b : Bool)
| moment (written : String)
| array (elements : List Value)
| tables (elements : List (List (String × Value)))
| table (form : TableForm) (entries : List (String × Value))

/- The keys of a table with their values, in the order of the document. -/
abbrev Entries := List (String × Value)

namespace Value

------------------------------------------------------------
-- Changing One Entry
------------------------------------------------------------

/- Change or add the value of a key; the change is told whether there is one, and may refuse. -/
def modify?
    (key : String)
    (change : Option Value → Option Value) :
    Entries → Option Entries
| [] => (change none).map fun v => [(key, v)]
| (k, v) :: rest =>
    if k = key then
      (change (some v)).map fun v => (k, v) :: rest
    else
      (modify? key change rest).map fun rest => (k, v) :: rest

/- A change adds its key at the end or keeps the keys as they are. -/
theorem keys_modify?
    {key : String}
    {change : Option Value → Option Value}
    {entries changed : Entries}
    (h : modify? key change entries = some changed) :
    changed.map Prod.fst =
      if key ∈ entries.map Prod.fst then entries.map Prod.fst
      else entries.map Prod.fst ++ [key] := by
  induction entries generalizing changed with
  | nil =>
      simp only [modify?, Option.map_eq_some_iff] at h
      obtain ⟨v, _, rfl⟩ := h
      simp
  | cons e rest ih =>
      obtain ⟨k, v⟩ := e
      simp only [modify?] at h
      split at h
      · next hk =>
        simp only [Option.map_eq_some_iff] at h
        obtain ⟨w, _, rfl⟩ := h
        simp [hk]
      · next hk =>
        simp only [Option.map_eq_some_iff] at h
        obtain ⟨r, hr, rfl⟩ := h
        have hKeys := ih hr
        simp only [List.map_cons, List.mem_cons, hKeys]
        have hk' : key ≠ k := fun h => hk h.symm
        by_cases hIn : key ∈ rest.map Prod.fst <;> simp [hIn, hk']

end Value

end Toml

end FragmentSink
