import FragmentSink.Text.Hexadecimal
import FragmentSink.Text.Parts

/-
  Sets of characters as runs of their numbers.

  A table is a text whose words are single numbers and runs
  from a first to a last number, all in hexadecimal digits.

  Key definitions include:
    * `Runs.ofText`
    * `Runs.holds`
    * `Runs.key?`

  Main statements:
    * `Runs.holds_iff`
-/

namespace FragmentSink

/- The first and last numbers of runs. -/
structure Runs where
  bounds : List (Nat × Nat)
deriving DecidableEq, Repr

namespace Runs

/- The number of a word of a table. -/
def number (cs : List Char) : Nat :=
  (Hexadecimal.number? cs).getD 0

/- The first and last numbers of a word of a table. -/
def boundsOf (word : List Char) : Nat × Nat :=
  match Parts.cutAt? '-' word with
  | some (first, last) => (number first, number last)
  | none => (number word, number word)

/- The runs of a table. -/
def ofText (table : String) : Runs :=
  ⟨(Parts.words table.toList).map boundsOf⟩

/- Whether a character lies in a run. -/
def holds (r : Runs) (c : Char) : Bool :=
  r.bounds.any fun (first, last) =>
    first ≤ c.toNat && c.toNat ≤ last

/- A character lies in a run between its bounds. -/
theorem holds_iff {r : Runs} {c : Char} :
    r.holds c = true ↔
      ∃ b ∈ r.bounds, b.1 ≤ c.toNat ∧ c.toNat ≤ b.2 := by
  simp only [holds, List.any_eq_true, Bool.and_eq_true,
    decide_eq_true_eq]

/- Tables that are told apart by a key. -/
def keyed {K : Type} (tables : List (K × String)) : List (K × Runs) :=
  tables.map fun (key, table) => (key, ofText table)

/- The key of the first table that holds a character. -/
def key? {K : Type} (tables : List (K × Runs)) (c : Char) : Option K :=
  (tables.find? fun (_, r) => r.holds c).map Prod.fst

end Runs

end FragmentSink
