import FragmentSink.Number.Binary64

/-
  Decimal texts of floating-point numbers.

  The shortest text has the fewest digits that are still read
  back as the same number, and of those the digits nearest to
  it.  It is positional at every magnitude.  A text of fixed
  places rounds the exact value, a half to the even digit.

  Key definitions include:
    * `Binary64.shortest`
    * `Binary64.text`
    * `Binary64.textWithPoint`
    * `Binary64.fixed`
-/

namespace FragmentSink

namespace Binary64

------------------------------------------------------------
-- Shortest Digits
------------------------------------------------------------

/- A positive number of the form `num / den`, and the ends of the interval read back as it. -/
structure ReadInterval where
  low : Nat
  value : Nat
  high : Nat
  den : Nat
  closed : Bool

/-
  The interval of reals that round to a mantissa and a power
  of two: half a unit to either side, and a quarter below
  where the next number down has a smaller power.
-/
def readInterval (m : Nat) (e : Int) : ReadInterval :=
  let below :=
    if m = leastNormal ∧ leastExponent < e then 1 else 2
  let up := if 0 ≤ e then twoTo e.toNat else 1
  let down := if 0 ≤ e then 1 else twoTo (-e).toNat
  { low := (4 * m - below) * up
    value := 4 * m * up
    high := (4 * m + 2) * up
    den := 4 * down
    closed := m % 2 = 0 }

namespace ReadInterval

/- The digits before the first nonzero one after the point, counted up to a limit. -/
def leadingZeros (num den : Nat) : Nat → Nat
| 0 => 0
| limit + 1 =>
    if den ≤ num then 0
    else leadingZeros (num * 10) den limit + 1

/- The power of ten of the first digit. -/
def magnitude (r : ReadInterval) : Int :=
  if r.den ≤ r.value then
    (Nat.toDigits 10 (r.value / r.den)).length - 1
  else
    -(leadingZeros r.value r.den 400 : Int)

/- Whether `d` times a power of ten lies in the interval. -/
def contains (r : ReadInterval) (d : Nat) (k : Int) : Bool :=
  let x := if 0 ≤ k then d * tenTo k.toNat * r.den else d * r.den
  let s := if 0 ≤ k then 1 else tenTo (-k).toNat
  if r.closed then r.low * s ≤ x ∧ x ≤ r.high * s
  else r.low * s < x ∧ x < r.high * s

/-
  The neighbour below on the grid of a power of ten, and
  whether the one above is at least as near.
-/
def neighbour (r : ReadInterval) (k : Int) : Nat × Bool :=
  let (n, d) :=
    if 0 ≤ k then (r.value, r.den * tenTo k.toNat)
    else (r.value * tenTo (-k).toNat, r.den)
  (n / d, d ≤ 2 * (n % d))

/- The neighbour on a grid that is read back, the nearer one if both are. -/
def hit? (r : ReadInterval) (k : Int) : Option Nat :=
  let (d, upper) := r.neighbour k
  let first := if upper then d + 1 else d
  let second := if upper then d else d + 1
  if r.contains first k then some first
  else if r.contains second k then some second
  else none

/- The first hit on the grids from `k` downwards. -/
def search (r : ReadInterval) (k : Int) : Nat → Nat × Int
| 0 => ((r.neighbour k).1, k)
| grids + 1 =>
    match r.hit? k with
    | some d => (d, k)
    | none => search r (k - 1) grids

end ReadInterval

/-
  The fewest digits that are read back as a number, with their
  power of ten.  A number just below a power of ten may hit
  that power on its first grid, as ten units.
-/
def shortest (m : Nat) (e : Int) : Nat × Int :=
  let r := readInterval m e
  let (d, k) := r.search r.magnitude 17
  if d = 10 then (1, k + 1) else (d, k)

------------------------------------------------------------
-- Positional Texts
------------------------------------------------------------

/- Digits times a power of ten, written with a point where it is needed. -/
def positional (digits : Nat) (k : Int) : String :=
  let ds := Nat.toDigits 10 digits
  if 0 ≤ k then
    String.ofList (ds ++ List.replicate k.toNat '0')
  else
    let places := (-k).toNat
    let padded :=
      List.replicate (places + 1 - ds.length) '0' ++ ds
    let whole := padded.take (padded.length - places)
    let rest := padded.drop (padded.length - places)
    String.ofList (whole ++ '.' :: rest)

/- The sign of a negative number. -/
def signText (negative : Bool) : String :=
  if negative then "-" else ""

/- The shortest text of a number. -/
def text : Binary64 → String
| .nan => "NaN"
| .infinite negative => signText negative ++ "inf"
| .finite negative m e =>
    if m = 0 then
      signText negative ++ "0"
    else
      let (d, k) := shortest m e
      signText negative ++ positional d k

/- The shortest text of a number, with a point in every finite one. -/
def textWithPoint (x : Binary64) : String :=
  match x with
  | .finite .. =>
      if x.text.toList.contains '.' then x.text
      else x.text ++ ".0"
  | _ => x.text

/- The text of a number with fixed places, a half rounded to the even digit. -/
def fixed (x : Binary64) (places : Nat) : String :=
  match x with
  | .finite negative m e =>
      let (n, d) :=
        if 0 ≤ e then (m * twoTo e.toNat, 1)
        else (m, twoTo (-e).toNat)
      let units := roundDiv (n * tenTo places) d
      signText negative ++
        (if places = 0 then positional units 0
         else positional units (-(places : Int)))
  | _ => x.text

end Binary64

end FragmentSink
