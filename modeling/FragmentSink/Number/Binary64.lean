import FragmentSink.Number.Power

/-
  Binary floating-point numbers of 64 bits, as exact dyadic
  numbers.

  A finite number is a mantissa below `2 ^ 53` times a power of
  two not below `2 ^ (-1074)`.  A quotient of naturals is
  rounded to the nearest such number, a half to the even
  mantissa.

  Main statements:
    * `Binary64.roundDiv_spec`
-/

namespace FragmentSink

------------------------------------------------------------
-- Rounded Quotients
------------------------------------------------------------

/- A quotient rounded to the nearest natural, a half to the even one. -/
def roundDiv (num den : Nat) : Nat :=
  let q := num / den
  let r := num % den
  if 2 * r < den then q
  else if den < 2 * r then q + 1
  else if q % 2 = 0 then q else q + 1

/- A rounded quotient is at most half a unit away from the exact one. -/
theorem roundDiv_spec
    (num : Nat) {den : Nat} (hDen : 0 < den) :
    2 * num ≤ (2 * roundDiv num den + 1) * den ∧
      2 * (roundDiv num den * den) ≤ 2 * num + den := by
  have hDiv := Nat.div_add_mod num den
  have hMod := Nat.mod_lt num hDen
  generalize hQ : num / den = q at *
  generalize hR : num % den = r at *
  have hComm : den * q = q * den := Nat.mul_comm den q
  simp only [roundDiv, hQ, hR]
  split
  · simp only [Nat.add_mul, Nat.mul_assoc, Nat.one_mul]
    omega
  · split
    · simp only [Nat.add_mul, Nat.mul_add, Nat.mul_assoc,
        Nat.one_mul, Nat.mul_one]
      omega
    · split
      · simp only [Nat.add_mul, Nat.mul_assoc, Nat.one_mul]
        omega
      · simp only [Nat.add_mul, Nat.mul_add, Nat.mul_assoc,
          Nat.one_mul, Nat.mul_one]
        omega

------------------------------------------------------------
-- Binary Floating-Point Numbers
------------------------------------------------------------

/- A floating-point number: a sign, a mantissa and a power of two. -/
inductive Binary64 where
| nan
| infinite (negative : Bool)
| finite (negative : Bool) (mantissa : Nat) (exponent : Int)
deriving DecidableEq, Repr

namespace Binary64

/- The bound of mantissas, the fifty-third power of two. -/
def mantissaBound : Nat := 9007199254740992

/- The least mantissa with as many bits as there can be. -/
def leastNormal : Nat := 4503599627370496

/- The least power of two. -/
def leastExponent : Int := -1074

/- The greatest power of two. -/
def greatestExponent : Int := 971

/-
  The quotient `num / den` divided by a power of two, as a
  fraction of naturals.
-/
def scaled (num den : Nat) (e : Int) : Nat × Nat :=
  if 0 ≤ e then (num, den * twoTo e.toNat)
  else (num * twoTo (-e).toNat, den)

/-
  The power of two for which the quotient has 53 bits before
  the point, or the least one.  The estimate from the lengths
  of the two numbers is at most one too small.
-/
def exponentFor (num den : Nat) : Int :=
  let guess : Int := (num.log2 : Int) - (den.log2 : Int) - 53
  let at53 (e : Int) : Bool :=
    let (n, d) := scaled num den e
    n / d < mantissaBound
  let e := if at53 guess then guess else guess + 1
  max e leastExponent

/- The number nearest to a quotient, a half to the even mantissa. -/
def ofRatio (negative : Bool) (num den : Nat) : Binary64 :=
  if num = 0 then
    .finite negative 0 leastExponent
  else
    let e := exponentFor num den
    let (n, d) := scaled num den e
    let m := roundDiv n d
    let (m, e) :=
      if m = mantissaBound then (leastNormal, e + 1)
      else (m, e)
    if greatestExponent < e then .infinite negative
    else .finite negative m e

/- The number nearest to a natural. -/
def ofNat (n : Nat) : Binary64 :=
  ofRatio false n 1

/- The number nearest to the quotient of a number by a natural. -/
def divNat (x : Binary64) (den : Nat) : Binary64 :=
  match x with
  | .finite negative m e =>
      if 0 ≤ e then ofRatio negative (m * twoTo e.toNat) den
      else ofRatio negative m (den * twoTo (-e).toNat)
  | _ => x

/- The number nearest to `digits` times a power of ten. -/
def ofDecimal (negative : Bool) (digits : Nat) (exp10 : Int) : Binary64 :=
  let length : Int := (Nat.toDigits 10 digits).length
  if digits = 0 then
    ofRatio negative 0 1
  else if 310 < length + exp10 then
    .infinite negative
  else if length + exp10 < -330 then
    ofRatio negative 0 1
  else if 0 ≤ exp10 then
    ofRatio negative (digits * tenTo exp10.toNat) 1
  else
    ofRatio negative digits (tenTo (-exp10).toNat)

end Binary64

end FragmentSink
