/-
  Powers of the two bases that numbers are written in.

  Key definitions include:
    * `twoTo`
    * `tenTo`

  Main statements:
    * `twoTo_succ`
    * `twoTo_add`
    * `twoTo_le_twoTo`
-/

namespace FragmentSink

------------------------------------------------------------
-- Powers of Two
------------------------------------------------------------

/- A power of two. -/
def twoTo (n : Nat) : Nat :=
  Nat.pow 2 n

theorem twoTo_zero : twoTo 0 = 1 := by
  rfl

theorem twoTo_succ (n : Nat) : twoTo (n + 1) = 2 * twoTo n := by
  exact Nat.mul_comm (twoTo n) 2

theorem twoTo_pos (n : Nat) : 0 < twoTo n :=
  Nat.pow_pos (by decide)

theorem twoTo_add (m n : Nat) : twoTo (m + n) = twoTo m * twoTo n :=
  Nat.pow_add 2 m n

/- A greater exponent gives no smaller power. -/
theorem twoTo_le_twoTo {m n : Nat} (h : m ≤ n) : twoTo m ≤ twoTo n :=
  Nat.pow_le_pow_right (by decide) h

------------------------------------------------------------
-- Powers of Ten
------------------------------------------------------------

/- A power of ten. -/
def tenTo (n : Nat) : Nat :=
  Nat.pow 10 n

theorem tenTo_succ (n : Nat) : tenTo (n + 1) = 10 * tenTo n := by
  exact Nat.mul_comm (tenTo n) 10

theorem tenTo_pos (n : Nat) : 0 < tenTo n :=
  Nat.pow_pos (by decide)

end FragmentSink
