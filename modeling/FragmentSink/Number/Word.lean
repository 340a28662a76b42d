import FragmentSink.Fault

/-
  Arithmetic of fixed-width words at their bounds.

  Counters of a buffer stop at the largest word, offsets and
  totals fault when they leave their word.  Both are stated
  through exact integers.

  Main statements:
    * `Word.toNat_saturatingAdd`
    * `Word.addNat_eq_ok_iff`
    * `Word.addInt_eq_ok_iff`
    * `Word.subInt_eq_ok_iff`
-/

namespace FragmentSink

namespace Word

------------------------------------------------------------
-- Saturating Words
------------------------------------------------------------

/- The largest 64-bit word. -/
def top : Nat := UInt64.size - 1

/- The sum of two words, or the largest word where the sum does not fit. -/
def saturatingAdd (a b : UInt64) : UInt64 :=
  UInt64.ofNat (min (a.toNat + b.toNat) top)

/- The product of two words, or the largest word where it does not fit. -/
def saturatingMul (a b : UInt64) : UInt64 :=
  UInt64.ofNat (min (a.toNat * b.toNat) top)

/- The difference of two words, or zero where it is negative. -/
def saturatingSub (a b : UInt64) : UInt64 :=
  UInt64.ofNat (a.toNat - b.toNat)

/- A saturating sum is the exact sum, cut at the largest word. -/
theorem toNat_saturatingAdd (a b : UInt64) :
    (saturatingAdd a b).toNat =
      min (a.toNat + b.toNat) top := by
  have h : min (a.toNat + b.toNat) top < UInt64.size := by
    simp only [top, UInt64.size]
    omega
  simpa [saturatingAdd] using Nat.mod_eq_of_lt h

/- A saturating product is the exact product, cut at the largest word. -/
theorem toNat_saturatingMul (a b : UInt64) :
    (saturatingMul a b).toNat =
      min (a.toNat * b.toNat) top := by
  have h : min (a.toNat * b.toNat) top < UInt64.size := by
    simp only [top, UInt64.size]
    omega
  simpa [saturatingMul] using Nat.mod_eq_of_lt h

/- A saturating difference is the exact difference, cut at zero. -/
theorem toNat_saturatingSub (a b : UInt64) :
    (saturatingSub a b).toNat = a.toNat - b.toNat := by
  have ha : a.toNat < UInt64.size := a.toNat_lt
  have h : a.toNat - b.toNat < UInt64.size := by omega
  simpa [saturatingSub] using Nat.mod_eq_of_lt h

------------------------------------------------------------
-- Checked Words
------------------------------------------------------------

/- The sum of two words; a sum that does not fit faults. -/
def addNat (a b : UInt64) : Except Fault UInt64 :=
  if a.toNat + b.toNat < UInt64.size then
    .ok (a + b)
  else
    .error .addition

/- The integers a signed 64-bit word can hold. -/
def FitsInt (n : Int) : Prop :=
  -9223372036854775808 ≤ n ∧ n < 9223372036854775808

instance (n : Int) : Decidable (FitsInt n) := by
  unfold FitsInt
  infer_instance

/- The sum of two signed words; a sum that does not fit faults. -/
def addInt (a b : Int64) : Except Fault Int64 :=
  if FitsInt (a.toInt + b.toInt) then
    .ok (a + b)
  else
    .error .addition

/- The difference of two signed words; one that does not fit faults. -/
def subInt (a b : Int64) : Except Fault Int64 :=
  if FitsInt (a.toInt - b.toInt) then
    .ok (a - b)
  else
    .error .subtraction

/- Every signed word fits. -/
theorem fitsInt_toInt (a : Int64) : FitsInt a.toInt :=
  ⟨a.le_toInt, a.toInt_lt⟩

/- An integer that fits is kept by the passage through a signed word. -/
theorem bmod_of_fitsInt {n : Int} (h : FitsInt n) :
    n.bmod UInt64.size = n := by
  obtain ⟨hLow, hHigh⟩ := h
  apply Int.bmod_eq_of_le <;> simp only [UInt64.size] <;> omega

/- A checked sum succeeds exactly on the sums that fit, with the exact sum. -/
theorem addNat_eq_ok_iff {a b c : UInt64} :
    addNat a b = .ok c ↔ c.toNat = a.toNat + b.toNat := by
  unfold addNat
  split
  case isTrue h =>
    have hSum : (a + b).toNat = a.toNat + b.toNat := by
      rw [UInt64.toNat_add, Nat.mod_eq_of_lt h]
    constructor
    · intro hEq
      cases hEq
      exact hSum
    · intro hEq
      exact congrArg Except.ok
        (UInt64.toNat_inj.mp (hSum.trans hEq.symm))
  case isFalse h =>
    have hc : c.toNat < UInt64.size := c.toNat_lt
    constructor
    · intro hEq
      cases hEq
    · intro hEq
      omega

/- A checked signed sum succeeds exactly on the sums that fit. -/
theorem addInt_eq_ok_iff {a b c : Int64} :
    addInt a b = .ok c ↔ c.toInt = a.toInt + b.toInt := by
  unfold addInt
  split
  case isTrue h =>
    have hSum : (a + b).toInt = a.toInt + b.toInt := by
      rw [Int64.toInt_add]
      exact bmod_of_fitsInt h
    constructor
    · intro hEq
      cases hEq
      exact hSum
    · intro hEq
      exact congrArg Except.ok
        (Int64.toInt_inj.mp (hSum.trans hEq.symm))
  case isFalse h =>
    constructor
    · intro hEq
      cases hEq
    · intro hEq
      exact absurd (hEq ▸ fitsInt_toInt c) h

/- A checked signed difference succeeds exactly on the differences that fit. -/
theorem subInt_eq_ok_iff {a b c : Int64} :
    subInt a b = .ok c ↔ c.toInt = a.toInt - b.toInt := by
  unfold subInt
  split
  case isTrue h =>
    have hDiff : (a - b).toInt = a.toInt - b.toInt := by
      rw [Int64.toInt_sub]
      exact bmod_of_fitsInt h
    constructor
    · intro hEq
      cases hEq
      exact hDiff
    · intro hEq
      exact congrArg Except.ok
        (Int64.toInt_inj.mp (hDiff.trans hEq.symm))
  case isFalse h =>
    constructor
    · intro hEq
      cases hEq
    · intro hEq
      exact absurd (hEq ▸ fitsInt_toInt c) h

end Word

end FragmentSink
