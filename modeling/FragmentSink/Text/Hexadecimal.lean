/-
  Reading hexadecimal digits, in either case.

  Key definitions include:
    * `Hexadecimal.digit?`
    * `Hexadecimal.number?`
    * `Hexadecimal.inBase?`

  Main statements:
    * `Hexadecimal.digit?_lt`
-/

namespace FragmentSink

namespace Hexadecimal

/- The value of a digit. -/
def digit? (c : Char) : Option Nat :=
  if '0' ≤ c ∧ c ≤ '9' then some (c.toNat - '0'.toNat)
  else if 'a' ≤ c ∧ c ≤ 'f' then some (c.toNat - 'a'.toNat + 10)
  else if 'A' ≤ c ∧ c ≤ 'F' then some (c.toNat - 'A'.toNat + 10)
  else none

/- A digit stands for a number below sixteen. -/
theorem digit?_lt
    {c : Char}
    {n : Nat}
    (h : digit? c = some n) :
    n < 16 := by
  have toNat_le {a b : Char} (h : a ≤ b) : a.toNat ≤ b.toNat := h
  unfold digit? at h
  split at h
  · next hc =>
    have := toNat_le hc.2
    cases h
    have : ('9' : Char).toNat = 57 := rfl
    have : ('0' : Char).toNat = 48 := rfl
    omega
  · split at h
    · next hc =>
      have := toNat_le hc.2
      cases h
      have : ('f' : Char).toNat = 102 := rfl
      have : ('a' : Char).toNat = 97 := rfl
      omega
    · split at h
      · next hc =>
        have := toNat_le hc.2
        cases h
        have : ('F' : Char).toNat = 70 := rfl
        have : ('A' : Char).toNat = 65 := rfl
        omega
      · cases h

/- The value of digits below a base, which is sixteen at most. -/
def inBase? (base : Nat) (cs : List Char) : Option Nat :=
  cs.foldlM
    (fun n c =>
      (digit? c).bind fun d =>
        if d < base then some (n * base + d) else none)
    0

/- The value of hexadecimal digits. -/
def number? (cs : List Char) : Option Nat :=
  inBase? 16 cs

end Hexadecimal

end FragmentSink
