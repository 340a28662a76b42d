import FragmentSink.Number.Shortest
import FragmentSink.Proofs.Text.ReadBack

/-
  Lines and words that are found again in a written text.

  Lines that are written with an end each are read as the same
  lines, and two words with a space between them as the same
  words.  The digits of a number are read as the number, and
  no number is written with white space.

  Main statements:
    * `Parts.lines_flatMap`
    * `Parts.words_pair`
    * `Decimal.readNat?_digits`
    * `Binary64.isWord_text`
-/

namespace FragmentSink

------------------------------------------------------------
-- Lines and Words
------------------------------------------------------------

namespace Parts

/- A line that holds no end of a line, and no part of one. -/
structure IsLine (cs : List Char) : Prop where
  feed : '\n' ∉ cs
  carriage : '\r' ∉ cs

/- A text that is one word. -/
structure IsWord (cs : List Char) : Prop where
  nonempty : cs ≠ []
  ink : ∀ c ∈ cs, isBlank c = false

instance instDecidableIsLine
    (cs : List Char) : Decidable (IsLine cs) :=
  decidable_of_iff ('\n' ∉ cs ∧ '\r' ∉ cs)
    ⟨fun h => ⟨h.1, h.2⟩, fun h => ⟨h.feed, h.carriage⟩⟩

theorem isWord_iff {cs : List Char} :
    IsWord cs ↔ cs ≠ [] ∧ cs.any isBlank = false := by
  rw [List.any_eq_false]
  simp only [Bool.not_eq_true]
  constructor
  · intro hWord
    exact ⟨hWord.nonempty, hWord.ink⟩
  · rintro ⟨hNonempty, hInk⟩
    exact ⟨hNonempty, hInk⟩

/- The characters of the list are tested, not all there are. -/
instance instDecidableIsWord
    (cs : List Char) : Decidable (IsWord cs) :=
  decidable_of_iff _ isWord_iff.symm

theorem IsWord.append
    {cs ds : List Char}
    (hFirst : IsWord cs)
    (hThen : IsWord ds) :
    IsWord (cs ++ ds) := by
  refine ⟨by simp [hFirst.nonempty], ?_⟩
  rw [List.forall_mem_append]
  exact ⟨hFirst.ink, hThen.ink⟩

/- Line ends are white space, so a word is on one line. -/
theorem IsWord.isLine
    {cs : List Char}
    (hWord : IsWord cs) :
    IsLine cs := by
  constructor
  · intro hFeed
    exact absurd (hWord.ink _ hFeed) (by decide)
  · intro hReturn
    exact absurd (hWord.ink _ hReturn) (by decide)

theorem IsLine.append
    {cs ds : List Char}
    (hFirst : IsLine cs)
    (hThen : IsLine ds) :
    IsLine (cs ++ ds) := by
  constructor
  · simp [hFirst.feed, hThen.feed]
  · simp [hFirst.carriage, hThen.carriage]

/- Nothing is taken from a line that does not end in a return. -/
theorem withoutReturn_of_isLine
    {line : List Char}
    (hLine : IsLine line) :
    withoutReturn line = line := by
  unfold withoutReturn
  split
  case h_1 hLast =>
    exact absurd (List.mem_of_getLast? hLast) hLine.carriage
  case h_2 => rfl

/- Lines with an end each are followed by an empty part. -/
theorem splitAt_flatMap
    {ls : List (List Char)}
    (hLines : ∀ l ∈ ls, '\n' ∉ l) :
    splitAt '\n' (ls.flatMap (· ++ ['\n'])) = ls ++ [[]] := by
  induction ls with
  | nil => rfl
  | cons l ls ih =>
      rw [List.forall_mem_cons] at hLines
      rw [List.flatMap_cons, List.append_assoc,
        List.singleton_append, splitAt_append_cons,
        splitAt_of_not_mem hLines.1, ih hLines.2]
      rfl

/- Lines that were written with an end each are read as they are. -/
theorem lines_flatMap
    {ls : List (List Char)}
    (hLines : ∀ l ∈ ls, IsLine l) :
    lines (ls.flatMap (· ++ ['\n'])) = ls := by
  have hParts := splitAt_flatMap fun l hl => (hLines l hl).feed
  have hWhole : ls.map withoutReturn = ls := by
    rw [List.map_congr_left fun l hl =>
      withoutReturn_of_isLine (hLines l hl)]
    exact List.map_id' ls
  simp [lines, hParts, hWhole]

/- Two words are found on both sides of the space between them. -/
theorem words_pair
    {cs ds : List Char}
    (hFirst : IsWord cs)
    (hThen : IsWord ds) :
    words (cs ++ ' ' :: ds) = [cs, ds] := by
  have hSpace : isBlank ' ' = true := by decide
  rw [words, splitWhere_append_cons hSpace,
    splitWhere_of_forall hFirst.ink,
    splitWhere_of_forall hThen.ink]
  simp [hFirst.nonempty, hThen.nonempty]

/- A digit is no white space. -/
theorem isBlank_of_isDigit
    {c : Char}
    (hDigit : c.isDigit = true) :
    isBlank c = false := by
  have hCode : 48 ≤ c.toNat ∧ c.toNat ≤ 57 := by
    simpa [Char.isDigit, UInt32.le_iff_toNat_le] using hDigit
  simp only [isBlank, Bool.or_eq_false_iff, decide_eq_false_iff_not]
  omega

end Parts

------------------------------------------------------------
-- Numbers
------------------------------------------------------------

namespace Decimal

/- The value of a list of digits is the number they stand for. -/
theorem value_eq_ofDigitChars (cs : List Char) :
    value cs = Nat.ofDigitChars 10 cs 0 := by
  rw [value, Nat.ofDigitChars_eq_foldl]
  congr 1
  funext n c
  rw [digitValue, Nat.mul_comm]

/- A number below the bound is read from its digits. -/
theorem readNat?_digits
    {n bound : Nat}
    (hBound : n < bound) :
    readNat? bound (digits n) = some n := by
  have hDigits : digits n ≠ [] := Nat.toDigits_ne_nil
  have hAll : (digits n).all Char.isDigit = true :=
    List.all_eq_true.mpr fun c hc => isDigit_of_mem_digits hc
  have hValue : value (digits n) = n := by
    rw [value_eq_ofDigitChars]
    exact Nat.ofDigitChars_ten_toDigits
  unfold readNat?
  split
  case h_1 rest hSign =>
    have hPlus : '+' ∈ digits n := by
      rw [hSign]
      exact List.mem_cons_self
    exact absurd (isDigit_of_mem_digits hPlus) (by decide)
  case h_2 =>
    simp [hDigits, hAll, hValue, hBound]

/- The digits of a number are a word. -/
theorem isWord_digits (n : Nat) : Parts.IsWord (digits n) :=
  ⟨Nat.toDigits_ne_nil, fun _ hMem =>
    Parts.isBlank_of_isDigit (isDigit_of_mem_digits hMem)⟩

theorem toList_toString_nat (n : Nat) :
    (toString n).toList = digits n := by
  rw [Nat.toString_eq_ofList_toDigits, String.toList_ofList]
  rfl

end Decimal

namespace Binary64

open Parts

/- A positional text holds digits and a point. -/
theorem isWord_positional
    (digits : Nat)
    (k : Int) :
    IsWord (positional digits k).toList := by
  have hInk
      {c : Char}
      (hChar : c.isDigit = true ∨ c = '.') :
      isBlank c = false := by
    rcases hChar with hDigit | rfl
    · exact isBlank_of_isDigit hDigit
    · decide
  have hDigit
      {c : Char}
      (hMem : c ∈ Nat.toDigits 10 digits) :
      c.isDigit = true :=
    Decimal.isDigit_of_mem_digits hMem
  have hZero
      {n : Nat}
      {c : Char}
      (hMem : c ∈ List.replicate n '0') :
      c.isDigit = true := by
    rw [(List.mem_replicate.mp hMem).2]
    rfl
  have hDigits : Nat.toDigits 10 digits ≠ [] :=
    Nat.toDigits_ne_nil
  unfold positional
  split
  case isTrue =>
    rw [String.toList_ofList]
    refine ⟨by simp [hDigits], fun c hMem => hInk (.inl ?_)⟩
    exact (List.mem_append.mp hMem).elim hDigit hZero
  case isFalse =>
    rw [String.toList_ofList]
    refine ⟨by simp, fun c hMem => hInk ?_⟩
    have hPadded
        (hMem :
          c ∈
            List.replicate
                ((-k).toNat + 1 - (Nat.toDigits 10 digits).length)
                '0' ++
              Nat.toDigits 10 digits) :
        c.isDigit = true ∨ c = '.' :=
      .inl ((List.mem_append.mp hMem).elim hZero hDigit)
    rcases List.mem_append.mp hMem with hWhole | hRest
    · exact hPadded (List.mem_of_mem_take hWhole)
    · rcases List.mem_cons.mp hRest with rfl | hPlaces
      · exact .inr rfl
      · exact hPadded (List.mem_of_mem_drop hPlaces)

/- Every number is written as one word. -/
theorem isWord_text (x : Binary64) : IsWord x.text.toList := by
  have hSigned
      (negative : Bool)
      {s : String}
      (hWord : IsWord s.toList) :
      IsWord (signText negative ++ s).toList := by
    rw [String.toList_append]
    cases negative with
    | false => exact hWord
    | true =>
        have hMinus : IsWord (signText true).toList := by decide
        exact hMinus.append hWord
  cases x with
  | nan =>
      have hNan : IsWord "NaN".toList := by decide
      exact hNan
  | infinite negative =>
      have hInfinite : IsWord "inf".toList := by decide
      exact hSigned negative hInfinite
  | finite negative m e =>
      by_cases hZero : m = 0
      · have hNought : IsWord "0".toList := by decide
        rw [hZero]
        exact hSigned negative hNought
      · rw [text.eq_def]
        simp only [hZero]
        exact hSigned negative (isWord_positional _ _)

end Binary64

end FragmentSink
