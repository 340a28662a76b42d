import FragmentSink.Text.Decimal
import FragmentSink.Text.Parts
import FragmentSink.Text.Percent

/-
  Written texts that can be read back.

  The parts of a text determine the text, a percent-encoded
  text decodes to what was encoded, and a filled number is the
  number of one integer only.

  Main statements:
    * `Parts.intercalate_splitAt`
    * `Parts.splitAt_intercalate`
    * `Percent.decoded?_encode`
    * `Decimal.padded_injective`
-/

namespace FragmentSink

------------------------------------------------------------
-- Parts
------------------------------------------------------------

namespace Parts

variable {sep : Char}
variable {test : Char → Bool}

/- A text has a first part. -/
theorem exists_splitWhere_eq_cons
    (test : Char → Bool)
    (cs : List Char) :
    ∃ part parts, splitWhere test cs = part :: parts := by
  cases hParts : splitWhere test cs with
  | cons part parts => exact ⟨part, parts, rfl⟩
  | nil =>
      cases cs with
      | nil => simp [splitWhere] at hParts
      | cons c cs =>
          simp only [splitWhere] at hParts
          split at hParts
          · cases hParts
          · split at hParts <;> cases hParts

theorem splitWhere_cons_of_pos
    {c : Char}
    (hSep : test c = true)
    (cs : List Char) :
    splitWhere test (c :: cs) = [] :: splitWhere test cs := by
  simp [splitWhere, hSep]

/- A character that separates nothing stands in the first part. -/
theorem splitWhere_cons_of_neg
    {c : Char}
    {cs part : List Char}
    {parts : List (List Char)}
    (hSep : test c = false)
    (hParts : splitWhere test cs = part :: parts) :
    splitWhere test (c :: cs) = (c :: part) :: parts := by
  simp [splitWhere, hSep, hParts]

/- A text in which nothing separates is a part by itself. -/
theorem splitWhere_of_forall
    {cs : List Char}
    (hSep : ∀ c ∈ cs, test c = false) :
    splitWhere test cs = [cs] := by
  induction cs with
  | nil => rfl
  | cons c cs ih =>
      rw [List.forall_mem_cons] at hSep
      exact splitWhere_cons_of_neg hSep.1 (ih hSep.2)

/- What separates parts a text into what stands on its two sides. -/
theorem splitWhere_append_cons
    {c : Char}
    (hSep : test c = true)
    (cs ds : List Char) :
    splitWhere test (cs ++ c :: ds) =
      splitWhere test cs ++ splitWhere test ds := by
  induction cs with
  | nil => exact splitWhere_cons_of_pos hSep ds
  | cons d cs ih =>
      rw [List.cons_append]
      cases hFirst : test d with
      | true =>
          rw [splitWhere_cons_of_pos hFirst,
            splitWhere_cons_of_pos hFirst, ih, List.cons_append]
      | false =>
          rcases exists_splitWhere_eq_cons test cs with
            ⟨part, parts, hParts⟩
          rw [hParts, List.cons_append] at ih
          rw [splitWhere_cons_of_neg hFirst ih,
            splitWhere_cons_of_neg hFirst hParts, List.cons_append]

theorem exists_splitAt_eq_cons
    (sep : Char)
    (cs : List Char) :
    ∃ part parts, splitAt sep cs = part :: parts :=
  exists_splitWhere_eq_cons _ cs

theorem splitAt_sep_cons
    (cs : List Char) :
    splitAt sep (sep :: cs) = [] :: splitAt sep cs :=
  splitWhere_cons_of_pos (decide_eq_true rfl) cs

theorem splitAt_cons_of_ne
    {c : Char}
    {cs part : List Char}
    {parts : List (List Char)}
    (hNe : c ≠ sep)
    (hParts : splitAt sep cs = part :: parts) :
    splitAt sep (c :: cs) = (c :: part) :: parts :=
  splitWhere_cons_of_neg (decide_eq_false hNe) hParts

/- The parts of a text, put together again, are the text. -/
theorem intercalate_splitAt
    (sep : Char)
    (cs : List Char) :
    [sep].intercalate (splitAt sep cs) = cs := by
  induction cs with
  | nil => simp [splitAt, splitWhere]
  | cons c cs ih =>
      rcases exists_splitAt_eq_cons sep cs with
        ⟨part, parts, hParts⟩
      rw [hParts] at ih
      by_cases hSep : c = sep
      · subst hSep
        rw [splitAt_sep_cons, hParts,
          List.intercalate_cons_of_ne_nil (List.cons_ne_nil _ _),
          ih]
        rfl
      · rw [splitAt_cons_of_ne hSep hParts,
          List.intercalate_cons_cons_left, ih]

theorem splitAt_injective (sep : Char) :
    Function.Injective (splitAt sep) := by
  intro cs ds hEq
  rw [← intercalate_splitAt sep cs, hEq, intercalate_splitAt]

/- A text without the separator is a part by itself. -/
theorem splitAt_of_not_mem
    {cs : List Char}
    (hMem : sep ∉ cs) :
    splitAt sep cs = [cs] := by
  apply splitWhere_of_forall
  intro c hChar
  exact decide_eq_false fun hSep => hMem (hSep ▸ hChar)

theorem splitAt_append_cons
    (cs ds : List Char) :
    splitAt sep (cs ++ sep :: ds) =
      splitAt sep cs ++ splitAt sep ds :=
  splitWhere_append_cons (decide_eq_true rfl) cs ds

/- No part of a text holds the separator. -/
theorem not_mem_of_mem_splitAt
    {part cs : List Char}
    (hPart : part ∈ splitAt sep cs) :
    sep ∉ part := by
  induction cs generalizing part with
  | nil =>
      rw [splitAt, splitWhere, List.mem_singleton] at hPart
      simp [hPart]
  | cons c cs ih =>
      by_cases hSep : c = sep
      · subst hSep
        rw [splitAt_sep_cons, List.mem_cons] at hPart
        rcases hPart with rfl | hPart
        · exact List.not_mem_nil
        · exact ih hPart
      · rcases exists_splitAt_eq_cons sep cs with
          ⟨first, parts, hParts⟩
        rw [splitAt_cons_of_ne hSep hParts, List.mem_cons] at hPart
        rw [hParts] at ih
        rcases hPart with rfl | hPart
        · rw [List.mem_cons, not_or]
          exact ⟨Ne.symm hSep, ih List.mem_cons_self⟩
        · exact ih (List.mem_cons_of_mem _ hPart)

/- Parts without the separator are found again when they are put together. -/
theorem splitAt_intercalate
    {parts : List (List Char)}
    (hNonempty : parts ≠ [])
    (hParts : ∀ part ∈ parts, sep ∉ part) :
    splitAt sep ([sep].intercalate parts) = parts := by
  induction parts with
  | nil => exact absurd rfl hNonempty
  | cons part parts ih =>
      rw [List.forall_mem_cons] at hParts
      rcases hParts with ⟨hPart, hRest⟩
      by_cases hLast : parts = []
      · subst hLast
        simpa using splitAt_of_not_mem hPart
      · rw [List.intercalate_cons_of_ne_nil hLast,
          List.append_assoc, List.singleton_append,
          splitAt_append_cons, splitAt_of_not_mem hPart,
          ih hLast hRest, List.singleton_append]

end Parts

------------------------------------------------------------
-- Percent-Encoded Texts
------------------------------------------------------------

namespace Percent

variable {special : Char → Bool}

theorem digit?_hexDigit
    {n : Nat}
    (hDigit : n < 16) :
    Hexadecimal.digit? (hexDigit n) = some n := by
  have hAll :
      ∀ m : Fin 16,
        Hexadecimal.digit? (hexDigit m) = some m.val := by
    decide
  exact hAll ⟨n, hDigit⟩

/- The two digits of a byte stand for the byte. -/
theorem byte?_hexPair (b : UInt8) :
    byte? (hexDigit (b.toNat / 16)) (hexDigit (b.toNat % 16)) =
      some b := by
  have hByte := b.toNat_lt
  have hHigh : b.toNat / 16 < 16 := by omega
  have hLow : b.toNat % 16 < 16 := by omega
  have hNumber : b.toNat / 16 * 16 + b.toNat % 16 = b.toNat := by
    omega
  simp [byte?, Hexadecimal.number?, Hexadecimal.inBase?,
    digit?_hexDigit hHigh, digit?_hexDigit hLow, hHigh, hLow,
    hNumber]

theorem bytesOf_encodeByte_append
    (b : UInt8)
    (cs : List Char) :
    bytesOf (encodeByte b ++ cs) = b :: bytesOf cs := by
  simp [encodeByte, hexPair, bytesOf, byte?_hexPair]

theorem bytesOf_flatMap_encodeByte_append
    (bs : List UInt8)
    (cs : List Char) :
    bytesOf (bs.flatMap encodeByte ++ cs) = bs ++ bytesOf cs := by
  induction bs with
  | nil => rfl
  | cons b bs ih =>
      rw [List.flatMap_cons, List.append_assoc,
        bytesOf_encodeByte_append, ih, List.cons_append]

/- A character that is not a percent sign stands for itself. -/
theorem bytesOf_cons_of_ne
    {c : Char}
    (hNe : c ≠ '%')
    (cs : List Char) :
    bytesOf (c :: cs) = String.utf8EncodeChar c ++ bytesOf cs := by
  rw [bytesOf]
  rintro a b ds hEq
  cases hEq
  exact absurd rfl hNe

/- The encoded form of a character stands for its bytes. -/
theorem bytesOf_encodeChar_append
    (hSpecial : special '%' = true)
    (c : Char)
    (cs : List Char) :
    bytesOf (encodeChar special c ++ cs) =
      String.utf8EncodeChar c ++ bytesOf cs := by
  unfold encodeChar
  split
  case isTrue hAscii =>
    split
    case isTrue hMarked =>
      have hByte :
          String.utf8EncodeChar c = [c.toNat.toUInt8] := by
        have hWidth : c.val.toNat ≤ 127 := by
          have hVal : c.toNat = c.val.toNat := rfl
          omega
        rw [String.utf8EncodeChar, if_pos hWidth]
        rfl
      rw [bytesOf_encodeByte_append, hByte]
      rfl
    case isFalse hPlain =>
      refine bytesOf_cons_of_ne ?_ cs
      rintro rfl
      exact hPlain hSpecial
  case isFalse => exact bytesOf_flatMap_encodeByte_append _ cs

theorem bytesOf_encode
    (hSpecial : special '%' = true)
    (cs : List Char) :
    bytesOf (encode special cs) =
      cs.flatMap String.utf8EncodeChar := by
  induction cs with
  | nil => rfl
  | cons c cs ih =>
      have hChar :=
        bytesOf_encodeChar_append hSpecial c (encode special cs)
      rw [ih] at hChar
      exact hChar

/-
  An encoded text decodes to what was encoded, as long as the
  percent sign itself is encoded.
-/
theorem decoded?_encode
    (hSpecial : special '%' = true)
    (cs : List Char) :
    decoded? (encode special cs) = some cs := by
  have hBytes :
      (⟨(cs.flatMap String.utf8EncodeChar).toArray⟩ : ByteArray) =
        (String.ofList cs).toByteArray := by
    ext1
    simp [List.utf8Encode]
  have hRead :
      String.fromUTF8? (String.ofList cs).toByteArray =
        some (String.ofList cs) := by
    rw [String.fromUTF8?, dif_pos (String.ofList cs).isValidUTF8]
    rfl
  rw [decoded?, bytesOf_encode hSpecial, hBytes, hRead]
  simp

theorem encode_injective
    (hSpecial : special '%' = true) :
    Function.Injective (encode special) := by
  intro cs ds hEq
  have hDecoded := decoded?_encode hSpecial cs
  rw [hEq, decoded?_encode hSpecial ds] at hDecoded
  exact (Option.some.inj hDecoded).symm

/- The digits of a byte are letters and digits. -/
theorem isAlphanum_of_mem_hexPair
    {b : UInt8}
    {c : Char}
    (hMem : c ∈ hexPair b) :
    c.isAlphanum = true := by
  have hAll : ∀ m : Fin 16, (hexDigit m).isAlphanum = true := by
    decide
  have hByte := b.toNat_lt
  have hHigh : b.toNat / 16 < 16 := by omega
  have hLow : b.toNat % 16 < 16 := by omega
  simp only [hexPair, List.mem_cons, List.not_mem_nil, or_false]
    at hMem
  rcases hMem with rfl | rfl
  · exact hAll ⟨_, hHigh⟩
  · exact hAll ⟨_, hLow⟩

/- What stands in an encoded text: its own plain characters, percent signs and digits. -/
theorem mem_or_mark_of_mem_encode
    {cs : List Char}
    {c : Char}
    (hMem : c ∈ encode special cs) :
    c ∈ cs ∨ c = '%' ∨ c.isAlphanum = true := by
  have hByte
      {b : UInt8}
      (hMem : c ∈ encodeByte b) :
      c = '%' ∨ c.isAlphanum = true := by
    rcases List.mem_cons.mp hMem with hMark | hDigit
    · exact .inl hMark
    · exact .inr (isAlphanum_of_mem_hexPair hDigit)
  rcases List.mem_flatMap.mp hMem with ⟨d, hSource, hChar⟩
  unfold encodeChar at hChar
  split at hChar
  · split at hChar
    · exact .inr (hByte hChar)
    · rw [List.mem_singleton.mp hChar]
      exact .inl hSource
  · rcases List.mem_flatMap.mp hChar with ⟨b, -, hDigit⟩
    exact .inr (hByte hDigit)

end Percent

------------------------------------------------------------
-- Decimal Numbers
------------------------------------------------------------

namespace Decimal

theorem isDigit_of_mem_digits
    {n : Nat}
    {c : Char}
    (hMem : c ∈ digits n) :
    c.isDigit = true :=
  Nat.isDigit_of_mem_toDigits (by decide) (by decide) hMem

/- Zeros on the left do not change the number that digits stand for. -/
theorem ofDigitChars_zeroFilled
    (width : Nat)
    (cs : List Char) :
    Nat.ofDigitChars 10 (zeroFilled width cs) 0 =
      Nat.ofDigitChars 10 cs 0 := by
  unfold zeroFilled
  generalize width - cs.length = zeros
  induction zeros with
  | zero => rfl
  | succ zeros ih =>
      simpa [List.replicate_succ, Nat.ofDigitChars_eq_foldl]
        using ih

theorem isDigit_of_mem_zeroFilled
    {width n : Nat}
    {c : Char}
    (hMem : c ∈ zeroFilled width (digits n)) :
    c.isDigit = true := by
  rcases List.mem_append.mp hMem with hZero | hDigit
  · rw [(List.mem_replicate.mp hZero).2]
    rfl
  · exact isDigit_of_mem_digits hDigit

theorem zeroFilled_digits_injective (width : Nat) :
    Function.Injective fun n => zeroFilled width (digits n) := by
  intro m n hEq
  have hNumber (k : Nat) :
      Nat.ofDigitChars 10 (zeroFilled width (digits k)) 0 = k := by
    rw [ofDigitChars_zeroFilled]
    exact Nat.ofDigitChars_ten_toDigits
  rw [← hNumber m, ← hNumber n]
  exact congrArg (Nat.ofDigitChars 10 · 0) hEq

/- The characters of a filled number are digits or its sign. -/
theorem isDigit_or_minus_of_mem_padded
    {width : Nat}
    {n : Int}
    {c : Char}
    (hMem : c ∈ padded width n) :
    c.isDigit = true ∨ c = '-' := by
  unfold padded at hMem
  split at hMem
  · rcases List.mem_cons.mp hMem with hSign | hDigit
    · exact .inr hSign
    · exact .inl (isDigit_of_mem_zeroFilled hDigit)
  · exact .inl (isDigit_of_mem_zeroFilled hMem)

theorem padded_ne_nil
    (width : Nat)
    (n : Int) :
    padded width n ≠ [] := by
  have hDigits : digits n.natAbs ≠ [] := Nat.toDigits_ne_nil
  unfold padded
  split
  · simp
  · simp [zeroFilled, hDigits]

/- No two integers are filled to the same text. -/
theorem padded_injective (width : Nat) :
    Function.Injective (padded width) := by
  have hSigned (w n : Nat) (cs : List Char) :
      '-' :: cs ≠ zeroFilled w (digits n) := by
    intro hEq
    have hMem : '-' ∈ zeroFilled w (digits n) := by
      rw [← hEq]
      exact List.mem_cons_self
    exact absurd (isDigit_of_mem_zeroFilled hMem) (by decide)
  intro m n hEq
  unfold padded at hEq
  split at hEq
  case isTrue hNegative =>
    split at hEq
    case isTrue =>
      have hAbs :=
        zeroFilled_digits_injective _ (List.cons.inj hEq).2
      omega
    case isFalse => exact absurd hEq (hSigned _ _ _)
  case isFalse hNatural =>
    split at hEq
    case isTrue => exact absurd hEq.symm (hSigned _ _ _)
    case isFalse =>
      have hAbs := zeroFilled_digits_injective _ hEq
      omega

/- An integer is written as one that is filled to no width. -/
theorem toList_toString (n : Int) :
    (toString n).toList = padded 0 n := by
  have hNatural (m : Nat) :
      m.repr.toList = zeroFilled 0 (digits m) := by
    rw [← Nat.toString_eq_repr, Nat.toString_eq_ofList_toDigits,
      String.toList_ofList]
    simp [zeroFilled, digits]
  rw [Int.toString_eq_repr]
  cases n with
  | ofNat m => exact hNatural m
  | negSucc m =>
      have hNegative : Int.negSucc m < 0 := Int.negSucc_lt_zero m
      rw [padded, if_pos hNegative, Int.repr, String.toList_append,
        hNatural]
      rfl

end Decimal

end FragmentSink
