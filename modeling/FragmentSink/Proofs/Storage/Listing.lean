import FragmentSink.Proofs.Storage.Shadows
import Mathlib

/-
  Stored fragments are listed in the order of the stream.

  Texts are compared byte by byte, which is the order of their
  characters.  An offset that is not negative is filled to a
  fixed width, so the order of its digits is its own, and the
  keys and paths of one partition differ in their offset only.

  Main declarations:
    * `writtenBytes`
    * `writtenBytes_lt_iff`
    * `Decimal.padded_offset_lt_iff`
    * `PartitionKey.ListedInOrder`
    * `PartitionKey.listedInOrder`
-/

namespace FragmentSink

------------------------------------------------------------
-- Bytes of Texts
------------------------------------------------------------

/- The bytes that a text is stored with. -/
def writtenBytes (s : String) : List UInt8 :=
  s.toByteArray.data.toList

theorem writtenBytes_eq_flatMap (s : String) :
    writtenBytes s = s.toList.flatMap String.utf8EncodeChar := by
  rw [writtenBytes, ← String.utf8Encode_toList, List.utf8Encode,
    List.data_toByteArray, List.toList_toArray]

theorem ofNat_cons_lt_iff
    {m n : Nat}
    {bs cs : List UInt8}
    (hFirst : m < 256)
    (hSecond : n < 256) :
    UInt8.ofNat m :: bs < UInt8.ofNat n :: cs ↔
      m < n ∨ m = n ∧ bs < cs := by
  rw [List.cons_lt_cons_iff, UInt8.lt_iff_toNat_lt,
    ← UInt8.toNat_inj, UInt8.toNat_ofNat_of_lt' hFirst,
    UInt8.toNat_ofNat_of_lt' hSecond]

/-
  The lesser of two characters is encoded by lesser bytes, and
  neither encoding continues the other.
-/
theorem utf8EncodeChar_append_lt
    {c d : Char}
    (hLess : c < d)
    (bs cs : List UInt8) :
    String.utf8EncodeChar c ++ bs <
      String.utf8EncodeChar d ++ cs := by
  have hCode : c.val.toNat < d.val.toNat := hLess
  have hLast : d.val.toNat < 1114112 := by
    rcases d.valid with hLow | hHigh
    · exact Nat.lt_trans hLow (by decide)
    · exact hHigh.2
  have hTwo (k : Nat) : k / 4096 = k / 64 / 64 := by omega
  have hThree (k : Nat) : k / 262144 = k / 64 / 64 / 64 := by
    omega
  unfold String.utf8EncodeChar
  generalize c.val.toNat = m at hCode ⊢
  generalize d.val.toNat = n at hCode hLast ⊢
  simp only [hTwo, hThree]
  -- One case for each pair of widths; the bytes are digits to base 64.
  split_ifs <;>
    simp (disch := omega) only [List.cons_append,
      List.nil_append, ofNat_cons_lt_iff] <;>
    omega

theorem flatMap_utf8EncodeChar_lt
    {cs ds : List Char}
    (hLess : cs < ds) :
    cs.flatMap String.utf8EncodeChar <
      ds.flatMap String.utf8EncodeChar := by
  induction hLess with
  | @nil d ds =>
      have hSome : String.utf8EncodeChar d ≠ [] := by
        apply List.ne_nil_of_length_pos
        rw [String.length_utf8EncodeChar]
        exact d.utf8Size_pos
      rcases List.exists_cons_of_ne_nil hSome with ⟨b, bs, hBytes⟩
      rw [List.flatMap_nil, List.flatMap_cons, hBytes]
      exact List.nil_lt_cons _ _
  | cons _ ih => exact List.append_left_lt ih
  | rel hChar => exact utf8EncodeChar_append_lt hChar _ _

/- Texts compare byte by byte as they do character by character. -/
theorem writtenBytes_lt_iff {s t : String} :
    writtenBytes s < writtenBytes t ↔ s < t := by
  have hMono
      {s t : String}
      (hLess : s < t) :
      writtenBytes s < writtenBytes t := by
    rw [writtenBytes_eq_flatMap, writtenBytes_eq_flatMap]
    exact flatMap_utf8EncodeChar_lt hLess
  constructor
  · intro hBytes
    rcases lt_trichotomy s t with hLess | rfl | hMore
    · exact hLess
    · exact absurd hBytes (List.lt_irrefl _)
    · exact absurd hBytes (List.lt_asymm (hMono hMore))
  · exact hMono

------------------------------------------------------------
-- Order of Digits
------------------------------------------------------------

namespace Decimal

variable {cs ds : List Char}

/- The first digit counts for a power of ten. -/
theorem ofDigitChars_cons (c : Char) (cs : List Char) :
    Nat.ofDigitChars 10 (c :: cs) 0 =
      10 ^ cs.length * digitValue c + Nat.ofDigitChars 10 cs 0 := by
  rw [Nat.ofDigitChars_cons, Nat.ofDigitChars_eq_ofDigitChars_zero,
    Nat.mul_zero, Nat.zero_add]
  rfl

/- A digit is its value counted from zero. -/
theorem toNat_eq_of_isDigit
    {c : Char}
    (hDigit : c.isDigit = true) :
    c.toNat = 48 + digitValue c ∧ digitValue c < 10 := by
  have hRange : 48 ≤ c.toNat ∧ c.toNat ≤ 57 := by
    simpa [Char.isDigit, UInt32.le_iff_toNat_le] using hDigit
  have hZero : '0'.toNat = 48 := rfl
  unfold digitValue
  omega

theorem digitValue_lt_digitValue
    {c d : Char}
    (hLess : c < d)
    (hFirst : c.isDigit = true)
    (hSecond : d.isDigit = true) :
    digitValue c < digitValue d := by
  have hCode : c.toNat < d.toNat := hLess
  have hThis := toNat_eq_of_isDigit hFirst
  have hThat := toNat_eq_of_isDigit hSecond
  omega

theorem ofDigitChars_lt_pow
    (hDigits : ∀ c ∈ cs, c.isDigit = true) :
    Nat.ofDigitChars 10 cs 0 < 10 ^ cs.length := by
  induction cs with
  | nil => decide
  | cons c cs ih =>
      rw [List.forall_mem_cons] at hDigits
      have hFirst := Nat.mul_le_mul_left (10 ^ cs.length)
        (Nat.le_of_lt_succ (toNat_eq_of_isDigit hDigits.1).2)
      have hRest := ih hDigits.2
      rw [ofDigitChars_cons, List.length_cons, Nat.pow_succ]
      omega

/- Of two numbers of one length, the lesser one has lesser digits. -/
theorem ofDigitChars_lt
    (hLess : cs < ds)
    (hLength : cs.length = ds.length)
    (hFirst : ∀ c ∈ cs, c.isDigit = true)
    (hSecond : ∀ d ∈ ds, d.isDigit = true) :
    Nat.ofDigitChars 10 cs 0 < Nat.ofDigitChars 10 ds 0 := by
  induction hLess with
  | nil => cases hLength
  | @cons c cs ds _ ih =>
      rw [List.forall_mem_cons] at hFirst hSecond
      have hLength := Nat.succ.inj hLength
      have hRest := ih hLength hFirst.2 hSecond.2
      rw [ofDigitChars_cons, ofDigitChars_cons, hLength]
      omega
  | @rel c cs d ds hDigit =>
      rw [List.forall_mem_cons] at hFirst hSecond
      have hLength := Nat.succ.inj hLength
      have hLater := ofDigitChars_lt_pow hFirst.2
      have hStep := Nat.mul_le_mul_left (10 ^ ds.length)
        (Nat.succ_le_of_lt
          (digitValue_lt_digitValue hDigit hFirst.1 hSecond.1))
      rw [Nat.mul_succ] at hStep
      rw [hLength] at hLater
      rw [ofDigitChars_cons, ofDigitChars_cons, hLength]
      omega

/- Numbers that are filled to the same width sort like their digits. -/
theorem zeroFilled_lt_iff
    {width m n : Nat}
    (hFirst : (digits m).length ≤ width)
    (hSecond : (digits n).length ≤ width) :
    zeroFilled width (digits m) < zeroFilled width (digits n) ↔
      m < n := by
  have hMono
      {m n : Nat}
      (hFirst : (digits m).length ≤ width)
      (hSecond : (digits n).length ≤ width)
      (hLess :
        zeroFilled width (digits m) < zeroFilled width (digits n)) :
      m < n := by
    have hValues :=
      ofDigitChars_lt hLess
        (by simp only [length_zeroFilled]; omega)
        (fun _ => isDigit_of_mem_zeroFilled)
        (fun _ => isDigit_of_mem_zeroFilled)
    have hNumber (k : Nat) : Nat.ofDigitChars 10 (digits k) 0 = k :=
      Nat.ofDigitChars_ten_toDigits
    rwa [ofDigitChars_zeroFilled, ofDigitChars_zeroFilled, hNumber,
      hNumber] at hValues
  constructor
  · exact hMono hFirst hSecond
  · intro hLess
    rcases lt_trichotomy (zeroFilled width (digits m))
      (zeroFilled width (digits n)) with hDigits | hSame | hMore
    · exact hDigits
    · exact absurd (zeroFilled_digits_injective width hSame)
        (Nat.ne_of_lt hLess)
    · exact absurd (hMono hSecond hFirst hMore)
        (Nat.lt_asymm hLess)

/- Offsets that are not negative take nineteen digits at most. -/
theorem padded_offset_lt_iff
    {a b : Int64}
    (hFirst : 0 ≤ a)
    (hSecond : 0 ≤ b) :
    padded offsetWidth a.toInt < padded offsetWidth b.toInt ↔
      a < b := by
  have hFilled
      {a : Int64}
      (hNatural : 0 ≤ a) :
      0 ≤ a.toInt ∧ (digits a.toInt.natAbs).length ≤ offsetWidth := by
    have hLow : (0 : Int64).toInt ≤ a.toInt :=
      Int64.le_iff_toInt_le.mp hNatural
    have hZero : (0 : Int64).toInt = 0 := rfl
    have hHigh := a.toInt_lt
    refine ⟨by omega, ?_⟩
    rw [digits, offsetWidth,
      Nat.length_toDigits_le_iff (by decide) (by decide)]
    omega
  rcases hFilled hFirst with ⟨hLow, hWidth⟩
  rcases hFilled hSecond with ⟨hLow', hWidth'⟩
  rw [padded, if_neg (by omega), padded, if_neg (by omega),
    zeroFilled_lt_iff hWidth hWidth', Int64.lt_iff_toInt_lt]
  omega

end Decimal

------------------------------------------------------------
-- Keys and Paths of a Partition
------------------------------------------------------------

theorem append_lt_append_iff
    {front cs ds : List Char} :
    front ++ cs < front ++ ds ↔ cs < ds := by
  induction front with
  | nil => rfl
  | cons c front ih =>
      rw [List.cons_append, List.cons_append, List.cons_lt_cons_iff,
        ih]
      simp

/- The keys of a partition differ in their offsets only. -/
theorem exists_front_storageKey
    (keyPrefix : String)
    (p : PartitionKey) :
    ∃ front, ∀ offset,
      (storageKey keyPrefix ⟨p, offset⟩).toList =
        front ++ Decimal.padded offsetWidth offset.toInt := by
  have hToken :
      ∃ front, ∀ offset,
        tokenKey ⟨p, offset⟩ =
          front ++ Decimal.padded offsetWidth offset.toInt := by
    refine ⟨p.topic.toList ++
      '/' :: (toString p.partition.toInt).toList ++ ['/'], ?_⟩
    intro offset
    simp [tokenKey]
  rcases hToken with ⟨front, hToken⟩
  simp only [storageKey, String.toList_ofList, storageKeyChars]
  split
  case h_1 => exact ⟨front, hToken⟩
  case h_2 =>
    refine ⟨trimmedPrefix keyPrefix.toList ++ '/' :: front, ?_⟩
    intro offset
    rw [hToken, List.append_assoc, List.cons_append]

/- A number is a segment that is written as it is. -/
theorem ObjectPath.encodeSegment_padded
    (width : Nat)
    (n : Int) :
    encodeSegment (Decimal.padded width n) =
      Decimal.padded width n := by
  have hPlain
      (c : Char)
      (hMem : c ∈ Decimal.padded width n) :
      Percent.encodeChar isSpecial c = [c] := by
    have hAll :
        ∀ i : Fin 10,
          Percent.encodeChar isSpecial (Char.ofNat (48 + i)) =
            [Char.ofNat (48 + i)] := by
      decide
    rcases Decimal.isDigit_or_minus_of_mem_padded hMem with
      hDigit | rfl
    · rcases Decimal.toNat_eq_of_isDigit hDigit with
        ⟨hCode, hValue⟩
      have hChar := hAll ⟨_, hValue⟩
      rwa [← hCode, Char.ofNat_toNat] at hChar
    · decide
  have hDot : '.' ∉ Decimal.padded width n := by
    intro hMem
    rcases Decimal.isDigit_or_minus_of_mem_padded hMem with
      hDigit | hSign
    · exact absurd hDigit (by decide)
    · exact absurd hSign (by decide)
  have hNotDot : Decimal.padded width n ≠ ['.'] :=
    fun hEq => hDot (by simp [hEq])
  have hNotDots : Decimal.padded width n ≠ ['.', '.'] :=
    fun hEq => hDot (by simp [hEq])
  rw [encodeSegment, if_neg hNotDot, if_neg hNotDots,
    Percent.encode, List.flatMap_congr hPlain,
    List.flatMap_singleton']

/- The last segment of a path stands at the end of its text. -/
theorem intercalate_append_singleton
    (parts : List (List Char))
    (part : List Char) :
    ['/'].intercalate (parts ++ [part]) =
      ['/'].intercalate (parts ++ [[]]) ++ part := by
  induction parts with
  | nil => simp
  | cons first parts ih =>
      rw [List.cons_append, List.cons_append,
        List.intercalate_cons_of_ne_nil (by simp),
        List.intercalate_cons_of_ne_nil (by simp), ih]
      simp

/- So do their paths. -/
theorem exists_front_path
    (keyPrefix : String)
    (p : PartitionKey) :
    ∃ front, ∀ offset,
      (ObjectPath.ofKey
          (storageKey keyPrefix ⟨p, offset⟩)).text.toList =
        front ++ Decimal.padded offsetWidth offset.toInt := by
  let folders :=
    (ObjectPath.ofKeyChars
        (trimmedPrefix keyPrefix.toList)).segments ++
      ((ObjectPath.ofKeyChars p.topic.toList).segments ++
        [ObjectPath.encodeSegment
          (Decimal.padded 0 p.partition.toInt)])
  refine ⟨['/'].intercalate (folders ++ [[]]), fun offset => ?_⟩
  have hSegments :
      (ObjectPath.ofKey
          (storageKey keyPrefix ⟨p, offset⟩)).segments =
        folders ++ [Decimal.padded offsetWidth offset.toInt] := by
    rw [ObjectPath.ofKey, storageKey, String.toList_ofList,
      segments_storageKeyChars, OffsetToken.placeSegments,
      ObjectPath.encodeSegment_padded offsetWidth]
    simp [folders]
  rw [ObjectPath.text, String.toList_ofList, ObjectPath.chars,
    hSegments, intercalate_append_singleton]

/- Texts that end with an offset compare as the offsets do. -/
theorem lt_iff_of_fronts
    (text : Int64 → String)
    {a b : Int64}
    (hText :
      ∃ front, ∀ offset,
        (text offset).toList =
          front ++ Decimal.padded offsetWidth offset.toInt)
    (hFirst : 0 ≤ a)
    (hSecond : 0 ≤ b) :
    text a < text b ↔ a < b := by
  rcases hText with ⟨front, hText⟩
  rw [String.lt_iff, hText, hText, append_lt_append_iff,
    Decimal.padded_offset_lt_iff hFirst hSecond]

section Order

variable {a b : Int64}

theorem storageKey_lt_iff
    (keyPrefix : String)
    (p : PartitionKey)
    (hFirst : 0 ≤ a)
    (hSecond : 0 ≤ b) :
    storageKey keyPrefix ⟨p, a⟩ < storageKey keyPrefix ⟨p, b⟩ ↔
      a < b :=
  lt_iff_of_fronts (fun a => storageKey keyPrefix ⟨p, a⟩)
    (exists_front_storageKey keyPrefix p) hFirst hSecond

theorem path_lt_iff
    (keyPrefix : String)
    (p : PartitionKey)
    (hFirst : 0 ≤ a)
    (hSecond : 0 ≤ b) :
    (ObjectPath.ofKey (storageKey keyPrefix ⟨p, a⟩)).text <
        (ObjectPath.ofKey (storageKey keyPrefix ⟨p, b⟩)).text ↔
      a < b :=
  lt_iff_of_fronts
    (fun a => (ObjectPath.ofKey (storageKey keyPrefix ⟨p, a⟩)).text)
    (exists_front_path keyPrefix p) hFirst hSecond

end Order

------------------------------------------------------------
-- Listings in Order
------------------------------------------------------------

open BlobStore

/-
  Under a key prefix, the keys and the paths of a partition
  sort by offset, byte by byte.  So every store lists the
  objects of the partition in the order of their offsets,
  whatever else it holds, and what it lists of uploads of the
  partition are the last ones of each offset in that order.
-/
structure PartitionKey.ListedInOrder
    (keyPrefix : String)
    (p : PartitionKey) : Prop where
  keys :
    ∀ a b : Int64, 0 ≤ a → 0 ≤ b →
      (a < b ↔
        writtenBytes (storageKey keyPrefix ⟨p, a⟩) <
          writtenBytes (storageKey keyPrefix ⟨p, b⟩))
  paths :
    ∀ a b : Int64, 0 ≤ a → 0 ≤ b →
      (a < b ↔
        writtenBytes
            (ObjectPath.ofKey (storageKey keyPrefix ⟨p, a⟩)).text <
          writtenBytes
            (ObjectPath.ofKey (storageKey keyPrefix ⟨p, b⟩)).text)
  listed :
    ∀ s : BlobStore, s.keyPrefix = keyPrefix →
      s.contents.Pairwise fun x y =>
        ∀ a b : Int64, 0 ≤ a → 0 ≤ b →
          x.1 = (s.pathOf ⟨p, a⟩).text →
          y.1 = (s.pathOf ⟨p, b⟩).text →
          a ≤ b
  replayed :
    ∀ fs : List Fragment,
      (∀ f ∈ fs, f.partitionKey = p ∧ 0 ≤ f.offset) →
      ((inMemory keyPrefix).uploadAll fs).contents =
        ((latestUploads fs).mergeSort fun f g =>
            f.offset ≤ g.offset).map
          (inMemory keyPrefix).objectOf

/- Fragments of one partition share no path. -/
theorem BlobStore.pathsApart_of_partition
    (keyPrefix : String)
    {p : PartitionKey}
    {fs : List Fragment}
    (hOwn : ∀ f ∈ fs, f.partitionKey = p) :
    PathsApart keyPrefix fs := by
  intro f hFirst g hSecond hPaths
  have hKeys : f.token.key = g.token.key :=
    (hOwn f hFirst).trans (hOwn g hSecond).symm
  have hSegments := congrArg ObjectPath.segments hPaths
  rw [segments_pathOf, segments_pathOf, hKeys,
    List.append_cancel_left_eq, List.append_cancel_left_eq]
    at hSegments
  exact OffsetToken.eq_of_parts (congrArg _ hKeys)
    (congrArg _ hKeys) (placeSegments_inj hSegments).2

/- The objects of a store sort by offset where their paths do. -/
theorem BlobStore.Keeps.contents_eq_sorted
    {s : BlobStore}
    {fs : List Fragment}
    (hKeeps : s.Keeps fs)
    (hPaths :
      ∀ f ∈ fs, ∀ g ∈ fs, f.offset ≤ g.offset →
        (s.objectOf f).1 ≤ (s.objectOf g).1) :
    s.contents =
      ((latestUploads fs).mergeSort fun f g =>
          f.offset ≤ g.offset).map s.objectOf := by
  have hPerm :=
    List.mergeSort_perm (latestUploads fs) fun f g =>
      f.offset ≤ g.offset
  have hSame := hKeeps.objects.trans (hPerm.map s.objectOf).symm
  have hSorted :
      ((latestUploads fs).mergeSort fun f g =>
          f.offset ≤ g.offset).Pairwise
        fun f g => decide (f.offset ≤ g.offset) = true := by
    refine List.pairwise_mergeSort ?_ ?_ _
    · intro f g h hFirst hSecond
      exact decide_eq_true
        (Int64.le_trans (of_decide_eq_true hFirst)
          (of_decide_eq_true hSecond))
    · intro f g
      rw [Bool.or_eq_true, decide_eq_true_eq, decide_eq_true_eq]
      exact Int64.le_total f.offset g.offset
  refine List.Perm.eq_of_pairwise ?_ s.contents_pairwise ?_ hSame
  · intro x y hHere hThere hBefore hAfter
    exact List.inj_on_of_nodup_map hKeeps.names hHere
      (hSame.mem_iff.mpr hThere) (String.le_antisymm hBefore hAfter)
  · rw [List.pairwise_map]
    refine hSorted.imp_of_mem ?_
    intro f g hFirst hSecond hOrder
    exact hPaths f
      (mem_of_mem_latestUploads (hPerm.mem_iff.mp hFirst)) g
      (mem_of_mem_latestUploads (hPerm.mem_iff.mp hSecond))
      (of_decide_eq_true hOrder)

/- What is kept of uploads of a partition is sorted by offset. -/
theorem BlobStore.contents_uploadAll_of_partition
    (keyPrefix : String)
    {p : PartitionKey}
    {fs : List Fragment}
    (hOwn : ∀ f ∈ fs, f.partitionKey = p ∧ 0 ≤ f.offset) :
    ((inMemory keyPrefix).uploadAll fs).contents =
      ((latestUploads fs).mergeSort fun f g =>
          f.offset ≤ g.offset).map
        (inMemory keyPrefix).objectOf := by
  have hApart :=
    pathsApart_of_partition keyPrefix fun f hMem => (hOwn f hMem).1
  have hTabled := tabled_uploadAll hApart
  have hObject :
      ((inMemory keyPrefix).uploadAll fs).objectOf =
        (inMemory keyPrefix).objectOf := by
    funext f
    rw [objectOf, pathOf, hTabled.keyPrefix_eq]
    rfl
  have hText
      {f : Fragment}
      (hKey : f.partitionKey = p) :
      ((inMemory keyPrefix).objectOf f).1 =
        (ObjectPath.ofKey
          (storageKey keyPrefix ⟨p, f.offset⟩)).text := by
    subst hKey
    rfl
  rw [← hObject]
  apply (hTabled.keeps hApart).contents_eq_sorted
  intro f hThis g hThat hOrder
  rcases hOwn f hThis with ⟨hKey, hFirst⟩
  rcases hOwn g hThat with ⟨hKey', hSecond⟩
  rw [hObject, hText hKey, hText hKey', ← not_lt,
    path_lt_iff keyPrefix p hSecond hFirst]
  exact Int64.not_lt.mpr hOrder

/-
  Every partition is listed in order under every prefix, as
  long as its offsets are not negative.
-/
theorem PartitionKey.listedInOrder
    (keyPrefix : String)
    (p : PartitionKey) :
    p.ListedInOrder keyPrefix := by
  refine ⟨?_, ?_, ?_, fun _ =>
    contents_uploadAll_of_partition keyPrefix⟩
  · intro a b hFirst hSecond
    exact (writtenBytes_lt_iff.trans
      (storageKey_lt_iff keyPrefix p hFirst hSecond)).symm
  · intro a b hFirst hSecond
    exact (writtenBytes_lt_iff.trans
      (path_lt_iff keyPrefix p hFirst hSecond)).symm
  · rintro s rfl
    refine s.contents_pairwise.imp ?_
    intro x y hOrder a b hFirst hSecond hThis hThat
    rw [hThis, hThat] at hOrder
    have hNotLess := not_lt.mpr hOrder
    rw [← Int64.not_lt]
    intro hLess
    exact hNotLess
      ((path_lt_iff s.keyPrefix p hSecond hFirst).mpr hLess)

/- Below zero the minus sign turns the order around. -/
example :
    Decimal.padded offsetWidth (-1) <
      Decimal.padded offsetWidth (-2) := by
  decide

end FragmentSink
