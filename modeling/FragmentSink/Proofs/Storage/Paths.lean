import FragmentSink.Proofs.Text.ReadBack
import FragmentSink.Storage.Store

/-
  The paths of stored fragments.

  The path of a fragment is determined by the place of the
  fragment and determines it in turn, under any one prefix: a
  path is read back segment by segment, and its last two
  segments are always the partition and the offset.

  Main declarations:
    * `PartitionKey.IsNamed`
    * `ObjectPath.encodeSegment_injective`
    * `ObjectPath.text_injective`
    * `BlobStore.eq_of_pathOf_eq`
-/

namespace FragmentSink

------------------------------------------------------------
-- Segments
------------------------------------------------------------

namespace ObjectPath

theorem isSpecial_percent : isSpecial '%' = true := by
  decide

/- A segment that is not encoded whole reads back as itself. -/
theorem encode_ne_whole
    {cs : List Char}
    (hWhole : cs = ['.'] ∨ cs = ['.', '.'])
    (ds : List Char) :
    encodeSegment cs ≠ Percent.encode isSpecial ds := by
  have hDots :
      Percent.decoded? "%2E".toList = some ['.'] ∧
        Percent.decoded? "%2E%2E".toList = some ['.', '.'] := by
    decide +kernel
  intro hEq
  have hDecoded := Percent.decoded?_encode isSpecial_percent ds
  rw [← hEq] at hDecoded
  rcases hWhole with rfl | rfl
  · rw [encodeSegment, if_pos rfl, hDots.1, Option.some.injEq]
      at hDecoded
    subst hDecoded
    exact absurd hEq (by decide)
  · rw [encodeSegment, if_neg (by decide), if_pos rfl, hDots.2,
      Option.some.injEq] at hDecoded
    subst hDecoded
    exact absurd hEq (by decide)

/- What a segment is written as, with the two that are encoded whole apart. -/
theorem encodeSegment_cases (cs : List Char) :
    cs = ['.'] ∨ cs = ['.', '.'] ∨
      encodeSegment cs = Percent.encode isSpecial cs := by
  by_cases hDot : cs = ['.']
  · exact .inl hDot
  · by_cases hDots : cs = ['.', '.']
    · exact .inr (.inl hDots)
    · exact .inr (.inr (by simp [encodeSegment, hDot, hDots]))

/- A written segment is the written form of one text only. -/
theorem encodeSegment_injective :
    Function.Injective encodeSegment := by
  intro cs ds hEq
  rcases encodeSegment_cases cs with rfl | rfl | hPlain
  · rcases encodeSegment_cases ds with rfl | rfl | hOther
    · rfl
    · exact absurd hEq (by decide)
    · rw [hOther] at hEq
      exact absurd hEq (encode_ne_whole (.inl rfl) ds)
  · rcases encodeSegment_cases ds with rfl | rfl | hOther
    · exact absurd hEq (by decide)
    · rfl
    · rw [hOther] at hEq
      exact absurd hEq (encode_ne_whole (.inr rfl) ds)
  · rw [hPlain] at hEq
    rcases encodeSegment_cases ds with rfl | rfl | hOther
    · exact absurd hEq.symm (encode_ne_whole (.inl rfl) cs)
    · exact absurd hEq.symm (encode_ne_whole (.inr rfl) cs)
    · rw [hOther] at hEq
      exact Percent.encode_injective isSpecial_percent hEq

/- No slash comes into a segment when it is written. -/
theorem slash_not_mem_encodeSegment
    {cs : List Char}
    (hSlash : '/' ∉ cs) :
    '/' ∉ encodeSegment cs := by
  rcases encodeSegment_cases cs with rfl | rfl | hPlain
  · decide
  · decide
  · rw [hPlain]
    intro hMem
    rcases Percent.mem_or_mark_of_mem_encode hMem with
      hOwn | hMark | hDigit
    · exact hSlash hOwn
    · exact absurd hMark (by decide)
    · exact absurd hDigit (by decide)

------------------------------------------------------------
-- Paths of Keys
------------------------------------------------------------

/- The parts of a key between slashes are the segments of its path in turn. -/
theorem segments_append_cons (cs ds : List Char) :
    (ofKeyChars (cs ++ '/' :: ds)).segments =
      (ofKeyChars cs).segments ++ (ofKeyChars ds).segments := by
  simp [ofKeyChars, Parts.splitAt_append_cons]

/- A text without a slash is one segment. -/
theorem segments_of_not_mem
    {cs : List Char}
    (hNonempty : cs ≠ [])
    (hSlash : '/' ∉ cs) :
    (ofKeyChars cs).segments = [encodeSegment cs] := by
  simp [ofKeyChars, Parts.splitAt_of_not_mem hSlash, hNonempty]

/- Without empty parts, the path of a key determines the key. -/
theorem eq_of_segments_eq
    {cs ds : List Char}
    (hFirst : [] ∉ Parts.splitAt '/' cs)
    (hSecond : [] ∉ Parts.splitAt '/' ds)
    (hEq :
      (ofKeyChars cs).segments = (ofKeyChars ds).segments) :
    cs = ds := by
  have hKept
      {ks : List Char}
      (hParts : [] ∉ Parts.splitAt '/' ks) :
      ((Parts.splitAt '/' ks).filter fun s => !s.isEmpty) =
        Parts.splitAt '/' ks := by
    rw [List.filter_eq_self]
    intro part hPart
    cases part with
    | nil => exact absurd hPart hParts
    | cons => rfl
  simp only [ofKeyChars, hKept hFirst, hKept hSecond] at hEq
  exact Parts.splitAt_injective '/'
    ((List.map_inj_right fun _ _ h =>
      encodeSegment_injective h).mp hEq)

/- No segment of a path holds a slash. -/
theorem slash_not_mem_segments
    {cs segment : List Char}
    (hMem : segment ∈ (ofKeyChars cs).segments) :
    '/' ∉ segment := by
  rcases List.mem_map.mp hMem with ⟨part, hPart, rfl⟩
  have hParts := (List.mem_filter.mp hPart).1
  exact slash_not_mem_encodeSegment
    (Parts.not_mem_of_mem_splitAt hParts)

/- Two paths with segments are written apart. -/
theorem text_injective
    {p q : ObjectPath}
    (hFirst : p.segments ≠ [] ∧ ∀ s ∈ p.segments, '/' ∉ s)
    (hSecond : q.segments ≠ [] ∧ ∀ s ∈ q.segments, '/' ∉ s)
    (hEq : p.text = q.text) :
    p = q := by
  have hChars : p.chars = q.chars := String.ofList_injective hEq
  have hParts := congrArg (Parts.splitAt '/') hChars
  simp only [chars] at hParts
  rw [Parts.splitAt_intercalate hFirst.1 hFirst.2,
    Parts.splitAt_intercalate hSecond.1 hSecond.2] at hParts
  exact congrArg ObjectPath.mk hParts

end ObjectPath

------------------------------------------------------------
-- Paths of Tokens
------------------------------------------------------------

/-
  A partition whose topic is not empty and has no empty part
  between slashes.
-/
def PartitionKey.IsNamed (p : PartitionKey) : Prop :=
  [] ∉ Parts.splitAt '/' p.topic.toList

instance (p : PartitionKey) : Decidable p.IsNamed := by
  unfold PartitionKey.IsNamed
  infer_instance

/- No slash stands in a number. -/
theorem Decimal.slash_not_mem_padded
    (width : Nat)
    (n : Int) :
    '/' ∉ padded width n := by
  intro hMem
  rcases isDigit_or_minus_of_mem_padded hMem with hDigit | hSign
  · exact absurd hDigit (by decide)
  · exact absurd hSign (by decide)

/- A filled number is a segment of its own. -/
theorem ObjectPath.segments_padded
    (width : Nat)
    (n : Int) :
    (ofKeyChars (Decimal.padded width n)).segments =
      [encodeSegment (Decimal.padded width n)] :=
  segments_of_not_mem (Decimal.padded_ne_nil width n)
    (Decimal.slash_not_mem_padded width n)

/- The last two segments of a token's path: its partition and its offset. -/
def OffsetToken.placeSegments (t : OffsetToken) : List (List Char) :=
  [ObjectPath.encodeSegment
      (Decimal.padded 0 t.key.partition.toInt),
    ObjectPath.encodeSegment
      (Decimal.padded offsetWidth t.offset.toInt)]

/- The path of a token: the prefix, the topic and the place in it. -/
theorem segments_storageKeyChars
    (keyPrefix : List Char)
    (t : OffsetToken) :
    (ObjectPath.ofKeyChars
        (storageKeyChars keyPrefix t)).segments =
      (ObjectPath.ofKeyChars (trimmedPrefix keyPrefix)).segments ++
        ((ObjectPath.ofKeyChars t.key.topic.toList).segments ++
          t.placeSegments) := by
  have hToken :
      (ObjectPath.ofKeyChars (tokenKey t)).segments =
        (ObjectPath.ofKeyChars t.key.topic.toList).segments ++
          t.placeSegments := by
    rw [tokenKey, Decimal.toList_toString, List.append_assoc,
      List.cons_append, ObjectPath.segments_append_cons,
      ObjectPath.segments_append_cons, ObjectPath.segments_padded,
      ObjectPath.segments_padded]
    rfl
  unfold storageKeyChars
  split
  case h_1 hBare =>
    rw [hBare, hToken]
    rfl
  case h_2 => rw [ObjectPath.segments_append_cons, hToken]

/- The partition and the offset are read off the last two segments. -/
theorem placeSegments_inj
    {t u : OffsetToken}
    (hEq : t.placeSegments = u.placeSegments) :
    t.key.partition = u.key.partition ∧ t.offset = u.offset := by
  simp only [OffsetToken.placeSegments, List.cons.injEq, and_true]
    at hEq
  rcases hEq with ⟨hPartition, hOffset⟩
  have hPartitions :=
    Decimal.padded_injective 0
      (ObjectPath.encodeSegment_injective hPartition)
  have hOffsets :=
    Decimal.padded_injective offsetWidth
      (ObjectPath.encodeSegment_injective hOffset)
  exact ⟨Int32.toInt_inj.mp hPartitions,
    Int64.toInt_inj.mp hOffsets⟩

/- A token is its topic, its partition and its offset. -/
theorem OffsetToken.eq_of_parts
    {t u : OffsetToken}
    (hTopic : t.key.topic = u.key.topic)
    (hPartition : t.key.partition = u.key.partition)
    (hOffset : t.offset = u.offset) :
    t = u := by
  rcases t with ⟨⟨topic, partition⟩, offset⟩
  rcases u with ⟨⟨topic', partition'⟩, offset'⟩
  cases hTopic
  cases hPartition
  cases hOffset
  rfl

namespace BlobStore

variable {s : BlobStore}
variable {t u : OffsetToken}

theorem segments_pathOf (s : BlobStore) (t : OffsetToken) :
    (s.pathOf t).segments =
      (ObjectPath.ofKeyChars
          (trimmedPrefix s.keyPrefix.toList)).segments ++
        ((ObjectPath.ofKeyChars t.key.topic.toList).segments ++
          t.placeSegments) := by
  rw [pathOf, ObjectPath.ofKey, storageKey, String.toList_ofList,
    segments_storageKeyChars]

/- Tokens of named partitions never share a path. -/
theorem eq_of_pathOf_eq
    (hFirst : t.key.IsNamed)
    (hSecond : u.key.IsNamed)
    (hEq : s.pathOf t = s.pathOf u) :
    t = u := by
  have hSegments := congrArg ObjectPath.segments hEq
  rw [segments_pathOf, segments_pathOf, List.append_cancel_left_eq]
    at hSegments
  have hLength :
      t.placeSegments.length = u.placeSegments.length := by
    simp [OffsetToken.placeSegments]
  rcases List.append_inj' hSegments hLength with
    ⟨hTopics, hPlaces⟩
  have hTopic :=
    String.toList_inj.mp
      (ObjectPath.eq_of_segments_eq hFirst hSecond hTopics)
  rcases placeSegments_inj hPlaces with ⟨hPartition, hOffset⟩
  exact OffsetToken.eq_of_parts hTopic hPartition hOffset

/- Nor do paths of tokens share a written form. -/
theorem pathOf_eq_of_text_eq
    (hEq : (s.pathOf t).text = (s.pathOf u).text) :
    s.pathOf t = s.pathOf u := by
  have hWritten (v : OffsetToken) :
      (s.pathOf v).segments ≠ [] ∧
        ∀ segment ∈ (s.pathOf v).segments, '/' ∉ segment := by
    refine ⟨?_, fun _ => ObjectPath.slash_not_mem_segments⟩
    simp [segments_pathOf, OffsetToken.placeSegments]
  exact ObjectPath.text_injective (hWritten t) (hWritten u) hEq

end BlobStore

end FragmentSink
