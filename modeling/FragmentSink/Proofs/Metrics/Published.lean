import FragmentSink.Metrics.Exposition
import FragmentSink.Proofs.Text.Lines
import FragmentSink.Status.Samples
import Mathlib.Data.List.Nodup

/-
  The samples that are read from a published text.

  Every line of an exposition is a comment, is empty, or is a
  word for the name and a word for the number.  So the whole
  numbers of the text are found again under their full names,
  and as no name stands twice, none is lost or overwritten.

  Main statements:
    * `Samples.ofText_join`
    * `Samples.ofText_lines`
    * `Metrics.readBack_of_exposition`
-/

namespace FragmentSink

open Parts

------------------------------------------------------------
-- Samples of a Line and of a Text
------------------------------------------------------------

namespace Samples

/- A line of two words is a sample when the second is a number. -/
theorem ofLine?_pair
    {name value : List Char}
    (hName : IsWord name)
    (hPlain : name.head? ≠ some '#')
    (hValue : IsWord value) :
    ofLine? (name ++ ' ' :: value) =
      (Decimal.readNat? UInt64.size value).map fun n =>
        (String.ofList name, UInt64.ofNat n) := by
  have hSome : (name ++ ' ' :: value).isEmpty = false := by simp
  have hHead : (name ++ ' ' :: value).head? ≠ some '#' := by
    rw [List.head?_append_of_ne_nil _ hName.nonempty]
    exact hPlain
  have hRead :
      ¬((name ++ ' ' :: value).isEmpty ∨
        (name ++ ' ' :: value).head? = some '#') := by
    rw [hSome]
    exact not_or.mpr ⟨Bool.false_ne_true, hHead⟩
  rw [ofLine?, if_neg hRead, words_pair hName hValue]

theorem ofLine?_comment (cs : List Char) :
    ofLine? ('#' :: cs) = none := by
  simp [ofLine?]

/- The samples of a text are those of its lines, in order. -/
theorem ofText_join
    {ls : List String}
    (hLines : ∀ l ∈ ls, IsLine l.toList) :
    ofText (String.join (ls.map (· ++ "\n"))) =
      ls.filterMap fun l => ofLine? l.toList := by
  have hText :
      (String.join (ls.map (· ++ "\n"))).toList =
        (ls.map String.toList).flatMap (· ++ ['\n']) := by
    rw [String.toList_join, List.flatMap_map, List.flatMap_map]
    simp only [String.toList_append]
    rfl
  rw [ofText, hText, lines_flatMap (by simpa using hLines),
    List.filterMap_map]
  rfl

/- With every name once, a name has the number it stands with. -/
theorem get?_eq_some_iff
    {samples : List (String × UInt64)}
    {name : String}
    {n : UInt64}
    (hApart : (samples.map Prod.fst).Nodup) :
    get? samples name = some n ↔ (name, n) ∈ samples := by
  rw [get?, Option.map_eq_some_iff]
  constructor
  · rintro ⟨e, hFound, rfl⟩
    have hName : e.1 = name := by
      simpa using List.find?_some hFound
    rw [← hName]
    exact List.mem_reverse.mp (List.mem_of_find?_eq_some hFound)
  · intro hMem
    have hSome :
        (samples.reverse.find? fun e => e.1 = name).isSome := by
      rw [List.find?_isSome]
      exact ⟨_, List.mem_reverse.mpr hMem, by simp⟩
    obtain ⟨e, hFound⟩ := Option.isSome_iff_exists.mp hSome
    have hName : e.1 = name := by
      simpa using List.find?_some hFound
    have hElem : e ∈ samples :=
      List.mem_reverse.mp (List.mem_of_find?_eq_some hFound)
    refine ⟨e, hFound, ?_⟩
    rw [List.inj_on_of_nodup_map hApart hElem hMem hName]

end Samples

------------------------------------------------------------
-- Samples of a Metric
------------------------------------------------------------

namespace Sample

/- A sample that is one word after the name, and then one word. -/
structure Readable (s : Sample) : Prop where
  ink : ∀ c ∈ s.suffix.toList, isBlank c = false
  value : IsWord s.value.toList

/- The full name and the number of a sample that is a whole number. -/
def whole? (name : String) (s : Sample) : Option (String × UInt64) :=
  (Decimal.readNat? UInt64.size s.value.toList).map fun n =>
    (name ++ s.suffix, UInt64.ofNat n)

/- A count of 64 bits is read as it was. -/
theorem whole?_count
    (name suffix : String)
    (n : UInt64) :
    whole? name ⟨suffix, toString n.toNat⟩ =
      some (name ++ suffix, n) := by
  rw [whole?, Decimal.toList_toString_nat,
    Decimal.readNat?_digits n.toNat_lt, Option.map_some,
    UInt64.ofNat_toNat]

end Sample

namespace MetricFamily

/- A metric whose lines are comments and pairs of words. -/
structure Readable
    (namePrefix : String)
    (f : MetricFamily) : Prop where
  name : IsWord (namePrefix ++ "_" ++ f.name).toList
  plain : (namePrefix ++ "_" ++ f.name).toList.head? ≠ some '#'
  help : IsLine f.help.toList
  samples : ∀ s ∈ f.samples, s.Readable

/- The samples of a metric that are whole numbers, with their full names. -/
def whole
    (namePrefix : String)
    (f : MetricFamily) : List (String × UInt64) :=
  f.samples.filterMap (·.whole? (namePrefix ++ "_" ++ f.name))

theorem whole_single
    (namePrefix name : String)
    (kind : MetricKind)
    (help : String)
    (n : UInt64) :
    (single name kind help n).whole namePrefix =
      [(namePrefix ++ "_" ++ name, n)] := by
  have hCount := Sample.whole?_count (namePrefix ++ "_" ++ name) "" n
  rw [String.append_empty] at hCount
  exact List.filterMap_cons_some hCount

theorem whole_labeled
    {ι : Type}
    (namePrefix name : String)
    (kind : MetricKind)
    (help label : String)
    (is : List ι)
    (value : ι → String)
    (number : ι → UInt64) :
    whole namePrefix
        ⟨name, kind, help,
          is.map fun i => .labeled label (value i) (number i)⟩ =
      is.map fun i =>
        (namePrefix ++ "_" ++ name ++
          Sample.labelText label (value i), number i) := by
  have hSome (i : ι) :
      (Sample.labeled label (value i) (number i)).whole?
          (namePrefix ++ "_" ++ name) =
        some (namePrefix ++ "_" ++ name ++
          Sample.labelText label (value i), number i) :=
    Sample.whole?_count _ _ _
  rw [whole, List.filterMap_map]
  simp only [Function.comp_def, hSome, List.filterMap_eq_map']

variable {namePrefix : String}
variable {f : MetricFamily}
variable {s : Sample}

theorem Readable.isWord_sample
    (hReadable : f.Readable namePrefix)
    (hMem : s ∈ f.samples) :
    IsWord (namePrefix ++ "_" ++ f.name ++ s.suffix).toList := by
  rw [String.toList_append]
  constructor
  · exact List.append_ne_nil_of_left_ne_nil
      hReadable.name.nonempty _
  · rw [List.forall_mem_append]
    exact ⟨hReadable.name.ink, (hReadable.samples s hMem).ink⟩

/- The line of a sample is read as its name and its number. -/
theorem Readable.ofLine?_sampleLine
    (hReadable : f.Readable namePrefix)
    (hMem : s ∈ f.samples) :
    Samples.ofLine? (f.sampleLine namePrefix s).toList =
      s.whole? (namePrefix ++ "_" ++ f.name) := by
  have hPlain :
      (namePrefix ++ "_" ++ f.name ++ s.suffix).toList.head? ≠
        some '#' := by
    rw [String.toList_append,
      List.head?_append_of_ne_nil _ hReadable.name.nonempty]
    exact hReadable.plain
  have hLine :
      (f.sampleLine namePrefix s).toList =
        (namePrefix ++ "_" ++ f.name ++ s.suffix).toList ++
          ' ' :: s.value.toList := by
    simp only [sampleLine, String.toList_append,
      List.append_assoc]
    rfl
  rw [hLine,
    Samples.ofLine?_pair (hReadable.isWord_sample hMem) hPlain
      (hReadable.samples s hMem).value,
    String.ofList_toList, Sample.whole?]

theorem Readable.isLine_of_mem_lines
    (hReadable : f.Readable namePrefix)
    {l : String}
    (hLine : l ∈ f.lines namePrefix) :
    IsLine l.toList := by
  have hKind : IsLine f.kind.label.toList := by
    cases f.kind <;> decide
  have hSpace : IsLine " ".toList := by decide
  have hHelp : IsLine "# HELP ".toList := by decide
  have hType : IsLine "# TYPE ".toList := by decide
  have hName := hReadable.name.isLine
  simp only [lines, List.mem_append, List.mem_cons,
    List.mem_map, List.not_mem_nil, or_false] at hLine
  rcases hLine with ((rfl | rfl) | ⟨s, hMem, rfl⟩) | hBlank
  · simp only [String.toList_append] at hName ⊢
    exact ((hHelp.append hName).append hSpace).append
      hReadable.help
  · simp only [String.toList_append] at hName ⊢
    exact ((hType.append hName).append hSpace).append hKind
  · rw [sampleLine, String.toList_append, String.toList_append]
    exact ((hReadable.isWord_sample hMem).isLine.append
      hSpace).append (hReadable.samples s hMem).value.isLine
  · split at hBlank
    · simp at hBlank
    · rw [List.mem_singleton.mp hBlank]
      decide

/- Of the lines of a metric, those with whole numbers are read. -/
theorem Readable.filterMap_ofLine?_lines
    (hReadable : f.Readable namePrefix) :
    ((f.lines namePrefix).filterMap fun l =>
      Samples.ofLine? l.toList) = f.whole namePrefix := by
  have hHelp :
      Samples.ofLine?
        ("# HELP " ++ (namePrefix ++ "_" ++ f.name) ++ " " ++
          f.help).toList = none := by
    simp only [String.toList_append]
    exact Samples.ofLine?_comment _
  have hType :
      Samples.ofLine?
        ("# TYPE " ++ (namePrefix ++ "_" ++ f.name) ++ " " ++
          f.kind.label).toList = none := by
    simp only [String.toList_append]
    exact Samples.ofLine?_comment _
  have hSamples :
      ((f.samples.map (f.sampleLine namePrefix)).filterMap
        fun l => Samples.ofLine? l.toList) =
        f.whole namePrefix := by
    rw [List.filterMap_map]
    exact List.filterMap_congr fun s hMem =>
      hReadable.ofLine?_sampleLine hMem
  have hBlank :
      ((if f.kind = .histogram then [] else [""]).filterMap
        fun l => Samples.ofLine? l.toList) = [] := by
    split <;> rfl
  rw [lines, List.filterMap_append, List.filterMap_append,
    hSamples, hBlank, List.append_nil]
  refine List.append_left_eq_self.mpr ?_
  rw [List.filterMap_eq_nil_iff]
  simp only [List.forall_mem_cons]
  exact ⟨hHelp, hType, fun _ h => nomatch h⟩

end MetricFamily

/- A text of readable metrics is read as all their whole numbers. -/
theorem Samples.ofText_lines
    {namePrefix : String}
    {fs : List MetricFamily}
    (hReadable : ∀ f ∈ fs, f.Readable namePrefix) :
    ofText
        (String.join
          ((fs.flatMap (·.lines namePrefix)).map (· ++ "\n"))) =
      fs.flatMap (·.whole namePrefix) := by
  rw [ofText_join, List.filterMap_flatMap]
  · exact List.flatMap_congr fun f hMem =>
      (hReadable f hMem).filterMap_ofLine?_lines
  · intro l hLine
    obtain ⟨f, hMem, hLine⟩ := List.mem_flatMap.mp hLine
    exact (hReadable f hMem).isLine_of_mem_lines hLine

------------------------------------------------------------
-- The Published Metrics
------------------------------------------------------------

namespace Sample

theorem readable_plain (n : UInt64) : (plain n).Readable := by
  constructor
  · exact fun _ hMem => nomatch hMem
  · rw [plain, Decimal.toList_toString_nat]
    exact Decimal.isWord_digits _

/- A label of words is read with its sample. -/
theorem ink_labelText
    {label value : String}
    (hLabel : IsWord label.toList)
    (hValue : IsWord value.toList) :
    ∀ c ∈ (labelText label value).toList, isBlank c = false := by
  have hOpen : IsWord "\x7b".toList := by decide
  have hEquals : IsWord "=\"".toList := by decide
  have hClose : IsWord "\"\x7d".toList := by decide
  simp only [labelText, String.toList_append]
  exact ((((hOpen.append hLabel).append hEquals).append
    hValue).append hClose).ink

theorem readable_labeled
    {label value : String}
    (hLabel : IsWord label.toList)
    (hValue : IsWord value.toList)
    (n : UInt64) :
    (labeled label value n).Readable := by
  constructor
  · exact ink_labelText hLabel hValue
  · exact (readable_plain n).value

end Sample

namespace DurationHistogram

/- The bounds of the buckets in seconds, as they are written. -/
def boundTexts : List String :=
  ["0.1", "0.25", "0.5", "1", "2.5", "5", "10"]

theorem buckets_eq (h : DurationHistogram) :
    h.buckets = boundTexts.zip h.within := by
  have hTexts :
      durationBounds.map (fun n => (secondsOfMillis n).text) =
        boundTexts := by
    decide +kernel
  rw [buckets, ← hTexts, List.zip, List.zipWith_map_left]

theorem readable_of_mem_samples
    {h : DurationHistogram}
    {s : Sample}
    (hMem : s ∈ h.samples) :
    s.Readable := by
  have hCount (n : UInt64) :
      IsWord (toString n.toNat).toList :=
    (Sample.readable_plain n).value
  have hBucketName : IsWord "_bucket".toList := by decide
  have hBucket
      {bound : String}
      (hBound : IsWord bound.toList)
      (n : UInt64) :
      Sample.Readable
        ⟨"_bucket" ++ Sample.labelText "le" bound,
          toString n.toNat⟩ := by
    refine ⟨?_, hCount n⟩
    rw [String.toList_append, List.forall_mem_append]
    exact ⟨hBucketName.ink,
      Sample.ink_labelText (by decide) hBound⟩
  have hBounds : ∀ bound ∈ boundTexts, IsWord bound.toList := by
    decide
  have hSum : IsWord "_sum".toList := by decide
  have hTotal : IsWord "_count".toList := by decide
  rw [samples, List.mem_append] at hMem
  rcases hMem with hBounded | hRest
  · obtain ⟨⟨bound, n⟩, hMem, rfl⟩ := List.mem_map.mp hBounded
    rw [buckets_eq] at hMem
    exact hBucket (hBounds _ (List.of_mem_zip hMem).1) n
  · simp only [List.mem_cons, List.not_mem_nil, or_false] at hRest
    rcases hRest with rfl | rfl | rfl
    · exact hBucket (by decide) _
    · exact ⟨hSum.ink, Binary64.isWord_text _⟩
    · exact ⟨hTotal.ink, hCount _⟩

end DurationHistogram

namespace Metrics

variable {m : Metrics}
variable {errorsTotal : UInt64}

/- The published metrics can be read, whatever they count. -/
theorem readable_of_mem_families
    {f : MetricFamily}
    (hMem : f ∈ m.families errorsTotal) :
    f.Readable standardPrefix := by
  have hTexts :
      (m.families errorsTotal).map
          (fun f => (f.name, f.help)) =
        (zero.families 0).map fun f => (f.name, f.help) := rfl
  have hNames :
      ∀ e ∈ (zero.families 0).map fun f => (f.name, f.help),
        IsWord e.1.toList ∧ IsLine e.2.toList := by
    decide +kernel
  have hPrefix : IsWord (standardPrefix ++ "_").toList := by
    decide +kernel
  have hFirst :
      (standardPrefix ++ "_").toList.head? ≠ some '#' := by
    decide +kernel
  have hPlainOnly (n : UInt64) :
      ∀ s ∈ [Sample.plain n], s.Readable :=
    List.forall_mem_singleton.mpr (Sample.readable_plain n)
  have hErrors :
      ∀ s ∈ ErrorType.all.map fun t =>
        Sample.labeled "type" t.label (m.errors t),
        s.Readable := by
    rw [List.forall_mem_map]
    intro t _
    exact Sample.readable_labeled (by decide)
      (by cases t <;> decide) _
  have hFlushes :
      ∀ s ∈ FlushReason.all.map fun r =>
        Sample.labeled "reason" r.label (m.flushesByReason r),
        s.Readable := by
    rw [List.forall_mem_map]
    intro r _
    exact Sample.readable_labeled (by decide)
      (by cases r <;> decide) _
  have hSamples :
      ∀ f ∈ m.families errorsTotal, ∀ s ∈ f.samples,
        s.Readable := by
    simp only [families, List.forall_mem_cons]
    exact ⟨hPlainOnly _, hPlainOnly _, hPlainOnly _, hErrors,
      hPlainOnly _, hFlushes, hPlainOnly _, hPlainOnly _,
      hPlainOnly _, hPlainOnly _, hPlainOnly _, hPlainOnly _,
      hPlainOnly _, hPlainOnly _,
      fun _ => DurationHistogram.readable_of_mem_samples,
      fun _ h => nomatch h⟩
  have hElem :
      (f.name, f.help) ∈
        (zero.families 0).map fun f => (f.name, f.help) :=
    hTexts ▸ List.mem_map_of_mem hMem
  obtain ⟨hName, hHelp⟩ := hNames _ hElem
  refine ⟨?_, ?_, hHelp, hSamples f hMem⟩
  · rw [String.toList_append]
    exact hPrefix.append hName
  · rw [String.toList_append,
      List.head?_append_of_ne_nil _ hPrefix.nonempty]
    exact hFirst

end Metrics

------------------------------------------------------------
-- The Whole Numbers That Are Published
------------------------------------------------------------

namespace Metrics

/- The name of the sample of a bucket. -/
def bucketName (bound : String) : String :=
  "replaysink_flush_duration_seconds_bucket\x7ble=\"" ++ bound ++
    "\"\x7d"

/- The counters and gauges, under their full names. -/
def counted
    (m : Metrics)
    (errorsTotal : UInt64) : List (String × UInt64) :=
  [ ("replaysink_fragments_consumed_total", m.fragmentsConsumed),
    ("replaysink_bytes_consumed_total", m.bytesConsumed),
    ("replaysink_errors_total", errorsTotal),
    ("replaysink_errors\x7btype=\"kafka\"\x7d",
      m.errors .kafka),
    ("replaysink_errors\x7btype=\"buffer\"\x7d",
      m.errors .buffer),
    ("replaysink_flushes_total", m.flushes),
    ("replaysink_flushes\x7breason=\"message_count\"\x7d",
      m.flushesByReason .messageCount),
    ("replaysink_flushes\x7breason=\"byte_size\"\x7d",
      m.flushesByReason .byteSize),
    ("replaysink_flushes\x7breason=\"commit_time\"\x7d",
      m.flushesByReason .commitTime),
    ("replaysink_flushes\x7breason=\"shutdown\"\x7d",
      m.flushesByReason .shutdown),
    ("replaysink_fragments_flushed_total", m.fragmentsFlushed),
    ("replaysink_bytes_flushed_total", m.bytesFlushed),
    ("replaysink_commit_failures_total", m.commitFailures),
    ("replaysink_redeliveries_total", m.redeliveries),
    ("replaysink_buffered_fragments", m.bufferedFragments),
    ("replaysink_buffered_bytes", m.bufferedBytes),
    ("replaysink_active_partitions", m.activePartitions),
    ("replaysink_consumer_lag", m.consumerLag) ]

/- The counts of the duration buckets, under their full names. -/
def bucketed (m : Metrics) : List (String × UInt64) :=
  (DurationHistogram.boundTexts.zip m.durations.within).map
      (fun (bound, n) => (bucketName bound, n)) ++
    [(bucketName "+Inf", m.durations.unbounded)]

/- The sum of the durations, where it is written as a whole number. -/
def summed (m : Metrics) : List (String × UInt64) :=
  ((Decimal.readNat? UInt64.size m.durations.sumText.toList).map
    fun n =>
      ("replaysink_flush_duration_seconds_sum",
        UInt64.ofNat n)).toList

/- The whole numbers that are always published. -/
def published
    (m : Metrics)
    (errorsTotal : UInt64) : List (String × UInt64) :=
  m.counted errorsTotal ++ m.bucketed ++
    [("replaysink_flush_duration_seconds_count",
      m.durations.count)]

variable {m : Metrics}
variable {errorsTotal : UInt64}

theorem bucketName_eq (bound : String) :
    "replaysink_flush_duration_seconds" ++
        ("_bucket" ++ Sample.labelText "le" bound) =
      bucketName bound := by
  unfold bucketName Sample.labelText
  rw [← String.toList_inj]
  simp

/- The whole numbers of the histogram, in order. -/
theorem whole_durations
    (kind : MetricKind)
    (help : String) :
    MetricFamily.whole standardPrefix
        ⟨"flush_duration_seconds", kind, help,
          m.durations.samples⟩ =
      m.bucketed ++ m.summed ++
        [("replaysink_flush_duration_seconds_count",
          m.durations.count)] := by
  have hName :
      standardPrefix ++ "_" ++ "flush_duration_seconds" =
        "replaysink_flush_duration_seconds" := by
    simp only [standardPrefix, String.reduceAppend]
  have hBuckets :
      (m.durations.buckets.map fun (bound, n) =>
          (⟨"_bucket" ++ Sample.labelText "le" bound,
            toString n.toNat⟩ : Sample)).filterMap
          (·.whole? "replaysink_flush_duration_seconds") =
        (DurationHistogram.boundTexts.zip m.durations.within).map
          fun (bound, n) => (bucketName bound, n) := by
    simp only [DurationHistogram.buckets_eq, List.filterMap_map,
      Function.comp_def, Sample.whole?_count, bucketName_eq,
      List.filterMap_eq_map']
  have hSum (rest : List Sample) :
      (⟨"_sum", m.durations.sumText⟩ :: rest).filterMap
          (·.whole? "replaysink_flush_duration_seconds") =
        m.summed ++
          rest.filterMap
            (·.whole? "replaysink_flush_duration_seconds") := by
    rw [summed, List.filterMap_cons, Sample.whole?]
    cases Decimal.readNat? UInt64.size
      m.durations.sumText.toList <;> rfl
  have hUnbounded :=
    Sample.whole?_count "replaysink_flush_duration_seconds"
      ("_bucket" ++ Sample.labelText "le" "+Inf")
      m.durations.unbounded
  have hCount :=
    Sample.whole?_count "replaysink_flush_duration_seconds"
      "_count" m.durations.count
  rw [bucketName_eq] at hUnbounded
  simp only [String.reduceAppend] at hCount
  rw [MetricFamily.whole, hName, DurationHistogram.samples,
    List.filterMap_append, hBuckets,
    List.filterMap_cons_some hUnbounded, hSum,
    List.filterMap_cons_some hCount]
  simp only [bucketed, List.append_assoc, List.cons_append,
    List.nil_append, List.filterMap_nil]

theorem whole_families :
    (m.families errorsTotal).flatMap (·.whole standardPrefix) =
      m.counted errorsTotal ++ m.bucketed ++ m.summed ++
        [("replaysink_flush_duration_seconds_count",
          m.durations.count)] := by
  simp only [families, List.flatMap_cons, List.flatMap_nil,
    MetricFamily.whole_single, MetricFamily.whole_labeled,
    whole_durations]
  simp only [standardPrefix, String.reduceAppend, ErrorType.all,
    ErrorType.label, FlushReason.all, FlushReason.label,
    List.map_cons, List.map_nil, Sample.labelText, counted,
    List.cons_append, List.nil_append, List.append_nil]

theorem sublist_names_bucketed :
    (m.bucketed.map Prod.fst).Sublist
      (DurationHistogram.boundTexts.map bucketName ++
        [bucketName "+Inf"]) := by
  have hNames :
      ((DurationHistogram.boundTexts.zip m.durations.within).map
          fun (bound, n) => (bucketName bound, n)).map Prod.fst =
        ((DurationHistogram.boundTexts.zip
          m.durations.within).map Prod.fst).map bucketName := by
    rw [List.map_map, List.map_map]
    rfl
  rw [bucketed, List.map_append, hNames]
  refine List.Sublist.append (List.Sublist.map bucketName ?_)
    (.refl _)
  rw [List.zip_eq_zip_take_min, List.map_fst_zip (by simp)]
  exact List.take_sublist _ _

theorem sublist_names_summed :
    (m.summed.map Prod.fst).Sublist
      ["replaysink_flush_duration_seconds_sum"] := by
  rw [summed]
  cases Decimal.readNat? UInt64.size
    m.durations.sumText.toList with
  | none => exact List.nil_sublist _
  | some n => exact .refl _

/- No name is published twice. -/
theorem nodup_published :
    ((m.published errorsTotal ++ m.summed).map Prod.fst).Nodup := by
  have hApart :
      ((zero.counted 0).map Prod.fst ++
          (DurationHistogram.boundTexts.map bucketName ++
            [bucketName "+Inf"]) ++
          ["replaysink_flush_duration_seconds_count"] ++
          ["replaysink_flush_duration_seconds_sum"]).Nodup := by
    decide +kernel
  refine hApart.sublist ?_
  simp only [published, List.map_append]
  have hCounted :
      (m.counted errorsTotal).map Prod.fst =
        (zero.counted 0).map Prod.fst := rfl
  rw [hCounted]
  exact (((List.Sublist.refl _).append
    sublist_names_bucketed).append (.refl _)).append
    sublist_names_summed

------------------------------------------------------------
-- Reading the Exposition
------------------------------------------------------------

/-
  What is read of an exposition: every name that is published
  has its number, no other name has one, and all rows are
  shown.
-/
structure ReadBack
    (m : Metrics)
    (errorsTotal : UInt64)
    (samples : List (String × UInt64)) : Prop where
  total :
    errorsTotal.toNat =
      (m.errors .kafka).toNat + (m.errors .buffer).toNat
  apart :
    ((m.published errorsTotal ++ m.summed).map Prod.fst).Nodup
  number :
    ∀ name n,
      Samples.get? samples name = some n ↔
        (name, n) ∈ m.published errorsTotal ++ m.summed
  rows :
    Samples.rows samples =
      [ ("Fragments Consumed:", m.fragmentsConsumed),
        ("Fragments Flushed: ", m.fragmentsFlushed),
        ("Bytes Flushed:     ", m.bytesFlushed),
        ("Buffer Commits:    ", m.flushes),
        ("Commit Failures:   ", m.commitFailures),
        ("Redeliveries:      ", m.redeliveries),
        ("Buffered Now:      ", m.bufferedFragments),
        ("Uncommitted:       ", m.consumerLag),
        ("Errors:            ", errorsTotal) ].map
          fun (label, n) => label ++ " " ++ Samples.rounded n

/- The text holds what is published, with the sum in its place. -/
theorem perm_ofText :
    (Samples.ofText
        (String.join
          (((m.families errorsTotal).flatMap
            (·.lines standardPrefix)).map (· ++ "\n")))).Perm
      (m.published errorsTotal ++ m.summed) := by
  rw [Samples.ofText_lines fun _ => readable_of_mem_families,
    whole_families, published, List.append_assoc,
    List.append_assoc _ _ m.summed]
  exact List.perm_append_comm.append_left _

/- The reader of a status finds what the exposition publishes. -/
theorem readBack_of_perm
    {samples : List (String × UInt64)}
    (hTotal : m.errorsTotal = .ok errorsTotal)
    (hPerm : samples.Perm (m.published errorsTotal ++ m.summed)) :
    m.ReadBack errorsTotal samples := by
  have hApart : (samples.map Prod.fst).Nodup :=
    (hPerm.map _).nodup_iff.mpr nodup_published
  have hNumber
      (name : String)
      (n : UInt64) :
      Samples.get? samples name = some n ↔
        (name, n) ∈ m.published errorsTotal ++ m.summed := by
    rw [Samples.get?_eq_some_iff hApart, hPerm.mem_iff]
  have hCounted :
      ∀ e ∈ m.counted errorsTotal,
        Samples.get? samples e.1 = some e.2 := by
    intro e hMem
    rw [hNumber, published]
    simp [hMem]
  simp only [counted, List.forall_mem_cons] at hCounted
  have hSome : samples.isEmpty = false := by
    cases samples with
    | nil => cases hCounted.1
    | cons e es => rfl
  refine ⟨Word.addNat_eq_ok_iff.mp hTotal, nodup_published,
    hNumber, ?_⟩
  simp only [Samples.rows, Samples.shown, List.filterMap_cons,
    List.filterMap_nil, hCounted, Option.map_some, hSome,
    Bool.false_eq_true, if_false, List.append_nil, List.map_cons,
    List.map_nil]

/- What is published is read again, whatever was counted. -/
theorem readBack_of_exposition
    (hErrors :
      (m.errors .kafka).toNat + (m.errors .buffer).toNat <
        UInt64.size) :
    ∃ text errorsTotal,
      m.exposition standardPrefix = .ok text ∧
        m.ReadBack errorsTotal (Samples.ofText text) := by
  have hTotal :
      m.errorsTotal =
        .ok (m.errors .kafka + m.errors .buffer) :=
    if_pos hErrors
  refine ⟨_, _, ?_, readBack_of_perm hTotal perm_ofText⟩
  rw [exposition, hTotal]
  rfl

/- Counters at their ends, and a sum of durations without a fraction. -/
def fullMetrics : Metrics where
  fragmentsConsumed := 18446744073709551615
  bytesConsumed := 18446744073709551615
  errors
  | .kafka => 18446744073709551614
  | .buffer => 1
  flushes := 3
  flushesByReason
  | .shutdown => 3
  | _ => 0
  fragmentsFlushed := 1000
  bytesFlushed := 1500000000
  commitFailures := 1
  redeliveries := 1
  bufferedFragments := 0
  bufferedBytes := 0
  activePartitions := 2
  consumerLag := 18446744073709550615
  durations := ⟨2000, 4, [1, 1, 4, 4, 4, 4, 4], 4⟩

theorem readBack_of_fullMetrics :
    (fullMetrics.errors .kafka).toNat +
          (fullMetrics.errors .buffer).toNat < UInt64.size ∧
      ∃ text errorsTotal,
        fullMetrics.exposition standardPrefix = .ok text ∧
          fullMetrics.ReadBack errorsTotal
            (Samples.ofText text) := by
  have hErrors :
      (fullMetrics.errors .kafka).toNat +
          (fullMetrics.errors .buffer).toNat < UInt64.size := by
    decide
  exact ⟨hErrors, readBack_of_exposition hErrors⟩

end Metrics

end FragmentSink
