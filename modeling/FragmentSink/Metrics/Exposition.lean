import FragmentSink.Metrics.Counters
import FragmentSink.Number.Shortest

/-
  The text in which metrics are published.

  Every metric has a line of help, a line with its kind, and a
  line for each sample.  A blank line follows every metric but
  the histogram, which is the last.

  Key definitions include:
    * `MetricFamily`
    * `Metrics.families`
    * `Metrics.exposition`
-/

namespace FragmentSink

------------------------------------------------------------
-- Samples
------------------------------------------------------------

/- The kinds of metrics. -/
inductive MetricKind where
| counter
| gauge
| histogram
deriving DecidableEq, Repr

namespace MetricKind

/- The written name of a kind. -/
def label : MetricKind → String
| .counter => "counter"
| .gauge => "gauge"
| .histogram => "histogram"

end MetricKind

/- One published value: what follows the name of its metric, and the value's text. -/
structure Sample where
  suffix : String
  value : String
deriving DecidableEq, Repr

namespace Sample

/- A sample without a label. -/
def plain (n : UInt64) : Sample :=
  ⟨"", toString n.toNat⟩

/- The text of a label and its value. -/
def labelText (label value : String) : String :=
  "\x7b" ++ label ++ "=\"" ++ value ++ "\"\x7d"

/- A sample with a label. -/
def labeled (label value : String) (n : UInt64) : Sample :=
  ⟨labelText label value, toString n.toNat⟩

end Sample

/- A metric: its name, kind and help, and its samples in order. -/
structure MetricFamily where
  name : String
  kind : MetricKind
  help : String
  samples : List Sample
deriving DecidableEq, Repr

namespace MetricFamily

/- A metric with one sample. -/
def single
    (name : String)
    (kind : MetricKind)
    (help : String)
    (n : UInt64) : MetricFamily :=
  ⟨name, kind, help, [.plain n]⟩

/- The line of a sample. -/
def sampleLine (namePrefix : String) (f : MetricFamily) (s : Sample) : String :=
  namePrefix ++ "_" ++ f.name ++ s.suffix ++ " " ++ s.value

/- The lines of a metric. -/
def lines (namePrefix : String) (f : MetricFamily) : List String :=
  let name := namePrefix ++ "_" ++ f.name
  [ "# HELP " ++ name ++ " " ++ f.help,
    "# TYPE " ++ name ++ " " ++ f.kind.label ] ++
  f.samples.map (f.sampleLine namePrefix) ++
  (if f.kind = .histogram then [] else [""])

end MetricFamily

------------------------------------------------------------
-- The Metrics of an Ingestion
------------------------------------------------------------

/- Milliseconds as the seconds that are published. -/
def secondsOfMillis (n : Nat) : Binary64 :=
  (Binary64.ofNat n).divNat 1000

namespace DurationHistogram

/- The bounds of the buckets as texts, with the counts within them. -/
def buckets (h : DurationHistogram) : List (String × UInt64) :=
  List.zipWith
    (fun bound n => ((secondsOfMillis bound).text, n))
    durationBounds h.within

/- The text of the sum of durations. -/
def sumText (h : DurationHistogram) : String :=
  (secondsOfMillis h.sumMillis.toNat).text

/- The samples of a histogram. -/
def samples (h : DurationHistogram) : List Sample :=
  let bucket (bound : String) (n : UInt64) : Sample :=
    ⟨"_bucket" ++ Sample.labelText "le" bound, toString n.toNat⟩
  h.buckets.map (fun (bound, n) => bucket bound n) ++
    [ bucket "+Inf" h.unbounded,
      ⟨"_sum", h.sumText⟩,
      ⟨"_count", toString h.count.toNat⟩ ]

end DurationHistogram

namespace Metrics

/- The prefix of metric names. -/
def standardPrefix : String := "replaysink"

/- The published metrics in order, given the total of errors. -/
def families (m : Metrics) (errorsTotal : UInt64) : List MetricFamily :=
  [ .single "fragments_consumed_total" .counter
      "Total recording fragments consumed from Kafka"
      m.fragmentsConsumed,
    .single "bytes_consumed_total" .counter
      "Total payload bytes consumed from Kafka" m.bytesConsumed,
    .single "errors_total" .counter "Total errors encountered"
      errorsTotal,
    ⟨"errors", .counter, "Errors by type",
      ErrorType.all.map fun t =>
        .labeled "type" t.label (m.errors t)⟩,
    .single "flushes_total" .counter
      "Total buffer commits to blob storage" m.flushes,
    ⟨"flushes", .counter, "Buffer commits by flush reason",
      FlushReason.all.map fun r =>
        .labeled "reason" r.label (m.flushesByReason r)⟩,
    .single "fragments_flushed_total" .counter
      "Total fragments written to blob storage"
      m.fragmentsFlushed,
    .single "bytes_flushed_total" .counter
      "Total payload bytes written to blob storage"
      m.bytesFlushed,
    .single "commit_failures_total" .counter
      "Total failed buffer commits" m.commitFailures,
    .single "redeliveries_total" .counter
      "Partitions rewound for redelivery after a failed commit"
      m.redeliveries,
    .single "buffered_fragments" .gauge
      "Fragments currently buffered across partitions"
      m.bufferedFragments,
    .single "buffered_bytes" .gauge
      "Payload bytes currently buffered across partitions"
      m.bufferedBytes,
    .single "active_partitions" .gauge
      "Partitions with a live buffer worker" m.activePartitions,
    .single "consumer_lag" .gauge
      "Consumed fragments not yet committed" m.consumerLag,
    ⟨"flush_duration_seconds", .histogram,
      "Duration of buffer commit attempts", m.durations.samples⟩ ]

/- The published text, with a prefix for every name; a total that overflows faults. -/
def exposition
    (m : Metrics)
    (namePrefix : String) : Except Fault String :=
  m.errorsTotal.map fun total =>
    String.join
      (((m.families total).flatMap (·.lines namePrefix)).map
        (· ++ "\n"))

end Metrics

end FragmentSink
