import FilterQuery.Json.Basic
import FilterQuery.Metrics.Basic

/-!
# Metrics as text

A snapshot has a form in JSON and a form in the text format of metrics collectors.  There numbers
never have an exponent, and whole numbers no point.
-/

namespace FilterQuery

namespace DurationHistogram

def toJson (histogram : DurationHistogram) : Json :=
  .object [
    ("buckets", .array (histogram.buckets.map Json.ofNat)),
    ("count", .ofNat histogram.count),
    ("sum", .number (.real histogram.sum))]

end DurationHistogram

namespace MetricsSeries

def toJson (series : MetricsSeries) : Json :=
  .object [
    ("resolver", .string series.label.resolver),
    ("type", .string series.label.kind.name),
    ("calls", .ofNat series.counts.calls),
    ("successes", .ofNat series.counts.successes),
    ("errors", .ofNat series.counts.errors),
    ("durations", .object (series.durations.map fun (status, histogram) =>
      (status.name, histogram.toJson)))]

end MetricsSeries

namespace Metrics

def snapshotJson (metrics : Metrics) : Json :=
  .array (metrics.snapshot.map MetricsSeries.toJson)

def numberLayout : Binary64.Layout where
  tie := .up
  lowest := none
  highest := none
  wholeSuffix := ""
  infinite := "inf"
  negativeInfinite := "-inf"
  notANumber := "NaN"

def labelText (label : SeriesLabel) : String :=
  "resolver=\"" ++ label.resolver ++ "\",type=\"" ++ label.kind.name ++ "\""

def header (name help type : String) : List String :=
  ["# HELP " ++ name ++ " " ++ help, "# TYPE " ++ name ++ " " ++ type]

def counterLines (series : List MetricsSeries) (name help : String)
    (value : CallCounts → Nat) : List String :=
  header name help "counter" ++
    series.map fun s =>
      name ++ "\x7b" ++ labelText s.label ++ "\x7d " ++ toString (value s.counts)

def durationName : String := "resolver_execution_duration_seconds"

def bucketLine (labels bound : String) (count : Nat) : String :=
  durationName ++ "_bucket\x7b" ++ labels ++ ",le=\"" ++ bound ++ "\"\x7d " ++ toString count

def histogramLines (label : SeriesLabel) (status : CallStatus)
    (histogram : DurationHistogram) : List String :=
  let labels := labelText label ++ ",status=\"" ++ status.name ++ "\""
  List.zipWith (fun bound count => bucketLine labels (numberLayout.text bound) count)
      DurationHistogram.bounds histogram.buckets ++
    [bucketLine labels "+Inf" histogram.count,
      durationName ++ "_sum\x7b" ++ labels ++ "\x7d " ++ numberLayout.text histogram.sum,
      durationName ++ "_count\x7b" ++ labels ++ "\x7d " ++ toString histogram.count]

def lines (metrics : Metrics) : List String :=
  let series := metrics.snapshot
  counterLines series "resolver_call_total" "Total number of resolver calls"
      CallCounts.calls ++
    counterLines series "resolver_success_total" "Total number of successful resolver calls"
      CallCounts.successes ++
    counterLines series "resolver_error_total" "Total number of resolver errors"
      CallCounts.errors ++
    header durationName "Duration of resolver execution in seconds" "histogram" ++
    series.flatMap fun s =>
      s.durations.flatMap fun (status, histogram) => histogramLines s.label status histogram

def text (metrics : Metrics) : String :=
  String.join (metrics.lines.map (· ++ "\n"))

end Metrics

end FilterQuery
