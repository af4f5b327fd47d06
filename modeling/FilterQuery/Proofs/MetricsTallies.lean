import FilterQuery.Metrics.Basic
import Mathlib.Algebra.Order.Field.Rat
import Mathlib.Algebra.Order.Field.Basic
import Mathlib.Data.List.Induction
import Mathlib.Order.WithBot

/-!
# Tallies of a run of metrics events

Metrics that begin empty hold the tallies of the events that they record: how often each counter of
a label was raised, and for each outcome the histogram of the durations observed under it.  A tally
counts events, so the order of the events shows in nothing but the sums of the durations, which are
rounded at every step.  A snapshot has the series that were counted; what was observed for a label
that was never counted is in no snapshot.
-/

namespace FilterQuery

/-! ## Durations as exact numbers -/

namespace Binary64

/-- The exact value of a whole number of units. -/
def rational (negative : Bool) (units : Nat) : ℚ :=
  signed negative units / scale

/-- The exact value of what is a number, infinite ones included. -/
def value? : Binary64 → Option (WithBot (WithTop ℚ))
  | .finite negative units => some (rational negative units : WithTop ℚ)
  | .infinite true => some ⊥
  | .infinite false => some (⊤ : WithTop ℚ)
  | .notANumber => none

/-- Both are numbers, and the exact value of the first is at most that of the second. -/
def AtMost (a b : Binary64) : Prop :=
  ∃ x ∈ a.value?, ∃ y ∈ b.value?, x ≤ y

theorem rational_le_rational_iff {s t : Bool} {m n : Nat} :
    rational s m ≤ rational t n ↔ signed s m ≤ signed t n := by
  have hscale : 0 < scale := by decide +kernel
  have hpos : (0 : ℚ) < scale := by exact_mod_cast hscale
  rw [rational, rational, div_le_div_iff_of_pos_right hpos, Int.cast_le]

theorem le_iff_atMost {a b : Binary64} : a.le b = true ↔ a.AtMost b := by
  cases a with
  | notANumber => simp [le, AtMost, value?]
  | infinite s =>
      cases b with
      | notANumber => simp [le, AtMost, value?]
      | infinite t => cases s <;> cases t <;> simp [le, AtMost, value?]
      | finite t n => cases s <;> simp [le, AtMost, value?]
  | finite s m =>
      cases b with
      | notANumber => simp [le, AtMost, value?]
      | infinite t => cases t <;> simp [le, AtMost, value?]
      | finite t n => simp [le, AtMost, value?, rational_le_rational_iff]

instance : DecidableRel AtMost := fun _ _ => decidable_of_iff _ le_iff_atMost

end Binary64

/-! ## Histograms -/

namespace DurationHistogram

/-- The histogram of durations that are observed one after another. -/
def ofDurations (durations : List Binary64) : DurationHistogram :=
  durations.foldl observe empty

theorem ofDurations_concat (durations : List Binary64) (seconds : Binary64) :
    ofDurations (durations ++ [seconds]) = (ofDurations durations).observe seconds := by
  simp [ofDurations]

/-- The histogram without the sum, which depends on the order of its summands. -/
def withoutSum (histogram : DurationHistogram) : DurationHistogram :=
  { histogram with sum := .ofNat 0 }

/-- Each bucket counts the durations at or below its bound, and the buckets grow up to at most the
number of all durations. -/
structure Tallies (histogram : DurationHistogram) (durations : List Binary64) : Prop where
  count : histogram.count = durations.length
  buckets : histogram.buckets = bounds.map fun bound => durations.countP (·.AtMost bound)
  growing : histogram.buckets.Pairwise (· ≤ ·)
  bounded : ∀ bucket ∈ histogram.buckets, bucket ≤ histogram.count

theorem bounds_ascending : bounds.Pairwise fun a b => a.le b = true := by
  decide +kernel

theorem count_ofDurations (durations : List Binary64) :
    (ofDurations durations).count = durations.length := by
  induction durations using List.reverseRecOn with
  | nil => rfl
  | append_singleton durations seconds ih =>
      rw [ofDurations_concat, List.length_append, observe, ih]
      rfl

theorem buckets_ofDurations (durations : List Binary64) :
    (ofDurations durations).buckets =
      bounds.map fun bound => durations.countP (·.AtMost bound) := by
  induction durations using List.reverseRecOn with
  | nil => rfl
  | append_singleton durations seconds ih =>
      rw [ofDurations_concat, observe]
      simp only [ih, List.zipWith_map_right, List.zipWith_self]
      refine List.map_congr_left fun bound _ => ?_
      rw [List.countP_append]
      by_cases hle : seconds.le bound = true
      · simp [hle, Binary64.le_iff_atMost.1 hle]
      · have hnot : ¬ seconds.AtMost bound := fun hmost => hle (Binary64.le_iff_atMost.2 hmost)
        simp [hle, hnot]

theorem tallies_ofDurations (durations : List Binary64) :
    (ofDurations durations).Tallies durations where
  count := count_ofDurations durations
  buckets := buckets_ofDurations durations
  growing := by
    rw [buckets_ofDurations, List.pairwise_map]
    refine bounds_ascending.imp fun {lower upper} hbounds => ?_
    refine List.countP_mono_left fun seconds _ hmost => ?_
    rw [decide_eq_true_eq] at hmost ⊢
    exact Binary64.le_iff_atMost.1
      (Binary64.le_trans (Binary64.le_iff_atMost.2 hmost) hbounds)
  bounded bucket hbucket := by
    rw [buckets_ofDurations] at hbucket
    obtain ⟨bound, -, rfl⟩ := List.mem_map.1 hbucket
    rw [count_ofDurations]
    exact List.countP_le_length

theorem withoutSum_ofDurations_of_perm {durations others : List Binary64}
    (hperm : durations.Perm others) :
    (ofDurations durations).withoutSum = (ofDurations others).withoutSum := by
  have hcount : (ofDurations durations).count = (ofDurations others).count := by
    rw [count_ofDurations, count_ofDurations, hperm.length_eq]
  have hbuckets : (ofDurations durations).buckets = (ofDurations others).buckets := by
    rw [buckets_ofDurations, buckets_ofDurations]
    exact List.map_congr_left fun bound _ => hperm.countP_eq _
  rw [withoutSum, withoutSum, hcount, hbuckets]

end DurationHistogram

/-! ## Logs of events -/

namespace MetricsEvent

/-- The label of the counters that an event raises. -/
def counted? : MetricsEvent → Option SeriesLabel
  | .call label | .success label | .error label => some label
  | .duration .. => none

/-- The duration that an event observes for a label under an outcome. -/
def observed? (label : SeriesLabel) (status : CallStatus) : MetricsEvent → Option Binary64
  | .duration l s seconds => if l = label ∧ s = status then some seconds else none
  | _ => none

/-- The label that an event names. -/
def label : MetricsEvent → SeriesLabel
  | .call label | .success label | .error label | .duration label _ _ => label

end MetricsEvent

/-- Events in the order in which they are recorded. -/
abbrev MetricsLog := List MetricsEvent

namespace MetricsLog

/-- The labels that the log counts for, as often as it does. -/
def counted (log : MetricsLog) : List SeriesLabel :=
  log.filterMap MetricsEvent.counted?

/-- How often each counter of a label is raised. -/
def countsOf (log : MetricsLog) (label : SeriesLabel) : CallCounts :=
  ⟨log.count (.call label), log.count (.success label), log.count (.error label)⟩

/-- The durations that are observed for a label under an outcome. -/
def observed (log : MetricsLog) (label : SeriesLabel) (status : CallStatus) : List Binary64 :=
  log.filterMap (MetricsEvent.observed? label status)

theorem counted_concat (log : MetricsLog) (event : MetricsEvent) :
    counted (log ++ [event]) = log.counted ++ event.counted?.toList := by
  rw [counted, counted, List.filterMap_append]
  cases hcounted : event.counted? <;> simp [hcounted]

theorem observed_concat (log : MetricsLog) (event : MetricsEvent) (label : SeriesLabel)
    (status : CallStatus) :
    observed (log ++ [event]) label status =
      log.observed label status ++ (event.observed? label status).toList := by
  rw [observed, observed, List.filterMap_append]
  cases hobserved : event.observed? label status <;> simp [hobserved]

theorem countsOf_concat_of_ne {event : MetricsEvent} {label : SeriesLabel}
    (hne : event.counted? ≠ some label) (log : MetricsLog) :
    countsOf (log ++ [event]) label = log.countsOf label := by
  cases event <;> simp_all [countsOf, MetricsEvent.counted?]

theorem countsOf_of_notMem {log : MetricsLog} {label : SeriesLabel}
    (hlabel : label ∉ log.counted) : log.countsOf label = .zero := by
  have hnone (event : MetricsEvent) (hcounted : event.counted? = some label) :
      log.count event = 0 := by
    rw [List.count_eq_zero]
    intro hevent
    exact hlabel (List.mem_filterMap.2 ⟨event, hevent, hcounted⟩)
  rw [countsOf, hnone (.call label) rfl, hnone (.success label) rfl, hnone (.error label) rfl,
    CallCounts.zero]

theorem observed_ne_nil_iff {log : MetricsLog} {label : SeriesLabel} {status : CallStatus} :
    log.observed label status ≠ [] ↔ ∃ seconds, .duration label status seconds ∈ log := by
  rw [observed, ← List.isEmpty_eq_false_iff, List.isEmpty_eq_false_iff_exists_mem]
  constructor
  · rintro ⟨seconds, hmem⟩
    obtain ⟨event, hevent, hobserved⟩ := List.mem_filterMap.1 hmem
    cases event with
    | call _ | success _ | error _ => cases hobserved
    | duration l s _ =>
        rw [MetricsEvent.observed?] at hobserved
        split at hobserved
        · next heq =>
            obtain ⟨rfl, rfl⟩ := heq
            exact ⟨_, hevent⟩
        · cases hobserved
  · rintro ⟨seconds, hmem⟩
    exact ⟨seconds, List.mem_filterMap.2 ⟨_, hmem, if_pos ⟨rfl, rfl⟩⟩⟩

theorem mem_counted_iff_of_perm {log other : MetricsLog} (hperm : log.Perm other)
    (label : SeriesLabel) : label ∈ log.counted ↔ label ∈ other.counted :=
  (hperm.filterMap _).mem_iff

theorem countsOf_of_perm {log other : MetricsLog} (hperm : log.Perm other)
    (label : SeriesLabel) : log.countsOf label = other.countsOf label := by
  rw [countsOf, countsOf, hperm.count_eq, hperm.count_eq, hperm.count_eq]

theorem observed_perm {log other : MetricsLog} (hperm : log.Perm other)
    (label : SeriesLabel) (status : CallStatus) :
    (log.observed label status).Perm (other.observed label status) :=
  hperm.filterMap _

end MetricsLog

/-! ## Metrics that tally a log -/

namespace Metrics

/-- The series of the metrics are the tallies of the log, in ascending order. -/
structure Tallies (metrics : Metrics) (log : MetricsLog) : Prop where
  counts : ∀ label, Sorted.get? label metrics.counts =
    if label ∈ log.counted then some (log.countsOf label) else none
  durations : ∀ label status, Sorted.get? status (metrics.durationsOf label) =
    if log.observed label status = [] then none
    else some (.ofDurations (log.observed label status))
  countsAscending : Sorted.Ascending metrics.counts
  durationsAscending : ∀ label, Sorted.Ascending (metrics.durationsOf label)

namespace Tallies

variable {metrics : Metrics} {log : MetricsLog}

theorem empty : Metrics.empty.Tallies [] where
  counts _ := rfl
  durations _ _ := rfl
  countsAscending := List.Pairwise.nil
  durationsAscending _ := List.Pairwise.nil

theorem countsOf_eq (htallies : metrics.Tallies log) (label : SeriesLabel) :
    metrics.countsOf label = log.countsOf label := by
  rw [countsOf, htallies.counts]
  split
  · rfl
  · next hlabel => rw [MetricsLog.countsOf_of_notMem hlabel, Option.getD_none]

theorem count (htallies : metrics.Tallies log) (event : MetricsEvent) {label : SeriesLabel}
    {step : CallCounts → CallCounts} (hcounted : event.counted? = some label)
    (hstep : MetricsLog.countsOf (log ++ [event]) label = step (log.countsOf label)) :
    (metrics.count label step).Tallies (log ++ [event]) where
  counts other := by
    rw [Metrics.count, MetricsLog.counted_concat, hcounted]
    by_cases heq : other = label
    · subst heq
      simp [htallies.countsOf_eq, hstep]
    · have hne : event.counted? ≠ some other := by
        rw [hcounted]
        exact fun hsome => heq (Option.some.inj hsome).symm
      rw [Sorted.get?_set_of_ne heq, htallies.counts, MetricsLog.countsOf_concat_of_ne hne]
      simp [heq]
  durations other status := by
    have hobserved : event.observed? other status = none := by
      cases event <;> simp_all [MetricsEvent.counted?, MetricsEvent.observed?]
    rw [MetricsLog.observed_concat, hobserved, Option.toList_none, List.append_nil]
    exact htallies.durations other status
  countsAscending := htallies.countsAscending.set label _
  durationsAscending := htallies.durationsAscending

theorem observe (htallies : metrics.Tallies log) (label : SeriesLabel) (status : CallStatus)
    (seconds : Binary64) :
    (metrics.observe label status seconds).Tallies
      (log ++ [.duration label status seconds]) where
  counts other := by
    have hcounted : (MetricsEvent.duration label status seconds).counted? = none := rfl
    rw [MetricsLog.counted_concat, hcounted, Option.toList_none, List.append_nil,
      MetricsLog.countsOf_concat_of_ne (by simp [hcounted])]
    exact htallies.counts other
  durations other outcome := by
    rw [MetricsLog.observed_concat, MetricsEvent.observed?]
    by_cases hlabel : other = label
    · subst hlabel
      rw [durationsOf_observe_self]
      by_cases hstatus : outcome = status
      · subst hstatus
        rw [Sorted.get?_set_self, htallies.durations]
        by_cases hnone : log.observed other outcome = []
        · simp [hnone, DurationHistogram.ofDurations]
        · simp [hnone, DurationHistogram.ofDurations_concat]
      · rw [Sorted.get?_set_of_ne hstatus, htallies.durations]
        simp [Ne.symm hstatus]
    · rw [durationsOf_observe_of_ne hlabel, htallies.durations]
      simp [Ne.symm hlabel]
  countsAscending := htallies.countsAscending
  durationsAscending other := by
    by_cases hlabel : other = label
    · subst hlabel
      rw [durationsOf_observe_self]
      exact (htallies.durationsAscending other).set status _
    · rw [durationsOf_observe_of_ne hlabel]
      exact htallies.durationsAscending other

theorem record (htallies : metrics.Tallies log) (event : MetricsEvent) :
    (metrics.record event).Tallies (log ++ [event]) := by
  cases event with
  | call label =>
      rw [Metrics.record]
      refine htallies.count (.call label) rfl ?_
      simp [MetricsLog.countsOf]
  | success label =>
      rw [Metrics.record]
      refine htallies.count (.success label) rfl ?_
      simp [MetricsLog.countsOf]
  | error label =>
      rw [Metrics.record]
      refine htallies.count (.error label) rfl ?_
      simp [MetricsLog.countsOf]
  | duration label status seconds => exact htallies.observe label status seconds

end Tallies

/-- The metrics after a log of events. -/
def recordAll (metrics : Metrics) (log : MetricsLog) : Metrics :=
  log.foldl record metrics

theorem Tallies.recordAll {metrics : Metrics} {log : MetricsLog} (htallies : metrics.Tallies log)
    (more : MetricsLog) : (metrics.recordAll more).Tallies (log ++ more) := by
  induction more generalizing metrics log with
  | nil => rwa [List.append_nil]
  | cons event rest ih =>
      rw [← List.singleton_append, ← List.append_assoc]
      exact ih (htallies.record event)

theorem tallies_recordAll (log : MetricsLog) : (Metrics.empty.recordAll log).Tallies log :=
  Tallies.empty.recordAll log

end Metrics

/-! ## Snapshots -/

/-- The series without the sums of its durations. -/
def MetricsSeries.withoutSums (series : MetricsSeries) : MetricsSeries :=
  { series with durations := series.durations.map fun entry => (entry.1, entry.2.withoutSum) }

namespace Metrics.Tallies

variable {metrics other : Metrics} {log : MetricsLog}

theorem mem_snapshot_iff (htallies : metrics.Tallies log) {series : MetricsSeries} :
    series ∈ metrics.snapshot ↔ series.label ∈ log.counted ∧
      series = ⟨series.label, log.countsOf series.label, metrics.durationsOf series.label⟩ := by
  rw [snapshot, List.mem_map]
  constructor
  · rintro ⟨⟨label, counts⟩, hentry, rfl⟩
    have hcounts := htallies.counts label
    rw [htallies.countsAscending.get?_eq_some_iff.2 hentry] at hcounts
    split at hcounts
    · next hlabel => exact ⟨hlabel, by rw [Option.some.inj hcounts]⟩
    · cases hcounts
  · rintro ⟨hlabel, hseries⟩
    refine ⟨(series.label, log.countsOf series.label), ?_, hseries.symm⟩
    rw [← htallies.countsAscending.get?_eq_some_iff, htallies.counts, if_pos hlabel]

theorem labels_ascending (htallies : metrics.Tallies log) :
    metrics.snapshot.Pairwise fun a b => a.label < b.label := by
  rw [snapshot, List.pairwise_map]
  exact htallies.countsAscending

theorem mem_labels_iff (htallies : metrics.Tallies log) (label : SeriesLabel) :
    label ∈ metrics.snapshot.map MetricsSeries.label ↔ label ∈ log.counted := by
  rw [List.mem_map]
  constructor
  · rintro ⟨series, hseries, rfl⟩
    exact (htallies.mem_snapshot_iff.1 hseries).1
  · intro hlabel
    exact ⟨⟨label, log.countsOf label, metrics.durationsOf label⟩,
      htallies.mem_snapshot_iff.2 ⟨hlabel, rfl⟩, rfl⟩

theorem mem_statuses_iff (htallies : metrics.Tallies log) (label : SeriesLabel)
    (status : CallStatus) :
    status ∈ (metrics.durationsOf label).map Prod.fst ↔ log.observed label status ≠ [] := by
  rw [← Sorted.isSome_get?_iff, htallies.durations]
  split <;> simp_all

theorem tallies_of_mem_durations (htallies : metrics.Tallies log) {label : SeriesLabel}
    {status : CallStatus} {histogram : DurationHistogram}
    (hentry : (status, histogram) ∈ metrics.durationsOf label) :
    histogram.Tallies (log.observed label status) := by
  have hget := (htallies.durationsAscending label).get?_eq_some_iff.2 hentry
  rw [htallies.durations] at hget
  split at hget
  · cases hget
  · rw [← Option.some.inj hget]
    exact DurationHistogram.tallies_ofDurations _

theorem counts_eq_of_perm {reordered : MetricsLog} (htallies : metrics.Tallies log)
    (hothers : other.Tallies reordered) (hperm : log.Perm reordered) :
    metrics.counts = other.counts := by
  refine htallies.countsAscending.ext hothers.countsAscending fun label => ?_
  rw [htallies.counts, hothers.counts, MetricsLog.countsOf_of_perm hperm]
  simp only [MetricsLog.mem_counted_iff_of_perm hperm]

theorem durations_eq_of_perm {reordered : MetricsLog} (htallies : metrics.Tallies log)
    (hothers : other.Tallies reordered) (hperm : log.Perm reordered) (label : SeriesLabel) :
    (metrics.durationsOf label).map (fun entry => (entry.1, entry.2.withoutSum)) =
      (other.durationsOf label).map fun entry => (entry.1, entry.2.withoutSum) := by
  refine ((htallies.durationsAscending label).map _).ext
    ((hothers.durationsAscending label).map _) fun status => ?_
  have hobserved := MetricsLog.observed_perm hperm label status
  rw [Sorted.get?_map, Sorted.get?_map, htallies.durations, hothers.durations]
  by_cases hnone : log.observed label status = []
  · rw [hnone] at hobserved
    rw [if_pos hnone, if_pos hobserved.nil_eq.symm]
  · have hsome : reordered.observed label status ≠ [] := by
      intro heq
      rw [heq] at hobserved
      exact hnone hobserved.eq_nil
    rw [if_neg hnone, if_neg hsome, Option.map_some, Option.map_some,
      DurationHistogram.withoutSum_ofDurations_of_perm hobserved]

theorem snapshot_eq_of_perm {reordered : MetricsLog} (htallies : metrics.Tallies log)
    (hothers : other.Tallies reordered) (hperm : log.Perm reordered) :
    metrics.snapshot.map MetricsSeries.withoutSums =
      other.snapshot.map MetricsSeries.withoutSums := by
  rw [snapshot, snapshot, List.map_map, List.map_map, htallies.counts_eq_of_perm hothers hperm]
  refine List.map_congr_left fun entry _ => ?_
  simp only [Function.comp_apply, MetricsSeries.withoutSums,
    htallies.durations_eq_of_perm hothers hperm]

end Metrics.Tallies

/-- A run of events on metrics that begin empty counts for every label how often each counter was
raised.  The snapshot is in strictly ascending order of the labels; a series of it has a histogram
for each outcome with observations, of as many durations as were observed, in cumulative buckets.
Events in another order give the same snapshot up to the sums. -/
theorem recordAll_tallies_events (log : MetricsLog) :
    let metrics := Metrics.empty.recordAll log
    (∀ label, metrics.countsOf label = log.countsOf label) ∧
      (∀ series ∈ metrics.snapshot,
        series.counts = log.countsOf series.label ∧
        (∀ status, status ∈ series.durations.map Prod.fst ↔
          log.observed series.label status ≠ []) ∧
        ∀ entry ∈ series.durations, entry.2.Tallies (log.observed series.label entry.1)) ∧
      (metrics.snapshot.Pairwise fun a b => a.label < b.label) ∧
      ∀ reordered : MetricsLog, log.Perm reordered →
        metrics.snapshot.map MetricsSeries.withoutSums =
          (Metrics.empty.recordAll reordered).snapshot.map MetricsSeries.withoutSums := by
  intro metrics
  have htallies : metrics.Tallies log := Metrics.tallies_recordAll log
  refine ⟨htallies.countsOf_eq, fun series hseries => ?_, htallies.labels_ascending,
    fun reordered hperm => ?_⟩
  · obtain ⟨-, hseries⟩ := htallies.mem_snapshot_iff.1 hseries
    rw [hseries]
    exact ⟨rfl, htallies.mem_statuses_iff series.label,
      fun entry hentry => htallies.tallies_of_mem_durations hentry⟩
  · exact htallies.snapshot_eq_of_perm (Metrics.tallies_recordAll reordered) hperm

/-- One successful call, with durations of 3 ms, 0.2 s and 10 s. -/
def MetricsLog.ofUsers : MetricsLog :=
  let users : SeriesLabel := ⟨"users", .query⟩
  [.call users, .success users, .duration users .success (.ofDecimal 3 3),
    .duration users .success (.ofDecimal 2 1), .duration users .success (.ofNat 10)]

theorem recordAll_tallies_events_of_users :
    let durations : List Binary64 := [.ofDecimal 3 3, .ofDecimal 2 1, .ofNat 10]
    let series : MetricsSeries :=
      ⟨⟨"users", .query⟩, ⟨1, 1, 0⟩, [(.success, .ofDurations durations)]⟩
    series ∈ (Metrics.empty.recordAll .ofUsers).snapshot ∧
      (DurationHistogram.ofDurations durations).Tallies durations ∧
      (DurationHistogram.ofDurations durations).buckets = [1, 1, 1, 1, 2, 2, 2, 2] ∧
      MetricsLog.ofUsers.Perm MetricsLog.ofUsers.reverse ∧
      (Metrics.empty.recordAll .ofUsers).snapshot.map MetricsSeries.withoutSums =
        (Metrics.empty.recordAll MetricsLog.ofUsers.reverse).snapshot.map
          MetricsSeries.withoutSums := by
  intro durations series
  have hseries : series ∈ (Metrics.empty.recordAll .ofUsers).snapshot :=
    List.mem_cons_self
  have hperm : MetricsLog.ofUsers.Perm MetricsLog.ofUsers.reverse :=
    (List.reverse_perm _).symm
  obtain ⟨-, htallies, -, hreordered⟩ := recordAll_tallies_events .ofUsers
  refine ⟨hseries, ?_, by decide +kernel, hperm, hreordered _ hperm⟩
  exact (htallies series hseries).2.2 _ List.mem_cons_self

/-- A snapshot has exactly one series for each label of a counter that was raised, and no other.  It
has the histogram of an outcome of a label if and only if there is a series for the label and a
duration was observed for it under the outcome. -/
theorem snapshot_lists_counted_labels (log : MetricsLog) :
    let snapshot := (Metrics.empty.recordAll log).snapshot
    let labels := snapshot.map MetricsSeries.label
    labels.Nodup ∧
      (∀ label, label ∈ labels ↔ ∃ event ∈ log, event.counted? = some label) ∧
      ∀ label status,
        (∃ series ∈ snapshot, series.label = label ∧ status ∈ series.durations.map Prod.fst) ↔
          label ∈ labels ∧ ∃ seconds, .duration label status seconds ∈ log := by
  intro snapshot labels
  have htallies := Metrics.tallies_recordAll log
  have hlabels (label : SeriesLabel) :
      label ∈ labels ↔ ∃ event ∈ log, event.counted? = some label := by
    rw [htallies.mem_labels_iff, MetricsLog.counted, List.mem_filterMap]
  refine ⟨?_, hlabels, fun label status => ⟨?_, ?_⟩⟩
  · refine List.pairwise_map.2 (htallies.labels_ascending.imp fun {a b} hlt heq => ?_)
    rw [heq] at hlt
    exact Std.Irrefl.irrefl (r := fun a b : SeriesLabel => a < b) b.label hlt
  · rintro ⟨series, hmem, rfl, hstatus⟩
    rw [(htallies.mem_snapshot_iff.1 hmem).2, htallies.mem_statuses_iff] at hstatus
    exact ⟨List.mem_map_of_mem hmem, MetricsLog.observed_ne_nil_iff.1 hstatus⟩
  · rintro ⟨hlabel, hobserved⟩
    obtain ⟨series, hmem, rfl⟩ := List.mem_map.1 hlabel
    refine ⟨series, hmem, rfl, ?_⟩
    rw [(htallies.mem_snapshot_iff.1 hmem).2, htallies.mem_statuses_iff]
    exact MetricsLog.observed_ne_nil_iff.2 hobserved

/-- A duration that is observed for a label without counters is in no series. -/
theorem snapshot_misses_observed_label :
    let users : SeriesLabel := ⟨"users", .query⟩
    let log : MetricsLog := [.duration users .success (.ofDecimal 2 1)]
    (∃ event ∈ log, event.label = users) ∧
      log.observed users .success = [.ofDecimal 2 1] ∧
      (Metrics.empty.recordAll log).snapshot = [] := by
  intro users log
  exact ⟨⟨_, List.mem_cons_self, rfl⟩, rfl, rfl⟩

end FilterQuery
