import FilterQuery.Binary64.Decimal
import FilterQuery.Json.Basic
import FilterQuery.Sorted

/-!
# Call metrics

Calls, successes and errors are counted for every resolver and kind of resolver, and the durations
of calls fall into a histogram for each outcome.  The series are kept in ascending order of the
resolver and then of the kind.
-/

namespace FilterQuery

inductive ResolverKind
  | query
  | mutation
  deriving DecidableEq, Repr

namespace ResolverKind

def name : ResolverKind → String
  | .query => "query"
  | .mutation => "mutation"

def rank : ResolverKind → Nat
  | .query => 0
  | .mutation => 1

instance : LT ResolverKind := ⟨fun a b => a.rank < b.rank⟩

instance : DecidableLT ResolverKind := fun a b => Nat.decLt a.rank b.rank

instance : Std.Irrefl fun a b : ResolverKind => a < b := ⟨fun a => Nat.lt_irrefl a.rank⟩

instance : Trans (fun a b : ResolverKind => a < b) (fun a b : ResolverKind => a < b)
    (fun a b : ResolverKind => a < b) := ⟨Nat.lt_trans⟩

instance : Std.Trichotomous fun a b : ResolverKind => a < b where
  trichotomous a b := by cases a <;> cases b <;> decide

end ResolverKind

inductive CallStatus
  | success
  | error
  deriving DecidableEq, Repr

namespace CallStatus

def name : CallStatus → String
  | .success => "SUCCESS"
  | .error => "ERROR"

def rank : CallStatus → Nat
  | .success => 0
  | .error => 1

instance : LT CallStatus := ⟨fun a b => a.rank < b.rank⟩

instance : DecidableLT CallStatus := fun a b => Nat.decLt a.rank b.rank

instance : Std.Irrefl fun a b : CallStatus => a < b := ⟨fun a => Nat.lt_irrefl a.rank⟩

instance : Trans (fun a b : CallStatus => a < b) (fun a b : CallStatus => a < b)
    (fun a b : CallStatus => a < b) := ⟨Nat.lt_trans⟩

instance : Std.Trichotomous fun a b : CallStatus => a < b where
  trichotomous a b := by cases a <;> cases b <;> decide

end CallStatus

structure SeriesLabel where
  resolver : String
  kind : ResolverKind
  deriving DecidableEq, Repr

namespace SeriesLabel

instance : LT SeriesLabel :=
  ⟨fun a b => a.resolver < b.resolver ∨ (a.resolver = b.resolver ∧ a.kind < b.kind)⟩

instance : DecidableLT SeriesLabel := fun a b =>
  inferInstanceAs
    (Decidable (a.resolver < b.resolver ∨ (a.resolver = b.resolver ∧ a.kind < b.kind)))

instance : Std.Irrefl fun a b : SeriesLabel => a < b where
  irrefl a := by
    rintro (hresolver | ⟨-, hkind⟩)
    · exact String.lt_irrefl a.resolver hresolver
    · exact Nat.lt_irrefl a.kind.rank hkind

instance : Trans (fun a b : SeriesLabel => a < b) (fun a b : SeriesLabel => a < b)
    (fun a b : SeriesLabel => a < b) where
  trans {a b c} := by
    rintro (hab | ⟨hab, hkinds⟩) (hbc | ⟨hbc, hothers⟩)
    · exact .inl (String.lt_trans hab hbc)
    · exact .inl (hbc ▸ hab)
    · exact .inl (hab ▸ hbc)
    · exact .inr ⟨hab.trans hbc, Nat.lt_trans hkinds hothers⟩

instance : Std.Trichotomous fun a b : SeriesLabel => a < b where
  trichotomous a b hab hba := by
    have hresolvers : a.resolver = b.resolver :=
      Std.Trichotomous.trichotomous (r := fun a b : String => a < b) _ _
        (fun hlt => hab (.inl hlt)) (fun hlt => hba (.inl hlt))
    have hkinds : a.kind = b.kind :=
      Std.Trichotomous.trichotomous (r := fun a b : ResolverKind => a < b) _ _
        (fun hlt => hab (.inr ⟨hresolvers, hlt⟩)) (fun hlt => hba (.inr ⟨hresolvers.symm, hlt⟩))
    cases a
    cases b
    simp_all

end SeriesLabel

structure CallCounts where
  calls : Nat
  successes : Nat
  errors : Nat
  deriving DecidableEq, Repr

def CallCounts.zero : CallCounts := ⟨0, 0, 0⟩

/-- The observations at or below each bound, all observations, and the sum of their durations. -/
structure DurationHistogram where
  buckets : List Nat
  count : Nat
  sum : Binary64
  deriving Repr

namespace DurationHistogram

def bounds : List Binary64 :=
  [.ofDecimal 5 3, .ofDecimal 1 2, .ofDecimal 5 2, .ofDecimal 1 1, .ofDecimal 5 1, .ofNat 1,
    .ofNat 2, .ofNat 5]

def empty : DurationHistogram where
  buckets := bounds.map fun _ => 0
  count := 0
  sum := .ofNat 0

def observe (histogram : DurationHistogram) (seconds : Binary64) : DurationHistogram where
  buckets := List.zipWith
    (fun bound bucket => if seconds.le bound then bucket + 1 else bucket) bounds
    histogram.buckets
  count := histogram.count + 1
  sum := histogram.sum.add seconds

end DurationHistogram

abbrev Durations := Sorted CallStatus DurationHistogram

structure Metrics where
  counts : Sorted SeriesLabel CallCounts
  durations : Sorted SeriesLabel Durations

inductive MetricsEvent
  | call (label : SeriesLabel)
  | success (label : SeriesLabel)
  | error (label : SeriesLabel)
  | duration (label : SeriesLabel) (status : CallStatus) (seconds : Binary64)
  deriving DecidableEq

structure MetricsSeries where
  label : SeriesLabel
  counts : CallCounts
  durations : Durations

namespace Metrics

def empty : Metrics := ⟨[], []⟩

def countsOf (metrics : Metrics) (label : SeriesLabel) : CallCounts :=
  (Sorted.get? label metrics.counts).getD .zero

def durationsOf (metrics : Metrics) (label : SeriesLabel) : Durations :=
  (Sorted.get? label metrics.durations).getD []

/-- Counting for a series that is not there yet starts from zero. -/
def count (metrics : Metrics) (label : SeriesLabel) (step : CallCounts → CallCounts) :
    Metrics :=
  { metrics with counts := Sorted.set label (step (metrics.countsOf label)) metrics.counts }

def observe (metrics : Metrics) (label : SeriesLabel) (status : CallStatus)
    (seconds : Binary64) : Metrics :=
  let durations := metrics.durationsOf label
  let histogram := (Sorted.get? status durations).getD .empty
  { metrics with
    durations :=
      Sorted.set label (Sorted.set status (histogram.observe seconds) durations)
        metrics.durations }

def record (metrics : Metrics) : MetricsEvent → Metrics
  | .call label => metrics.count label fun c => { c with calls := c.calls + 1 }
  | .success label => metrics.count label fun c => { c with successes := c.successes + 1 }
  | .error label => metrics.count label fun c => { c with errors := c.errors + 1 }
  | .duration label status seconds => metrics.observe label status seconds

/-- The series that have counts, in ascending order. -/
def snapshot (metrics : Metrics) : List MetricsSeries :=
  metrics.counts.map fun (label, counts) => ⟨label, counts, metrics.durationsOf label⟩

theorem durationsOf_observe_self (metrics : Metrics) (label : SeriesLabel) (status : CallStatus)
    (seconds : Binary64) :
    (metrics.observe label status seconds).durationsOf label =
      Sorted.set status
        (((Sorted.get? status (metrics.durationsOf label)).getD .empty).observe seconds)
        (metrics.durationsOf label) := by
  simp [observe, durationsOf]

theorem durationsOf_observe_of_ne {label other : SeriesLabel} (hne : other ≠ label)
    (metrics : Metrics) (status : CallStatus) (seconds : Binary64) :
    (metrics.observe label status seconds).durationsOf other = metrics.durationsOf other := by
  rw [durationsOf, durationsOf, observe, Sorted.get?_set_of_ne hne]

end Metrics

end FilterQuery
