import FilterQuery.Metrics.Basic
import FilterQuery.Response

/-!
# Tracking calls

A tracked call is counted, its result is counted as a success or an error, and its duration is
recorded under that outcome.  An error is either a failed call or a result that reports a failure.
-/

namespace FilterQuery

/-- Results that can report a failure without being an error. -/
class ReportsFailure (α : Type) where
  isFailure : α → Bool

instance : ReportsFailure Unit := ⟨fun _ => false⟩

instance : ReportsFailure Response := ⟨fun response => response.status == .error⟩

/-- The member `status` of a result reports a failure. -/
instance : ReportsFailure Json where
  isFailure result :=
    match result.member? "status" with
    | some (.string status) => status == "error"
    | _ => false

def CallStatus.ofResult {ε α : Type} [ReportsFailure α] : Except ε α → CallStatus
  | .ok value => if ReportsFailure.isFailure value then .error else .success
  | .error _ => .error

def MetricsEvent.ofStatus (label : SeriesLabel) : CallStatus → MetricsEvent
  | .success => .success label
  | .error => .error label

namespace Metrics

def track {ε α : Type} [ReportsFailure α] (metrics : Metrics) (label : SeriesLabel)
    (seconds : Binary64) (result : Except ε α) : Metrics :=
  let status := CallStatus.ofResult result
  ((metrics.record (.call label)).record (.ofStatus label status)).record
    (.duration label status seconds)

end Metrics

end FilterQuery
