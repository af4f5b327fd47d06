import FilterQuery.Proofs.SessionAnswers

/-!
# Accounting for commands

A session that keeps metrics tracks every command under the command's own series.  The answer of a
command is read for a report of failure, but no answer has one: the text of a statement stands
under a fixed name, and the relations of an entity have objects under their names, whatever these
are.  So the series of a command count its good answers as successes and its errors as errors, and
keeping metrics changes no answer.
-/

namespace FilterQuery

/-! ## Tracked series -/

namespace CallCounts

/-- The counts after one more call with this outcome. -/
def tally (counts : CallCounts) : CallStatus → CallCounts
  | .success => { counts with calls := counts.calls + 1, successes := counts.successes + 1 }
  | .error => { counts with calls := counts.calls + 1, errors := counts.errors + 1 }

def under (counts : CallCounts) : CallStatus → Nat
  | .success => counts.successes
  | .error => counts.errors

theorem under_tally_self (counts : CallCounts) (status : CallStatus) :
    (counts.tally status).under status = counts.under status + 1 := by
  cases status <;> rfl

theorem under_tally_of_ne {status other : CallStatus} (hne : other ≠ status)
    (counts : CallCounts) : (counts.tally status).under other = counts.under other := by
  cases status <;> cases other <;> first | rfl | exact absurd rfl hne

end CallCounts

namespace Metrics

/-- The number of durations under an outcome, if there is a histogram for it. -/
def observations (metrics : Metrics) (label : SeriesLabel) (status : CallStatus) : Option Nat :=
  (Sorted.get? status (metrics.durationsOf label)).map DurationHistogram.count

/-- There is neither a count nor a duration under the label. -/
def Lacks (metrics : Metrics) (label : SeriesLabel) : Prop :=
  Sorted.get? label metrics.counts = none ∧ Sorted.get? label metrics.durations = none

theorem observations_observe_self (metrics : Metrics) (label : SeriesLabel)
    (status : CallStatus) (seconds : Binary64) :
    (metrics.observe label status seconds).observations label status =
      some ((metrics.observations label status).getD 0 + 1) := by
  rw [observations, durationsOf_observe_self, Sorted.get?_set_self, observations]
  cases Sorted.get? status (metrics.durationsOf label) <;> rfl

theorem observations_observe_of_ne {status other : CallStatus} (hne : other ≠ status)
    (metrics : Metrics) (label : SeriesLabel) (seconds : Binary64) :
    (metrics.observe label status seconds).observations label other =
      metrics.observations label other := by
  rw [observations, durationsOf_observe_self, Sorted.get?_set_of_ne hne, observations]

section Track

variable {ε α : Type} [ReportsFailure α] (metrics : Metrics) (label : SeriesLabel)
  (seconds : Binary64) (result : Except ε α)

theorem countsOf_track_self :
    (metrics.track label seconds result).countsOf label =
      (metrics.countsOf label).tally (CallStatus.ofResult result) := by
  cases hstatus : CallStatus.ofResult result <;>
    simp [track, hstatus, MetricsEvent.ofStatus, record, observe, count, countsOf,
      CallCounts.tally]

/-- The durations of a tracked call are observed on metrics with the durations from before. -/
theorem exists_observe_eq_track :
    ∃ counted : Metrics, counted.durations = metrics.durations ∧
      metrics.track label seconds result =
        counted.observe label (CallStatus.ofResult result) seconds := by
  refine ⟨_, ?_, rfl⟩
  cases CallStatus.ofResult result <;> rfl

theorem observations_track_self :
    (metrics.track label seconds result).observations label (CallStatus.ofResult result) =
      some ((metrics.observations label (CallStatus.ofResult result)).getD 0 + 1) := by
  obtain ⟨counted, hdurations, htrack⟩ := metrics.exists_observe_eq_track label seconds result
  rw [htrack, observations_observe_self]
  simp only [observations, durationsOf, hdurations]

theorem observations_track_of_ne {other : CallStatus} (hne : other ≠ CallStatus.ofResult result) :
    (metrics.track label seconds result).observations label other =
      metrics.observations label other := by
  obtain ⟨counted, hdurations, htrack⟩ := metrics.exists_observe_eq_track label seconds result
  rw [htrack, observations_observe_of_ne hne]
  simp only [observations, durationsOf, hdurations]

/-- Tracking a call leaves the series of other labels alone. -/
theorem get?_track_of_ne {other : SeriesLabel} (hne : other ≠ label) :
    Sorted.get? other (metrics.track label seconds result).counts =
        Sorted.get? other metrics.counts ∧
      Sorted.get? other (metrics.track label seconds result).durations =
        Sorted.get? other metrics.durations := by
  cases hstatus : CallStatus.ofResult result <;>
    simp [track, hstatus, MetricsEvent.ofStatus, record, observe, count,
      Sorted.get?_set_of_ne hne]

end Track

/-! ## Series that account for answers -/

/-- The series of the label count the answers, and the good ones and the errors among them.  An
outcome has a histogram of as many durations as there are answers with it, and none if there are
none. -/
structure AccountsFor (metrics : Metrics) (label : SeriesLabel)
    (answers : List (Except SessionError Json)) : Prop where
  counts : metrics.countsOf label =
    ⟨answers.length, answers.countP (·.isOk), answers.countP (!·.isOk)⟩
  total : (metrics.countsOf label).calls =
    (metrics.countsOf label).successes + (metrics.countsOf label).errors
  durations : ∀ status, metrics.observations label status =
    if (metrics.countsOf label).under status = 0 then none
    else some ((metrics.countsOf label).under status)

namespace AccountsFor

variable {metrics : Metrics} {label other : SeriesLabel}
  {answers : List (Except SessionError Json)} {answer : Except SessionError Json}

theorem empty (label : SeriesLabel) : Metrics.empty.AccountsFor label [] where
  counts := rfl
  total := rfl
  durations status := by cases status <;> rfl

theorem track (haccounts : metrics.AccountsFor label answers)
    (hstatus : CallStatus.ofResult answer = if answer.isOk then .success else .error)
    (seconds : Binary64) :
    (metrics.track label seconds answer).AccountsFor label (answers ++ [answer]) := by
  have hcounts := metrics.countsOf_track_self label seconds answer
  constructor
  · rw [hcounts, hstatus, haccounts.counts]
    cases hok : answer.isOk <;> simp [CallCounts.tally, hok]
  · have htotal := haccounts.total
    rw [hcounts]
    cases CallStatus.ofResult answer <;> simp only [CallCounts.tally] <;> omega
  · intro status
    rw [hcounts]
    by_cases heq : status = CallStatus.ofResult answer
    · rw [heq, metrics.observations_track_self, haccounts.durations,
        CallCounts.under_tally_self, if_neg (Nat.succ_ne_zero _)]
      split <;> simp_all
    · rw [metrics.observations_track_of_ne label seconds answer heq,
        CallCounts.under_tally_of_ne heq]
      exact haccounts.durations status

theorem track_of_ne (haccounts : metrics.AccountsFor other answers) (hne : other ≠ label)
    (seconds : Binary64) (result : Except SessionError Json) :
    (metrics.track label seconds result).AccountsFor other answers := by
  obtain ⟨hcounts, hdurations⟩ := metrics.get?_track_of_ne label seconds result hne
  have hsame : (metrics.track label seconds result).countsOf other = metrics.countsOf other := by
    rw [countsOf, countsOf, hcounts]
  have hobserved (status : CallStatus) :
      (metrics.track label seconds result).observations other status =
        metrics.observations other status := by
    rw [observations, observations, durationsOf, durationsOf, hdurations]
  constructor
  · rw [hsame, haccounts.counts]
  · rw [hsame, haccounts.total]
  · intro status
    rw [hsame, hobserved, haccounts.durations]

end AccountsFor

theorem Lacks.track_of_ne {metrics : Metrics} {label other : SeriesLabel}
    (hlacks : metrics.Lacks other) (hne : other ≠ label) (seconds : Binary64)
    (result : Except SessionError Json) : (metrics.track label seconds result).Lacks other := by
  obtain ⟨hcounts, hdurations⟩ := metrics.get?_track_of_ne label seconds result hne
  exact ⟨hcounts.trans hlacks.1, hdurations.trans hlacks.2⟩

end Metrics

/-! ## Logs of commands -/

def Command.isCompile : Command → Bool
  | .compile .. => true
  | .relations _ => false

def Command.isRelations : Command → Bool
  | .compile .. => false
  | .relations _ => true

/-- Commands with their answers, in the order in which they were performed. -/
abbrev CommandLog := List (Command × Except SessionError Json)

namespace CommandLog

/-- The answers to the commands of a kind. -/
def answersTo (log : CommandLog) (kind : Command → Bool) : List (Except SessionError Json) :=
  (log.filter (kind ·.1)).map Prod.snd

theorem answersTo_append (log : CommandLog) (kind : Command → Bool) (command : Command)
    (answer : Except SessionError Json) :
    answersTo (log ++ [(command, answer)]) kind =
      log.answersTo kind ++ if kind command then [answer] else [] := by
  rw [answersTo, answersTo, List.filter_append, List.map_append]
  cases hkind : kind command <;> simp [hkind]

end CommandLog

/-- Each kind of command has a series that accounts for its answers, and there is no other
series. -/
structure Metrics.Accounts (metrics : Metrics) (log : CommandLog) : Prop where
  compiles : metrics.AccountsFor ⟨"compile", .query⟩ (log.answersTo Command.isCompile)
  relations : metrics.AccountsFor ⟨"relations", .query⟩ (log.answersTo Command.isRelations)
  others : ∀ label, label ≠ ⟨"compile", .query⟩ → label ≠ ⟨"relations", .query⟩ →
    metrics.Lacks label

namespace Metrics.Accounts

theorem empty : Metrics.empty.Accounts [] where
  compiles := .empty _
  relations := .empty _
  others _ _ _ := ⟨rfl, rfl⟩

theorem track {metrics : Metrics} {log : CommandLog} {command : Command}
    {answer : Except SessionError Json} (haccounts : metrics.Accounts log)
    (hstatus : CallStatus.ofResult answer = if answer.isOk then .success else .error)
    (seconds : Binary64) :
    (metrics.track command.label seconds answer).Accounts (log ++ [(command, answer)]) := by
  have hne : (⟨"compile", .query⟩ : SeriesLabel) ≠ ⟨"relations", .query⟩ := by decide
  cases command with
  | compile entity tableAlias source positional =>
      constructor
      · rw [CommandLog.answersTo_append]
        exact haccounts.compiles.track hstatus seconds
      · rw [CommandLog.answersTo_append, Command.isRelations, if_neg Bool.false_ne_true,
          List.append_nil]
        exact haccounts.relations.track_of_ne hne.symm seconds answer
      · intro label hcompile hrelations
        exact (haccounts.others label hcompile hrelations).track_of_ne hcompile seconds answer
  | relations entity =>
      constructor
      · rw [CommandLog.answersTo_append, Command.isCompile, if_neg Bool.false_ne_true,
          List.append_nil]
        exact haccounts.compiles.track_of_ne hne seconds answer
      · rw [CommandLog.answersTo_append]
        exact haccounts.relations.track hstatus seconds
      · intro label hcompile hrelations
        exact (haccounts.others label hcompile hrelations).track_of_ne hrelations seconds answer

end Metrics.Accounts

/-! ## Runs of a session -/

/-- A command with what is found at the source of its request and the time it takes. -/
structure Execution where
  command : Command
  request : FileState
  seconds : Binary64

namespace Session

variable {session : Session} {directories : Directories} {metrics : Metrics} {log : CommandLog}

/-- Performs commands one after another, for their answers and the session at the end. -/
def performAll (directories : Directories) :
    Session → List Execution → List (Except SessionError Json) × Session
  | session, [] => ([], session)
  | session, execution :: rest =>
      let (answer, next) :=
        session.perform directories execution.command execution.request execution.seconds
      let (answers, last) := performAll directories next rest
      (answer :: answers, last)

theorem answer_record (session : Session) (tracked : Command)
    (result : Except SessionError Json) (seconds : Binary64) (directories : Directories)
    (command : Command) (request : FileState) :
    (session.record tracked result seconds).answer directories command request =
      session.answer directories command request := rfl

/-- The answers of a run are those of its first session. -/
theorem answers_performAll (session : Session) (directories : Directories)
    (executions : List Execution) :
    (performAll directories session executions).1 =
      executions.map fun execution =>
        session.answer directories execution.command execution.request := by
  induction executions generalizing session with
  | nil => rfl
  | cons execution rest ih =>
      rw [List.map_cons, performAll]
      simp only [perform, ih, answer_record]

theorem accounts_performAll (hmetrics : session.metrics = some metrics)
    (haccounts : metrics.Accounts log) (executions : List Execution) :
    ∃ last, (performAll directories session executions).2.metrics = some last ∧
      last.Accounts (log ++ executions.map fun execution => (execution.command,
        session.answer directories execution.command execution.request)) := by
  -- The log grows with every command, so the invariant is about any log and the session behind it.
  induction executions generalizing session metrics log with
  | nil => exact ⟨metrics, hmetrics, by rwa [List.map_nil, List.append_nil]⟩
  | cons execution rest ih =>
      have hstatus := session.ofResult_answer directories execution.command execution.request
      have hnext : (session.record execution.command
          (session.answer directories execution.command execution.request)
          execution.seconds).metrics = some (metrics.track execution.command.label
            execution.seconds
            (session.answer directories execution.command execution.request)) := by
        rw [record, hmetrics]
        rfl
      obtain ⟨last, hlast, hall⟩ := ih hnext (haccounts.track hstatus execution.seconds)
      refine ⟨last, hlast, ?_⟩
      rw [List.map_cons, ← List.singleton_append, ← List.append_assoc]
      exact hall

end Session

/-- With metrics a session gives the same answers as without, and after every command of a run the
metrics account for the commands so far. -/
theorem performAll_accounts (settings : Settings) (catalog : Catalog) (directories : Directories)
    (executions : List Execution) :
    let tracking := Session.start { settings with metrics := true } catalog
    let silent := Session.start { settings with metrics := false } catalog
    let answers := (tracking.performAll directories executions).1
    answers = (silent.performAll directories executions).1 ∧
      ∀ count, ∃ metrics,
        (tracking.performAll directories (executions.take count)).2.metrics = some metrics ∧
          metrics.Accounts (((executions.map Execution.command).zip answers).take count) := by
  intro tracking silent answers
  have hanswers : answers = executions.map fun execution =>
      tracking.answer directories execution.command execution.request :=
    tracking.answers_performAll directories executions
  refine ⟨?_, fun count => ?_⟩
  · rw [hanswers, silent.answers_performAll]
    rfl
  · have hlog : (((executions.map Execution.command).zip answers).take count) =
        (executions.take count).map fun execution => (execution.command,
          tracking.answer directories execution.command execution.request) := by
      rw [hanswers, List.zip_map', List.map_take]
    rw [hlog]
    exact tracking.accounts_performAll rfl .empty (executions.take count)

end FilterQuery
