import FilterQuery.Proofs.JoinScope
import FilterQuery.Proofs.RelationMentions

/-!
# The plan of a filter

The planner walks a filter once and remembers the joins that it made.  The joins it makes are
therefore the relation steps of the filter in document order, without those that were taken before.
A step that is passed over still leads the walk to what lies below it: the same relation may be
mentioned again with other relations under it.
-/

namespace FilterQuery

theorem Recording.joinRelations_calls (filter : Filter) (tableAlias : String)
    (relations : RelationMap) (recording : Recording) :
    (filter.joinRelations tableAlias relations recording).2.calls =
      recording.calls ++ filter.joinCalls tableAlias relations := by
  rw [filter.joinRelations_eq_replay, Call.replay_recording]

/-- On every builder the planner joins each relation step of the filter once, at its first mention
in document order, calls nothing else and counts the joins.  The steps are the relations that the
filter mentions, whatever the values under them are. -/
theorem joinRelations_joins_first_mentions (filter : Filter) (tableAlias : String)
    (relations : RelationMap) :
    let steps := filter.joinSteps tableAlias relations
    ∃ plan : List (String × String),
      plan.Nodup ∧
      (∀ step, step ∈ plan ↔ step ∈ steps) ∧
      plan.Pairwise (fun step later => steps.idxOf step < steps.idxOf later) ∧
      (∀ step, step ∈ steps ↔
        ∃ path key, filter.Mentions relations path key ∧
          step = mentionStep tableAlias path key) ∧
      (∀ (σ : Type) [QueryBuilder σ] (query : σ),
        filter.joinRelations tableAlias relations query =
          (plan.length, Call.replay (joinCalls plan) query)) ∧
      ∀ recording : Recording,
        (filter.joinRelations tableAlias relations recording).2.calls =
          recording.calls ++ joinCalls plan := by
  intro steps
  refine ⟨newSteps [] steps, nodup_newSteps [] steps, ?_, pairwise_newSteps [] steps, ?_, ?_, ?_⟩
  · intro step
    rw [mem_newSteps]
    exact and_iff_left List.not_mem_nil
  · intro step
    exact filter.mem_joinSteps_iff
  · intro σ _ query
    rw [filter.joinRelations_eq_replay, Filter.joinCalls, joinCalls, List.length_map]
  · intro recording
    exact recording.joinRelations_calls filter tableAlias relations

/-- The author is mentioned twice, the second time with a company below. -/
example :
    (Filter.ofJson (.object [("and", .array [
        .object [("author", .object [("name", .string "Ann")])],
        .object [("author", .object [("company", .ofNat 3)])]])])).joinRelations "post"
      (.ofEntries [("author", .ofEntries [("company", .empty)])]) Recording.empty =
      (2, ⟨[.join "post.author" "author", .join "author.company" "company"]⟩) := by
  rfl

end FilterQuery
