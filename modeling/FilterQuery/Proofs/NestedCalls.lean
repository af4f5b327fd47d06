import FilterQuery.Filter.Join
import FilterQuery.Filter.Where
import Mathlib.Data.List.Chain

/-!
# Nested calls

The compiler and the planner call themselves for the branches of combinators and for the filters of
relations.  This file says which calls a call makes, and bounds how many can be open at one time by
the depth of the filter.  That these are the calls of the compiler and of the planner is shown by
running both on a stack with a limited number of frames: they come to their result just where every
chain of calls fits in the stack.
-/

namespace FilterQuery

/-- A call for a filter, with the alias and the relation map that the filter is read with. -/
structure FilterCall where
  tableAlias : String
  relations : RelationMap
  filter : Filter

namespace FilterCall

/-- The calls that an entry leads to: one for each branch of a combinator, and one for the filter of
a relation. -/
inductive EntryMakes (tableAlias : String) (relations : RelationMap) :
    String × FilterValue → FilterCall → Prop
  | branch {key : String} {combinator : Combinator} {branches : List Filter} {branch : Filter}
      (hbranch : branch ∈ branches) :
      EntryMakes tableAlias relations (key, .combinator combinator branches)
        ⟨tableAlias, relations, branch⟩
  | relation {key : String} {nested : Filter} {members : List (String × Json)}
      {inner : RelationMap} (hrelation : relations.get? key = some inner) :
      EntryMakes tableAlias relations (key, .mapping nested members) ⟨key, inner, nested⟩

def Makes (call callee : FilterCall) : Prop :=
  ∃ entry ∈ call.filter.entries, EntryMakes call.tableAlias call.relations entry callee

/-- No chain that starts with the call, and in which each call is made by the one before it, has
more calls than there are frames. -/
def FitsIn (call : FilterCall) (frames : Nat) : Prop :=
  ∀ chain, List.IsChain Makes (call :: chain) → (call :: chain).length ≤ frames

theorem not_fitsIn_zero (call : FilterCall) : ¬ call.FitsIn 0 := by
  intro hfits
  have hlength := hfits [] (.singleton call)
  simp at hlength

theorem fitsIn_succ_iff {call : FilterCall} {frames : Nat} :
    call.FitsIn (frames + 1) ↔ ∀ callee, call.Makes callee → callee.FitsIn frames := by
  constructor
  · intro hfits callee hmakes chain hchain
    have hlength := hfits (callee :: chain) (.cons_cons hmakes hchain)
    rw [List.length_cons] at hlength
    omega
  · intro hcallees chain hchain
    cases chain with
    | nil => simp
    | cons callee rest =>
        obtain ⟨hmakes, hrest⟩ := List.isChain_cons_cons.mp hchain
        have hlength := hcallees callee hmakes rest hrest
        rw [List.length_cons]
        omega

/-! ## Depth -/

theorem depth_le_of_mem_branches {branch : Filter} {branches : List Filter}
    (hmem : branch ∈ branches) : branch.depth ≤ Filter.depthOfBranches branches := by
  induction branches with
  | nil => exact absurd hmem List.not_mem_nil
  | cons first rest ih =>
      rw [Filter.depthOfBranches]
      rcases List.mem_cons.mp hmem with rfl | hrest
      · exact Nat.le_max_left _ _
      · exact Nat.le_trans (ih hrest) (Nat.le_max_right _ _)

theorem depth_le_of_mem_entries {entry : String × FilterValue}
    {entries : List (String × FilterValue)} (hmem : entry ∈ entries) :
    entry.2.depth ≤ Filter.depthOfEntries entries := by
  induction entries with
  | nil => exact absurd hmem List.not_mem_nil
  | cons first rest ih =>
      obtain ⟨key, value⟩ := first
      rw [Filter.depthOfEntries]
      rcases List.mem_cons.mp hmem with rfl | hrest
      · exact Nat.le_max_left _ _
      · exact Nat.le_trans (ih hrest) (Nat.le_max_right _ _)

theorem EntryMakes.depth_le {tableAlias : String} {relations : RelationMap}
    {entry : String × FilterValue} {callee : FilterCall}
    (hmakes : EntryMakes tableAlias relations entry callee) :
    callee.filter.depth ≤ entry.2.depth := by
  cases hmakes with
  | branch hbranch =>
      rw [FilterValue.depth]
      exact depth_le_of_mem_branches hbranch
  | relation _ =>
      rw [FilterValue.depth]

theorem Makes.depth_lt {call callee : FilterCall} (hmakes : call.Makes callee) :
    callee.filter.depth < call.filter.depth := by
  obtain ⟨tableAlias, relations, ⟨entries⟩⟩ := call
  obtain ⟨entry, hentry, hcallee⟩ := hmakes
  have hvalue := hcallee.depth_le
  have hentries := depth_le_of_mem_entries hentry
  simp only [Filter.entries] at hentries
  rw [Filter.depth]
  omega

/-- Every call in a chain goes down by a level at least. -/
theorem fitsIn_of_depth_le {call : FilterCall} {frames : Nat}
    (hdepth : call.filter.depth ≤ frames) : call.FitsIn frames := by
  induction frames generalizing call with
  | zero =>
      obtain ⟨tableAlias, relations, ⟨entries⟩⟩ := call
      rw [Filter.depth] at hdepth
      omega
  | succ frames ih =>
      rw [fitsIn_succ_iff]
      intro callee hmakes
      have hlt := hmakes.depth_lt
      apply ih
      omega

/-! ## The compiler on a limited stack -/

/-- The function has an answer for the call, from some state on. -/
def Answers {σ ρ : Type} (recur : FilterCall → σ → Option ρ) (call : FilterCall) : Prop :=
  ∃ before after, recur call before = some after

section Compiler

variable (recur : FilterCall → Nat → Option Compiled) (tableAlias : String)
  (relations : RelationMap)

def compileBranchesWith : List Filter → Nat → Option CompiledBranches
  | [], next => some ⟨[], [], next⟩
  | branch :: rest, next => do
      let first ← recur ⟨tableAlias, relations, branch⟩ next
      let others ← compileBranchesWith rest first.next
      return {
        clauses := if first.clause.isEmpty then others.clauses
          else first.clause :: others.clauses
        parameters := Named.extend first.parameters others.parameters
        next := others.next }

def compileEntryWith : String × FilterValue → Nat → Option Compiled
  | (_, .combinator combinator branches), next => do
      let compiled ← compileBranchesWith recur tableAlias relations branches next
      return .combined combinator compiled
  | (key, .mapping nested members), next =>
      match relations.get? key with
      | some inner => do
          let compiled ← recur ⟨key, inner, nested⟩ next
          return .enclosed compiled
      | none => return compileOperators ⟨tableAlias, key⟩ members next
  | (key, .sequence items), next =>
      return (FilterValue.sequence items).compile tableAlias relations key next
  | (key, .scalar value), next =>
      return (FilterValue.scalar value).compile tableAlias relations key next

def compileEntriesWith : List (String × FilterValue) → Nat → Option Compiled
  | [], next => some (.nothing next)
  | entry :: rest, next => do
      let first ← compileEntryWith recur tableAlias relations entry next
      let others ← compileEntriesWith rest first.next
      return first.followedBy fun _ => others

/-- The compiler with one frame for every call that is open.  Without a frame there is no answer. -/
def compileWithin : Nat → FilterCall → Nat → Option Compiled
  | 0, _, _ => none
  | frames + 1, call, next =>
      compileEntriesWith (compileWithin frames) call.tableAlias call.relations
        call.filter.entries next

end Compiler

section Compiler

variable {recur : FilterCall → Nat → Option Compiled} {tableAlias : String}
  {relations : RelationMap}

/-- The function compiles the filter of the call, from every number on. -/
def Compiles (recur : FilterCall → Nat → Option Compiled) (call : FilterCall) : Prop :=
  ∀ next, recur call next = some (call.filter.compile call.tableAlias call.relations next)

theorem compileBranchesWith_eq {branches : List Filter}
    (hcalls : ∀ branch ∈ branches, Compiles recur ⟨tableAlias, relations, branch⟩) (next : Nat) :
    compileBranchesWith recur tableAlias relations branches next =
      some (compileBranches tableAlias relations branches next) := by
  induction branches generalizing next with
  | nil => rfl
  | cons branch rest ih =>
      obtain ⟨hfirst, hrest⟩ := List.forall_mem_cons.mp hcalls
      rw [compileBranchesWith, hfirst next, compileBranches]
      simp only [Option.bind_eq_bind, Option.bind_some, ih hrest]
      rfl

theorem compileEntryWith_eq {entry : String × FilterValue}
    (hcalls : ∀ callee, EntryMakes tableAlias relations entry callee → Compiles recur callee)
    (next : Nat) :
    compileEntryWith recur tableAlias relations entry next =
      some (entry.2.compile tableAlias relations entry.1 next) := by
  obtain ⟨key, value⟩ := entry
  cases value with
  | combinator combinator branches =>
      have hbranches := compileBranchesWith_eq
        (fun branch hbranch => hcalls _ (.branch hbranch)) next
      rw [compileEntryWith, hbranches, FilterValue.compile]
      rfl
  | mapping nested members =>
      rw [compileEntryWith, FilterValue.compile]
      cases hrelation : relations.get? key with
      | none => rfl
      | some inner =>
          simp only [hcalls _ (.relation hrelation) next]
          rfl
  | sequence items => rfl
  | scalar value => rfl

theorem compileEntriesWith_eq {entries : List (String × FilterValue)}
    (hcalls : ∀ entry ∈ entries, ∀ callee, EntryMakes tableAlias relations entry callee →
      Compiles recur callee) (next : Nat) :
    compileEntriesWith recur tableAlias relations entries next =
      some (compileEntries tableAlias relations entries next) := by
  induction entries generalizing next with
  | nil => rfl
  | cons entry rest ih =>
      obtain ⟨hfirst, hrest⟩ := List.forall_mem_cons.mp hcalls
      rw [compileEntriesWith, compileEntryWith_eq hfirst, compileEntries]
      simp only [Option.bind_eq_bind, Option.bind_some, ih hrest]
      rfl

theorem answers_of_compileBranchesWith {branches : List Filter} {next : Nat}
    {compiled : CompiledBranches}
    (hanswer : compileBranchesWith recur tableAlias relations branches next = some compiled) :
    ∀ branch ∈ branches, Answers recur ⟨tableAlias, relations, branch⟩ := by
  induction branches generalizing next compiled with
  | nil => simp
  | cons branch rest ih =>
      rw [compileBranchesWith] at hanswer
      simp only [Option.bind_eq_bind, Option.bind_eq_some_iff] at hanswer
      obtain ⟨first, hfirst, others, hothers, -⟩ := hanswer
      exact List.forall_mem_cons.mpr ⟨⟨next, first, hfirst⟩, ih hothers⟩

theorem answers_of_compileEntryWith {entry : String × FilterValue} {next : Nat}
    {compiled : Compiled}
    (hanswer : compileEntryWith recur tableAlias relations entry next = some compiled)
    {callee : FilterCall} (hmakes : EntryMakes tableAlias relations entry callee) :
    Answers recur callee := by
  cases hmakes with
  | branch hbranch =>
      rw [compileEntryWith] at hanswer
      simp only [Option.bind_eq_bind, Option.bind_eq_some_iff] at hanswer
      obtain ⟨branches, hbranches, -⟩ := hanswer
      exact answers_of_compileBranchesWith hbranches _ hbranch
  | relation hrelation =>
      rw [compileEntryWith, hrelation] at hanswer
      simp only [Option.bind_eq_bind, Option.bind_eq_some_iff] at hanswer
      obtain ⟨inner, hinner, -⟩ := hanswer
      exact ⟨next, inner, hinner⟩

theorem answers_of_compileEntriesWith {entries : List (String × FilterValue)} {next : Nat}
    {compiled : Compiled}
    (hanswer : compileEntriesWith recur tableAlias relations entries next = some compiled) :
    ∀ entry ∈ entries, ∀ callee, EntryMakes tableAlias relations entry callee →
      Answers recur callee := by
  induction entries generalizing next compiled with
  | nil => simp
  | cons entry rest ih =>
      rw [compileEntriesWith] at hanswer
      simp only [Option.bind_eq_bind, Option.bind_eq_some_iff] at hanswer
      obtain ⟨first, hfirst, others, hothers, -⟩ := hanswer
      exact List.forall_mem_cons.mpr
        ⟨fun _ hmakes => answers_of_compileEntryWith hfirst hmakes, ih hothers⟩

end Compiler

theorem compileWithin_eq {call : FilterCall} {frames : Nat} (hfits : call.FitsIn frames) :
    Compiles (compileWithin frames) call := by
  induction frames generalizing call with
  | zero => exact absurd hfits call.not_fitsIn_zero
  | succ frames ih =>
      intro next
      obtain ⟨tableAlias, relations, ⟨entries⟩⟩ := call
      have hcallees := fitsIn_succ_iff.mp hfits
      rw [compileWithin, Filter.compile]
      apply compileEntriesWith_eq
      intro entry hentry callee hmakes
      exact ih (hcallees callee ⟨entry, hentry, hmakes⟩)

theorem fitsIn_of_answers_compileWithin {call : FilterCall} {frames : Nat}
    (hanswers : Answers (compileWithin frames) call) : call.FitsIn frames := by
  obtain ⟨next, compiled, hcompiled⟩ := hanswers
  induction frames generalizing call next compiled with
  | zero => cases hcompiled
  | succ frames ih =>
      rw [fitsIn_succ_iff]
      rintro callee ⟨entry, hentry, hmakes⟩
      rw [compileWithin] at hcompiled
      obtain ⟨before, after, hcallee⟩ :=
        answers_of_compileEntriesWith hcompiled entry hentry callee hmakes
      exact ih before after hcallee

/-- The compiler needs as many frames as its longest chain of calls has calls. -/
theorem compiles_within_iff {call : FilterCall} {frames : Nat} :
    Compiles (compileWithin frames) call ↔ call.FitsIn frames :=
  ⟨fun hcompiles => fitsIn_of_answers_compileWithin ⟨0, _, hcompiles 0⟩, compileWithin_eq⟩

/-! ## The planner on a limited stack -/

theorem foldlM_eq_some {α σ : Type} {step : σ → α → Option σ} {next : σ → α → σ} {items : List α}
    (hstep : ∀ item ∈ items, ∀ state, step state item = some (next state item)) (state : σ) :
    items.foldlM step state = some (items.foldl next state) := by
  induction items generalizing state with
  | nil => rfl
  | cons item rest ih =>
      obtain ⟨hfirst, hrest⟩ := List.forall_mem_cons.mp hstep
      rw [List.foldlM_cons, hfirst, List.foldl_cons]
      exact ih hrest _

theorem exists_step_of_foldlM {α σ : Type} {step : σ → α → Option σ} {items : List α}
    {state result : σ} (hresult : items.foldlM step state = some result) :
    ∀ item ∈ items, ∃ before after, step before item = some after := by
  induction items generalizing state with
  | nil => simp
  | cons item rest ih =>
      rw [List.foldlM_cons, Option.bind_eq_bind, Option.bind_eq_some_iff] at hresult
      obtain ⟨after, hfirst, hrest⟩ := hresult
      exact List.forall_mem_cons.mpr ⟨⟨state, after, hfirst⟩, ih hrest⟩

section Planner

variable {σ : Type} [QueryBuilder σ]

def planEntryWith (recur : FilterCall → JoinPlan σ → Option (JoinPlan σ)) (tableAlias : String)
    (relations : RelationMap) (plan : JoinPlan σ) : String × FilterValue → Option (JoinPlan σ)
  | (_, .combinator _ branches) =>
      branches.foldlM (fun plan branch => recur ⟨tableAlias, relations, branch⟩ plan) plan
  | (key, .mapping nested _) =>
      match relations.get? key with
      | some inner => recur ⟨key, inner, nested⟩ (plan.register tableAlias key)
      | none => some plan
  | (key, .sequence items) =>
      some ((FilterValue.sequence items).planJoins tableAlias relations key plan)
  | (key, .scalar value) =>
      some ((FilterValue.scalar value).planJoins tableAlias relations key plan)

/-- The planner with one frame for every call that is open.  Without a frame there is no plan. -/
def planWithin : Nat → FilterCall → JoinPlan σ → Option (JoinPlan σ)
  | 0, _, _ => none
  | frames + 1, call, plan =>
      call.filter.entries.foldlM
        (planEntryWith (planWithin frames) call.tableAlias call.relations) plan

/-- The function plans the joins of the call's filter, behind every plan. -/
def Plans (recur : FilterCall → JoinPlan σ → Option (JoinPlan σ)) (call : FilterCall) : Prop :=
  ∀ plan, recur call plan = some (call.filter.planJoins call.tableAlias call.relations plan)

variable {recur : FilterCall → JoinPlan σ → Option (JoinPlan σ)} {tableAlias : String}
  {relations : RelationMap}

theorem planBranches_eq_foldl_planJoins (tableAlias : String) (relations : RelationMap)
    (branches : List Filter) (plan : JoinPlan σ) :
    planBranches tableAlias relations branches plan =
      branches.foldl (fun plan branch => branch.planJoins tableAlias relations plan) plan := by
  induction branches generalizing plan with
  | nil => rfl
  | cons branch rest ih => rw [planBranches, ih, List.foldl_cons]

theorem planEntries_eq_foldl_planJoins (tableAlias : String) (relations : RelationMap)
    (entries : List (String × FilterValue)) (plan : JoinPlan σ) :
    planEntries tableAlias relations entries plan =
      entries.foldl (fun plan entry => entry.2.planJoins tableAlias relations entry.1 plan)
        plan := by
  induction entries generalizing plan with
  | nil => rfl
  | cons entry rest ih => rw [planEntries, ih, List.foldl_cons]

theorem planEntryWith_eq {entry : String × FilterValue}
    (hcalls : ∀ callee, EntryMakes tableAlias relations entry callee → Plans recur callee)
    (plan : JoinPlan σ) :
    planEntryWith recur tableAlias relations plan entry =
      some (entry.2.planJoins tableAlias relations entry.1 plan) := by
  obtain ⟨key, value⟩ := entry
  cases value with
  | combinator combinator branches =>
      rw [planEntryWith, FilterValue.planJoins, planBranches_eq_foldl_planJoins]
      exact foldlM_eq_some (fun branch hbranch => hcalls _ (.branch hbranch)) plan
  | mapping nested members =>
      rw [planEntryWith, FilterValue.planJoins]
      cases hrelation : relations.get? key with
      | none => rfl
      | some inner => exact hcalls _ (.relation hrelation) _
  | sequence items => rfl
  | scalar value => rfl

theorem answers_of_planEntryWith {entry : String × FilterValue} {plan result : JoinPlan σ}
    (hanswer : planEntryWith recur tableAlias relations plan entry = some result)
    {callee : FilterCall} (hmakes : EntryMakes tableAlias relations entry callee) :
    Answers recur callee := by
  cases hmakes with
  | branch hbranch =>
      rw [planEntryWith] at hanswer
      exact exists_step_of_foldlM hanswer _ hbranch
  | relation hrelation =>
      rw [planEntryWith, hrelation] at hanswer
      exact ⟨_, result, hanswer⟩

theorem planWithin_eq {call : FilterCall} {frames : Nat} (hfits : call.FitsIn frames) :
    Plans (σ := σ) (planWithin frames) call := by
  induction frames generalizing call with
  | zero => exact absurd hfits call.not_fitsIn_zero
  | succ frames ih =>
      intro plan
      obtain ⟨tableAlias, relations, ⟨entries⟩⟩ := call
      have hcallees := fitsIn_succ_iff.mp hfits
      rw [planWithin, Filter.planJoins, planEntries_eq_foldl_planJoins]
      apply foldlM_eq_some
      intro entry hentry plan
      apply planEntryWith_eq
      intro callee hmakes
      exact ih (hcallees callee ⟨entry, hentry, hmakes⟩)

theorem fitsIn_of_answers_planWithin {call : FilterCall} {frames : Nat}
    (hanswers : Answers (planWithin (σ := σ) frames) call) : call.FitsIn frames := by
  obtain ⟨plan, result, hresult⟩ := hanswers
  induction frames generalizing call plan result with
  | zero => cases hresult
  | succ frames ih =>
      rw [fitsIn_succ_iff]
      rintro callee ⟨entry, hentry, hmakes⟩
      rw [planWithin] at hresult
      obtain ⟨before, after, hentry⟩ := exists_step_of_foldlM hresult entry hentry
      obtain ⟨before, after, hcallee⟩ := answers_of_planEntryWith hentry hmakes
      exact ih before after hcallee

/-- The planner needs as many frames as its longest chain of calls has calls. -/
theorem plans_within_iff [Nonempty σ] {call : FilterCall} {frames : Nat} :
    Plans (σ := σ) (planWithin frames) call ↔ call.FitsIn frames := by
  constructor
  · intro hplans
    obtain ⟨query⟩ := ‹Nonempty σ›
    exact fitsIn_of_answers_planWithin ⟨⟨[], query⟩, _, hplans ⟨[], query⟩⟩
  · exact planWithin_eq

end Planner

end FilterCall

end FilterQuery
