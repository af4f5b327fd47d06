import FilterQuery.Proofs.SelectCalls
import FilterQuery.Session.Basic

/-!
# Answers of a session

A command is answered by a statement with its parameters or by the relations of an entity.  The
members of a statement have fixed names, and all members of a map of relations are objects, whatever
the relations are called.  No answer can therefore be read as a report of failure.
-/

namespace FilterQuery

/-- The answer to a request whose statement is written as the text. -/
def Select.answer (select : Select) (backend : Backend) (positional : Bool) (text : String) :
    Json :=
  if positional then
    let rendered := PositionalSql.ofNamed backend select.parameters text
    .object [("sql", .string rendered.sql), ("binds", .array rendered.binds)]
  else .object [("sql", .string text), ("parameters", .object select.parameters)]

namespace Session

theorem select_eq (session : Session) (entity : String) (tableAlias : Option String)
    (request : Request) :
    session.select entity tableAlias request =
      .ok (request.apply (tableAlias.getD (defaultAlias entity))
        (session.catalog.relationMap entity)
        (.ofEntity session.catalog entity (tableAlias.getD (defaultAlias entity)))) := rfl

theorem compile_eq_map {session : Session} {entity : String} {tableAlias : Option String}
    {request : Request} {select : Select}
    (hselect : session.select entity tableAlias request = .ok select) (positional : Bool) :
    session.compile entity tableAlias request positional =
      (select.sql session.settings.backend).map
        (select.answer session.settings.backend positional) := by
  unfold compile
  rw [hselect]
  cases positional with
  | true =>
      simp only [bind, Except.bind, if_true, Select.positional]
      cases select.sql session.settings.backend <;> rfl
  | false =>
      simp only [bind, Except.bind, Bool.false_eq_true, if_false]
      cases select.sql session.settings.backend <;> rfl

end Session

/-! ## Answers report no failure -/

theorem Select.isFailure_answer (select : Select) (backend : Backend) (positional : Bool)
    (text : String) :
    ReportsFailure.isFailure (select.answer backend positional text) = false := by
  cases positional <;> rfl

theorem RelationMap.exists_object_of_get? {entries : List (String × RelationMap)} {key : String}
    {value : Json} (hget : Named.get? key (entriesJson entries) = some value) :
    ∃ members, value = .object members := by
  induction entries with
  | nil => cases hget
  | cons entry rest ih =>
      obtain ⟨property, ⟨below⟩⟩ := entry
      simp only [entriesJson, toJson, Named.get?] at hget
      split at hget
      · exact ⟨_, (Option.some.inj hget).symm⟩
      · exact ih hget

theorem RelationMap.isFailure_toJson (map : RelationMap) :
    ReportsFailure.isFailure map.toJson = false := by
  obtain ⟨entries⟩ := map
  simp only [toJson, ReportsFailure.isFailure, Json.member?]
  cases hget : Named.get? "status" (entriesJson entries) with
  | none => rfl
  | some value =>
      obtain ⟨members, rfl⟩ := exists_object_of_get? hget
      rfl

namespace Session

variable {session : Session}

theorem isFailure_compile {entity : String} {tableAlias : Option String} {request : Request}
    {positional : Bool} {answer : Json}
    (hcompile : session.compile entity tableAlias request positional = .ok answer) :
    ReportsFailure.isFailure answer = false := by
  rw [compile_eq_map (session.select_eq entity tableAlias request)] at hcompile
  obtain ⟨text, -, rfl⟩ := exists_of_map_eq_ok hcompile
  exact Select.isFailure_answer _ _ positional text

/-- A compilation that is answered has a request that was read and compiled. -/
theorem exists_compile_of_answer {directories : Directories} {entity : String}
    {tableAlias : Option String} {source : String} {positional : Bool} {request : FileState}
    {result : Json}
    (hanswer : session.answer directories (.compile entity tableAlias source positional) request =
      .ok result) :
    ∃ parsed, Request.ofFile (.ofText directories source) request = .ok parsed ∧
      session.compile entity tableAlias parsed (positional || session.settings.positional) =
        .ok result := by
  simp only [answer, bind, Except.bind] at hanswer
  split at hanswer
  next => cases hanswer
  next parsed hparsed =>
    refine ⟨parsed, hparsed, ?_⟩
    cases hcompile : session.compile entity tableAlias parsed
        (positional || session.settings.positional) with
    | error problem =>
        rw [hcompile] at hanswer
        cases hanswer
    | ok compiled =>
        rw [hcompile] at hanswer
        exact congrArg Except.ok (Except.ok.inj hanswer)

theorem isFailure_answer {directories : Directories} {command : Command} {request : FileState}
    {result : Json} (hanswer : session.answer directories command request = .ok result) :
    ReportsFailure.isFailure result = false := by
  cases command with
  | compile entity tableAlias source positional =>
      obtain ⟨parsed, -, hcompile⟩ := exists_compile_of_answer hanswer
      exact isFailure_compile hcompile
  | relations entity =>
      obtain rfl := Except.ok.inj hanswer
      exact RelationMap.isFailure_toJson _

/-- A command is a success if and only if it is answered. -/
theorem ofResult_answer (session : Session) (directories : Directories) (command : Command)
    (request : FileState) :
    CallStatus.ofResult (session.answer directories command request) =
      if (session.answer directories command request).isOk then .success else .error := by
  cases hanswer : session.answer directories command request with
  | error problem => rfl
  | ok answer =>
      simp only [CallStatus.ofResult, isFailure_answer hanswer]
      rfl

end Session

end FilterQuery
