import FilterQuery.Named
import FilterQuery.Text.Alphanumeric
import FilterQuery.Text.Blank

/-!
# Environment variables

A file of variables has lines `NAME=value`.  Values may be quoted, may go on over several lines
inside quotes, and may refer to other variables with `$NAME` or `${NAME}`.  Variables that are set
already keep their values.  Reading stops at the first line that is wrong, and what stands before
it counts.  A value with a zero byte cannot be set at all.
-/

namespace FilterQuery

abbrev Environment := Named String

namespace Environment

/-- What stands behind a name and an equals sign in a variable, which is kept as `NAME=value`.  A
name with an equals sign of its own may so reach into a value. -/
def get? (name : String) (environment : Environment) : Option String :=
  if name.isEmpty then none
  else
    let sought := name.toList ++ ['=']
    environment.findSome? fun (key, value) =>
      let written := key.toList ++ '=' :: value.toList
      if sought.isPrefixOf written then some (String.ofList (written.drop sought.length))
      else none

/-- The home directory that the variables name, or the user's own if they name none. -/
def home (environment : Environment) (own : String) : String :=
  match environment.get? "HOME" with
  | some directory => if directory.isEmpty then own else directory
  | none => own

/-! ## Lines -/

/-- Where in a line a reader is, as far as it matters for the end of the line. -/
inductive LineState
  | plain
  | escaped
  | afterBlank
  | single
  | singleEscaped
  | double
  | doubleEscaped
  deriving DecidableEq

def quoteState : Char → LineState
  | '\\' => .escaped
  | '"' => .double
  | '\'' => .single
  | _ => .plain

/-- The state behind a character.  There is none where a comment begins. -/
def LineState.next? : LineState → Char → Option LineState
  | .afterBlank, c => if c = '#' then none else some (quoteState c)
  | .plain, c =>
      some (if Text.isBlank c && c != '\n' && c != '\r' then .afterBlank else quoteState c)
  | .escaped, _ => some .plain
  | .double, c =>
      some (if c = '\\' then .doubleEscaped else if c = '"' then .plain else .double)
  | .doubleEscaped, _ => some .double
  | .single, c =>
      some (if c = '\\' then .singleEscaped else if c = '\'' then .plain else .single)
  | .singleEscaped, _ => some .single

/-- The part of a line before its comment, and the state at its end if it has no comment. -/
def scanLine : LineState → List Char → List Char × Option LineState
  | state, [] => ([], some state)
  | state, c :: rest =>
      match state.next? c with
      | none => ([], none)
      | some next =>
          let (kept, last) := scanLine next rest
          (c :: kept, last)

def physicalLines : List Char → List (List Char)
  | [] => []
  | c :: rest =>
      if c = '\n' then [c] :: physicalLines rest
      else
        match physicalLines rest with
        | [] => [[c]]
        | line :: lines => (c :: line) :: lines

def dropLineEnd (line : List Char) : List Char :=
  match line.reverse with
  | '\n' :: '\r' :: rest => rest.reverse
  | '\n' :: rest => rest.reverse
  | _ => line

/-- Lines put together where quotes stay open; a line without its end is none. -/
def logicalLines : List (List Char) → LineState → List Char → List (Option (List Char))
  | [], state, _ => if state = .plain then [] else [none]
  | line :: rest, state, before =>
      let whole := before ++ line
      if (whole.dropWhile Text.isBlank).head? == some '#' then
        logicalLines rest .plain []
      else
        match scanLine state line with
        | (kept, none) => some (before ++ kept) :: logicalLines rest .plain []
        | (_, some .plain) => some (dropLineEnd whole) :: logicalLines rest .plain []
        | (_, some state) => logicalLines rest state whole

/-! ## Values -/

inductive Quote
  | bare
  | single
  | double
  deriving DecidableEq

inductive ValueMode
  | literal
  | escaped
  | reference (name : List Char)
  | bracedReference (name : List Char)
  | ended
  | commented

/-- A value as far as it has been read, backwards. -/
structure ValueState where
  quote : Quote
  mode : ValueMode
  output : List Char

def ValueState.push (state : ValueState) (text : List Char) : ValueState :=
  { state with mode := .literal, output := text.reverse ++ state.output }

/-- The state behind a character, if the value may go on with it. -/
def ValueState.next? (lookup : String → String) (state : ValueState) (c : Char) :
    Option ValueState :=
  match state.mode with
  | .commented => some state
  | .ended =>
      if c = ' ' ∨ c = '\t' then some state
      else if c = '#' then some { state with mode := .commented }
      else none
  | .escaped =>
      if c = 'n' then some (state.push ['\n'])
      else if c ∈ ['\\', '\'', '"', '$', ' '] then some (state.push [c])
      else none
  | .reference name =>
      if Text.isAlphanumeric c then some { state with mode := .reference (name ++ [c]) }
      else if c = '\x7b' ∧ name = [] then some { state with mode := .bracedReference [] }
      else
        let replaced := state.push (lookup (String.ofList name)).toList
        if c = '$' then some { replaced with mode := .reference [] }
        else some (replaced.push [c])
  | .bracedReference name =>
      if c = '\x7d' then some (state.push (lookup (String.ofList name)).toList)
      else some { state with mode := .bracedReference (name ++ [c]) }
  | .literal =>
      match state.quote with
      | .single =>
          if c = '\'' then some { state with quote := .bare } else some (state.push [c])
      | .double =>
          if c = '$' then some { state with mode := .reference [] }
          else if c = '"' then some { state with quote := .bare }
          else if c = '\\' then some { state with mode := .escaped }
          else some (state.push [c])
      | .bare =>
          if c = '$' then some { state with mode := .reference [] }
          else if c = '\'' then some { state with quote := .single }
          else if c = '"' then some { state with quote := .double }
          else if c = '\\' then some { state with mode := .escaped }
          else if c = ' ' ∨ c = '\t' then some { state with mode := .ended }
          else some (state.push [c])

def ValueState.finish? (lookup : String → String) (state : ValueState) : Option String :=
  if state.quote ≠ .bare then none
  else
    match state.mode with
    | .bracedReference _ => none
    | .reference name =>
        some (String.ofList state.output.reverse ++ lookup (String.ofList name))
    | _ => some (String.ofList state.output.reverse)

def value? (lookup : String → String) (chars : List Char) : Option String := do
  let state ← chars.foldlM (ValueState.next? lookup) ⟨.bare, .literal, []⟩
  state.finish? lookup

/-! ## Variables -/

def name? : List Char → Option (String × List Char)
  | [] => none
  | c :: rest =>
      if c.isAlpha || c == '_' then
        let isNameChar := fun c : Char => c.isAlphanum || c == '_' || c == '.'
        some (String.ofList (c :: rest.takeWhile isNameChar), rest.dropWhile isNameChar)
      else none

def skipBlanks (chars : List Char) : List Char :=
  chars.dropWhile Text.isBlank

/-- The name of the variable and what follows the equals sign.  A line may begin with `export`. -/
def assignment? (chars : List Char) : Option (String × List Char) := do
  let (name, rest) ← name? chars
  match skipBlanks rest with
  | '=' :: rest => return (name, skipBlanks rest)
  | rest =>
      if name = "export" then
        let (name, rest) ← name? rest
        match skipBlanks rest with
        | '=' :: rest => return (name, skipBlanks rest)
        | _ => none
      else none

inductive LineMeaning
  | nothing
  | variable (name value : String)
  | wrong

def lineMeaning (lookup : String → String) (line : List Char) : LineMeaning :=
  match skipBlanks (Text.dropTrailingBlanks line) with
  | [] | '#' :: _ => .nothing
  | chars =>
      match assignment? chars with
      | none => .wrong
      | some (name, []) | some (name, '#' :: _) => .variable name ""
      | some (name, rest) =>
          match value? lookup rest with
          | some value => .variable name value
          | none => .wrong

/-- References see the variables that are set before those of the file. -/
def reference (environment written : Environment) (name : String) : String :=
  ((environment.get? name).or (Named.get? name written)).getD ""

def add? (name value : String) (environment : Environment) : Option Environment :=
  if (environment.get? name).isSome then some environment
  else if value.toList.contains '\x00' then none
  else some (Named.set name value environment)

def addLines? (environment written : Environment) :
    List (Option (List Char)) → Option Environment
  | [] | none :: _ => some environment
  | some line :: rest =>
      match lineMeaning (reference environment written) line with
      | .wrong => some environment
      | .nothing => addLines? environment written rest
      | .variable name value => do
          addLines? (← environment.add? name value) (Named.set name value written) rest

/-- The environment with the variables of a file, if all of their values can be set. -/
def addFile? (environment : Environment) (text : String) : Option Environment :=
  let chars := match text.toList with
    | '\uFEFF' :: rest => rest
    | chars => chars
  addLines? environment [] (logicalLines (physicalLines chars) .plain [])

end Environment

end FilterQuery
