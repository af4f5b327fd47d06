import FilterQuery.CommandLine.Options

/-!
# Arguments

The arguments of one level are read from left to right.  An option that waits for its value takes
the next argument, unless that looks like an option itself.  A value is checked when the next option
begins or the level ends, so a wrong argument in between is found first.
-/

namespace FilterQuery

inductive Argument
  /-- Two hyphens, behind which nothing is an option. -/
  | separator
  | long (name : String) (value : Option String)
  /-- A hyphen and letters. -/
  | cluster (letters : List Char)
  | plain
  deriving DecidableEq, Repr

def splitAssignment : List Char → List Char × Option (List Char)
  | [] => ([], none)
  | c :: rest =>
      if c = '=' then ([], some rest)
      else
        let (name, value) := splitAssignment rest
        (c :: name, value)

def Argument.ofText (text : String) : Argument :=
  match text.toList with
  | ['-', '-'] => .separator
  | '-' :: '-' :: rest =>
      let (name, value) := splitAssignment rest
      .long (String.ofList name) (value.map String.ofList)
  | ['-'] => .plain
  | '-' :: letters => .cluster letters
  | _ => .plain

/-- What has been read of a level.  The last option is kept with its text until it is checked. -/
structure ArgumentState where
  options : Options
  pending : Option (ValueOption × Option String)
  deriving DecidableEq, Repr

namespace ArgumentState

def initial : ArgumentState := ⟨.empty, none⟩

def isWaiting (state : ArgumentState) : Bool :=
  match state.pending with
  | some (_, none) => true
  | _ => false

def settle (state : ArgumentState) : Except UsageError ArgumentState :=
  match state.pending with
  | none => .ok state
  | some (_, none) => .error .missingValue
  | some (option, some text) => do
      return { options := ← state.options.give option text, pending := none }

def meet (state : ArgumentState) (option : OptionName) (attached : Option String) :
    Except UsageError ArgumentState := do
  match option, attached with
  | .value option, some text =>
      let state ← state.settle
      return { state with options := ← state.options.give option text }
  | .value option, none =>
      let state ← state.settle
      return { state with pending := some (option, none) }
  | _, some _ => .error .unwantedValue
  | .positional, none =>
      let state ← state.settle
      if state.options.positional then .error .repeated
      else return { state with options := { state.options with positional := true } }
  | .help, none =>
      let _ ← state.settle
      .error .help
  | .version, none =>
      let _ ← state.settle
      .error .version

def readLong (state : ArgumentState) (level : Level) (name : String) (value : Option String) :
    Except UsageError ArgumentState :=
  match level.option? name with
  | some option => state.meet option value
  | none => .error .unknownArgument

/-- What follows the letter of an option with a value is the value. -/
def attachedValue : List Char → Option String
  | [] => none
  | '=' :: text => some (String.ofList text)
  | text => some (String.ofList text)

def readLetters (state : ArgumentState) (level : Level) :
    List Char → Except UsageError ArgumentState
  | [] => .ok state
  | letter :: rest =>
      match level.letterOption? letter with
      | none => .error .unknownArgument
      | some (.value option) => state.meet (.value option) (attachedValue rest)
      | some option => do readLetters (← state.meet option none) level rest

end ArgumentState

namespace Level

def stray : Level → UsageError
  | .program => .unknownCommand
  | .command _ => .unknownArgument

/-- Behind two hyphens even the name of a command is only an argument. -/
def strayBehindSeparator (level : Level) (text : String) : UsageError :=
  if (CommandName.ofText? text).isSome || text == "help" then .unknownArgument else level.stray

/-- Reads one argument, with the arguments behind it at hand.  Nothing may follow two hyphens. -/
def step (level : Level) (state : ArgumentState) (text : String) (rest : List String) :
    Except UsageError ArgumentState :=
  match Argument.ofText text with
  | .separator =>
      match rest with
      | [] => .ok state
      | next :: _ => .error (level.strayBehindSeparator next)
  | .long name value => state.readLong level name value
  | .cluster letters => state.readLetters level letters
  | .plain =>
      match state.pending with
      | some (option, none) => .ok { state with pending := some (option, some text) }
      | _ => .error level.stray

end Level

end FilterQuery
