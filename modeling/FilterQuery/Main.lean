import FilterQuery.Program

/-!
# The command line program

Runs the program on the system's files, standard input and environment.
-/

namespace FilterQuery

def textState (bytes : ByteArray) : FileState :=
  match String.fromUTF8? bytes with
  | some text => .text text
  | none => .unreadable (.other "stream did not contain valid UTF-8")

def failureState : IO.Error → FileState
  | .noFileOrDirectory .. => .missing .notFound
  | .inappropriateType _ _ "not a directory" => .missing .notDirectory
  | .inappropriateType .. => .unreadable .isDirectory
  | error => .unreadable (.other (toString error))

def systemFileAt (path : String) : IO FileState := do
  try
    return textState (← IO.FS.readBinFile path)
  catch error => return failureState error

partial def readAll (stream : IO.FS.Stream) (before : ByteArray) : IO ByteArray := do
  let bytes ← stream.read 65536
  if bytes.isEmpty then return before else readAll stream (before ++ bytes)

def systemInput : IO FileState := do
  return textState (← readAll (← IO.getStdin) .empty)

def systemTimed {α : Type} (value : Unit → α) : IO (α × Binary64) := do
  let start ← IO.monoNanosNow
  let value := value ()
  let stop ← IO.monoNanosNow
  return (value, .ofDecimal (stop - start) 9)

/-- The variables that are set, from lines that end in zero bytes. -/
def systemEnvironment : IO Environment := do
  match ← systemFileAt "/proc/self/environ" with
  | .text content =>
      return (content.splitOn "\x00").filterMap fun line =>
        match splitAssignment line.toList with
        | (name, some value) => some (String.ofList name, String.ofList value)
        | (_, none) => none
  | _ => return []

def systemSurroundings (environment : Environment) (current : String) : Surroundings IO where
  directories := ⟨environment.home "/", current⟩
  environment := environment
  fileAt := systemFileAt
  input := systemInput
  timed := systemTimed

def helpText : String :=
  "Compile filter requests into parameterized SQL\n\n" ++
  "Usage: pgfilter [OPTIONS] <COMMAND>\n\n" ++
  "Commands:\n" ++
  "  compile    Compile a filter request against an entity and print the SQL\n" ++
  "  relations  Print the relation map of an entity\n" ++
  "  help       Print this message or the help of the given subcommand(s)\n"

def usageText : UsageError → String
  | .invalidBackend text => "error: " ++ Backend.invalidMessage text ++ "\n"
  | _ => "error: invalid arguments\n\nFor more information, try '--help'.\n"

def runSystem (arguments : List String) : IO UInt32 := do
  let current ← IO.currentDir
  let surroundings := systemSurroundings (← systemEnvironment) current.toString
  let outcome ← Program.run surroundings arguments
  match outcome with
  | .misused .help => IO.print helpText
  | .misused .nothingGiven => IO.eprint helpText
  | .misused .version => IO.print outcome.output
  | .misused error => IO.eprint (usageText error)
  | _ =>
      IO.print outcome.output
      IO.eprint outcome.report
  return outcome.exitCode.toUInt32

end FilterQuery

def main (arguments : List String) : IO UInt32 :=
  FilterQuery.runSystem arguments
