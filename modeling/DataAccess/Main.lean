import DataAccess.CommandLine.Run

/-!
The program: reads the environment and the files that the command line names, and prints what
the command line answers.
-/
set_option autoImplicit false

namespace DataAccess

open CommandLine

/-- The system's number for a path that goes through a file, also given as negative. -/
def isNotDirectory (code : UInt32) : Bool :=
  code = 20 || code = -20

/-- The system's number for a name that is too long, also given as negative. -/
def isNameTooLong (code : UInt32) : Bool :=
  code = 36 || code = -36

def fileError : IO.Error → FileError
  | .noFileOrDirectory .. => .missing
  | .inappropriateType _ code _ => if isNotDirectory code then .notDirectory else .isDirectory
  | .invalidArgument file code details =>
    if isNameTooLong code then .nameTooLong
    else .other (toString (IO.Error.invalidArgument file code details))
  | error => .other (toString error)

def readContent (path : String) : IO (Except FileError String) := do
  try
    return .ok (← IO.FS.readFile path)
  catch error =>
    return .error (fileError error)

/-- The directory of the user's settings: the one that is set if it is absolute, or else the usual
one below the home directory. -/
def userDirectory (directory home : Option String) : Option String :=
  (directory.filter (·.startsWith "/")).or
    ((home.filter fun path => !path.isEmpty).map (· ++ "/.config"))

def answer (arguments : List String) : IO Response := do
  let environment : Environment :=
    ⟨← IO.getEnv "CRUDGEN_CONFIG", ← IO.getEnv "RUST_LOG", ← IO.getEnv "CLICOLOR_FORCE"⟩
  let directory := userDirectory (← IO.getEnv "XDG_CONFIG_HOME") (← IO.getEnv "HOME")
  let userSettings := directory.map (· ++ "/crudgen/config.toml")
  let paths := match Invocation.ofArguments environment.config arguments with
    | .ok invocation => invocation.paths userSettings
    | .error _ => []
  let contents ← paths.mapM fun path => return (path, ← readContent path)
  let files : Files :=
    { read := fun path => (contents.lookup path).getD (.error .missing), userSettings }
  return run files environment arguments

end DataAccess

def main (arguments : List String) : IO UInt32 := do
  let response ← DataAccess.answer arguments
  IO.print (DataAccess.CommandLine.textOfLines response.output)
  IO.eprint (DataAccess.CommandLine.textOfLines response.errors)
  return response.code.toUInt32
