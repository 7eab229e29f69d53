import StateMachine.CommandLine.Compile
import Std.Time

/-!
# The command

The command `fsmc` on the files of the machine it runs on. All that is decided
is decided by `Compile.command`; here are its world and the exit status.
-/

namespace StateMachine

namespace Shell

/-- A failure of an operation on files. -/
def fileError (path : String) (e : IO.Error) : FileError :=
  match e with
  | .noFileOrDirectory _ _ _ => .notFound path
  | .alreadyExists _ _ _ => .alreadyThere path
  | .permissionDenied _ _ _ => .denied path
  | .inappropriateType _ number _ =>
    if number = 21 then .isDirectory path else .notDirectory path
  | .resourceExhausted _ number wording => .other number.toNat wording path
  | e => .other 5 (toString e) path

/-- Does something with files that may fail. -/
def attempt {α : Type} (path : String) (act : IO α) : IO (Except FileError α) := do
  match ← act.toBaseIO with
  | .ok a => return .ok a
  | .error e => return .error (fileError path e)

/-- A number with at least `width` digits. -/
def padded (width n : Nat) : String :=
  let digits := toString n
  String.ofList (List.replicate (width - digits.length) '0') ++ digits

/-- The time of day, to the millisecond. -/
def timeOfDay : IO String := do
  let t ← Std.Time.PlainDateTime.now
  return padded 2 t.hour.val.toNat ++ ":" ++ padded 2 t.minute.val.toNat ++ ":"
    ++ padded 2 t.second.val.toNat ++ "." ++ padded 3 t.millisecond.val.toNat

/-- Is it a file, be it readable or not? -/
def isFile (path : String) : IO Bool := do
  match ← attempt path (IO.FS.readBinFile path) with
  | .ok _ => return true
  | .error (.denied _) => return true
  | .error _ => return false

/-- The files of this machine and the streams of this process. -/
def world : World IO where
  isFile path := isFile path
  read path := attempt path do return (← IO.FS.readBinFile path).toList
  makeDirectories path := attempt path (IO.FS.createDirAll path)
  write path content := attempt path (IO.FS.writeFile path content)
  print line := IO.println line
  complain text := IO.eprint text
  time := timeOfDay

end Shell
end StateMachine

/-- Runs the command with the arguments of the process. -/
def main (arguments : List String) : IO UInt32 := do
  match ← (StateMachine.Compile.command StateMachine.Shell.world arguments).run with
  | .ok status => return UInt32.ofNat status
  | .error c =>
    IO.eprintln ("Error: " ++ c.message)
    return 1
