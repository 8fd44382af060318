import Mailroom.CommandLine.Run

/-!
# The program

All that is decided here is what to fetch: the variables, the files that the words name, and
standard input if it is wanted.  No server is spoken to, so a keyboard behind one refuses.

This is where the program's `main` is called from.

- `main`: fetches, runs and puts out.
-/

namespace Mailroom.CommandLine

/-- What the system says about a file, in the words of the program. -/
def FileError.ofSystem : IO.Error → FileError
  | .permissionDenied _ _ _ => .denied
  | .alreadyExists _ _ _ => .occupied
  | .inappropriateType _ code _ => if code = 20 then .notADirectory else .isADirectory
  | .invalidArgument _ code _ => if code = 36 then .nameTooLong else .missing
  | _ => .missing

/-- Opens a file. -/
def fetchFile (path : String) : IO FileBytes := do
  try
    return .ok (← IO.FS.readBinFile path).toList
  catch e =>
    return .error (FileError.ofSystem e)

/-- Reads standard input to its end. -/
partial def fetchInput (stream : IO.FS.Stream) (done : ByteArray) : IO ByteArray := do
  let more ← stream.read 65536
  if more.isEmpty then return done else fetchInput stream (done ++ more)

/-- A disk that holds the files that have been fetched and has what has been found.  What is in the
way of a file that is to be made shows when it is made. -/
def fetchedDisk (files : List (String × FileBytes)) (found : List String) : Disk :=
  { read := fun path => (files.lookup path).getD (.error .missing)
    has := fun path => .ok (found.contains path)
    folderTrouble := fun _ => none
    fileTrouble := fun _ _ => none }

/-- What the program finds around it. -/
def fetchSurroundings (words : List String) : IO Surroundings := do
  let values ← Settings.variableNames.mapM fun name => do return (name, ← IO.getEnv name)
  let settings := Settings.ofEnvironment fun name => (values.lookup name).join
  let args := (Arguments.read settings.debug words).toOption.getD {}
  let files ← (namedFiles args).mapM fun path => do return (path, ← fetchFile path)
  let input ← if readsInput args then fetchInput (← IO.getStdin) .empty else pure .empty
  let installation := Folder.ofProgram (← IO.appPath).toString
  let asked ← IO.getEnv Folder.wishVariable
  let wish := Environment.get? (fun _ => asked) Folder.wishVariable
  let here ← IO.currentDir
  let found ← (Folder.candidates installation none wish).filterM fun (path : String) =>
    (here / path).pathExists
  let disk := fetchedDisk files found
  return {
    settings
    disk
    data := Folder.data disk.has installation none wish
    input := input.toList
    server := { refusal := some ⟨.connection, "no server"⟩ }
    ledNames := []
    spare := 986 }

/-- Writes a file, with the folders that it lies in. -/
def putFile (path content : String) : IO Unit := do
  IO.FS.createDirAll (Folder.ofProgram path)
  IO.FS.writeFile path content

end Mailroom.CommandLine

open Mailroom.CommandLine in
/-- Splits the integers on the command line, in a file or in standard input. -/
def main (words : List String) : IO UInt32 := do
  let outcome := run (← fetchSurroundings words) words
  for (path, content) in outcome.files do
    putFile path content
  (← IO.getStdout).putStr outcome.stdout
  (← IO.getStderr).putStr outcome.stderr
  match outcome.status with
  | .ok code => return UInt32.ofNat code
  | .error _ => return 1
