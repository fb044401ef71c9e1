import StoryGraph.Terminal.Launch

/-!
The command line program. It looks at the files that the command line names,
writes back those that were saved, and moves lines between the terminal and the
player. What is said and done is decided elsewhere.
-/

set_option autoImplicit false

namespace StoryGraph.Program

open Terminal

/-- What stands at a path; something that cannot be read counts as a directory. -/
def look (path : Path) : IO (Option Entry) := do
  try
    let octets ← IO.FS.readBinFile path.text
    return some (.file octets.toList)
  catch
    | .noFileOrDirectory .. => return none
    | _ => return some .directory

def snapshot (paths : List Path) : IO Files :=
  paths.foldlM (fun files path => do
    match ← look path with
    | none => return files
    | some entry => return (files.provide path entry).1) Files.empty

/-- Write a file if it is not what it was before. -/
def keep (before after : Files) (path : Path) : IO Unit := do
  match after.read path with
  | .ok octets =>
      if (before.read path).toOption ≠ some octets then
        IO.FS.createDirAll path.parent.text
        IO.FS.writeBinFile path.text (ByteArray.mk octets.toArray)
  | .error _ => return ()

def surroundings : IO Surroundings := do
  let directory ← IO.appDir
  return {
    home := (← IO.getEnv "HOME").getD ""
    stories := .ofText s!"{directory}/data/stories"
    windows := false
    appData := ← IO.getEnv "APPDATA"
    debug := ← IO.getEnv "KNOTWEAVE_DEBUG" }

def paths (surroundings : Surroundings) (line : List String) : List Path :=
  match Arguments.read line with
  | .ok arguments =>
      (arguments.configPath? surroundings).toList ++ [arguments.storyPath surroundings]
  | .error _ => []

/-- A line of input without its line end, or nothing at the end of the input. -/
def inputLine : IO (Option String) := do
  let line ← (← IO.getStdin).getLine
  if line.isEmpty then return none
  return some (if line.endsWith "\n" then (line.dropEnd 1).toString else line)

/-- Print what a turn prints and play on, until the session is over. -/
partial def playOn (player : Player) (turn : Turn) : IO UInt32 := do
  let (printed, play) := turn
  IO.print printed
  (← IO.getStdout).flush
  match play.phase with
  | .over ending =>
      for line in player.toldLog play.state do
        IO.eprintln s!"{line.level.name}: {line.message}"
      return (ending.exitCode?.getD 1).toUInt32
  | .showing _ => playOn player (player.proceed play)
  | .asking _ => playOn player (player.answer play (← inputLine))

def run (line : List String) : IO UInt32 := do
  let surroundings ← surroundings
  let files ← snapshot (paths surroundings line)
  let launch := Launch.ofLine files surroundings line
  for path in paths surroundings line do
    keep files launch.files path
  match launch.launched with
  | .ended exitCode =>
      IO.print launch.printed
      return exitCode.toUInt32
  | .escaped escape =>
      IO.print launch.printed
      IO.eprintln escape.message
      return 1
  | .playing player play => playOn player (launch.printed, play)

end StoryGraph.Program

def main (line : List String) : IO UInt32 := StoryGraph.Program.run line
