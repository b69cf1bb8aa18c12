import Stagehand.Program.Run
import Std.Time.DateTime.Timestamp

/-!
# The program
Gathers what surrounds the process, runs the program on it, and writes what it leaves. Requests
are not sent from here: to this program the network is unreachable.
-/

namespace Stagehand

/-- The bytes of a file, if there is one that can be read. -/
def readBytes? (path : String) : IO (Option (List UInt8)) := do
  try
    return some (← IO.FS.readBinFile path).toList
  catch _ =>
    return none

/-- The variables of the process. -/
def readEnvironment : IO Environment := do
  return Environment.ofBlock ((← readBytes? "/proc/self/environ").getD [])

/-- The working directory, with the files at some paths. -/
def readDirectory (paths : List String) : IO Settings.Directory := do
  let files ← paths.filterMapM fun path => do
    return (← readBytes? path).map fun bytes => (path, bytes)
  return ⟨(← IO.currentDir).toString, fun path => files.lookup path⟩

/-- The present moment. -/
def readClock : IO Moment := do
  return ⟨(← Std.Time.Timestamp.now).toNanosecondsSinceUnixEpoch.val, 0⟩

/-- Runs the program with arguments and writes what it leaves; the result is the exit code. -/
def runProcess (arguments : List String) : IO UInt32 := do
  let environment ← readEnvironment
  let directory ← readDirectory (Program.paths arguments environment)
  let now ← readClock
  let outcome := Program.run arguments
    { environment, directory, recordTime := now.text, lineTime := now.lineText }
  for line in outcome.log do
    IO.eprintln line
  IO.print outcome.output
  return UInt32.ofNat outcome.exitCode

end Stagehand

/-- The entry point of the program. -/
def main (arguments : List String) : IO UInt32 := Stagehand.runProcess arguments
