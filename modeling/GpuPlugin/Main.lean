import GpuPlugin.Daemon
import Std.Time.Format

/-!
# Main — the daemon on a real host

Arguments, variables, the log and the config file are those of the host.  The driver's management
library is not linked in, so the daemon finds none: it says so and ends, or waits for its end if the
settings put up with that.
-/

namespace GpuPlugin.Daemon

/-- The fault of a file operation.  The system's number of a fault may come with its sign turned. -/
def faultOf : IO.Error → FileFault
  | .noFileOrDirectory _ _ _ => .notFound
  | .alreadyExists _ _ _ => .exists
  | .inappropriateType _ code details =>
    if min code (0 - code) = 20 then .notDirectory
    else if min code (0 - code) = 21 then .isDirectory
    else .other details
  | e => .other e.toString

/-- A file operation, with the fault it may end in. -/
def attempt {α : Type} (action : IO α) : IO (Except FileFault α) := do
  try return .ok (← action) catch e => return .error (faultOf e)

/-- The variables that the daemon looks at. -/
def environment : IO Environment := do
  let names := Nvml.checksVariable :: CommandLine.options.map (·.variableName)
  let values ← names.filterMapM fun name => do
    return (← IO.getEnv name).map (name, ·)
  return fun name => values.lookup name

/-- The date of the day, in universal time. -/
def today : IO String := do
  let now ← Std.Time.Timestamp.now
  let day := Std.Time.PlainDate.ofEpochDay now.toDaysSinceUnixEpoch
  let twoDigits (n : Nat) : String := (if n < 10 then "0" else "") ++ toString n
  let month := twoDigits day.month.val.toNat
  let dayOfMonth := twoDigits day.day.val.toNat
  return s!"{day.year.toInt}-{month}-{dayOfMonth}"

/-- Remove the log files of a directory that are out of date.  The time of the last change stands in
for the age of a file. -/
def prune (dir name : String) : IO Unit := do
  let place := (← IO.currentDir) / dir
  let files ← (← place.readDir).toList.filterMapM fun e => do
    let about ← e.path.metadata
    return if about.type == .file then some (e.fileName, about.modified) else none
  let byAge := files.mergeSort fun a b => compare a.2 b.2 != .gt
  for file in LogFile.outdated name (byAge.map (·.1)) do
    discard (attempt (IO.FS.removeFile (place / file)))

/-- Make sure that a log file can be written. -/
def openLog (path date : String) : IO (Except LogFile.Error Unit) := do
  match LogFile.split path with
  | .error e => return .error e
  | .ok (dir, name) =>
    discard (attempt (prune dir name))
    match ← attempt (IO.FS.createDirAll dir) with
    | .error fault => return .error (.directory fault)
    | .ok () =>
      let file := LogFile.pathOn date dir name
      return (← attempt (discard (IO.FS.Handle.mk file .append))).mapError .file

/-- The text of a file. -/
def readText (path : String) : IO (Except FileFault String) := do
  match ← attempt (IO.FS.readBinFile path) with
  | .error fault => return .error fault
  | .ok content =>
    match String.fromUTF8? content with
    | some text => return .ok text
    | none => return .error .notText

/-- Launch the daemon with a command line. -/
def launchOn (l : Launch) (line : CommandLine) : IO State := do
  if let some path := line.logFile then
    if let .error e ← openLog path l.date then return .exited (.failure e.explanation)
  let text ← match line.configFile with
    | some path => readText path
    | none => pure (.ok "")
  match Configuration.load (fun _ => text) line with
  | .error e => return .exited (.failure e.explanation)
  | .ok settings => return runWith l (.bare []) settings

end GpuPlugin.Daemon

open GpuPlugin in
/-- **The program**: its exit code tells how the daemon has ended. -/
def main (args : List String) : IO UInt32 := do
  let environment ← Daemon.environment
  match CommandLine.read args environment with
  | .error stop =>
    let code := (Daemon.exitOfStop stop).code
    if code = 0 then IO.println stop.message else IO.eprintln stop.message
    return code.toUInt32
  | .ok line =>
    let library : Nvml.Library := { initFault := some .libraryNotFound, count := 0, gpus := [] }
    match ← Daemon.launchOn { args, environment, library, date := ← Daemon.today } line with
    | .exited e =>
      if let some text := e.text then IO.eprintln text
      return e.code.toUInt32
    | _ =>
      while true do IO.sleep 60000
      return 0
