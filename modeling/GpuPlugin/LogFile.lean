import GpuPlugin.Explanation
import GpuPlugin.Host

/-!
# LogFile — where the log is written

The path of a log file is a directory and the beginning of a name; the date of the day is added to
it.  Only the newest log files are kept, and directories that are missing are made.
-/

namespace GpuPlugin.LogFile

/-- Why there is no log file. -/
inductive Error where
  | noName (path : String)
  | directory (fault : FileFault)
  | file (fault : FileFault)
  deriving DecidableEq, Repr

def Error.explanation : Error → Explanation
  | .noName path => [s!"log file path `{path}` has no file name"]
  | .directory fault => unwritable "failed to create log directory" fault
  | .file fault => unwritable "failed to create log file" fault
where
  unwritable (what : String) (fault : FileFault) : Explanation :=
    let cause := s!"{what}: {fault.message}"
    [s!"failed to create rolling file appender: {cause}", cause, fault.message]

/-- **The directory and the beginning of the name.**  A path without a directory means the working
directory. -/
def split (path : String) : Except Error (String × String) :=
  match Path.fileName path with
  | none => .error (.noName path)
  | some name =>
    match Path.parent path with
    | none | some "" => .ok (".", name)
    | some dir => .ok (dir, name)

/-- The path of the log file of a day. -/
def pathOn (date dir name : String) : String := Path.join dir s!"{name}.{date}"

/-- So many log files there are, the new one among them. -/
def kept : Nat := 3

/-- **The files that make room for a new log file**, out of all those beside it, of which the oldest
is named first.  Any file whose name begins in the same way is taken for a log file. -/
def outdated (name : String) (files : List String) : List String :=
  let logs := files.filter fun f => name.toList.isPrefixOf f.toList
  logs.take (logs.length + 1 - kept)

/-- Remove the log files that are out of date. -/
def prune (h : Host) (dir name : String) : Host :=
  match h.locate dir with
  | .ok l => (outdated name (h.filesIn l)).foldl (fun h file => h.erase (l ++ [file])) h
  | .error _ => h

/-- Open a log file, if need be after making its directory.  What has been made stays. -/
def openFile (h : Host) (file : String) : Host × Except Error Unit :=
  match h.openLog file, Path.parent file with
  | .ok h, _ => (h, .ok ())
  | .error fault, none => (h, .error (.file fault))
  | .error _, some above =>
    match h.makeDirectories above with
    | .error fault => (h, .error (.directory fault))
    | .ok h =>
      match h.openLog file with
      | .ok h => (h, .ok ())
      | .error fault => (h, .error (.file fault))

/-- **Open the log file of a day**, once there is room for it. -/
def start (h : Host) (date path : String) : Host × Except Error Unit :=
  match split path with
  | .error e => (h, .error e)
  | .ok (dir, name) => openFile (prune h dir name) (pathOn date dir name)

example : outdated "a" ["a.1", "b.1", "a", "ab"] = ["a.1"] := by decide
example : outdated "a" ["a.1", "b.1", "a"] = [] := by decide

end GpuPlugin.LogFile
