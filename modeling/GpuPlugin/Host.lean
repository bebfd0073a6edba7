import GpuPlugin.Path

/-!
# Host — the files of the machine

A host is a tree of directories, files and sockets, seen from a working directory.  A path is walked
segment by segment; only its last segment may be missing.  A socket is of use while someone serves
on it, so the server is part of its entry.
-/

namespace GpuPlugin

/-- A place in the tree: the names from the root down. -/
abbrev Location := List String

/-- Who answers on a socket. -/
inductive Service where
  /-- The plugin, in the session of the given number. -/
  | plugin (session : Nat)
  | kubelet
  /-- Somebody else, or nobody any more. -/
  | other
  deriving DecidableEq, Repr

/-- What is found at a place. -/
inductive Entry where
  | file (content : ByteArray)
  | directory
  | socket (service : Service)

/-- Why a file cannot be used. -/
inductive FileFault where
  | notFound
  | noDevice
  | exists
  | notDirectory
  | isDirectory
  | nameTooLong
  /-- The path has a NUL in it. -/
  | badName
  | notText
  /-- Anything else, as the system words it. -/
  | other (text : String)
  deriving DecidableEq, Repr

def FileFault.message : FileFault → String
  | .notFound => "No such file or directory (os error 2)"
  | .noDevice => "No such device or address (os error 6)"
  | .exists => "File exists (os error 17)"
  | .notDirectory => "Not a directory (os error 20)"
  | .isDirectory => "Is a directory (os error 21)"
  | .nameTooLong => "File name too long (os error 36)"
  | .badName => "file name contained an unexpected NUL byte"
  | .notText => "stream did not contain valid UTF-8"
  | .other text => text

/-- **A host**: what is at its places, the newest first. -/
structure Host where
  workingDirectory : Location
  entries : List (Location × Entry)

namespace Host

/-- A host with nothing but a working directory. -/
def bare (workingDirectory : Location) : Host := ⟨workingDirectory, []⟩

/-- What is at a place.  The working directory and all directories above it are always there. -/
def entryAt? (h : Host) (l : Location) : Option Entry :=
  if l.isPrefixOf h.workingDirectory then some .directory else h.entries.lookup l

/-- The host without what is at a place. -/
def erase (h : Host) (l : Location) : Host :=
  { h with entries := h.entries.filter (·.1 != l) }

/-- The host with an entry at a place. -/
def put (h : Host) (l : Location) (e : Entry) : Host :=
  { h with entries := (l, e) :: (h.erase l).entries }

/-- The host with an entry at a place and directories above it. -/
def plant (h : Host) (l : Location) (e : Entry) : Host :=
  let above := ((List.range l.length).map l.take).filter fun a => (h.entryAt? a).isNone
  (above.foldl (fun h a => h.put a .directory) h).put l e

theorem lookup_filter_key {α : Type} (l : List (Location × α)) (m : Location) :
    (l.filter (·.1 != m)).lookup m = none := by
  induction l with
  | nil => rfl
  | cons e rest ih =>
    obtain ⟨a, b⟩ := e
    by_cases h : a = m
    · simpa [h] using ih
    · have hb : (m == a) = false := by simpa using Ne.symm h
      simpa [h, List.lookup_cons, hb] using ih

theorem lookup_filter_key_of_ne {α : Type} (l : List (Location × α)) {m n : Location}
    (hne : n ≠ m) : (l.filter (·.1 != m)).lookup n = l.lookup n := by
  induction l with
  | nil => rfl
  | cons e rest ih =>
    obtain ⟨a, b⟩ := e
    by_cases h : a = m
    · obtain rfl := h
      have hb : (n == a) = false := by simpa using hne
      simpa [List.lookup_cons, hb] using ih
    · simp [h, List.lookup_cons, ih]

theorem entryAt?_erase_self (h : Host) {l : Location} (hl : ¬ l <+: h.workingDirectory) :
    (h.erase l).entryAt? l = none := by
  simp [entryAt?, erase, hl, lookup_filter_key]

theorem entryAt?_erase_of_ne (h : Host) {l m : Location} (hne : m ≠ l) :
    (h.erase l).entryAt? m = h.entryAt? m := by
  simp [entryAt?, erase, lookup_filter_key_of_ne _ hne]

theorem entryAt?_put_self (h : Host) {l : Location} (e : Entry) (hl : ¬ l <+: h.workingDirectory) :
    (h.put l e).entryAt? l = some e := by
  simp [entryAt?, put, hl, erase]

theorem entryAt?_put_of_ne (h : Host) {l m : Location} (e : Entry) (hne : m ≠ l) :
    (h.put l e).entryAt? m = h.entryAt? m := by
  have hb : (m == l) = false := by simpa using hne
  simp [entryAt?, put, erase, List.lookup_cons, hb, lookup_filter_key_of_ne _ hne]

/-! ## Walking paths -/

/-- The longest name, and the shortest path that is too long, in bytes. -/
def longestName : Nat := 255

def pathBound : Nat := 4096

/-- Go one segment further.  Segments that mean nothing still ask for a directory. -/
def step (h : Host) (here : Location) (segment : List Char) : Except FileFault Location :=
  match h.entryAt? here with
  | none => .error .notFound
  | some .directory =>
    let name := String.ofList segment
    if Path.isIdle segment then .ok here
    else if name = ".." then .ok here.dropLast
    else if longestName < name.utf8ByteSize then .error .nameTooLong
    else .ok (here ++ [name])
  | some _ => .error .notDirectory

/-- **The place a path leads to**, at which there may be nothing. -/
def locate (h : Host) (path : String) : Except FileFault Location :=
  if path.toList.contains '\x00' then .error .badName
  else if path = "" then .error .notFound
  else if pathBound ≤ path.utf8ByteSize then .error .nameTooLong
  else
    let start := if Path.isAbsolute path then [] else h.workingDirectory
    (path.toList.splitOn '/').foldlM h.step start

/-- What is at the end of a path. -/
def at? (h : Host) (path : String) : Option Entry :=
  match h.locate path with
  | .ok l => h.entryAt? l
  | .error _ => none

/-! ## Files -/

/-- The text of a file. -/
def readText (h : Host) (path : String) : Except FileFault String := do
  match h.entryAt? (← h.locate path) with
  | none => .error .notFound
  | some .directory => .error .isDirectory
  | some (.socket _) => .error .noDevice
  | some (.file content) =>
    match String.fromUTF8? content with
    | some text => .ok text
    | none => .error .notText

/-- Remove a file or a socket. -/
def remove (h : Host) (path : String) : Except FileFault Host := do
  let l ← h.locate path
  match h.entryAt? l with
  | none => .error .notFound
  | some .directory => .error .isDirectory
  | some _ => .ok (h.erase l)

/-- Remove a file or a socket that may be missing. -/
def clear (h : Host) (path : String) : Except FileFault Host :=
  match h.remove path with
  | .error .notFound => .ok h
  | r => r

/-- Open a file to write at its end, and make it if it is missing. -/
def openLog (h : Host) (path : String) : Except FileFault Host := do
  let l ← h.locate path
  match h.entryAt? l with
  | none => .ok (h.put l (.file ByteArray.empty))
  | some .directory => .error .isDirectory
  | some (.socket _) => .error .noDevice
  | some (.file _) => .ok h

/-- Make a directory where there is nothing. -/
def makeDirectory (h : Host) (path : String) : Except FileFault Host := do
  let trimmed := (path.toList.reverse.dropWhile (· == '/')).reverse
  let l ← h.locate (if trimmed = [] then path else String.ofList trimmed)
  match h.entryAt? l with
  | none => .ok (h.put l .directory)
  | some _ => .error .exists

/-- Make a directory and those above it that are missing; there may be so many of them. -/
def makeDirectoriesWithin : Nat → Host → String → Except FileFault Host
  | 0, h, _ => .ok h
  | depth + 1, h, path =>
    if path = "" then .ok h
    else
      let settle (h : Host) (r : Except FileFault Host) : Except FileFault Host :=
        match r with
        | .ok h => .ok h
        | .error e => if h.at? path matches some .directory then .ok h else .error e
      match h.makeDirectory path with
      | .error .notFound =>
        match Path.parent path with
        | none => .error .notFound
        | some above => do
          let h ← makeDirectoriesWithin depth h above
          settle h (h.makeDirectory path)
      | r => settle h r

/-- Make a directory and those above it, unless it is there already. -/
def makeDirectories (h : Host) (path : String) : Except FileFault Host :=
  makeDirectoriesWithin (path.length + 1) h path

/-- The names of the files in a directory, the oldest first. -/
def filesIn (h : Host) (l : Location) : List String :=
  h.entries.reverse.filterMap fun (m, e) =>
    if (e matches .file _) && m.dropLast == l then m.getLast? else none

/-- The files below the working directory, by their paths from there, in order. -/
def files (h : Host) : List String :=
  let below := h.entries.filterMap fun (l, e) =>
    if (e matches .file _) && h.workingDirectory.isPrefixOf l then
      some ("/".intercalate (l.drop h.workingDirectory.length))
    else none
  below.mergeSort fun a b => decide (a ≤ b)

/-! ## Sockets -/

/-- Paths of sockets have fewer bytes than this. -/
def socketPathBound : Nat := 108

/-- Whether a path can be the path of a socket. -/
def isSocketPath (path : String) : Bool :=
  path != "" && path.utf8ByteSize < socketPathBound && !path.toList.contains '\x00'

/-- Serve on a new socket; there must be nothing at its path. -/
def bind (h : Host) (path : String) (s : Service) : Option Host :=
  if isSocketPath path then
    match h.locate path with
    | .ok l => if (h.entryAt? l).isNone then some (h.put l (.socket s)) else none
    | .error _ => none
  else none

/-- Who answers at a path. -/
def dial (h : Host) (path : String) : Option Service :=
  if isSocketPath path then
    match h.at? path with
    | some (.socket s) => some s
    | _ => none
  else none

end Host

end GpuPlugin
