/-!
# Path — file names in slash-separated paths

A path is a text.  It is read as an anchor (a leading slash, or a leading dot segment) and the
segments after it; empty segments and dots among these mean nothing.  `fileName` and `parent` take a
path apart at its last meaningful segment, and `join` puts two paths together by text alone.
-/

namespace GpuPlugin.Path

/-- Whether a path starts at the root. -/
def isAbsolute (p : String) : Bool := p.toList.head? == some '/'

/-- **A path under another.**  An absolute second path stands alone; otherwise the two are
separated by one slash, unless the first one is empty or ends with a slash already. -/
def join (dir name : String) : String :=
  if isAbsolute name then name
  else if dir.toList.getLast?.all (· == '/') then dir ++ name
  else dir ++ "/" ++ name

/-- The anchor of a path, and what comes after it. -/
def split : List Char → List Char × List Char
  | '/' :: body => (['/'], body)
  | ['.'] => (['.'], [])
  | '.' :: '/' :: rest => (['.'], '/' :: rest)
  | cs => ([], cs)

/-- Whether a segment means nothing: it is empty or a single dot. -/
def isIdle (segment : List Char) : Bool := segment == [] || segment == ['.']

/-- A list of segments up to the last one that means something. -/
def trimEnd (segments : List (List Char)) : List (List Char) :=
  (segments.reverse.dropWhile isIdle).reverse

/-- The segments after the anchor, up to the last one that means something. -/
def segments (body : List Char) : List (List Char) :=
  trimEnd (body.splitOn '/')

/-- **The last name of a path**, if the path ends in a name. -/
def fileName (p : String) : Option String :=
  match (segments (split p.toList).2).getLast? with
  | some s => if s = ['.', '.'] then none else some (String.ofList s)
  | none => none

/-- **The path before its last segment.**  The root and the empty path have none. -/
def parent (p : String) : Option String :=
  let (anchor, body) := split p.toList
  match segments body with
  | [] => if anchor = ['.'] then some "" else none
  | segs => some (String.ofList (anchor ++ ['/'].intercalate (trimEnd segs.dropLast)))

/-- A step of a path. -/
inductive Component where
  | root
  | current
  | up
  | name (s : String)
  deriving DecidableEq, Repr

/-- The step that a segment stands for. -/
def Component.ofSegment (s : List Char) : Component :=
  if s = ['.', '.'] then .up else .name (String.ofList s)

/-- **The steps of a path**: its anchor and its meaningful segments. -/
def components (p : String) : List Component :=
  let (anchor, body) := split p.toList
  let first := if anchor = ['/'] then [.root] else if anchor = ['.'] then [.current] else []
  first ++ ((body.splitOn '/').filter (!isIdle ·)).map Component.ofSegment

end GpuPlugin.Path
