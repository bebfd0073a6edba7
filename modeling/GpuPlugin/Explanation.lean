/-!
# Explanation — an error together with its causes

What is printed of an error is a list of texts, the outermost first, each explained by the next.
`inline` puts them on one line; `detailed` gives the causes lines of their own, numbered when there
are several.
-/

namespace GpuPlugin

/-- An error's text, then the text of its cause, and so on. -/
abbrev Explanation := List String

namespace Explanation

/-- The whole explanation on one line. -/
def inline (e : Explanation) : String := ": ".intercalate e

/-- A number, set flush right in five columns. -/
def column (n : Nat) : String :=
  let digits := toString n
  "".pushn ' ' (5 - digits.length) ++ digits

/-- A text whose further lines are set in by `indent`. -/
def hang (indent : String) (s : String) : String :=
  (("\n" ++ indent).intercalate ((s.toList.splitOn '\n').map String.ofList))

/-- The causes, one after another from number `n` on. -/
def numbered : Nat → List String → String
  | _, [] => ""
  | n, cause :: rest =>
    "\n" ++ column n ++ ": " ++ hang "       " cause ++ numbered (n + 1) rest

/-- **The explanation with its causes listed below it.** -/
def detailed : Explanation → String
  | [] => ""
  | [e] => e
  | [e, cause] => e ++ "\n\nCaused by:\n    " ++ hang "    " cause
  | e :: causes => e ++ "\n\nCaused by:" ++ numbered 0 causes

end Explanation

end GpuPlugin
