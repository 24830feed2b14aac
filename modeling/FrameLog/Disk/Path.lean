/-!
# Paths

Names separated by slashes. Repeated slashes count as one, and a trailing one says that the
path can only name a directory. The empty text names nothing.
-/

set_option autoImplicit false

namespace FrameLog

/-- The names from the root down. -/
abbrev Location := List String

structure Path where
  absolute : Bool
  /-- With `.` and `..` as they were written. -/
  parts : List String
  directoryOnly : Bool
  deriving DecidableEq, Repr

namespace Path

def ofString? (text : String) : Option Path :=
  let characters := text.toList
  if characters.isEmpty then none
  else some {
    absolute := characters.head? = some '/'
    parts := ((characters.splitOn '/').filter (· ≠ [])).map String.ofList
    directoryOnly := characters.getLast? = some '/' }

/-- A `.` names the same place as what stands in front of it, so only a leading one counts. -/
def significantParts (path : Path) : List String :=
  match path.absolute, path.parts with
  | false, "." :: rest => "." :: rest.filter (· ≠ ".")
  | _, parts => parts.filter (· ≠ ".")

/-- A bare name is held by the working directory, and so, by convention, is the root. -/
def parent (path : Path) : Path :=
  match path.significantParts with
  | [] => ⟨false, [], false⟩
  | parts => ⟨path.absolute, parts.dropLast, false⟩

def text (path : Path) : String :=
  (if path.absolute then "/" else "") ++ "/".intercalate path.parts ++
    (if path.directoryOnly then "/" else "")

/-- The paths that end at each name of this one, the shortest first. -/
def stations (path : Path) : List Path :=
  (List.range path.parts.length).map fun before =>
    ⟨path.absolute, path.parts.take (before + 1), false⟩

def join (directory name : String) : String :=
  let last? := directory.toList.getLast?
  if last? = none ∨ last? = some '/' then directory ++ name
  else directory ++ "/" ++ name

end Path

end FrameLog
