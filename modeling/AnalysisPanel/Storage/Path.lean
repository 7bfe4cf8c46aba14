/-! Paths as text: parts with slashes between them. An empty part and a single dot lead nowhere, two
dots lead up. -/

namespace AnalysisPanel.Storage

/-- The parts of a path. Some are empty: before a slash at the start, after one at the end, and
between slashes that follow each other. -/
def partsOf (path : String) : List String := (path.toList.splitOn '/').map String.ofList

/-- A path of parts. -/
def pathOf (parts : List String) : String := String.intercalate "/" parts

/-- Whether a part leads nowhere. -/
def isIdle (part : String) : Bool := part == "" || part == "."

/-- Leaves off the parts at the end that lead nowhere. -/
def stripEnd (parts : List String) : List String := (parts.reverse.dropWhile isIdle).reverse

/-- A path without the parts at its ends that lead nowhere. -/
def stripped (path : String) : String := pathOf ((stripEnd (partsOf path)).dropWhile isIdle)

/-- The path above one. Parts that lead nowhere go along with the part before them. -/
def above (parts : List String) : List String := stripEnd (stripEnd parts).dropLast

/-- A path and at most `count - 1` of those above it, lowest first, down to its first name. -/
def lineageOf : Nat → List String → List (List String)
  | 0, _ => []
  | count + 1, parts =>
    if (stripEnd parts).isEmpty then [] else parts :: lineageOf count (above parts)

/-- A path and those above it, lowest first, down to its first name. -/
def lineage (path : String) : List String :=
  let parts := partsOf path
  (lineageOf parts.length parts).map pathOf

/-- The path of a name in a directory. -/
def join (directory name : String) : String :=
  if directory = "" then name
  else if directory.toList.getLast? = some '/' then directory ++ name
  else directory ++ "/" ++ name

end AnalysisPanel.Storage
