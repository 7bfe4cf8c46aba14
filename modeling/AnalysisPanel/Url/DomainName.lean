import AnalysisPanel.Url.Address
import AnalysisPanel.Url.Label

/-! Names of hosts: labels with dots between them, and how they are written in ASCII. -/

namespace AnalysisPanel.Url

open Text

/-- Characters that no name may hold. -/
def isForbidden (c : Char) : Bool :=
  c.toNat ≤ 0x20 || c.toNat == 0x7F ||
    ['#', '%', '/', ':', '<', '>', '?', '@', '[', '\\', ']', '^', '|'].contains c

/-- The labels of a name as it was typed. -/
def labels? (cs : List Char) : Option (List Label) :=
  (spell? cs).bind fun spelled => (splitAt '.' (compose spelled)).mapM Label.ofText?

/-- Whether the labels of a name keep their order, which goes without saying where all is written
from left to right. -/
def inOrder (labels : List Label) : Bool :=
  let mixed := labels.any fun l => l.plain.any fun c => isLeftward (directionOf c)
  !mixed || labels.all fun l => keepsOrder l.plain

/-- Writes a name in ASCII. -/
def nameToAscii? (cs : List Char) : Option (List Char) :=
  match labels? cs with
  | some labels =>
    let name := ((labels.map Label.written).intersperse ['.']).flatten
    if name.any isForbidden ∨ !inOrder labels then none else some name
  | none => none

end AnalysisPanel.Url
