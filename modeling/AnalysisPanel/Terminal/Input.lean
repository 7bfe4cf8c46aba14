import AnalysisPanel.Text.Utf8

/-! Terminal input: octets become lines as they arrive. A line ends at a line feed, and a carriage
return before the line feed does not count. Input that is no text ends the terminal session, as the
end of input does. -/

namespace AnalysisPanel.Terminal

/-- What the terminal has to say to its reader. -/
inductive Input where
  | line (text : String)
  | ended
  deriving DecidableEq, Inhabited

/-- A line without the carriage return it ends with. -/
def dropReturn (bytes : Bytes) : Bytes :=
  if bytes.getLast? = some 0x0D then bytes.dropLast else bytes

/-- The octets of a line as input. -/
def Input.ofBytes (bytes : Bytes) : Input :=
  match Text.Utf8.toString? bytes with
  | some text => .line text
  | none => .ended

/-- The complete lines of what has arrived, after octets that were held back, and what is held back
from them: the beginning of a line that has not ended yet, last octet first. -/
def linesFrom (held : Bytes) : Bytes → List Bytes × Bytes
  | [] => ([], held)
  | b :: rest =>
    if b = 0x0A then
      let (lines, held') := linesFrom [] rest
      (dropReturn held.reverse :: lines, held')
    else linesFrom (b :: held) rest

/-- Input that has arrived, and what is held back of it. -/
def arrive (held bytes : Bytes) : List Input × Bytes :=
  let (lines, held) := linesFrom held bytes
  (lines.map .ofBytes, held)

/-- The rest of the input at its end: what was held back is a line of its own. -/
def finishInput (held : Bytes) : List Input :=
  if held.isEmpty then [.ended] else [.ofBytes held.reverse, .ended]

end AnalysisPanel.Terminal
