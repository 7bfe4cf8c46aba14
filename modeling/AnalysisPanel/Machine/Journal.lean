import AnalysisPanel.Config.Basic
import AnalysisPanel.Text.Quoted
import Std.Time

/-! The log of a session, kept in a file, on the terminal's error stream, or in both. -/

namespace AnalysisPanel.Machine

open Config Log

/-- Where the lines of a log go, and from which level on. -/
structure Journal where
  least : Level
  streams : List IO.FS.Stream

/-- The path of a log that is kept in a file. -/
def journalPath : String := "./analyst.log"

/-- The file of a log, if it can be made. -/
def journalFile : IO (List IO.FS.Stream) := do
  try
    return [IO.FS.Stream.ofHandle (← IO.FS.Handle.mk journalPath .write)]
  catch e =>
    IO.eprintln ("Warning: Could not create log file at " ++ Text.quotedPath journalPath ++ ": " ++
      toString e)
    return []

/-- Opens a log. -/
def Journal.begin (destination : LogDestination) (least : Level) : IO Journal := do
  match destination with
  | .terminal => return ⟨least, [← IO.getStderr]⟩
  | .file => return ⟨least, ← journalFile⟩
  | .both => return ⟨least, (← IO.getStderr) :: (← journalFile)⟩

/-- The time now, as written in a log. -/
def timeText : IO String := do
  return (Std.Time.DateTime.ofTimestampWithZone (← Std.Time.Timestamp.now) .UTC).toISO8601String

/-- Writes a line if its level is reached. -/
def Journal.write (j : Journal) (line : Line) : IO Unit := do
  if line.level.reaches j.least then
    let time ← timeText
    for stream in j.streams do
      try
        stream.putStrLn (time ++ " [" ++ line.level.name ++ "] " ++ line.text)
        stream.flush
      catch _ => pure ()

end AnalysisPanel.Machine
