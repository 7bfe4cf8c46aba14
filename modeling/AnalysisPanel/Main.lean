import AnalysisPanel.Machine.Terminal

/-! The command line of the program. -/

namespace AnalysisPanel.Machine

open Config Program

/-- The environment, as far as a configuration asks for it: the variable of the password. -/
def environmentFor (config : ConfigFile) : IO Configuration.Environment := do
  let asked := match Configuration.load "" config with
    | .ok c => c.dataSource.passwordVariable
    | .error _ => none
  match asked with
  | none => return fun _ => none
  | some name =>
    let value ← IO.getEnv name
    return fun other => if other = name then value else none

/-- Leaves the program before any session. -/
def leave (e : Ending) : IO UInt32 := do
  e.output.forM fun text => IO.println text
  e.error.forM fun text => IO.eprintln text
  return e.exit.toUInt32

/-- Opens the log and the download directory, and then runs a session. -/
def begin (l : Launch) : IO UInt32 := do
  let journal ← Journal.begin l.destination l.least
  l.startLogs.forM journal.write
  match ← runScript (l.openDownloads (← drawNames)) with
  | .error e => leave e
  | .ok _ =>
    l.settingsLogs.forM journal.write
    session ⟨journal, l.settings, l.downloads⟩ l
    return 0

/-- Runs the program. -/
def run (argv : List String) : IO UInt32 := do
  match Arguments.parse argv with
  | .error e => leave (.ofArguments e)
  | .ok args =>
    let config := fileOf (← look args.config)
    let env ← environmentFor config
    match prepare argv (fun _ => config) env with
    | .error e => leave e
    | .ok l => begin l

end AnalysisPanel.Machine

/-- The program. -/
def main (argv : List String) : IO UInt32 := AnalysisPanel.Machine.run argv
