import AnalysisPanel.Storage.Artifact

/-! Scripts carried out on the disk of this machine. -/

namespace AnalysisPanel.Machine

open Storage

/-- A failure of the system as a failure of a disk. -/
def diskError (e : IO.Error) : DiskError :=
  match e with
  | .noFileOrDirectory .. => .notFound
  | .alreadyExists .. => .exists
  | e => .fault (toString e)

/-- The outcome of an action on the disk. -/
def attempt {β : Type} (action : IO β) : IO (Except DiskError β) := do
  try
    return .ok (← action)
  catch e => return .error (diskError e)

/-- Looks what a path leads to. Only a directory has itself as an entry. -/
def look (path : String) : IO (Except DiskError Node) := do
  if path.isEmpty then return .error .notFound
  match ← attempt (IO.FS.Handle.mk (path ++ "/.") .read) with
  | .ok _ => return .ok .directory
  | .error _ => attempt do return .file (← IO.FS.readBinFile path).toList

/-- Makes an empty file in a directory, of the first of the drawn names that is not taken. -/
def makeTemporary (directory : String) : List Draw → IO String
  | [] => throw (IO.userError "too many temporary files exist")
  | draw :: rest => do
    let path := join directory draw.name
    try
      let _ ← IO.FS.Handle.mk path .writeNew
      return path
    catch
      | .alreadyExists .. => makeTemporary directory rest
      | e => throw e

/-- How many names are drawn for a temporary file. -/
def tries : Nat := 256

/-- Draws names for a temporary file. -/
def drawNames : IO (List Draw) :=
  (List.range tries).mapM fun _ => return Draw.numbered (← IO.rand 0 (Nat.pow 62 6 - 1))

/-- Draws names for a save. -/
def drawForSave : IO Draws := return { probe := ← drawNames, file := ← drawNames }

/-- Carries out an operation. -/
def carryOut : {β : Type} → DiskOp β → IO (Except DiskError β)
  | _, .look path => look path
  | _, .makeDirectory path => attempt (IO.FS.createDir path)
  | _, .makeTemporary directory draws => attempt (makeTemporary directory draws)
  | _, .write path content => attempt (IO.FS.writeBinFile path ⟨content.toArray⟩)
  | _, .flush _ => return .ok ()
  | _, .sync path => attempt do (← IO.FS.Handle.mk path .append).flush
  | _, .remove path => attempt (IO.FS.removeFile path)
  | _, .rename source target => attempt (IO.FS.rename source target)

/-- Carries out a script. -/
def runScript {α : Type} : Script α → IO α
  | .done value => return value
  | .step op next => do runScript (next (← carryOut op))

end AnalysisPanel.Machine
