import AnalysisPanel.Storage.Script
import AnalysisPanel.Text.Quoted

/-! Saving artifacts in the download directory. The content goes to a temporary file first and then
takes the name it is meant for, so that half of it never shows under that name. -/

namespace AnalysisPanel.Storage

/-- Why an artifact was not saved. -/
inductive SaveError where
  | directory (reason : String)
  | invalidFilename (filename : String)
  | disk (e : DiskError)
  deriving DecidableEq, Inhabited

/-- A failure in words. -/
def SaveError.message : SaveError → String
  | .directory reason => "download directory missing or not writable: " ++ reason
  | .invalidFilename filename => "invalid artifact filename " ++ Text.quoted filename
  | .disk e => "io error: " ++ e.message

/-! ### The directory -/

/-- Whether a look at a path found anything. -/
def found (outcome : Except DiskError Node) : Bool :=
  match outcome with
  | .ok _ => true
  | .error _ => false

/-- Takes a failure to make a directory for success when the directory is there. -/
def unlessDirectory (path : String) (e : DiskError) : Script (Except DiskError Unit) :=
  .step (.look path) fun outcome =>
    .done (match outcome with
      | .ok .directory => .ok ()
      | _ => .error e)

/-- Makes directories: each path once those after it are there. -/
def makeDirectories : List String → Script (Except DiskError Unit)
  | [] => .done (.ok ())
  | path :: above =>
    .step (.makeDirectory path) fun outcome =>
      match outcome with
      | .ok _ => .done (.ok ())
      | .error .notFound =>
        (makeDirectories above).bind fun
          | .error e => .done (.error e)
          | .ok _ =>
            .step (.makeDirectory path) fun
              | .ok _ => .done (.ok ())
              | .error e => unlessDirectory path e
      | .error e => unlessDirectory path e

/-- Makes and removes a temporary file, to see whether a directory can be written to. -/
def probe (directory : String) (draws : List Draw) : Script (Except SaveError Unit) :=
  .step (.makeTemporary directory draws) fun
    | .error e => .done (.error (.directory e.message))
    | .ok path => .step (.remove path) fun _ => .done (.ok ())

/-- Makes sure that a path is a directory that can be written to. -/
def ensureDirectory (directory : String) (draws : List Draw := [default]) :
    Script (Except SaveError Unit) :=
  .step (.look directory) fun outcome =>
    if found outcome then
      .step (.look directory) fun
        | .error e => .done (.error (.directory e.message))
        | .ok (.file _) => .done (.error (.directory "path is not a directory"))
        | .ok .directory => probe directory draws
    else
      (makeDirectories (lineage directory)).bind fun
        | .error e => .done (.error (.directory e.message))
        | .ok _ => probe directory draws

/-! ### Artifacts -/

/-- Whether a name is that of a file directly in a directory. -/
def isFilename (name : String) : Bool :=
  name != "" && !name.toList.contains '/' && !name.toList.contains '\\' && name != "." &&
    name != ".."

/-- Operations one after the other, given up with the first that fails. -/
def inTurn : List (DiskOp Unit) → Script (Except DiskError Unit)
  | [] => .done (.ok ())
  | op :: rest =>
    .step op fun
      | .error e => .done (.error e)
      | .ok _ => inTurn rest

/-- Fills a temporary file and gives it the name it is meant for, instead of the file that has that
name. -/
def replaceBy (temporary target : String) (content : Bytes) : Script (Except DiskError Unit) :=
  (inTurn [.write temporary content, .flush temporary, .sync temporary]).bind fun
    | .error e => .done (.error e)
    | .ok _ =>
      .step (.look target) fun outcome =>
        inTurn ((if found outcome then [.remove target] else []) ++ [.rename temporary target])

/-- What is drawn in the course of a save: names for the file that probes the directory, and names
for the file that takes the artifact. -/
structure Draws where
  probe : List Draw := [default]
  file : List Draw := [default]
  deriving DecidableEq

/-- Saves an artifact, and yields its path. What is left of a failed attempt is removed. -/
def save (directory filename : String) (content : Bytes) (draws : Draws := {}) :
    Script (Except SaveError String) :=
  if isFilename filename then
    (ensureDirectory directory draws.probe).bind fun
      | .error e => .done (.error e)
      | .ok _ =>
        .step (.makeTemporary directory draws.file) fun
          | .error e => .done (.error (.disk e))
          | .ok temporary =>
            let target := join directory filename
            (replaceBy temporary target content).bind fun
              | .ok _ => .done (.ok target)
              | .error e => .step (.remove temporary) fun _ => .done (.error (.disk e))
  else .done (.error (.invalidFilename filename))

end AnalysisPanel.Storage
