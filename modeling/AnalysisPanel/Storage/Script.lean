import AnalysisPanel.Storage.Disk

/-! Scripts: sequences of disk operations in which each step may hang on the outcomes of those
before it. A script can be run to its end, or looked at after each of its operations. -/

namespace AnalysisPanel.Storage

/-- One operation on a disk, by what it yields. -/
inductive DiskOp : Type → Type where
  | look (path : String) : DiskOp Node
  | makeDirectory (path : String) : DiskOp Unit
  | makeTemporary (directory : String) (draws : List Draw) : DiskOp String
  | write (path : String) (content : Bytes) : DiskOp Unit
  | flush (path : String) : DiskOp Unit
  | sync (path : String) : DiskOp Unit
  | remove (path : String) : DiskOp Unit
  | rename (source target : String) : DiskOp Unit

/-- A change of a disk as the outcome of an operation. -/
def changed (d : Disk) : Except DiskError Disk → Except DiskError Unit × Disk
  | .ok next => (.ok (), next)
  | .error e => (.error e, d)

/-- What an operation yields, and the disk after it. -/
def DiskOp.apply {β : Type} (d : Disk) : DiskOp β → Except DiskError β × Disk
  | .look path => (d.look path, d)
  | .makeDirectory path => changed d (d.makeDirectory path)
  | .makeTemporary directory draws =>
    match d.makeTemporary directory draws with
    | .ok (path, next) => (.ok path, next)
    | .error e => (.error e, d)
  | .write path content => changed d (d.write path content)
  | .flush _ => (.ok (), d)
  | .sync _ => (.ok (), d)
  | .remove path => changed d (d.remove path)
  | .rename source target => changed d (d.rename source target)

/-- A script that yields an `α`. -/
inductive Script (α : Type) : Type 1 where
  | done (value : α)
  | step {β : Type} (op : DiskOp β) (next : Except DiskError β → Script α)

namespace Script

variable {α β : Type}

/-- Goes on with another script. -/
def bind : Script α → (α → Script β) → Script β
  | .done value, f => f value
  | .step op next, f => .step op fun outcome => (next outcome).bind f

/-- Runs a script. -/
def run (d : Disk) : Script α → α × Disk
  | .done value => (value, d)
  | .step op next =>
    let outcome := op.apply d
    (next outcome.1).run outcome.2

/-- Runs a script on a disk that may fail: the first operation fails when the first of `faults` is a
failure, and so on. -/
def runWith (d : Disk) (faults : List (Option DiskError)) : Script α → α × Disk
  | .done value => (value, d)
  | .step op next =>
    match faults with
    | some fault :: rest => (next (.error fault)).runWith d rest
    | _ =>
      let outcome := op.apply d
      (next outcome.1).runWith outcome.2 faults.tail

/-- The disk at the start, after each operation, and at the end. -/
def disks (d : Disk) (faults : List (Option DiskError)) : Script α → List Disk
  | .done _ => [d]
  | .step op next =>
    match faults with
    | some fault :: rest => d :: (next (.error fault)).disks d rest
    | _ =>
      let outcome := op.apply d
      d :: (next outcome.1).disks outcome.2 faults.tail

@[simp] theorem run_done (d : Disk) (value : α) : (Script.done value).run d = (value, d) := rfl

@[simp] theorem run_bind (d : Disk) (s : Script α) (f : α → Script β) :
    (s.bind f).run d = (f (s.run d).1).run (s.run d).2 := by
  induction s generalizing d with
  | done value => rfl
  | step op next ih => exact ih _ _

end Script

end AnalysisPanel.Storage
