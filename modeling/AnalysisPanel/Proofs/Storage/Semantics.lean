import AnalysisPanel.Storage.Script
import Mathlib.Data.List.Basic

/-! Local rules for the operations on a disk. A path leads to the same place on every disk on which
it leads anywhere, so each rule says by places alone what an operation finds and what it changes. -/

namespace AnalysisPanel.Storage

/-! ## Places of paths -/

/-- The place to which parts of a path lead from a directory. -/
def follow (here : Place) : List String → Place
  | [] => here
  | part :: rest =>
    if part = "." then follow here rest
    else if part = ".." then follow here.dropLast rest
    else follow (here ++ [part]) rest

/-- The place to which a path leads. -/
def placeOf (path : String) : Place := follow [] ((partsOf path).filter (· != ""))

/-- A part of a path that leads one level down. -/
structure LeadsDown (part : String) : Prop where
  nonempty : part ≠ ""
  slashless : '/' ∉ part.toList
  proper : part ≠ "." ∧ part ≠ ".."

theorem follow_append (here : Place) (parts rest : List String) :
    follow here (parts ++ rest) = follow (follow here parts) rest := by
  induction parts generalizing here with
  | nil => rfl
  | cons part parts ih =>
    simp only [List.cons_append, follow]
    split
    · exact ih _
    · split
      · exact ih _
      · exact ih _

/-- A walk that goes on is in a directory. -/
theorem Disk.node?_of_walk_cons {d : Disk} {here place : Place} {part : String} {rest : List String}
    (walked : d.walk here (part :: rest) = .ok place) : d.node? here = some .directory := by
  unfold walk at walked
  split at walked
  · cases walked
  · cases walked
  · next node => exact node

theorem Disk.walk_cons {d : Disk} {here : Place} (node : d.node? here = some .directory)
    (part : String) (rest : List String) :
    d.walk here (part :: rest) =
      if part = "." then d.walk here rest
      else if part = ".." then d.walk here.dropLast rest
      else if maxName < part.utf8ByteSize then .error .nameTooLong
      else d.walk (here ++ [part]) rest := by
  simp only [walk, node]

theorem Disk.walk_eq_ok {d : Disk} {here place : Place} {parts : List String}
    (h : d.walk here parts = .ok place) : place = follow here parts := by
  induction parts generalizing here with
  | nil =>
    cases h
    rfl
  | cons part rest ih =>
    rw [walk_cons (node?_of_walk_cons h)] at h
    rw [follow]
    split_ifs at h ⊢
    · exact ih h
    · exact ih h
    · exact ih h

theorem Disk.locate_eq_ok {d : Disk} {path : String} {place : Place}
    (h : d.locate path = .ok place) : place = placeOf path := by
  unfold locate at h
  split at h
  · cases h
  · split at h
    · cases h
    · split at h
      · cases h
      · exact walk_eq_ok h

/-- A directory is found where its path leads. -/
theorem Disk.located_of_directory? {d : Disk} {path : String} {place : Place}
    (h : d.directory? path = .ok place) :
    (if path = "" then .ok [] else d.locate path) = .ok place ∧
      d.node? place = some .directory := by
  unfold directory? at h
  split at h
  · cases h
  · next found located =>
    split at h
    · cases h
    · cases h
    · next node =>
      cases h
      exact ⟨located, node⟩

theorem Disk.directory?_eq_ok {d : Disk} {path : String} {place : Place}
    (h : d.directory? path = .ok place) :
    place = placeOf path ∧ d.node? place = some .directory := by
  obtain ⟨located, node⟩ := located_of_directory? h
  refine ⟨?_, node⟩
  split_ifs at located with blank
  · cases located
    rw [blank]
    rfl
  · exact locate_eq_ok located

theorem partsOf_append_slash (front name : List Char) (slashless : '/' ∉ name) :
    partsOf (String.ofList (front ++ '/' :: name)) =
      partsOf (String.ofList front) ++ [String.ofList name] := by
  simp [partsOf, List.splitOn_append_cons_self, List.splitOn_eq_singleton slashless]

/-- The parts of a name in a directory are those of the directory and the name. -/
theorem partsOf_join (directory : String) {name : String} (down : LeadsDown name) :
    (partsOf (join directory name)).filter (· != "") =
      (partsOf directory).filter (· != "") ++ [name] := by
  have lone : partsOf name = [name] := by
    simp [partsOf, List.splitOn_eq_singleton down.slashless]
  have kept : [name].filter (· != "") = [name] := by simp [down.nonempty]
  unfold join
  split
  · next blank =>
    rw [lone, kept, blank]
    rfl
  · split
    · next ends =>
      obtain ⟨front, slash⟩ := List.getLast?_eq_some_iff.mp ends
      have whole : directory ++ name = String.ofList (front ++ '/' :: name.toList) := by
        apply String.toList_inj.mp
        simp [slash]
      have above : directory = String.ofList (front ++ '/' :: []) := by
        apply String.toList_inj.mp
        simp [slash]
      have name' : String.ofList name.toList = name := String.ofList_toList
      rw [whole, partsOf_append_slash _ _ down.slashless, name', above,
        partsOf_append_slash _ _ (by simp), List.filter_append, kept]
      simp
    · have whole : directory ++ "/" ++ name =
          String.ofList (directory.toList ++ '/' :: name.toList) := by
        apply String.toList_inj.mp
        simp
      rw [whole, partsOf_append_slash _ _ down.slashless, String.ofList_toList,
        String.ofList_toList, List.filter_append, kept]

/-- A name in a directory stands one level below the directory. -/
theorem placeOf_join (directory : String) {name : String} (down : LeadsDown name) :
    placeOf (join directory name) = placeOf directory ++ [name] := by
  have step (here : Place) : follow here [name] = here ++ [name] := by
    simp [follow, down.proper.1, down.proper.2]
  rw [placeOf, partsOf_join directory down, follow_append, step, placeOf]

/-! ## Names of temporary files -/

theorem Draw.toList_name (x : Draw) : x.name.toList = ".tmp".toList ++ x.letters := by
  simp [name]

theorem leadsDown_name (x : Draw) : LeadsDown x.name where
  nonempty blank := by
    have := congrArg String.toList blank
    rw [x.toList_name] at this
    cases this
  slashless slash := by
    rw [x.toList_name, List.mem_append] at slash
    rcases slash with front | drawn
    · revert front
      decide
    · exact absurd (x.plain _ drawn) (by decide)
  proper := by
    constructor
    · intro dot
      have := congrArg String.toList dot
      rw [x.toList_name] at this
      cases this
    · intro dots
      have := congrArg String.toList dots
      rw [x.toList_name] at this
      cases this

/-! ## Nodes and files -/

namespace Disk

/-- The content of the file at a place. -/
def file? (d : Disk) (place : Place) : Option Bytes :=
  match d.node? place with
  | some (.file content) => some content
  | _ => none

variable {d : Disk} {place other : Place} {node : Node} {content : Bytes}

theorem ne_nil_of_node? (h : d.node? place ≠ some .directory) : place ≠ [] := by
  rintro rfl
  exact h rfl

theorem node?_clear (here : place ≠ []) : (d.clear place).node? place = none := by
  simp [node?, clear, here, List.find?_filter]

theorem node?_clear_of_ne (apart : other ≠ place) :
    (d.clear place).node? other = d.node? other := by
  have same (entry : Place × Node) :
      decide ((entry.1 != place) = true ∧ (entry.1 == other) = true) = (entry.1 == other) := by
    by_cases there : entry.1 = other
    · simp [there, apart]
    · simp [there]
  simp only [node?, clear, List.find?_filter, same]

theorem node?_put (here : place ≠ []) : (d.put place node).node? place = some node := by
  simp [node?, put, here]

theorem node?_put_of_ne (apart : other ≠ place) :
    (d.put place node).node? other = d.node? other := by
  have skip : (place == other) = false := by simpa using fun same => apart same.symm
  refine Eq.trans ?_ (node?_clear_of_ne apart)
  simp only [node?, put, List.find?_cons, skip]

theorem file?_eq_some : d.file? place = some content ↔ d.node? place = some (.file content) := by
  unfold file?
  split
  · next node => rw [node]; simp
  · next other =>
    constructor
    · intro none
      cases none
    · intro node
      exact absurd node (other content)

theorem file?_of_node? (node : d.node? place = none) : d.file? place = none := by
  rw [file?, node]

theorem file?_clear (here : place ≠ []) : (d.clear place).file? place = none :=
  file?_of_node? (node?_clear here)

theorem file?_clear_of_ne (apart : other ≠ place) :
    (d.clear place).file? other = d.file? other := by
  rw [file?, node?_clear_of_ne apart, file?]

theorem file?_put (here : place ≠ []) :
    (d.put place (.file content)).file? place = some content :=
  file?_eq_some.mpr (node?_put here)

theorem file?_put_of_ne (apart : other ≠ place) :
    (d.put place node).file? other = d.file? other := by
  rw [file?, node?_put_of_ne apart, file?]

/-- A directory made where nothing was hides no file and shows none. -/
theorem file?_put_directory (free : d.node? place = none) :
    (d.put place .directory).file? other = d.file? other := by
  by_cases same : other = place
  · have here : place ≠ [] := ne_nil_of_node? (d := d) (by rw [free]; simp)
    rw [same, file?_of_node? free, file?, node?_put here]
  · exact file?_put_of_ne same

end Disk

/-! ## The rules -/

open Disk in
/-- What an operation may come to on a disk, whether it fails by itself or is made to fail: the
outcome, and the disk afterwards. -/
def Does (d : Disk) : {β : Type} → DiskOp β → Except DiskError β → Disk → Prop
  | _, _, .error _, d' => d' = d
  | _, .look path, .ok node, d' => d.node? (placeOf path) = some node ∧ d' = d
  | _, .makeDirectory path, .ok _, d' =>
    d.node? (placeOf path) = none ∧ d' = d.put (placeOf path) .directory
  | _, .makeTemporary directory draws, .ok path, d' =>
    d.node? (placeOf directory) = some .directory ∧
      ∃ x ∈ draws, path = join directory x.name ∧
        d.node? (placeOf directory ++ [x.name]) = none ∧
        d' = d.put (placeOf directory ++ [x.name]) (.file [])
  | _, .write path content, .ok _, d' =>
    (∃ old, d.node? (placeOf path) = some (.file old)) ∧
      d' = d.put (placeOf path) (.file content)
  | _, .flush _, .ok _, d' => d' = d
  | _, .sync _, .ok _, d' => d' = d
  | _, .remove path, .ok _, d' =>
    (∃ content, d.node? (placeOf path) = some (.file content)) ∧ d' = d.clear (placeOf path)
  | _, .rename source target, .ok _, d' =>
    ∃ content, d.node? (placeOf source) = some (.file content) ∧
      d.node? (placeOf target) ≠ some .directory ∧
      d' = (d.clear (placeOf source)).put (placeOf target) (.file content)

/-- A name that is claimed in a directory was drawn, and nothing had it. -/
theorem Disk.claim_eq_ok {d d' : Disk} {place : Place} {directory path : String} {draws : List Draw}
    (claimed : d.claim place directory draws = .ok (path, d')) :
    ∃ x ∈ draws, path = join directory x.name ∧ (∃ temporary, d.locate path = .ok temporary) ∧
      d.node? (place ++ [x.name]) = none ∧ d' = d.put (place ++ [x.name]) (.file []) := by
  induction draws with
  | nil => cases claimed
  | cons x rest ih =>
    rw [claim] at claimed
    split at claimed
    · cases claimed
    · next temporary located =>
      split at claimed
      · obtain ⟨y, mem, drawn⟩ := ih claimed
        exact ⟨y, List.mem_cons_of_mem _ mem, drawn⟩
      · next free =>
        cases claimed
        exact ⟨x, List.mem_cons_self, rfl, ⟨temporary, located⟩, free, rfl⟩

theorem does_failed (d : Disk) {β : Type} (op : DiskOp β) (e : DiskError) :
    Does d op (.error e) d := by
  cases op <;> exact rfl

theorem does_changed {d : Disk} {op : DiskOp Unit} {result : Except DiskError Disk}
    (ok : ∀ next, result = .ok next → Does d op (.ok ()) next) :
    Does d op (changed d result).1 (changed d result).2 := by
  cases result with
  | ok next => exact ok next rfl
  | error e => exact does_failed d op e

theorem look_does (d : Disk) (path : String) : Does d (.look path) (d.look path) d := by
  unfold Disk.look
  split
  · exact does_failed _ _ _
  · next place located =>
    rw [Disk.locate_eq_ok located]
    split
    · exact does_failed _ _ _
    · next node => exact ⟨node, rfl⟩
    · next node _ found =>
      split
      · exact does_failed _ _ _
      · exact ⟨found, rfl⟩

theorem makeDirectory_does (d : Disk) (path : String) :
    Does d (.makeDirectory path) ((DiskOp.makeDirectory path).apply d).1
      ((DiskOp.makeDirectory path).apply d).2 := by
  apply does_changed
  intro next made
  unfold Disk.makeDirectory at made
  split at made
  · cases made
  · next place located =>
    rw [Disk.locate_eq_ok located] at made
    split at made
    · cases made
    · next node =>
      cases made
      exact ⟨node, rfl⟩

theorem makeTemporary_does (d : Disk) (directory : String) (draws : List Draw) :
    Does d (.makeTemporary directory draws) ((DiskOp.makeTemporary directory draws).apply d).1
      ((DiskOp.makeTemporary directory draws).apply d).2 := by
  simp only [DiskOp.apply, Disk.makeTemporary]
  cases found : d.directory? directory with
  | error e => exact does_failed _ _ e
  | ok place =>
    obtain ⟨rfl, node⟩ := Disk.directory?_eq_ok found
    dsimp only
    cases claimed : d.claim (placeOf directory) directory draws with
    | error e => exact does_failed _ _ e
    | ok made =>
      obtain ⟨x, mem, named, -, free, put⟩ := Disk.claim_eq_ok claimed
      exact ⟨node, x, mem, named, free, put⟩

theorem write_does (d : Disk) (path : String) (content : Bytes) :
    Does d (.write path content) ((DiskOp.write path content).apply d).1
      ((DiskOp.write path content).apply d).2 := by
  apply does_changed
  intro next written
  unfold Disk.write at written
  split at written
  · cases written
  · next place located =>
    rw [Disk.locate_eq_ok located] at written
    split at written
    · cases written
    · cases written
    · next node =>
      cases written
      exact ⟨⟨_, node⟩, rfl⟩

theorem remove_does (d : Disk) (path : String) :
    Does d (.remove path) ((DiskOp.remove path).apply d).1 ((DiskOp.remove path).apply d).2 := by
  apply does_changed
  intro next removed
  unfold Disk.remove at removed
  split at removed
  · cases removed
  · next place located =>
    rw [Disk.locate_eq_ok located] at removed
    split at removed
    · cases removed
    · cases removed
    · next node =>
      cases removed
      exact ⟨⟨_, node⟩, rfl⟩

theorem rename_does (d : Disk) (source target : String) :
    Does d (.rename source target) ((DiskOp.rename source target).apply d).1
      ((DiskOp.rename source target).apply d).2 := by
  apply does_changed
  intro next renamed
  unfold Disk.rename at renamed
  split at renamed
  · cases renamed
  · cases renamed
  · next old new locatedOld locatedNew =>
    rw [Disk.locate_eq_ok locatedOld, Disk.locate_eq_ok locatedNew] at renamed
    split at renamed
    · next node other =>
      cases renamed
      exact ⟨_, node, by rw [other]; simp, rfl⟩
    · next node none _ =>
      cases renamed
      exact ⟨_, node, by rw [none]; simp, rfl⟩
    · cases renamed
    · cases renamed

/-- Every operation follows a rule. -/
theorem apply_does (d : Disk) {β : Type} (op : DiskOp β) :
    Does d op (op.apply d).1 (op.apply d).2 := by
  cases op with
  | look path => exact look_does d path
  | makeDirectory path => exact makeDirectory_does d path
  | makeTemporary directory draws => exact makeTemporary_does d directory draws
  | write path content => exact write_does d path content
  | flush path => exact rfl
  | sync path => exact rfl
  | remove path => exact remove_does d path
  | rename source target => exact rename_does d source target

/-! ## What an operation leaves alone -/

/-- The places at which an operation changed files, from what it yielded. -/
def DiskOp.places : {β : Type} → DiskOp β → Except DiskError β → List Place
  | _, .makeTemporary _ _, .ok path => [placeOf path]
  | _, .write path _, .ok _ => [placeOf path]
  | _, .remove path, .ok _ => [placeOf path]
  | _, .rename source target, .ok _ => [placeOf source, placeOf target]
  | _, _, _ => []

/-- Files elsewhere stay as they are. -/
theorem Does.file?_eq {d d' : Disk} {β : Type} {op : DiskOp β} {outcome : Except DiskError β}
    (does : Does d op outcome d') {place : Place} (apart : place ∉ op.places outcome) :
    d'.file? place = d.file? place := by
  cases outcome with
  | error e =>
    have same : d' = d := by cases op <;> exact does
    rw [same]
  | ok value =>
    cases op with
    | look path => rw [does.2]
    | flush path => rw [show d' = d from does]
    | sync path => rw [show d' = d from does]
    | makeDirectory path =>
      rw [does.2]
      exact Disk.file?_put_directory does.1
    | makeTemporary directory draws =>
      obtain ⟨-, x, -, rfl, -, rfl⟩ := does
      have apart : place ≠ placeOf (join directory x.name) := List.ne_of_not_mem_cons apart
      rw [placeOf_join directory (leadsDown_name x)] at apart
      exact Disk.file?_put_of_ne apart
    | write path content =>
      rw [does.2]
      exact Disk.file?_put_of_ne (List.ne_of_not_mem_cons apart)
    | remove path =>
      rw [does.2]
      exact Disk.file?_clear_of_ne (List.ne_of_not_mem_cons apart)
    | rename source target =>
      obtain ⟨content, -, -, rfl⟩ := does
      have old := List.ne_of_not_mem_cons apart
      have new := List.ne_of_not_mem_cons (List.not_mem_of_not_mem_cons apart)
      rw [Disk.file?_put_of_ne new, Disk.file?_clear_of_ne old]

end AnalysisPanel.Storage
