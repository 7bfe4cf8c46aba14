import AnalysisPanel.Proofs.Storage.Semantics
import AnalysisPanel.Storage.Artifact

/-! Directories of a disk. A path leads where it did as long as the directories on it are there, so
temporary files come and go without a trace; and making sure of a directory makes no more than it
and those above it. -/

namespace AnalysisPanel.Storage

/-! ## Disks with the same directories -/

namespace Disk

variable {d d' : Disk} {place other : Place} {node : Node} {directory name path : String}

/-- A disk has every directory that another has. -/
def HasDirectoriesOf (d' d : Disk) : Prop :=
  ∀ place, d.node? place = some .directory → d'.node? place = some .directory

theorem hasDirectoriesOf_put (here : d.node? place ≠ some .directory) :
    (d.put place node).HasDirectoriesOf d := by
  intro other found
  rwa [node?_put_of_ne (by rintro rfl; exact here found)]

theorem HasDirectoriesOf.clear (has : d'.HasDirectoriesOf d)
    (here : d.node? place ≠ some .directory) : (d'.clear place).HasDirectoriesOf d := by
  intro other found
  rw [node?_clear_of_ne (by rintro rfl; exact here found)]
  exact has other found

theorem HasDirectoriesOf.walk {here : Place} {parts : List String} (has : d'.HasDirectoriesOf d)
    (walked : d.walk here parts = .ok place) : d'.walk here parts = .ok place := by
  induction parts generalizing here with
  | nil => exact walked
  | cons part rest ih =>
    have node := node?_of_walk_cons walked
    rw [walk_cons node] at walked
    rw [walk_cons (has here node)]
    split_ifs at walked ⊢
    · exact ih walked
    · exact ih walked
    · exact ih walked

theorem HasDirectoriesOf.locate (has : d'.HasDirectoriesOf d)
    (located : d.locate path = .ok place) : d'.locate path = .ok place := by
  unfold Disk.locate at located ⊢
  split_ifs at located ⊢ with zero blank long
  exact has.walk located

theorem HasDirectoriesOf.directory? (has : d'.HasDirectoriesOf d)
    (found : d.directory? directory = .ok place) : d'.directory? directory = .ok place := by
  obtain ⟨located, node⟩ := located_of_directory? found
  have located' : (if directory = "" then .ok [] else d'.locate directory) = .ok place := by
    split_ifs at located ⊢
    · exact located
    · exact has.locate located
  simp only [Disk.directory?, located', has place node]

/-! ## Places in a directory -/

theorem walk_append {here : Place} {parts : List String} (rest : List String)
    (walked : d.walk here parts = .ok place) :
    d.walk here (parts ++ rest) = d.walk place rest := by
  induction parts generalizing here with
  | nil =>
    cases walked
    rfl
  | cons part parts ih =>
    have node := node?_of_walk_cons walked
    rw [walk_cons node] at walked
    rw [List.cons_append, walk_cons node]
    split_ifs at walked ⊢
    · exact ih walked
    · exact ih walked
    · exact ih walked

theorem walk_of_directory? (found : d.directory? directory = .ok place) :
    d.walk [] ((partsOf directory).filter (· != "")) = .ok place := by
  have located := (located_of_directory? found).1
  split_ifs at located with blank
  · cases located
    rw [blank]
    rfl
  · unfold locate at located
    split_ifs at located
    exact located

/-- Once a directory is there, the place of a name in it hangs on the path alone. -/
theorem HasDirectoriesOf.locate_join (has : d'.HasDirectoriesOf d)
    (found : d.directory? directory = .ok place) (down : LeadsDown name) :
    d'.locate (join directory name) = d.locate (join directory name) := by
  have step {d : Disk} (found : d.directory? directory = .ok place) :
      d.walk [] ((partsOf (join directory name)).filter (· != "")) =
        if maxName < name.utf8ByteSize then .error .nameTooLong else .ok (place ++ [name]) := by
    rw [partsOf_join directory down, walk_append [name] (walk_of_directory? found),
      walk_cons (directory?_eq_ok found).2, if_neg down.proper.1, if_neg down.proper.2]
    rfl
  rw [Disk.locate, Disk.locate, step (has.directory? found), step found]

theorem locate_join_eq_ok {target : Place} (located : d.locate (join directory name) = .ok target)
    (found : d.directory? directory = .ok place) (down : LeadsDown name) :
    target = place ++ [name] := by
  rw [locate_eq_ok located, placeOf_join directory down, (directory?_eq_ok found).1]

/-! ## A temporary file and the file it becomes -/

theorem clear_eq_self (free : d.node? place = none) : d.clear place = d := by
  have here : place ≠ [] := ne_nil_of_node? (by rw [free]; simp)
  have absent : ∀ entry ∈ d.nodes, (entry.1 != place) = true := by
    simpa [node?, here] using free
  rw [clear, List.filter_eq_self.mpr absent]

theorem clear_clear (d : Disk) (place : Place) : (d.clear place).clear place = d.clear place := by
  simp [clear]

theorem clear_comm (d : Disk) (place other : Place) :
    (d.clear place).clear other = (d.clear other).clear place := by
  simp only [clear, List.filter_filter, Bool.and_comm]

theorem clear_put (d : Disk) (place : Place) (node : Node) :
    (d.put place node).clear place = d.clear place := by
  simp [clear, put]

theorem put_clear (d : Disk) (place : Place) (node : Node) :
    (d.clear place).put place node = d.put place node := by
  rw [put, clear_clear, put]

theorem put_put (d : Disk) (place : Place) (first second : Node) :
    (d.put place first).put place second = d.put place second := by
  rw [put, clear_put, put]

variable {temporary target : Place} {content : Bytes}

/-- A file that becomes another leaves nothing where it was made. -/
theorem put_of_moved (free : d.node? temporary = none) :
    ((d.put temporary node).clear temporary).put target (.file content) =
      d.put target (.file content) := by
  rw [clear_put, clear_eq_self free]

/-- Nor does it if the other is removed first. -/
theorem put_of_replaced (free : d.node? temporary = none) :
    (((d.put temporary node).clear target).clear temporary).put target (.file content) =
      d.put target (.file content) := by
  rw [clear_comm, clear_put, clear_eq_self free, put_clear]

/-- A temporary file is made under a path that leads to it from then on. -/
theorem makeTemporary_eq_ok {made : Disk} {draws : List Draw}
    (ok : d.makeTemporary directory draws = .ok (path, made)) :
    ∃ place temporary, ∃ x ∈ draws, d.directory? directory = .ok place ∧
      path = join directory x.name ∧ d.locate path = .ok temporary ∧
      d.node? temporary = none ∧ made = d.put temporary (.file []) := by
  unfold makeTemporary at ok
  cases found : d.directory? directory with
  | error e =>
    rw [found] at ok
    cases ok
  | ok place =>
    rw [found] at ok
    obtain ⟨x, drawn, rfl, ⟨temporary, located⟩, free, rfl⟩ := claim_eq_ok ok
    rw [← locate_join_eq_ok located found (leadsDown_name x)] at free ⊢
    exact ⟨place, temporary, x, drawn, rfl, rfl, located, free, rfl⟩

theorem remove_eq (located : d.locate path = .ok place)
    (node : d.node? place = some (.file content)) : d.remove path = .ok (d.clear place) := by
  simp only [remove, located, node]

theorem write_eq {old : Bytes} (located : d.locate path = .ok place)
    (node : d.node? place = some (.file old)) :
    d.write path content = .ok (d.put place (.file content)) := by
  simp only [write, located, node]

/-! A file in a place where nothing was: the directories are those there were, and the file is filled
where it is; removing it brings the disk back. -/

theorem hasDirectoriesOf_put_free (free : d.node? place = none) :
    (d.put place node).HasDirectoriesOf d :=
  hasDirectoriesOf_put (by rw [free]; simp)

theorem node?_put_free (free : d.node? place = none) :
    (d.put place node).node? place = some node :=
  node?_put (ne_nil_of_node? (by rw [free]; simp))

theorem write_put_free (located : d.locate path = .ok place) (free : d.node? place = none)
    (old : Bytes) :
    (d.put place (.file old)).write path content = .ok (d.put place (.file content)) := by
  rw [write_eq ((hasDirectoriesOf_put_free free).locate located) (node?_put_free free), put_put]

theorem remove_put_free (located : d.locate path = .ok place) (free : d.node? place = none) :
    (d.put place (.file content)).remove path = .ok d := by
  rw [remove_eq ((hasDirectoriesOf_put_free free).locate located) (node?_put_free free), clear_put,
    clear_eq_self free]

theorem rename_eq {source : String} (old : d.locate source = .ok temporary)
    (new : d.locate path = .ok target) (node : d.node? temporary = some (.file content))
    (free : d.node? target ≠ some .directory)
    (above : d.node? target.dropLast = some .directory) :
    d.rename source path = .ok ((d.clear temporary).put target (.file content)) := by
  simp only [rename, old, new, node, above]
  cases taken : d.node? target with
  | none => rfl
  | some n =>
    cases n with
    | file old => rfl
    | directory => exact absurd taken free

end Disk

open Disk

variable {d : Disk} {directory filename : String} {content : Bytes}

@[simp] theorem Script.run_step {α β : Type} (d : Disk) (op : DiskOp β)
    (next : Except DiskError β → Script α) :
    (Script.step op next).run d = (next (op.apply d).1).run (op.apply d).2 := rfl

/-! ## The directory -/

/-- At a place a disk has what another has there, or a directory on one of the ways where nothing
was. -/
def Disk.Keeps (ways : List Place) (d d' : Disk) (place : Place) : Prop :=
  d'.node? place = d.node? place ∨
    place ∈ ways ∧ d.node? place = none ∧ d'.node? place = some .directory

/-- The places of a directory and of those above it. -/
def ways (directory : String) : List Place := (lineage directory).map placeOf

theorem Disk.Keeps.trans {d₁ d₂ d₃ : Disk} {ways : List Place} {place : Place}
    (first : Keeps ways d₁ d₂ place) (second : Keeps ways d₂ d₃ place) :
    Keeps ways d₁ d₃ place := by
  rcases second with same | ⟨mem, free, made⟩
  · rwa [Keeps, same]
  · rcases first with same | ⟨-, -, made'⟩
    · exact .inr ⟨mem, same ▸ free, made⟩
    · rw [free] at made'
      cases made'

theorem Disk.Keeps.mono {d' : Disk} {ways more : List Place} {place : Place}
    (keeps : Keeps ways d d' place) (sub : ways ⊆ more) : Keeps more d d' place :=
  keeps.imp_right fun ⟨mem, made⟩ => ⟨sub mem, made⟩

theorem keeps_makeDirectory (d : Disk) (path : String) (place : Place) :
    Keeps [placeOf path] d ((DiskOp.makeDirectory path).apply d).2 place := by
  have does := makeDirectory_does d path
  generalize (DiskOp.makeDirectory path).apply d = result at does
  obtain ⟨outcome, d'⟩ := result
  cases outcome with
  | error e => exact .inl (by rw [show d' = d from does])
  | ok made =>
    obtain ⟨free, rfl⟩ := does
    by_cases here : place = placeOf path
    · subst here
      exact .inr ⟨List.mem_singleton_self _, free, node?_put (ne_nil_of_node? (by rw [free]; simp))⟩
    · exact .inl (node?_put_of_ne here)

/-- By induction on the directories above, after which the first one is tried again. -/
theorem keeps_makeDirectories_run (d : Disk) (paths : List String) (place : Place) :
    Keeps (paths.map placeOf) d ((makeDirectories paths).run d).2 place := by
  induction paths generalizing d with
  | nil => exact .inl rfl
  | cons path above ih =>
    have attempt (d : Disk) : Keeps ((path :: above).map placeOf) d
        ((DiskOp.makeDirectory path).apply d).2 place :=
      (keeps_makeDirectory d path place).mono (by simp)
    have start := attempt d
    simp only [makeDirectories, Script.run_step]
    generalize (DiskOp.makeDirectory path).apply d = result at start
    obtain ⟨outcome, d₁⟩ := result
    cases outcome with
    | ok made => exact start
    | error e =>
      cases e with
      | notFound =>
        have upper := start.trans ((ih d₁).mono (List.subset_cons_self (placeOf path) _))
        simp only [Script.run_bind]
        generalize (makeDirectories above).run d₁ = result at upper
        obtain ⟨outcome, d₂⟩ := result
        cases outcome with
        | error e => exact upper
        | ok made =>
          have again := upper.trans (attempt d₂)
          simp only [Script.run_step]
          generalize (DiskOp.makeDirectory path).apply d₂ = result at again
          obtain ⟨outcome, d₃⟩ := result
          cases outcome <;> exact again
      | _ => exact start

/-- The probe leaves the disk as it was. -/
theorem run_probe (d : Disk) (directory : String) (draws : List Draw) :
    (probe directory draws).run d =
      (match d.makeTemporary directory draws with
        | .error e => .error (.directory e.message)
        | .ok _ => .ok (), d) := by
  simp only [probe, Script.run_step, DiskOp.apply]
  cases made : d.makeTemporary directory draws with
  | error e => rfl
  | ok result =>
    obtain ⟨path, d'⟩ := result
    obtain ⟨place, temporary, x, -, -, -, located, free, rfl⟩ := makeTemporary_eq_ok made
    simp only [Script.run_step, DiskOp.apply, remove_put_free located free, changed,
      Script.run_done]

/-- What making sure of a directory comes to: it is given up, or the directory is there. -/
inductive Ready (directory : String) : Except SaveError Unit → Disk → Prop where
  | refused (reason : String) (d : Disk) : Ready directory (.error (.directory reason)) d
  | ready {d : Disk} {place : Place} (found : d.directory? directory = .ok place) :
      Ready directory (.ok ()) d

theorem ready_probe (d : Disk) (directory : String) (draws : List Draw) :
    Ready directory ((probe directory draws).run d).1 ((probe directory draws).run d).2 := by
  rw [run_probe]
  cases takes : d.makeTemporary directory draws with
  | error e => exact .refused _ d
  | ok made =>
    obtain ⟨place, -, -, -, found, -⟩ := makeTemporary_eq_ok takes
    exact .ready found

theorem run_ensureDirectory (d : Disk) (directory : String) (draws : List Draw) :
    (ensureDirectory directory draws).run d =
      match d.look directory with
      | .ok .directory => (probe directory draws).run d
      | .ok (.file _) => (.error (.directory "path is not a directory"), d)
      | .error _ =>
        match (makeDirectories (lineage directory)).run d with
        | (.error e, d') => (.error (.directory e.message), d')
        | (.ok _, d') => (probe directory draws).run d' := by
  cases looked : d.look directory with
  | ok node => cases node <;> simp [ensureDirectory, DiskOp.apply, found, looked]
  | error e =>
    simp only [ensureDirectory, Script.run_step, DiskOp.apply, looked, found, Bool.false_eq_true,
      if_false, Script.run_bind]
    generalize (makeDirectories (lineage directory)).run d = result
    obtain ⟨outcome, d'⟩ := result
    cases outcome <;> rfl

theorem ready_ensureDirectory (d : Disk) (directory : String) (draws : List Draw) :
    Ready directory ((ensureDirectory directory draws).run d).1
      ((ensureDirectory directory draws).run d).2 := by
  rw [run_ensureDirectory]
  split
  · exact ready_probe d directory draws
  · exact .refused _ d
  · split
    · exact .refused _ _
    · exact ready_probe _ directory draws

theorem keeps_ensureDirectory_run (d : Disk) (directory : String) (draws : List Draw)
    (place : Place) :
    Keeps (ways directory) d ((ensureDirectory directory draws).run d).2 place := by
  have made := keeps_makeDirectories_run d (lineage directory) place
  rw [run_ensureDirectory]
  split
  · rw [run_probe]
    exact .inl rfl
  · exact .inl rfl
  · split
    · next result =>
      rw [result] at made
      exact made
    · next result =>
      rw [result] at made
      rw [run_probe]
      exact made

end AnalysisPanel.Storage
