import AnalysisPanel.Proofs.Storage.Directories
import AnalysisPanel.Proofs.Storage.Replacement

/-! What a save changes on a disk whose operations fail only for what is on it. Besides the artifact
there are at most new directories on the way to its own; a save that fails leaves every file as it
was. -/

namespace AnalysisPanel.Storage

open Disk

variable {d : Disk} {directory filename : String} {content : Bytes} {draws : Draws}

/-! ## Saving -/

theorem getLast?_join (directory : String) {name : String} (down : LeadsDown name) :
    (join directory name).toList.getLast? ≠ some '/' := by
  have nonempty : name.toList ≠ [] := by simpa using down.nonempty
  have last : (join directory name).toList.getLast? = name.toList.getLast? := by
    unfold join
    split
    · rfl
    · split <;> rw [String.toList_append, List.getLast?_append_of_ne_nil _ nonempty]
  intro ends
  exact down.slashless (List.mem_of_getLast? (last.symm.trans ends))

theorem look_eq {d : Disk} {place : Place} {path : String} {node : Node}
    (located : d.locate path = .ok place) (ends : path.toList.getLast? ≠ some '/')
    (there : d.node? place = some node) : d.look path = .ok node := by
  unfold look
  rw [located]
  dsimp only
  rw [there]
  cases node with
  | directory => rfl
  | file content => simp [ends]

section

variable {place temporary target : Place} {source path : String}

/-- A file that has been filled takes the place of its target, unless that is a directory. -/
theorem run_swap (located : d.locate source = .ok temporary) (free : d.node? temporary = none)
    (led : d.locate path = .ok target) (ends : path.toList.getLast? ≠ some '/')
    (apart : target ≠ temporary) (above : d.node? target.dropLast = some .directory) :
    (inTurn ((if found ((d.put temporary (.file content)).look path) then [.remove path] else []) ++
        [.rename source path])).run (d.put temporary (.file content)) =
      if d.node? target = some .directory then
        (.error .isDirectory, d.put temporary (.file content))
      else (.ok (), d.put target (.file content)) := by
  have has : (d.put temporary (.file content)).HasDirectoriesOf d := hasDirectoriesOf_put_free free
  have filled : (d.put temporary (.file content)).node? temporary = some (.file content) :=
    node?_put_free free
  have seeks := has.locate led
  have same : (d.put temporary (.file content)).node? target = d.node? target :=
    node?_put_of_ne apart
  cases there : d.node? target with
  | none =>
    rw [there] at same
    have renamed :=
      rename_eq (has.locate located) seeks filled (by rw [same]; simp) (has _ above)
    rw [put_of_moved free] at renamed
    simp [look, seeks, same, found, inTurn, DiskOp.apply, renamed, changed]
  | some node =>
    rw [there] at same
    have looks := look_eq seeks ends same
    cases node with
    | directory => simp [looks, found, inTurn, DiskOp.apply, remove, seeks, same, changed]
    | file old =>
      have here : target ≠ [] := ne_nil_of_node? (d := d) (by rw [there]; simp)
      have plain : d.node? target ≠ some .directory := by
        rw [there]
        simp
      have cleared := has.clear plain
      have removed := remove_eq seeks same
      have renamed := rename_eq (cleared.locate located) (cleared.locate led)
        ((node?_clear_of_ne apart.symm).trans filled) (by rw [node?_clear here]; simp)
        (cleared _ above)
      rw [put_of_replaced free] at renamed
      simp [looks, found, inTurn, DiskOp.apply, removed, renamed, changed]

/-- The temporary file takes its target's place, or stays where it is when the target is out of
reach or a directory. -/
theorem run_replaceBy (ready : d.directory? directory = .ok place)
    (located : d.locate source = .ok temporary) (free : d.node? temporary = none)
    (down : LeadsDown filename) (apart : placeOf (join directory filename) ≠ temporary) :
    (replaceBy source (join directory filename) content).run (d.put temporary (.file [])) =
      match d.locate (join directory filename) with
      | .error e => (.error e, d.put temporary (.file content))
      | .ok target =>
        if d.node? target = some .directory then
          (.error .isDirectory, d.put temporary (.file content))
        else (.ok (), d.put target (.file content)) := by
  have has : (d.put temporary (.file content)).HasDirectoriesOf d := hasDirectoriesOf_put_free free
  simp only [replaceBy, Script.run_bind, inTurn, Script.run_step, DiskOp.apply,
    write_put_free located free, changed, Script.run_done]
  cases led : d.locate (join directory filename) with
  | error e =>
    have lost := has.locate_join ready down
    rw [led] at lost
    simp [look, lost, found, inTurn, DiskOp.apply, rename, has.locate located, changed]
  | ok target =>
    rw [locate_eq_ok led] at *
    refine run_swap located free led (getLast?_join directory down) apart ?_
    rw [placeOf_join directory down, List.dropLast_concat, ← (directory?_eq_ok ready).1]
    exact (directory?_eq_ok ready).2

/-- A temporary file that has the name of its target is removed as an earlier artifact, and is
missing when it is to take its place. -/
theorem run_replaceBy_self (located : d.locate path = .ok temporary)
    (free : d.node? temporary = none) (ends : path.toList.getLast? ≠ some '/') :
    (replaceBy path path content).run (d.put temporary (.file [])) = (.error .notFound, d) := by
  have has : (d.put temporary (.file content)).HasDirectoriesOf d := hasDirectoriesOf_put_free free
  have looks := look_eq (has.locate located) ends (node?_put_free free)
  have missing : d.rename path path = .error .notFound := by simp only [rename, located, free]
  simp [replaceBy, inTurn, DiskOp.apply, write_put_free located free, looks, found,
    remove_put_free located free, missing, changed]

end

/-- Names that no artifact may have. -/
def Unfit (filename : String) : Prop :=
  filename = "" ∨ '/' ∈ filename.toList ∨ '\\' ∈ filename.toList ∨ filename = "." ∨ filename = ".."

theorem isFilename_iff : isFilename filename = true ↔ ¬ Unfit filename := by
  simp only [isFilename, Unfit, Bool.and_eq_true, bne_iff_ne, Bool.not_eq_true',
    List.contains_eq_mem, decide_eq_false_iff_not, not_or, ne_eq]
  tauto

/-- A save by the first thing that stops it: the name, the directory, the temporary file, or what is
in its place. A temporary file that was drawn the name of the artifact gets lost. -/
inductive Settles (d : Disk) (directory filename : String) (content : Bytes) (draws : Draws) :
    Except SaveError String → Disk → Prop where
  | unfit (bad : Unfit filename) :
      Settles d directory filename content draws (.error (.invalidFilename filename)) d
  | unready {reason : String} {d' : Disk} (good : ¬ Unfit filename)
      (refused : (ensureDirectory directory draws.probe).run d = (.error (.directory reason), d')) :
      Settles d directory filename content draws (.error (.directory reason)) d'
  | unmade {e : DiskError} {d' : Disk} (good : ¬ Unfit filename)
      (ready : (ensureDirectory directory draws.probe).run d = (.ok (), d'))
      (refused : d'.makeTemporary directory draws.file = .error e) :
      Settles d directory filename content draws (.error (.disk e)) d'
  | lost {made : String × Disk} {d' : Disk} (good : ¬ Unfit filename)
      (ready : (ensureDirectory directory draws.probe).run d = (.ok (), d'))
      (takes : d'.makeTemporary directory draws.file = .ok made)
      (same : made.1 = join directory filename) :
      Settles d directory filename content draws (.error (.disk .notFound)) d'
  | unreachable {e : DiskError} {d' : Disk} (good : ¬ Unfit filename)
      (ready : (ensureDirectory directory draws.probe).run d = (.ok (), d'))
      (refused : d'.locate (join directory filename) = .error e) :
      Settles d directory filename content draws (.error (.disk e)) d'
  | occupied {target : Place} {d' : Disk} (good : ¬ Unfit filename)
      (ready : (ensureDirectory directory draws.probe).run d = (.ok (), d'))
      (located : d'.locate (join directory filename) = .ok target)
      (taken : d'.node? target = some .directory) :
      Settles d directory filename content draws (.error (.disk .isDirectory)) d'
  | done {made : String × Disk} {target : Place} {d' : Disk} (good : ¬ Unfit filename)
      (ready : (ensureDirectory directory draws.probe).run d = (.ok (), d'))
      (takes : d'.makeTemporary directory draws.file = .ok made)
      (other : made.1 ≠ join directory filename)
      (located : d'.locate (join directory filename) = .ok target)
      (free : d'.node? target ≠ some .directory) :
      Settles d directory filename content draws (.ok (join directory filename))
        (d'.put target (.file content))

/-- In a directory that took the temporary file nothing is left of a failed attempt. -/
theorem settles_of_taken {d' : Disk} {made : String × Disk} (good : ¬ Unfit filename)
    (ready : (ensureDirectory directory draws.probe).run d = (.ok (), d'))
    (takes : d'.makeTemporary directory draws.file = .ok made) :
    Settles d directory filename content draws ((save directory filename content draws).run d).1
      ((save directory filename content draws).run d).2 := by
  have valid := isFilename_iff.mpr good
  have down := leadsDown_of_isFilename valid
  obtain ⟨path, d₁⟩ := made
  obtain ⟨place, temporary, x, -, found, rfl, located, free, rfl⟩ := makeTemporary_eq_ok takes
  have temporary_eq := locate_join_eq_ok located found (leadsDown_name x)
  simp only [save, if_pos valid, Script.run_bind, ready, Script.run_step, DiskOp.apply, takes]
  by_cases same : x.name = filename
  · subst same
    have missing : d'.remove (join directory x.name) = .error .notFound := by
      simp only [remove, located, free]
    rw [run_replaceBy_self located free (getLast?_join directory down)]
    simp only [Script.run_step, DiskOp.apply, missing, changed, Script.run_done]
    exact .lost good ready takes rfl
  · have apart : placeOf (join directory filename) ≠ temporary := by
      rw [temporary_eq, placeOf_join directory down, (directory?_eq_ok found).1]
      exact fun places => same (by simpa using (List.append_cancel_left places).symm)
    have other : join directory x.name ≠ join directory filename := by
      intro paths
      rw [← paths, ← locate_eq_ok located] at apart
      exact apart rfl
    -- the temporary file was not there before, so removing it brings the disk back
    have removed : (d'.put temporary (.file content)).remove (join directory x.name) = .ok d' :=
      remove_put_free located free
    simp only [run_replaceBy found located free down apart]
    cases led : d'.locate (join directory filename) with
    | error e =>
      simp only [Script.run_step, DiskOp.apply, removed, changed, Script.run_done]
      exact .unreachable good ready led
    | ok target =>
      by_cases taken : d'.node? target = some .directory
      · simp only [if_pos taken, Script.run_step, DiskOp.apply, removed, changed, Script.run_done]
        exact .occupied good ready led taken
      · simp only [if_neg taken, Script.run_done]
        exact .done good ready takes other led taken

theorem settles_save (d : Disk) (directory filename : String) (content : Bytes) (draws : Draws) :
    Settles d directory filename content draws ((save directory filename content draws).run d).1
      ((save directory filename content draws).run d).2 := by
  by_cases bad : Unfit filename
  · rw [save, if_neg (fun valid => isFilename_iff.mp valid bad)]
    exact .unfit bad
  · have prepared := ready_ensureDirectory d directory draws.probe
    cases ran : (ensureDirectory directory draws.probe).run d with
    | mk outcome d' =>
      rw [ran] at prepared
      cases prepared with
      | refused reason =>
        simp only [save, if_pos (isFilename_iff.mpr bad), Script.run_bind, ran, Script.run_done]
        exact .unready bad ran
      | ready found =>
        cases takes : d'.makeTemporary directory draws.file with
        | ok made => exact settles_of_taken bad ran takes
        | error e =>
          simp only [save, if_pos (isFilename_iff.mpr bad), Script.run_bind, ran, Script.run_step,
            DiskOp.apply, takes, Script.run_done]
          exact .unmade bad ran takes

theorem Settles.keeps {result : Except SaveError String} {d' : Disk} {e : SaveError}
    (settles : Settles d directory filename content draws result d') (failed : result = .error e)
    (place : Place) : Keeps (ways directory) d d' place := by
  have prepared := keeps_ensureDirectory_run d directory draws.probe place
  cases settles with
  | unfit bad => exact .inl rfl
  | unready good refused => rwa [refused] at prepared
  | unmade good ready _ | lost good ready _ _ | unreachable good ready _
    | occupied good ready _ _ => rwa [ready] at prepared
  | done good ready takes other located free => cases failed

/-- What a save that succeeds leaves. -/
structure Kept (d : Disk) (directory filename : String) (content : Bytes) (path : String)
    (d' : Disk) : Prop where
  path_eq : path = join directory filename
  child : placeOf path = placeOf directory ++ [filename]
  holds : d'.look path = .ok (.file content)
  others : ∀ place, place ≠ placeOf path → Keeps (ways directory) d d' place

theorem Settles.kept {path : String} {d' : Disk}
    (settles : Settles d directory filename content draws (.ok path) d') :
    Kept d directory filename content path d' := by
  cases settles with
  | @done made target d₁ good ready takes other located free =>
    have down := leadsDown_of_isFilename (isFilename_iff.mpr good)
    have here : target ≠ [] := ne_nil_of_node? free
    refine ⟨rfl, placeOf_join directory down, ?_, fun place other => ?_⟩
    · exact look_eq ((hasDirectoriesOf_put free).locate located) (getLast?_join directory down)
        (node?_put here)
    · have prepared := keeps_ensureDirectory_run d directory draws.probe place
      rw [ready] at prepared
      rw [← locate_eq_ok located] at other
      rwa [Keeps, node?_put_of_ne other]

/-- What a save comes to. -/
structure SaveSpec (d : Disk) (directory filename : String) (content : Bytes) (draws : Draws)
    (result : Except SaveError String) (d' : Disk) : Prop where
  refused_iff : (∃ name, result = .error (.invalidFilename name)) ↔ Unfit filename
  refused : Unfit filename → result = .error (.invalidFilename filename) ∧ d' = d
  failed : ∀ e, result = .error e → ∀ place, Keeps (ways directory) d d' place
  saved : ∀ path, result = .ok path → Kept d directory filename content path d'
  saved_iff : (∃ path, result = .ok path) ↔ ¬ Unfit filename ∧
    ∃ e made target, (ensureDirectory directory draws.probe).run d = (.ok (), e) ∧
      e.makeTemporary directory draws.file = .ok made ∧ made.1 ≠ join directory filename ∧
      e.locate (join directory filename) = .ok target ∧ e.node? target ≠ some .directory

/-- A save succeeds exactly if nothing stops it. -/
theorem Settles.saved_iff {result : Except SaveError String} {d' : Disk}
    (settles : Settles d directory filename content draws result d') :
    (∃ path, result = .ok path) ↔ ¬ Unfit filename ∧
      ∃ e made target, (ensureDirectory directory draws.probe).run d = (.ok (), e) ∧
        e.makeTemporary directory draws.file = .ok made ∧ made.1 ≠ join directory filename ∧
        e.locate (join directory filename) = .ok target ∧ e.node? target ≠ some .directory := by
  cases settles with
  | unfit bad => exact iff_of_false nofun fun ⟨good, _⟩ => good bad
  | unready good refused =>
    refine iff_of_false nofun ?_
    rintro ⟨-, e, made, target, ready, -⟩
    cases refused.symm.trans ready
  | unmade good ready refused =>
    refine iff_of_false nofun ?_
    rintro ⟨-, e, made, target, ready', takes, -⟩
    cases ready.symm.trans ready'
    cases refused.symm.trans takes
  | lost good ready takes same =>
    refine iff_of_false nofun ?_
    rintro ⟨-, e, made, target, ready', takes', other, -⟩
    cases ready.symm.trans ready'
    cases takes.symm.trans takes'
    exact other same
  | unreachable good ready refused =>
    refine iff_of_false nofun ?_
    rintro ⟨-, e, made, target, ready', -, -, located, -⟩
    cases ready.symm.trans ready'
    cases refused.symm.trans located
  | occupied good ready located taken =>
    refine iff_of_false nofun ?_
    rintro ⟨-, e, made, target, ready', -, -, located', free⟩
    cases ready.symm.trans ready'
    cases located.symm.trans located'
    exact free taken
  | done good ready takes other located free =>
    exact iff_of_true ⟨_, rfl⟩ ⟨good, _, _, _, ready, takes, other, located, free⟩

theorem Settles.spec {result : Except SaveError String} {d' : Disk}
    (settles : Settles d directory filename content draws result d') :
    SaveSpec d directory filename content draws result d' where
  refused_iff := by
    cases settles with
    | unfit bad => exact iff_of_true ⟨filename, rfl⟩ bad
    | _ => exact iff_of_false nofun ‹¬ Unfit filename›
  refused bad := by
    cases settles with
    | unfit bad => exact ⟨rfl, rfl⟩
    | _ => exact absurd bad ‹¬ Unfit filename›
  failed e := settles.keeps
  saved path ok := by
    subst ok
    exact settles.kept
  saved_iff := settles.saved_iff

/-! ## Saves one after the other -/

/-- An artifact to be saved, with what is drawn for it. -/
structure Artifact where
  directory : String
  filename : String
  content : Bytes
  draws : Draws

/-- An artifact, and what came of saving it. -/
structure Attempt extends Artifact where
  result : Except SaveError String

/-- Whether an attempt put its artifact at a place. -/
def Attempt.landed (a : Attempt) (place : Place) : Bool :=
  match a.result with
  | .ok path => placeOf path == place
  | .error _ => false

/-- Saves one more artifact. -/
def saveNext (s : List Attempt × Disk) (a : Artifact) : List Attempt × Disk :=
  let (result, d) := (save a.directory a.filename a.content a.draws).run s.2
  (⟨a, result⟩ :: s.1, d)

/-- Saves artifacts one after the other. The attempts are kept newest first. -/
def saveAll (d : Disk) (artifacts : List Artifact) : List Attempt × Disk :=
  artifacts.foldl saveNext ([], d)

/-- Each place holds what the last attempt that reached it has put there, and otherwise the file
that was there before any. -/
def Leaves (d : Disk) (s : List Attempt × Disk) : Prop :=
  ∀ place, s.2.file? place =
    ((s.1.find? (·.landed place)).map fun a => some a.content).getD (d.file? place)

theorem Disk.Keeps.file?_eq {d' : Disk} {ways : List Place} {place : Place}
    (keeps : Keeps ways d d' place) : d'.file? place = d.file? place := by
  rcases keeps with same | ⟨-, free, made⟩
  · rw [file?, same, file?]
  · rw [file?_of_node? free, file?, made]

theorem Leaves.saveNext {s : List Attempt × Disk} (leaves : Leaves d s) (a : Artifact) :
    Leaves d (saveNext s a) := by
  intro place
  have spec := (settles_save s.2 a.directory a.filename a.content a.draws).spec
  simp only [Storage.saveNext]
  generalize (save a.directory a.filename a.content a.draws).run s.2 = r at spec
  obtain ⟨result, d'⟩ := r
  cases result with
  | error e =>
    have same := (spec.failed e rfl place).file?_eq
    simpa [List.find?_cons, Attempt.landed] using same.trans (leaves place)
  | ok path =>
    have kept := spec.saved path rfl
    by_cases here : placeOf path = place
    · have node := (look_does d' path)
      rw [kept.holds] at node
      simpa [List.find?_cons, Attempt.landed, here] using file?_eq_some.mpr (here ▸ node.1)
    · have same := (kept.others place (Ne.symm here)).file?_eq
      simpa [List.find?_cons, Attempt.landed, here] using same.trans (leaves place)

theorem leaves_saveAll (d : Disk) (artifacts : List Artifact) : Leaves d (saveAll d artifacts) :=
  List.foldlRecOn artifacts saveNext (motive := Leaves d) (fun _ => rfl)
    fun _ leaves a _ => leaves.saveNext a

theorem attempted_foldl (s : List Attempt × Disk) (artifacts : List Artifact) :
    (artifacts.foldl saveNext s).1.map (·.toArtifact) =
      artifacts.reverse ++ s.1.map (·.toArtifact) := by
  induction artifacts generalizing s with
  | nil => rfl
  | cons a rest ih =>
    rw [List.foldl_cons, ih, List.reverse_cons, List.append_assoc]
    rfl

/-- On a disk whose operations fail only for what is on it, and whatever is drawn for the temporary
files, a save refuses exactly the names that are none of a file in its directory, and then changes
nothing. One that succeeds leaves its artifact under the path it yields; one that fails leaves every
file as it was. In neither case is anything else new but directories on the way to the artifact's
own. So after any number of saves each place holds what the last one that reached it put there. -/
theorem saves_stay_inside (d : Disk) :
    (∀ directory filename content draws,
      SaveSpec d directory filename content draws
        ((save directory filename content draws).run d).1
        ((save directory filename content draws).run d).2) ∧
      ∀ artifacts, (saveAll d artifacts).1.map (·.toArtifact) = artifacts.reverse ∧
        Leaves d (saveAll d artifacts) := by
  refine ⟨fun _ _ _ _ => (settles_save d _ _ _ _).spec, fun artifacts => ⟨?_, leaves_saveAll d _⟩⟩
  simpa [saveAll] using attempted_foldl ([], d) artifacts

end AnalysisPanel.Storage
