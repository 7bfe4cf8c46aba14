import AnalysisPanel.Proofs.Storage.Scripts
import AnalysisPanel.Storage.Artifact

/-! Replacing an artifact. At every point of a save, whichever of its operations fail, the name
holds what it held before or the new content, unless the save has removed an earlier artifact of the
name and has not yet put the new one in its place. -/

namespace AnalysisPanel.Storage

/-! ## Operations that spare a file -/

/-- Operations that cannot change the file at a place. -/
def DiskOp.Spares (place : Place) : {β : Type} → DiskOp β → Prop
  | _, .makeTemporary directory draws => ∀ x ∈ draws, placeOf directory ++ [x.name] ≠ place
  | _, .write path _ => placeOf path ≠ place
  | _, .remove path => placeOf path ≠ place
  | _, .rename source target => placeOf source ≠ place ∧ placeOf target ≠ place
  | _, _ => True

/-- What can be told of a target: the file there, and whether one was removed from there. -/
def seen (target : String) (gone : List String) (d : Disk) : Option Bytes × Bool :=
  (d.file? (placeOf target), gone.contains target)

variable {α β : Type} {target temporary directory filename : String} {content : Bytes}
  {draws : List Draw} {prior : Option Bytes} {gone : List String} {d d' : Disk}
  {v : Option Bytes × Bool}

theorem Does.places_of_spares {op : DiskOp β} {outcome : Except DiskError β} {place : Place}
    (does : Does d op outcome d') (spares : op.Spares place) : place ∉ op.places outcome := by
  cases outcome with
  | error e => cases op <;> exact List.not_mem_nil
  | ok value =>
    cases op with
    | makeTemporary directory draws =>
      obtain ⟨-, x, drawn, rfl, -, -⟩ := does
      intro mem
      rw [List.mem_singleton.mp mem, placeOf_join directory (leadsDown_name x)] at spares
      exact spares x drawn rfl
    | write path content => exact fun mem => spares (List.mem_singleton.mp mem).symm
    | remove path => exact fun mem => spares (List.mem_singleton.mp mem).symm
    | rename source target =>
      intro mem
      rcases List.mem_cons.mp mem with old | new
      · exact spares.1 old.symm
      · exact spares.2 (List.mem_singleton.mp new).symm
    | _ => exact List.not_mem_nil

theorem notMem_removed_of_spares {op : DiskOp β} {outcome : Except DiskError β}
    (spares : op.Spares (placeOf target)) : target ∉ op.removed outcome := by
  cases outcome with
  | error e =>
    rw [DiskOp.removed_error]
    exact List.not_mem_nil
  | ok value =>
    cases op with
    | remove path => exact fun mem => spares (by rw [List.mem_singleton.mp mem])
    | _ => exact List.not_mem_nil

theorem Does.seen_eq {op : DiskOp β} {outcome : Except DiskError β} (does : Does d op outcome d')
    (spares : op.Spares (placeOf target)) :
    seen target (gone ++ op.removed outcome) d' = seen target gone d := by
  have kept : (gone ++ op.removed outcome).contains target = gone.contains target := by
    simp [notMem_removed_of_spares spares]
  rw [seen, does.file?_eq (does.places_of_spares spares), kept, seen]

/-! ## Scripts that spare a file -/

/-- A script that leaves what can be told of a target as it is. -/
def Script.Keeps (target : String) (s : Script α) : Prop :=
  ∀ v gone d, seen target gone d = v →
    s.Ensures (fun gone d => seen target gone d = v) (fun gone _ d => seen target gone d = v) gone d

namespace Script

theorem keeps_done (value : α) : (Script.done value).Keeps target :=
  fun _ _ _ same => ⟨same, same⟩

theorem keeps_step {op : DiskOp β} {next : Except DiskError β → Script α}
    (spares : op.Spares (placeOf target))
    (rest : ∀ outcome d d', Does d op outcome d' → (next outcome).Keeps target) :
    (Script.step op next).Keeps target := by
  intro v gone d same
  refine ⟨same, fun outcome d' does => rest outcome d d' does v _ d' ?_⟩
  rw [does.seen_eq spares, same]

theorem Keeps.bind {s : Script α} {f : α → Script β} (first : s.Keeps target)
    (rest : ∀ value, (f value).Keeps target) : (s.bind f).Keeps target := by
  intro v gone d same
  exact Ensures.bind ((first v gone d same).weaken (fun _ _ same => same)
    fun gone value d same => rest value v gone d same)

end Script

open Script

theorem keeps_unlessDirectory (path : String) (e : DiskError) :
    (unlessDirectory path e).Keeps target :=
  keeps_step trivial fun _ _ _ _ => keeps_done _

theorem keeps_makeDirectories (paths : List String) : (makeDirectories paths).Keeps target := by
  induction paths with
  | nil => exact keeps_done _
  | cons path above ih =>
    refine keeps_step trivial fun outcome _ _ _ => ?_
    cases outcome with
    | ok made => exact keeps_done _
    | error e =>
      cases e with
      | notFound =>
        refine ih.bind fun result => ?_
        cases result with
        | error e => exact keeps_done _
        | ok made =>
          refine keeps_step trivial fun outcome _ _ _ => ?_
          cases outcome with
          | ok made => exact keeps_done _
          | error e => exact keeps_unlessDirectory path e
      | _ => exact keeps_unlessDirectory path _

/-- No temporary file of a drawn name is at the place of a target. -/
def Clear (directory : String) (draws : List Draw) (target : String) : Prop :=
  ∀ x ∈ draws, placeOf directory ++ [x.name] ≠ placeOf target

theorem placeOf_temporary {outcome : Except DiskError String}
    (does : Does d (.makeTemporary directory draws) outcome d')
    (clear : Clear directory draws target) :
    ∀ path, outcome = .ok path → placeOf path ≠ placeOf target := by
  rintro path rfl
  obtain ⟨-, x, drawn, rfl, -, -⟩ := does
  rw [placeOf_join directory (leadsDown_name x)]
  exact clear x drawn

theorem keeps_probe (clear : Clear directory draws target) :
    (probe directory draws).Keeps target := by
  refine keeps_step clear fun outcome d d' does => ?_
  cases outcome with
  | error e => exact keeps_done _
  | ok path =>
    have apart := placeOf_temporary does clear path rfl
    exact keeps_step apart fun _ _ _ _ => keeps_done _

theorem keeps_ensureDirectory (clear : Clear directory draws target) :
    (ensureDirectory directory draws).Keeps target := by
  refine keeps_step trivial fun outcome _ _ _ => ?_
  cases found outcome with
  | true =>
    refine keeps_step trivial fun outcome _ _ _ => ?_
    cases outcome with
    | error e => exact keeps_done _
    | ok node =>
      cases node with
      | file content => exact keeps_done _
      | directory => exact keeps_probe clear
  | false =>
    refine (keeps_makeDirectories _).bind fun result => ?_
    cases result with
    | error e => exact keeps_done _
    | ok made => exact keeps_probe clear

/-! ## Replacing a file -/

/-- What may be told of a target while it is replaced: it is as it was before, its file has been
removed, or it has the new content. -/
inductive Passes (prior : Option Bytes) (content : Bytes) : Option Bytes × Bool → Prop where
  | before : Passes prior content (prior, false)
  | between : prior ≠ none → Passes prior content (none, true)
  | after (removed : Bool) : (removed = true → prior ≠ none) →
      Passes prior content (some content, removed)

theorem Passes.existed (p : Passes prior content v) (removed : v.2 = true) : prior ≠ none := by
  cases p with
  | before => cases removed
  | between existed => exact existed
  | after _ existed => exact existed removed

theorem Passes.kept (p : Passes prior content v) (present : v.2 = false) :
    v.1 = prior ∨ v.1 = some content := by
  cases p with
  | before => exact .inl rfl
  | between _ => cases present
  | after _ _ => exact .inr rfl

theorem Passes.whole (p : Passes prior content v) :
    v.1 = prior ∨ v.1 = none ∨ v.1 = some content := by
  cases p with
  | before => exact .inl rfl
  | between _ => exact .inr (.inl rfl)
  | after _ _ => exact .inr (.inr rfl)

/-- The disk while a target is replaced. -/
abbrev During (prior : Option Bytes) (content : Bytes) (target : String) (gone : List String)
    (d : Disk) : Prop :=
  Passes prior content (seen target gone d)

/-- The new content is not in place yet: the target is as it was before, or its file has been
removed. -/
def Unfinished (prior : Option Bytes) (target : String) (gone : List String) (d : Disk) : Prop :=
  seen target gone d = (prior, false) ∨ prior ≠ none ∧ seen target gone d = (none, true)

/-- What a replacement comes to. -/
def Replaces (prior : Option Bytes) (content : Bytes) (target : String) (gone : List String)
    (result : Except DiskError Unit) (d : Disk) : Prop :=
  match result with
  | .ok _ => d.file? (placeOf target) = some content
  | .error _ => Unfinished prior target gone d

theorem Unfinished.during (u : Unfinished prior target gone d) :
    During prior content target gone d := by
  rcases u with same | ⟨existed, removed⟩
  · rw [During, same]
    exact .before
  · rw [During, removed]
    exact .between existed

theorem Unfinished.existed (u : Unfinished prior target gone d)
    (removed : gone.contains target = true) : prior ≠ none := by
  rcases u with same | ⟨existed, -⟩
  · rw [show gone.contains target = false from congrArg Prod.snd same] at removed
    cases removed
  · exact existed

/-- An unfinished replacement has the earlier file in place unless it removed it. -/
theorem Unfinished.held_eq_iff (u : Unfinished prior target gone d) :
    d.file? (placeOf target) = prior ↔ target ∉ gone := by
  rcases u with same | ⟨existed, removed⟩
  · have present : target ∉ gone := by simpa [seen] using congrArg Prod.snd same
    exact ⟨fun _ => present, fun _ => congrArg Prod.fst same⟩
  · have there : target ∈ gone := by simpa [seen] using congrArg Prod.snd removed
    have missing : d.file? (placeOf target) = none := congrArg Prod.fst removed
    exact ⟨fun same => absurd (same.symm.trans missing) existed,
      fun present => absurd there present⟩

/-- The temporary file takes the place of the target, whether or not a file is there. -/
theorem ensures_rename (u : Unfinished prior target gone d)
    (filled : d.file? (placeOf temporary) = some content) :
    (inTurn [.rename temporary target]).Ensures (During prior content target)
      (Replaces prior content target) gone d := by
  refine ⟨u.during, fun outcome d' does => ?_⟩
  cases outcome with
  | error e =>
    rw [show d' = d from does, DiskOp.removed_error, List.append_nil]
    exact ⟨u.during, u⟩
  | ok value =>
    obtain ⟨written, node, free, rfl⟩ := does
    obtain rfl : content = written :=
      Option.some.inj (filled.symm.trans (Disk.file?_eq_some.mpr node))
    have holds : ((d.clear (placeOf temporary)).put (placeOf target) (.file content)).file?
        (placeOf target) = some content :=
      Disk.file?_put (Disk.ne_nil_of_node? free)
    rw [show DiskOp.removed (.rename temporary target) (.ok value) = [] from rfl, List.append_nil]
    refine ⟨?_, holds⟩
    rw [During, seen, holds]
    exact .after _ u.existed

theorem ensures_swap (apart : placeOf temporary ≠ placeOf target)
    (same : seen target gone d = (prior, false))
    (filled : d.file? (placeOf temporary) = some content) (remove : Bool) :
    (inTurn ((if remove then [.remove target] else []) ++ [.rename temporary target])).Ensures
      (During prior content target) (Replaces prior content target) gone d := by
  have u : Unfinished prior target gone d := .inl same
  cases remove with
  | false => exact ensures_rename u filled
  | true =>
    refine ⟨u.during, fun outcome d' does => ?_⟩
    cases outcome with
    | error e =>
      rw [show d' = d from does, DiskOp.removed_error, List.append_nil]
      exact ⟨u.during, u⟩
    | ok value =>
      obtain ⟨⟨old, node⟩, rfl⟩ := does
      have held : d.file? (placeOf target) = prior := congrArg Prod.fst same
      have existed : prior ≠ none := by
        rw [← held, Disk.file?_eq_some.mpr node]
        simp
      have missing : (d.clear (placeOf target)).file? (placeOf target) = none :=
        Disk.file?_clear (Disk.ne_nil_of_node? (by rw [node]; simp))
      refine ensures_rename (.inr ⟨existed, ?_⟩) ?_
      · rw [seen, missing]
        simp [DiskOp.removed]
      · rw [Disk.file?_clear_of_ne apart]
        exact filled

/-- A temporary file that is filled holds the whole content. -/
theorem ensures_fill (apart : placeOf temporary ≠ placeOf target) {v : Option Bytes × Bool}
    (same : seen target gone d = v) :
    (inTurn [.write temporary content, .flush temporary, .sync temporary]).Ensures
      (fun gone d => seen target gone d = v)
      (fun gone result d => seen target gone d = v ∧
        ∀ done, result = .ok done → d.file? (placeOf temporary) = some content) gone d := by
  refine ⟨same, fun outcome d₁ does => ?_⟩
  have same₁ := (does.seen_eq apart).trans same
  cases outcome with
  | error e => exact ⟨same₁, same₁, fun done ok => nomatch ok⟩
  | ok value =>
    obtain ⟨⟨old, node⟩, rfl⟩ := does
    have filled : (d.put (placeOf temporary) (.file content)).file? (placeOf temporary) =
        some content :=
      Disk.file?_put (Disk.ne_nil_of_node? (by rw [node]; simp))
    refine ⟨same₁, fun outcome d₂ does => ?_⟩
    have same₂ := (does.seen_eq trivial).trans same₁
    cases outcome with
    | error e => exact ⟨same₂, same₂, fun done ok => nomatch ok⟩
    | ok value =>
      refine ⟨same₂, fun outcome d₃ does' => ?_⟩
      have same₃ := (does'.seen_eq trivial).trans same₂
      cases outcome with
      | error e => exact ⟨same₃, same₃, fun done ok => nomatch ok⟩
      | ok value =>
        refine ⟨same₃, same₃, fun done ok => ?_⟩
        rw [show d₃ = d₂ from does', show d₂ = _ from does]
        exact filled

theorem during_of_same {gone : List String} {d : Disk}
    (same : seen target gone d = (prior, false)) :
    During prior content target gone d := by
  rw [During, same]
  exact .before

theorem ensures_replaceBy (apart : placeOf temporary ≠ placeOf target)
    (same : seen target gone d = (prior, false)) :
    (replaceBy temporary target content).Ensures (During prior content target)
      (Replaces prior content target) gone d := by
  refine Ensures.bind ((ensures_fill apart same).weaken (fun _ _ => during_of_same) ?_)
  rintro gone result d ⟨same, fills⟩
  cases result with
  | error e => exact ⟨during_of_same same, .inl same⟩
  | ok done =>
    refine ⟨during_of_same same, fun outcome d' does => ?_⟩
    have same' : seen target (gone ++ DiskOp.removed (.look target) outcome) d' = (prior, false) :=
      (does.seen_eq trivial).trans same
    have filled : d'.file? (placeOf temporary) = some content := by
      rw [does.file?_eq (by cases outcome <;> exact List.not_mem_nil)]
      exact fills done rfl
    exact ensures_swap apart same' filled (found outcome)

/-! ## Saving an artifact -/

/-- What a save comes to. -/
def Saves (prior : Option Bytes) (content : Bytes) (target : String) (gone : List String)
    (result : Except SaveError String) (d : Disk) : Prop :=
  match result with
  | .ok path => path = target ∧ d.file? (placeOf target) = some content
  | .error _ => Unfinished prior target gone d

theorem leadsDown_of_isFilename (valid : isFilename filename = true) : LeadsDown filename := by
  simp only [isFilename, Bool.and_eq_true, bne_iff_ne, ne_eq, Bool.not_eq_eq_eq_not, Bool.not_true,
    List.contains_eq_mem, decide_eq_false_iff_not] at valid
  obtain ⟨⟨⟨⟨nonempty, slashless⟩, -⟩, dot⟩, dots⟩ := valid
  exact ⟨nonempty, slashless, dot, dots⟩

/-- No temporary file takes the name of the artifact. There are many names to draw from, but an
artifact may have any of them. -/
def Draws.Avoid (draws : Draws) (filename : String) : Prop :=
  ∀ x ∈ draws.probe ++ draws.file, x.name ≠ filename

instance (draws : Draws) (filename : String) : Decidable (draws.Avoid filename) :=
  inferInstanceAs (Decidable (∀ x ∈ draws.probe ++ draws.file, x.name ≠ filename))

theorem clear_of_ne (valid : isFilename filename = true) (other : ∀ x ∈ draws, x.name ≠ filename) :
    Clear directory draws (join directory filename) := by
  intro x drawn same
  rw [placeOf_join directory (leadsDown_of_isFilename valid)] at same
  exact other x drawn (by simpa using List.append_cancel_left same)

theorem ensures_save {draws : Draws} (valid : isFilename filename = true)
    (avoid : draws.Avoid filename)
    (same : seen (join directory filename) gone d = (prior, false)) :
    (save directory filename content draws).Ensures
      (During prior content (join directory filename))
      (Saves prior content (join directory filename)) gone d := by
  obtain ⟨others, others'⟩ := List.forall_mem_append.mp avoid
  have clear : Clear directory draws.file (join directory filename) := clear_of_ne valid others'
  rw [save, if_pos valid]
  refine Ensures.bind ((keeps_ensureDirectory (clear_of_ne valid others) _ _ _ same).weaken
    (fun _ _ => during_of_same) fun gone result d same => ?_)
  cases result with
  | error e => exact ⟨during_of_same same, .inl same⟩
  | ok ready =>
    refine ⟨during_of_same same, fun outcome d' does => ?_⟩
    have same' := (does.seen_eq clear).trans same
    cases outcome with
    | error e => exact ⟨during_of_same same', .inl same'⟩
    | ok temporary =>
      have apart := placeOf_temporary does clear temporary rfl
      refine Ensures.bind ((ensures_replaceBy apart same').at_end.weaken
        (fun _ _ during => during) ?_)
      rintro gone result d ⟨during, replaces⟩
      cases result with
      | ok done => exact ⟨during, rfl, replaces⟩
      | error e =>
        have u : Unfinished prior (join directory filename) gone d := replaces
        refine ⟨u.during, fun outcome d' does => ?_⟩
        have same'' :
            seen (join directory filename) (gone ++ DiskOp.removed (.remove temporary) outcome) d' =
              seen (join directory filename) gone d :=
          does.seen_eq apart
        have u' : Unfinished prior (join directory filename)
            (gone ++ DiskOp.removed (.remove temporary) outcome) d' := by
          rw [Unfinished, same'']
          exact u
        exact ⟨u'.during, u'⟩

/-- Whatever operations fail and wherever a save is interrupted, as long as no temporary file
takes the name of the artifact: at every point its target holds what it held before or the new
content exactly if the save removes no file from there. Where it does, nothing else than a missing
file is ever found besides. A save that succeeds yields the path of the target with the new
content; one that fails leaves the earlier file in place exactly if it has not removed it. No file
is removed where none was. -/
theorem save_atomic_iff (d : Disk) (directory filename : String) (content : Bytes) {draws : Draws}
    (avoid : draws.Avoid filename) (faults : List (Option DiskError)) :
    let s := save directory filename content draws
    let target := join directory filename
    let held (d : Disk) := d.file? (placeOf target)
    ((∀ d' ∈ s.disks d faults, held d' = held d ∨ held d' = some content) ↔
        target ∉ s.removals d faults) ∧
      (∀ d' ∈ s.disks d faults, held d' = held d ∨ held d' = none ∨ held d' = some content) ∧
      (∀ path, (s.runWith d faults).1 = .ok path →
        path = target ∧ held (s.runWith d faults).2 = some content) ∧
      (∀ e, (s.runWith d faults).1 = .error e →
        (held (s.runWith d faults).2 = held d ↔ target ∉ s.removals d faults)) ∧
      (held d = none → target ∉ s.removals d faults) := by
  intro s target held
  by_cases valid : isFilename filename = true
  · have ensures :
        s.Ensures (During (held d) content target) (Saves (held d) content target) [] d :=
      ensures_save valid avoid rfl
    obtain ⟨ends, passes⟩ := ensures.at_end.of_run faults
    rw [List.nil_append] at ends passes
    have existed (removed : target ∈ s.removals d faults) : held d ≠ none :=
      ends.1.existed (List.contains_iff_mem.mpr removed)
    refine ⟨⟨?_, ?_⟩, ?_, ?_, ?_, fun none removed => existed removed none⟩
    · intro atomic removed
      obtain ⟨d', mem, missing⟩ := exists_disk_of_removed removed
      rcases atomic d' mem with same | new
      · exact existed removed (same.symm.trans missing)
      · cases missing.symm.trans new
    · intro present d' mem
      obtain ⟨before, prior, passes⟩ := passes d' mem
      have absent : target ∉ before := fun removed => present (prior.subset removed)
      exact passes.kept (by simpa [seen] using absent)
    · intro d' mem
      obtain ⟨before, -, passes⟩ := passes d' mem
      exact passes.whole
    · intro path ok
      have saves := ends.2
      rw [ok] at saves
      exact saves
    · intro e failed
      have saves := ends.2
      rw [failed] at saves
      exact Unfinished.held_eq_iff saves
  · have idle : s = .done (.error (.invalidFilename filename)) := if_neg valid
    rw [idle]
    refine ⟨?_, ?_, ?_, ?_, fun _ => List.not_mem_nil⟩
    · exact ⟨fun _ => List.not_mem_nil, fun _ d' mem => .inl (by rw [List.mem_singleton.mp mem])⟩
    · exact fun d' mem => .inl (by rw [List.mem_singleton.mp mem])
    · exact fun path ok => nomatch ok
    · exact fun e _ => ⟨fun _ => List.not_mem_nil, fun _ => rfl⟩

/-- A report is saved where an earlier one is, and its content cannot be written: the earlier report
is there all the while. -/
theorem save_atomic_iff_unwritten :
    let d : Disk := ⟨[(["downloads", "report.doc"], .file [1]), (["downloads"], .directory)]⟩
    let faults := List.replicate 5 none ++ [some (.fault "no space left")]
    let s := save "downloads" "report.doc" [2]
    let held (d : Disk) := d.file? (placeOf (join "downloads" "report.doc"))
    ({} : Draws).Avoid "report.doc" ∧
      s.removals d faults = ["downloads/.tmp000000", "downloads/.tmp000000"] ∧
      (∀ d' ∈ s.disks d faults, held d' = some [1] ∨ held d' = some [2]) := by
  intro d faults s held
  have avoid : ({} : Draws).Avoid "report.doc" := by decide
  have removals : s.removals d faults = ["downloads/.tmp000000", "downloads/.tmp000000"] := by
    decide
  obtain ⟨atomic, -⟩ := save_atomic_iff d "downloads" "report.doc" [2] avoid faults
  refine ⟨avoid, removals, atomic.mpr ?_⟩
  change join "downloads" "report.doc" ∉ s.removals d faults
  rw [removals]
  decide

/-- A report is saved where an earlier one is, and the last operation, which is to give the new one
its name, fails: the earlier report has been removed by then. -/
theorem report_lost_between_remove_and_rename :
    let d : Disk := ⟨[(["downloads", "report.doc"], .file [1]), (["downloads"], .directory)]⟩
    let faults := List.replicate 10 none ++ [some (.fault "no space left")]
    let s := save "downloads" "report.doc" [2]
    d.file? (placeOf (join "downloads" "report.doc")) = some [1] ∧
      (s.runWith d faults).1 = .error (.disk (.fault "no space left")) ∧
      (s.runWith d faults).2.file? (placeOf (join "downloads" "report.doc")) = none := by
  decide

end AnalysisPanel.Storage
