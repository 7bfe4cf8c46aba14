import AnalysisPanel.Proofs.Storage.Semantics

/-! What a script ensures on a disk of which any operation may fail, and which may be looked at
after any operation. -/

namespace AnalysisPanel.Storage

/-- The path of a file that an operation removed. -/
def DiskOp.removed : {β : Type} → DiskOp β → Except DiskError β → List String
  | _, .remove path, .ok _ => [path]
  | _, _, _ => []

@[simp] theorem DiskOp.removed_error {β : Type} (op : DiskOp β) (e : DiskError) :
    op.removed (.error e) = [] := by
  cases op <;> rfl

theorem Does.file?_of_removed {d d' : Disk} {β : Type} {op : DiskOp β}
    {outcome : Except DiskError β} (does : Does d op outcome d') {path : String}
    (gone : path ∈ op.removed outcome) : d'.file? (placeOf path) = none := by
  cases outcome with
  | error e =>
    rw [DiskOp.removed_error] at gone
    cases gone
  | ok value =>
    cases op with
    | remove path' =>
      obtain ⟨⟨content, node⟩, rfl⟩ := does
      rw [List.mem_singleton.mp gone]
      exact Disk.file?_clear (Disk.ne_nil_of_node? (by rw [node]; simp))
    | _ => cases gone

namespace Script

variable {α β : Type}

/-- The paths of the files that a script removes, in order. -/
def removals (d : Disk) (faults : List (Option DiskError)) : Script α → List String
  | .done _ => []
  | .step op next =>
    match faults with
    | some fault :: rest => (next (.error fault)).removals d rest
    | _ =>
      let outcome := op.apply d
      op.removed outcome.1 ++ (next outcome.1).removals outcome.2 faults.tail

/-- However its operations come out, a script finds and leaves `during` at every operation, and at
its end `after` of what it yields. Both are said of the files removed so far and of the disk. -/
def Ensures (during : List String → Disk → Prop) (after : List String → α → Disk → Prop) :
    List String → Disk → Script α → Prop
  | gone, d, .done value => during gone d ∧ after gone value d
  | gone, d, .step op next =>
    during gone d ∧ ∀ outcome d', Does d op outcome d' →
      Ensures during after (gone ++ op.removed outcome) d' (next outcome)

variable {during : List String → Disk → Prop} {after : List String → α → Disk → Prop}
  {gone : List String} {d : Disk} {s : Script α}

theorem Ensures.bind {f : α → Script β} {last : List String → β → Disk → Prop}
    (first : s.Ensures during (fun gone value d => (f value).Ensures during last gone d) gone d) :
    (s.bind f).Ensures during last gone d := by
  induction s generalizing gone d with
  | done value => exact first.2
  | step op next ih =>
    refine ⟨first.1, fun outcome d' does => ?_⟩
    exact ih outcome (first.2 outcome d' does)

theorem Ensures.weaken {during' : List String → Disk → Prop}
    {after' : List String → α → Disk → Prop} (e : s.Ensures during after gone d)
    (passes : ∀ gone d, during gone d → during' gone d)
    (ends : ∀ gone value d, after gone value d → after' gone value d) :
    s.Ensures during' after' gone d := by
  induction s generalizing gone d with
  | done value => exact ⟨passes _ _ e.1, ends _ _ _ e.2⟩
  | step op next ih =>
    exact ⟨passes _ _ e.1, fun outcome d' does => ih outcome (e.2 outcome d' does)⟩

theorem Ensures.at_end (e : s.Ensures during after gone d) :
    s.Ensures during (fun gone value d => during gone d ∧ after gone value d) gone d := by
  induction s generalizing gone d with
  | done value => exact ⟨e.1, e⟩
  | step op next ih => exact ⟨e.1, fun outcome d' does => ih outcome (e.2 outcome d' does)⟩

/-- By induction on the script, with the files removed before it. -/
theorem Ensures.of_run (e : s.Ensures during after gone d) (faults : List (Option DiskError)) :
    after (gone ++ s.removals d faults) (s.runWith d faults).1 (s.runWith d faults).2 ∧
      ∀ d' ∈ s.disks d faults, ∃ before, before <+: gone ++ s.removals d faults ∧
        during before d' := by
  induction s generalizing gone d faults with
  | done value =>
    rw [removals, List.append_nil]
    refine ⟨e.2, fun d' mem => ⟨gone, List.prefix_refl _, ?_⟩⟩
    rw [List.mem_singleton.mp mem]
    exact e.1
  | step op next ih =>
    have unhindered (rest : List (Option DiskError)) :=
      ih _ (e.2 _ _ (apply_does d op)) rest
    simp only [List.append_assoc] at unhindered
    rcases faults with _ | ⟨_ | fault, rest⟩
    · obtain ⟨ends, passes⟩ := unhindered []
      exact ⟨ends, List.forall_mem_cons.mpr ⟨⟨gone, List.prefix_append .., e.1⟩, passes⟩⟩
    · obtain ⟨ends, passes⟩ := unhindered rest
      exact ⟨ends, List.forall_mem_cons.mpr ⟨⟨gone, List.prefix_append .., e.1⟩, passes⟩⟩
    · have hindered := ih _ (e.2 _ _ (does_failed d op fault)) rest
      rw [DiskOp.removed_error, List.append_nil] at hindered
      obtain ⟨ends, passes⟩ := hindered
      exact ⟨ends, List.forall_mem_cons.mpr ⟨⟨gone, List.prefix_append .., e.1⟩, passes⟩⟩

/-- Right after a file is removed there is none in its place. -/
theorem exists_disk_of_removed {path : String} {faults : List (Option DiskError)}
    (gone : path ∈ s.removals d faults) :
    ∃ d' ∈ s.disks d faults, d'.file? (placeOf path) = none := by
  induction s generalizing d faults with
  | done value => cases gone
  | step op next ih =>
    have starts (s : Script α) (d : Disk) (faults : List (Option DiskError)) :
        d ∈ s.disks d faults := by
      cases s with
      | done value => exact List.mem_singleton_self _
      | step op next => rcases faults with _ | ⟨_ | fault, rest⟩ <;> exact List.mem_cons_self
    have unhindered (rest : List (Option DiskError))
        (gone : path ∈ op.removed (op.apply d).1 ++
          (next (op.apply d).1).removals (op.apply d).2 rest) :
        ∃ d' ∈ d :: (next (op.apply d).1).disks (op.apply d).2 rest,
          d'.file? (placeOf path) = none := by
      rcases List.mem_append.mp gone with now | later
      · refine ⟨(op.apply d).2, List.mem_cons_of_mem _ (starts _ _ _), ?_⟩
        exact (apply_does d op).file?_of_removed now
      · obtain ⟨d', mem, none⟩ := ih _ later
        exact ⟨d', List.mem_cons_of_mem _ mem, none⟩
    rcases faults with _ | ⟨_ | fault, rest⟩
    · exact unhindered [] gone
    · exact unhindered rest gone
    · obtain ⟨d', mem, none⟩ := ih _ gone
      exact ⟨d', List.mem_cons_of_mem _ mem, none⟩

end Script

end AnalysisPanel.Storage
