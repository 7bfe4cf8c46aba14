import AnalysisPanel.Program.World
import AnalysisPanel.Proofs.Service.Pending

/-! What acts leave in a world. Besides what a save does to the disk, each act that is performed
adds its line to the terminal or to the log, or its order to the queue of the engine, in the order
of the acts; so what a run of acts adds is told from the acts alone. -/

namespace AnalysisPanel

open Service

namespace Act

/-- The order that an act puts in the queue of the engine. -/
def order? : Act → Option Order
  | .order o => some o
  | _ => none

/-- The text that an act puts on the terminal. -/
def text? : Act → Option String
  | .print text => some text
  | _ => none

/-- The line that an act puts in a log under a label. -/
def line? (label : String) : Act → Option Log.Line
  | .log level message => some (.of label level message)
  | _ => none

/-- Whether an act touches the disk. -/
def isSave : Act → Bool
  | .save _ _ => true
  | _ => false

/-- The acts that are performed in the course of acts: a save is followed by what is done
once it has come out. -/
def performed (downloads : String) (draws : Nat → Storage.Draws) (disk : Storage.Disk) :
    List Act → List Act
  | [] => []
  | .save filename content :: rest =>
    let (result, disk) := (Storage.save downloads filename content (draws 0)).run disk
    .save filename content :: Host.savedActs filename content result ++
      performed downloads (fun k => draws (k + 1)) disk rest
  | a :: rest => a :: performed downloads draws disk rest

variable {downloads : String} {draws : Nat → Storage.Draws} {disk : Storage.Disk}

theorem performed_of_not_isSave {a : Act} (plain : a.isSave = false) (rest : List Act) :
    performed downloads draws disk (a :: rest) = a :: performed downloads draws disk rest := by
  cases a with
  | save filename content => cases plain
  | _ => rfl

/-- Acts that touch no disk are performed as they are. -/
theorem performed_append {plain : List Act} (idle : ∀ a ∈ plain, a.isSave = false)
    (acts : List Act) :
    performed downloads draws disk (acts ++ plain) =
      performed downloads draws disk acts ++ plain := by
  induction acts generalizing draws disk with
  | nil =>
    induction plain with
    | nil => rfl
    | cons a rest ih =>
      obtain ⟨first, later⟩ := List.forall_mem_cons.mp idle
      rw [List.nil_append, performed_of_not_isSave first]
      exact congrArg (a :: ·) (ih later)
  | cons a rest ih =>
    cases a with
    | save filename content =>
      simp only [performed, List.cons_append, List.append_assoc, ih]
    | _ => exact congrArg (_ :: ·) ih

/-- Whatever comes before and after it, a text that is to be printed is printed. -/
theorem texts_of_print (downloads : String) (draws : Nat → Storage.Draws) (disk : Storage.Disk)
    (text : String) (before after : List Act) :
    ∃ earlier later,
      (performed downloads draws disk (before ++ .print text :: after)).filterMap text? =
        earlier ++ text :: later := by
  induction before generalizing draws disk with
  | nil => exact ⟨[], _, rfl⟩
  | cons a rest ih =>
    cases a with
    | save filename content =>
      obtain ⟨earlier, later, same⟩ := ih (fun k => draws (k + 1))
        ((Storage.save downloads filename content (draws 0)).run disk).2
      rw [List.cons_append, performed, List.filterMap_append, same, ← List.append_assoc]
      exact ⟨_, later, rfl⟩
    | print other =>
      obtain ⟨earlier, later, same⟩ := ih draws disk
      exact ⟨other :: earlier, later, congrArg (other :: ·) same⟩
    | _ => exact ih draws disk

theorem isSave_savedActs (filename : String) (content : Bytes)
    (result : Except Storage.SaveError String) :
    ∀ a ∈ Host.savedActs filename content result, a.isSave = false := by
  cases result <;> simp [Host.savedActs, isSave]

theorem orders_savedActs (filename : String) (content : Bytes)
    (result : Except Storage.SaveError String) :
    (Host.savedActs filename content result).filterMap order? = [] := by
  cases result <;> rfl

/-- Nothing is ordered once a save has come out. -/
theorem orders_performed (acts : List Act) :
    (performed downloads draws disk acts).filterMap order? = acts.filterMap order? := by
  induction acts generalizing draws disk with
  | nil => rfl
  | cons a rest ih =>
    cases a with
    | save filename content =>
      rw [performed, List.filterMap_append, ih, List.filterMap_cons, orders_savedActs]
      rfl
    | _ => simp only [performed, List.filterMap_cons, ih]

end Act

namespace World

/-! ## Acts in a world -/

theorem foldlM_say (w : World) {plain : List Act} (idle : ∀ a ∈ plain, a.isSave = false) :
    (plain.foldlM carrier.say w).run = plain.foldl act w := by
  induction plain generalizing w with
  | nil => rfl
  | cons a rest ih =>
    obtain ⟨first, later⟩ := List.forall_mem_cons.mp idle
    cases a with
    | save filename content => cases first
    | _ => exact ih _ later

theorem act_save (w : World) (filename : String) (content : Bytes) :
    w.act (.save filename content) =
      (Host.savedActs filename content (w.save filename content).1).foldl act
        (w.save filename content).2 :=
  foldlM_say _ (Act.isSave_savedActs filename content _)

/-- The acts of a host are carried out one after the other. -/
theorem follow_eq (w : World) (step : Host × List Act) :
    w.follow step = step.2.foldl act { w with host := step.1 } := by
  have folded (acts : List Act) (w : World) : (carrier.actAll w acts).run = acts.foldl act w := by
    induction acts generalizing w with
    | nil => rfl
    | cons a rest ih => exact ih _
  exact folded _ _

/-- What acts that are performed add to a world. -/
structure Adds (w : World) (acts : List Act) (w' : World) : Prop where
  host : w'.host = w.host
  label : w'.label = w.label
  engine : w'.engine = w.engine.submitAll (acts.filterMap Act.order?)
  printed : w'.printed = w.printed ++ acts.filterMap Act.text?
  logs : w'.logs = w.logs ++ acts.filterMap (Act.line? w.label)

variable {w₁ w₂ : World}

theorem Adds.refl (w : World) : w.Adds [] w where
  host := rfl
  label := rfl
  engine := (Engine.submitAll_nil _).symm
  printed := (List.append_nil _).symm
  logs := (List.append_nil _).symm

theorem Adds.trans {w : World} {acts acts' : List Act} (first : w.Adds acts w₁)
    (second : w₁.Adds acts' w₂) : w.Adds (acts ++ acts') w₂ where
  host := second.host.trans first.host
  label := second.label.trans first.label
  engine := by
    rw [second.engine, first.engine, List.filterMap_append]
    simp [Engine.submitAll]
  printed := by rw [second.printed, first.printed, List.filterMap_append, List.append_assoc]
  logs := by
    rw [second.logs, first.logs, first.label, List.filterMap_append, List.append_assoc]

/-- An act that touches no disk adds what it says. -/
theorem adds_of_not_isSave (w : World) {a : Act} (plain : a.isSave = false) :
    w.Adds [a] (w.act a) := by
  have unsaid {α : Type} (kept : List α) : kept = kept ++ [] := (List.append_nil kept).symm
  cases a with
  | save filename content => cases plain
  | order o => exact ⟨rfl, rfl, rfl, unsaid _, unsaid _⟩
  | print text => exact ⟨rfl, rfl, (Engine.submitAll_nil _).symm, rfl, unsaid _⟩
  | log level message => exact ⟨rfl, rfl, (Engine.submitAll_nil _).symm, unsaid _, rfl⟩

theorem adds_of_idle (w : World) {plain : List Act} (idle : ∀ a ∈ plain, a.isSave = false) :
    w.Adds plain (plain.foldl act w) := by
  induction plain generalizing w with
  | nil => exact .refl w
  | cons a rest ih =>
    obtain ⟨first, later⟩ := List.forall_mem_cons.mp idle
    exact (w.adds_of_not_isSave first).trans (ih (w.act a) later)

/-- A save changes the disk, and what is done once it has come out adds to the world. -/
theorem adds_act_save (w : World) (filename : String) (content : Bytes) :
    w.Adds (.save filename content :: Host.savedActs filename content (w.save filename content).1)
      (w.act (.save filename content)) := by
  have put : w.Adds [.save filename content] (w.save filename content).2 :=
    ⟨rfl, rfl, (Engine.submitAll_nil _).symm, (List.append_nil _).symm, (List.append_nil _).symm⟩
  rw [act_save]
  exact put.trans (adds_of_idle _ (Act.isSave_savedActs filename content _))

/-- What is left for later saves after acts that touch no disk. -/
theorem storage_of_idle (w : World) {plain : List Act} (idle : ∀ a ∈ plain, a.isSave = false) :
    (plain.foldl act w).downloads = w.downloads ∧ (plain.foldl act w).draws = w.draws ∧
      (plain.foldl act w).disk = w.disk := by
  induction plain generalizing w with
  | nil => exact ⟨rfl, rfl, rfl⟩
  | cons a rest ih =>
    obtain ⟨first, later⟩ := List.forall_mem_cons.mp idle
    cases a with
    | save filename content => cases first
    | _ => exact ih _ later

/-- The acts that are performed in a world in the course of acts. -/
def performed (w : World) (acts : List Act) : List Act :=
  Act.performed w.downloads w.draws w.disk acts

/-- A run of acts adds what each of those adds that are performed. -/
theorem adds_foldl (w : World) (acts : List Act) :
    w.Adds (w.performed acts) (acts.foldl act w) := by
  induction acts generalizing w with
  | nil => exact .refl w
  | cons a rest ih =>
    cases a with
    | save filename content =>
      obtain ⟨downloads, draws, disk⟩ := storage_of_idle (w.save filename content).2
        (Act.isSave_savedActs filename content (w.save filename content).1)
      rw [← act_save] at downloads draws disk
      have later := ih (w.act (.save filename content))
      rw [performed, downloads, draws, disk] at later
      exact (w.adds_act_save filename content).trans later
    | _ => exact (w.adds_of_not_isSave rfl).trans (ih _)

/-- What a host did adds to the world that follows it. -/
theorem adds_follow (w : World) (step : Host × List Act) :
    ({ w with host := step.1 } : World).Adds (w.performed step.2) (w.follow step) := by
  rw [follow_eq]
  exact adds_foldl _ _

/-- What a host prints shows on the terminal, with what comes of its saves in between. -/
theorem printed_follow (w : World) (step : Host × List Act) :
    (w.follow step).printed = w.printed ++ (w.performed step.2).filterMap Act.text? :=
  (w.adds_follow step).printed

theorem logs_follow (w : World) (step : Host × List Act) :
    (w.follow step).logs = w.logs ++ (w.performed step.2).filterMap (Act.line? w.label) :=
  (w.adds_follow step).logs

end World

end AnalysisPanel
