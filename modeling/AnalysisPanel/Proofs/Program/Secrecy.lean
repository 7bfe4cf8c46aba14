import AnalysisPanel.Proofs.Program.Session
import AnalysisPanel.Proofs.Service.Bodies

/-! Where the password of the data source goes. It stands in the requests for a synthesis, at one
place of their bodies, and nothing else that the program does hangs on it. -/

namespace AnalysisPanel

/-! ## Another password -/

/-- Puts a tree at the end of a way of keys through objects, wherever a tree stands there. -/
def Json.putAt {ν : Type} : List String → Json ν → Json ν → Json ν
  | [], new, _ => new
  | key :: rest, new, .object fields =>
    .object (fields.map fun field =>
      if field.1 = key then (field.1, putAt rest new field.2) else field)
  | _ :: _, _, other => other

namespace Service

/-- The settings with another password of the data source. -/
def Settings.withPassword (s : Settings) (password : Option String) : Settings :=
  { s with dataSource := { s.dataSource with password } }

/-- A request whose body has another password of the data source. -/
def Request.withPassword (r : Request) (password : String) : Request :=
  { r with body := r.body.map (Json.putAt ["database", "password"] (.string password)) }

/-- The request of a call with another password, which only a synthesis is told. -/
def Request.retold (r : Request) (call : Call) (password : String) : Request :=
  if call.operation = .synthesize then r.withPassword password else r

end Service

open Service

/-- The same call, with another password in the request if that is for a synthesis. -/
def Posted.withPassword (p : Posted) (password : String) : Posted :=
  { p with request := p.request.retold p.call password }

/-- The same session, except for the password in the requests for a synthesis. -/
def Session.withPassword (s : Session) (password : String) : Session :=
  { s with posted := s.posted.map (·.withPassword password) }

/-- The same course of the program, except for the password in the requests for a synthesis. -/
def Program.Course.withPassword : Program.Course → String → Program.Course
  | .ended ending logs disk, _ => .ended ending logs disk
  | .began destination least session, password =>
    .began destination least (session.withPassword password)

/-- The password that a request tells of. -/
def Service.Request.password? (r : Request) : Option String :=
  ((r.body.bind (Json.field? "database")).bind (Json.field? "password")).bind Json.string?

/-! ## Requests -/

namespace Service

variable (s : Settings) (call : Call) (password : Option String)

/-- Sampling parameters say nothing of a database. -/
theorem key_ne_of_mem_fields {s : Sampling} {field : String × Json.Document}
    (h : field ∈ s.fields) : field.1 ≠ "database" := by
  have known := (mem_fields h).1
  rintro same
  rw [same] at known
  simp at known

theorem putAt_fields (rest : List String) (new : Json.Document) (s : Sampling) :
    s.fields.map (fun field =>
      if field.1 = "database" then (field.1, Json.putAt rest new field.2) else field) =
      s.fields :=
  (List.map_congr_left fun _ h => if_neg (key_ne_of_mem_fields h)).trans (List.map_id _)

theorem body?_withPassword :
    body? (s.withPassword password) call =
      if call.operation = .synthesize then
        (body? s call).map (Json.putAt ["database", "password"] (.string (password.getD "")))
      else body? s call := by
  cases call with
  | synthesize request =>
    cases request <;>
      simp [body?, Settings.withPassword, DataSource.document, Json.putAt, putAt_fields,
        Call.operation]
  | discover request => cases request <;> rfl
  | _ => rfl

theorem requestTo_withPassword (url : Url) :
    requestTo (s.withPassword password) call url =
      (requestTo s call url).retold call (password.getD "") := by
  cases call with
  | synthesize request =>
    have body := body?_withPassword s (.synthesize request) password
    simp only [Call.operation, if_true] at body
    simp only [requestTo, body, Request.retold, Call.operation, if_true, Request.withPassword]
  | discover request => cases request <;> rfl
  | _ => rfl

theorem request?_withPassword :
    request? (s.withPassword password) call =
      (request? s call).map (Request.retold · call (password.getD "")) := by
  unfold request?
  rw [show (s.withPassword password).endpoints = s.endpoints from rfl]
  cases endpoint? (s.endpoints.url call.purpose) with
  | error failure => rfl
  | ok url => exact congrArg Except.ok (requestTo_withPassword s call password url)

/-- The password does not decide where a request goes. -/
theorem Request.url_retold (r : Request) (call : Call) (password : String) :
    (r.retold call password).url = r.url := by
  unfold Request.retold
  split <;> rfl

theorem Request.canLeave_retold (r : Request) (call : Call) (password : String) :
    (r.retold call password).canLeave = r.canLeave := by
  unfold Request.canLeave
  rw [r.url_retold]

theorem sent_withPassword :
    sent (s.withPassword password) call =
      (sent s call).map (Request.retold · call (password.getD "")) := by
  unfold sent
  rw [request?_withPassword]
  cases request? s call with
  | error failure => rfl
  | ok request =>
    simp only [Except.map, Request.canLeave_retold]
    split <;> rfl

/-- What comes of a call hangs on what comes of its request, and not on the password in it. -/
theorem perform_withPassword (answer : Answer) :
    perform (s.withPassword password) (fun _ => answer) call =
      perform s (fun _ => answer) call := by
  unfold perform
  rw [request?_withPassword]
  cases request? s call with
  | error failure => rfl
  | ok request =>
    simp only [Except.map, Request.canLeave_retold]
    cases call with
    | discover request => cases request <;> rfl
    | _ => rfl

end Service

/-! ## Sessions -/

namespace World

variable (settings : Settings) (password : Option String) (w : World) (x : Happening)

theorem after_withPassword :
    w.after (settings.withPassword password) x = w.after settings x := by
  cases x with
  | answered number answer => simp only [after, perform_withPassword]
  | _ => rfl

theorem posted_withPassword :
    w.posted (settings.withPassword password) x =
      (w.posted settings x).map (·.withPassword (password.getD "")) := by
  cases x with
  | ordered =>
    simp only [posted]
    split
    · rename_i t call _ _
      rw [sent_withPassword]
      cases sent settings call <;> rfl
    · rfl
  | _ => rfl

end World

namespace Session

theorem step_withPassword (settings : Settings) (password : Option String) (s : Session)
    (x : Happening) :
    (s.withPassword (password.getD "")).step (settings.withPassword password) x =
      (s.step settings x).withPassword (password.getD "") := by
  simp only [step, withPassword, World.after_withPassword, World.posted_withPassword,
    List.map_append]

theorem run_withPassword (settings : Settings) (password : Option String) (s : Session)
    (happenings : List Happening) :
    (s.withPassword (password.getD "")).run (settings.withPassword password) happenings =
      (s.run settings happenings).withPassword (password.getD "") := by
  induction happenings generalizing s with
  | nil => rfl
  | cons x rest ih =>
    rw [run, List.foldl_cons, step_withPassword]
    exact ih (s.step settings x)

end Session

/-! ## The program -/

section Environments

variable {env env' : Configuration.Environment}

theorem passwordLogs_eq (set : ∀ name, (env name).isSome = (env' name).isSome)
    (source : Config.DataSourceEntry) :
    Configuration.passwordLogs env' source = Configuration.passwordLogs env source := by
  unfold Configuration.passwordLogs
  cases source.passwordVariable with
  | none => rfl
  | some name =>
    have both := set name
    cases h : env name <;> cases h' : env' name <;> simp_all

/-- Environments in which the same variables are set lead to launches that differ in the password
alone. -/
theorem launch_eq (set : ∀ name, (env name).isSome = (env' name).isSome)
    (args : Program.Arguments) (c : Configuration) :
    Program.launch env' args c =
      { Program.launch env args c with
        settings := (c.settings env).withPassword (Configuration.password env' c.dataSource) } := by
  simp only [Program.launch, passwordLogs_eq set]
  rfl

theorem prepare_eq (set : ∀ name, (env name).isSome = (env' name).isSome) (argv : List String)
    (read : String → ConfigFile) :
    (∃ ending, Program.prepare argv read env = .error ending ∧
      Program.prepare argv read env' = .error ending) ∨
    ∃ l password, Program.prepare argv read env = .ok l ∧
      Program.prepare argv read env' =
        .ok { l with settings := l.settings.withPassword password } := by
  unfold Program.prepare
  cases Program.Arguments.parse argv with
  | error e => exact .inl ⟨_, rfl, rfl⟩
  | ok args =>
    dsimp only
    cases Configuration.load args.config (read args.config) with
    | error e => exact .inl ⟨_, rfl, rfl⟩
    | ok c => exact .inr ⟨_, _, rfl, congrArg Except.ok (launch_eq set args c)⟩

end Environments

namespace Program

/-- The password of the data source is told to a synthesis and has no other part in what the program
does. In two environments in which the same variables are set, whatever they are set to, the program
on one command line and one disk, with the same drawn for its temporary files, through the same
input and the same answers, comes to the same end or session: the same panel, told the same, the
same on the terminal, in the log and on the disk, and the same requests, except that those for a
synthesis may have another password in their descriptions of the database. -/
theorem run_of_other_password {env env' : Configuration.Environment}
    (set : ∀ name, (env name).isSome = (env' name).isSome) (argv : List String)
    (disk : Storage.Disk) (draws : Nat → Storage.Draws) (happenings : List Happening) :
    ∃ password, run argv env' disk draws happenings =
      (run argv env disk draws happenings).withPassword password := by
  unfold run
  rcases prepare_eq set argv fun path => fileOf (disk.look path) with
    ⟨ending, first, second⟩ | ⟨l, password, first, second⟩
  · rw [first, second]
    exact ⟨"", rfl⟩
  · refine ⟨password.getD "", ?_⟩
    rw [first, second]
    have opening : ({ l with settings := l.settings.withPassword password } : Launch).openDownloads
        (draws 0).probe = l.openDownloads (draws 0).probe := rfl
    dsimp only
    rw [opening]
    cases (l.openDownloads (draws 0).probe).run disk with
    | mk result disk =>
      cases result with
      | error ending => rfl
      | ok _ =>
        exact congrArg (Course.began l.destination l.least)
          (Session.run_withPassword l.settings password (Session.start l disk _) happenings)

/-- A table is asked for in two environments; the request for it tells the password, and the load
before it does not. -/
theorem run_of_other_password_table :
    let env (password : String) : Configuration.Environment :=
      fun name => if name = "DB" then some password else none
    let config := "(endpoints:(discover:\"x:\",analyse:\"x:\",synthesize_selection:\"x:\"," ++
      "synthesize_prompt:\"http://[::1]\",deliver:\"x:\",report:\"x:\"," ++
      "session_info:\"http://[::1]\"),data_source:(password_env:Some(\"DB\")))"
    let course (password : String) : Course :=
      run ["a"] (env password) ⟨[(["analyst.ron"], .file (Text.Utf8.ofString config))]⟩
        (fun _ => {}) [.read (.line "/table sales"), .ordered, .ordered]
    (∀ name, (env "one" name).isSome = (env "two" name).isSome) ∧
      (∃ password, course "two" = (course "one").withPassword password) ∧
      (course "two").posted.map (fun p => (p.call.operation, p.request.password?)) =
        [(.loadSession, none), (.synthesize, some "two")] := by
  intro env config course
  have set : ∀ name, (env "one" name).isSome = (env "two" name).isSome := by
    intro name
    dsimp only [env]
    split <;> rfl
  exact ⟨set, run_of_other_password set _ _ _ _, by decide +kernel⟩

end Program

end AnalysisPanel
