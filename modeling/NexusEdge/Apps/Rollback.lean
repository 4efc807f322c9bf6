import NexusEdge.Apps.Execution

/-!
# Failed executions

Library `Apps`. `executeApplication`, `app-manager.js:113–148`, with the directories it makes and
with system calls that fail at any of its steps. Nothing is undone: an execution that fails after
its directory is made leaves the directory, and all that was done up to the failure. Without
failing calls it is the execution of the application manager.
-/

namespace NexusEdge.Apps
open NexusEdge.Base NexusEdge.Platform NexusEdge.Dao

/-- An installation that tells which contents are the JSON value `null`. -/
structure JsonInstallation extends Installation where
  isNull : String → Bool

/-- `fs.readJson`: none for `null`. -/
def JsonInstallation.readJson? (env : JsonInstallation) (files : FileSystem) (p : Path) :
    Except String (Option AppMetadata) :=
  if (files p).any env.isNull then .ok none
  else (env.readJson files p).map some

/-- A copy that fails: its error, and what it leaves at and below its destination. -/
structure CopyFailure where
  error : String
  left : FileSystem

/-- The system calls that fail in one execution, each with its error. -/
structure Failures where
  readJson : Option String
  ensureExecutables : Option String
  ensureTarget : Option String
  copyApp : Option CopyFailure
  copyMetadata : Option CopyFailure
  copyLibrary : Option CopyFailure
  openLog : Option String
  /-- `fork` or `spawn`, with the log open. -/
  start : Option String
  forwardMessage : Option String

/-- No call fails. -/
def Failures.none : Failures :=
  ⟨.none, .none, .none, .none, .none, .none, .none, .none, .none⟩

/-- The app manager and the directories of the platform. -/
structure Deployer where
  manager : AppManager
  directories : Path → Bool

/-- A call that may fail. -/
def attempt (failure : Option String) (s : Deployer) : Outcome String Deployer :=
  match failure with
  | some error => .throw s error
  | .none => .done s

/-- A copy to the destination that may fail. -/
def attemptCopy (failure : Option CopyFailure) (dest : Path)
    (copy : FileSystem → Outcome String FileSystem) (files : FileSystem) :
    Outcome String FileSystem :=
  match failure with
  | some failure => .throw (fun p ↦ if dest <+: p then failure.left p else files p) failure.error
  | .none => copy files

namespace Deployer

/-- The files of the gateway. -/
abbrev files (s : Deployer) : FileSystem := s.manager.machine.files

/-- The files change. -/
def withFiles (s : Deployer) (files : FileSystem) : Deployer :=
  { s with manager := { s.manager with machine := { s.manager.machine with files := files } } }

/-- `fs.ensureDirSync`, in an existing directory. -/
def ensureDirSync (s : Deployer) (p : Path) : Deployer :=
  { s with directories := Function.update s.directories p true }

section Execution

variable (env : JsonInstallation) (request : ExecuteRequest) (now : Nat) (failures : Failures)

/-- `storeApp`, `deployment-utils.js:19–39`. -/
def storeApp (s : Deployer) : Outcome String Deployer :=
  let directory := targetDirectoryPath env.dirname now
  let appTargetPath := directory.join request.packagePath.basename
  let metadataTargetPath := directory.join request.deployMetadataPath.basename
  (attempt failures.ensureExecutables s).andThen fun s ↦
  (attempt failures.ensureTarget (s.ensureDirSync (executableDirPath env.dirname))).andThen fun s ↦
  let s := s.ensureDirSync directory
  ((attemptCopy failures.copyApp appTargetPath
      (fun files ↦ files.copySync request.packagePath appTargetPath) s.files).andThen
    (attemptCopy failures.copyMetadata metadataTargetPath
      fun files ↦ files.copySync request.deployMetadataPath metadataTargetPath)).within s.withFiles

/-- `copyOracleLibrary`, `deployment-utils.js:60–83`; nothing is copied for other runtimes. -/
def copyLibrary (runtime : String) (s : Deployer) : Outcome String Deployer :=
  let targetPath := targetDirectoryPath env.dirname now
  let failure := (oracleDirname runtime).bind fun _ ↦ failures.copyLibrary
  (attemptCopy failure (targetPath.join "oracle")
    (fun files ↦ .done (copyOracleLibrary env.dirname targetPath runtime files)) s.files).within
      s.withFiles

/-- The start of the process and what follows, `app-manager.js:135–147` with
`deployment-utils.js:239–270`. -/
def launch (runtime : String) (s : Deployer) : Outcome String Deployer :=
  let app := AppManager.describe env.toInstallation request now runtime
  let logPath := getLogPath env.dirname app.name
  match s.manager.machine.executeApplication app.id app.executablePath logPath runtime with
  | .error error => .throw s error
  | .ok (appProcess, machine) =>
    (attempt failures.openLog s).andThen fun s ↦
    (attempt failures.start (s.withFiles (s.files.write logPath ""))).andThen fun s ↦
    let manager := { s.manager with machine := machine }.storeAppInfo app appProcess logPath
    let manager := { manager with db := manager.db.addApp app }
    (attempt failures.forwardMessage { s with manager := manager }).andThen fun s ↦
    .done { s with
      manager := s.manager.requestStreams ⟨app.id, request.linkGraph, app.metadataPath⟩ }

/-- `executeApplication` from the completion of its read on, `app-manager.js:113–148`. -/
def executeApplication (s : Deployer) : Outcome String Deployer :=
  let readError (error : String) : Outcome String Deployer :=
    .throw s ("while executing app " ++ request.appId ++
      ", error reading json file at metadataPath " ++ request.deployMetadataPath.toText ++
      ". Error = " ++ error)
  match failures.readJson, env.readJson? s.files request.deployMetadataPath with
  | some error, _ => readError error
  | .none, .error error => readError error
  | .none, .ok metadata =>
    (s.storeApp env request now failures).andThen fun s ↦
    match metadata with
    | .none => .throw s "TypeError: Cannot read property 'runtime' of null"
    | some metadata =>
      (s.copyLibrary env now failures metadata.runtime).andThen
        (launch env request now failures metadata.runtime)

end Execution

end Deployer

/-- What the app manager reacts to; an execution comes with the calls that fail in it. -/
inductive DeployEvent where
  | app (e : AppEvent)
  | execute (k : Nat) (now : Nat) (failures : Failures)

namespace Deployer

/-- The loaded module. -/
def initial (files : FileSystem) (databases : JsObject (JsObject Dao.App))
    (directories : Path → Bool) : Deployer :=
  ⟨AppManager.initial files databases, directories⟩

/-- The `k`-th waiting call goes on. -/
def resume (s : Deployer) (k : Nat) : Deployer :=
  { s with manager := { s.manager with executing := s.manager.executing.eraseIdx k } }

/-- The `execute-app` listener from the completion of its read on, `app-manager.js:357–368`. -/
def finishExecution (env : JsonInstallation) (s : Deployer) (k : Nat) (request : ExecuteRequest)
    (now : Nat) (failures : Failures) : Deployer :=
  let o := executeApplication env request now failures (s.resume k)
  { o.state with manager := { o.state.manager with
    responses := o.state.manager.responses ++ [.executeApp request.appId o.error] } }

/-- The directories after an event other than an execution. -/
def directoriesAfter (s : Deployer) : AppEvent → Path → Bool
  | .removed k => fun p ↦
    s.directories p && !(s.manager.removing[k]?).any fun removal ↦ removal.path <+: p
  | _ => s.directories

/-- One event; none when the event cannot happen. -/
def step (env : JsonInstallation) (s : Deployer) : DeployEvent → Option Deployer
  | .app (.metadataRead _ _) => none
  | .app e => (s.manager.step env.toInstallation e).map fun manager ↦
    ⟨manager, s.directoriesAfter e⟩
  | .execute k now failures => (s.manager.executing[k]?).map fun request ↦
    s.finishExecution env k request now failures

/-- What a rejected execution is to leave as it was: the table, the database, the files and the
processes of the gateway, the requests for streams, and the directories. -/
structure Unchanged (s t : Deployer) : Prop where
  apps : t.manager.apps = s.manager.apps
  db : t.manager.db = s.manager.db
  machine : t.manager.machine = s.manager.machine
  requests : t.manager.requests = s.manager.requests
  directories : t.directories = s.directories

/-- An execution that rejects leaves everything as it was. -/
def RolledBack (env : JsonInstallation) (s : Deployer) : DeployEvent → Prop
  | .execute k now failures => ∀ request ∈ s.manager.executing[k]?,
    (executeApplication env request now failures (s.resume k)).error ≠ none →
      Unchanged s (s.finishExecution env k request now failures)
  | .app _ => True

/-! ### The condition -/

/-- The execution fails before it makes a directory. -/
def FailsBeforeStoring (env : JsonInstallation) (s : Deployer) (request : ExecuteRequest)
    (failures : Failures) : Prop :=
  failures.readJson ≠ none ∨
    (∃ error, env.readJson? s.files request.deployMetadataPath = .error error) ∨
    failures.ensureExecutables ≠ none ∨
    failures.ensureTarget ≠ none ∧ s.directories (executableDirPath env.dirname) = true

/-- No call fails, and the application can be started. -/
def Completes (env : JsonInstallation) (s : Deployer) (request : ExecuteRequest)
    (failures : Failures) : Prop :=
  failures = Failures.none ∧ (s.files request.deployMetadataPath).any env.isNull = false ∧
    AppManager.CanStart env.toInstallation s.files request

/-- An execution fails before it makes a directory, or completes. -/
def Clean (env : JsonInstallation) (s : Deployer) : DeployEvent → Prop
  | .execute k _ failures => ∀ request ∈ s.manager.executing[k]?,
    s.FailsBeforeStoring env request failures ∨ s.Completes env request failures
  | .app _ => True

/-- The clock has not named a directory of the executables before. -/
def NewDirectory (env : JsonInstallation) (s : Deployer) : DeployEvent → Prop
  | .execute _ now _ => s.directories (targetDirectoryPath env.dirname now) = false
  | .app _ => True

/-! ### Where an execution fails -/

section Proofs

variable {env : JsonInstallation} {request : ExecuteRequest} {now : Nat} {failures : Failures}
  {s : Deployer}

private theorem attempt_error {failure : Option String} :
    (attempt failure s).error = none ↔ failure = none := by
  cases failure with
  | none => exact iff_of_true rfl rfl
  | some error => exact iff_of_false nofun nofun

private theorem attempt_state (failure : Option String) : (attempt failure s).state = s := by
  cases failure <;> rfl

private theorem attemptCopy_error {failure : Option CopyFailure} {dest : Path}
    {copy : FileSystem → Outcome String FileSystem} {files : FileSystem} :
    (attemptCopy failure dest copy files).error = none ↔
      failure = none ∧ (copy files).error = none := by
  cases failure with
  | none => exact (and_iff_right rfl).symm
  | some failure => exact iff_of_false nofun nofun

private theorem storeApp_error_iff {metadata : AppMetadata}
    (hread : env.readJson s.files request.deployMetadataPath = .ok metadata) :
    (s.storeApp env request now failures).error = none ↔
      failures.ensureExecutables = none ∧ failures.ensureTarget = none ∧
        failures.copyApp = none ∧ failures.copyMetadata = none ∧
        (s.files request.packagePath).isSome := by
  have hcopied := AppManager.storeApp_error now hread
  simp only [Apps.storeApp, Outcome.andThen_error_eq_none] at hcopied
  simp only [storeApp, Outcome.andThen_error_eq_none, Outcome.error_within, attempt_error,
    attempt_state, attemptCopy_error]
  rw [← hcopied]
  constructor
  · rintro ⟨hexecutables, htarget, ⟨happ, hfirst⟩, hmetadata, hsecond⟩
    rw [happ] at hsecond
    exact ⟨hexecutables, htarget, happ, hmetadata, hfirst, hsecond⟩
  · rintro ⟨hexecutables, htarget, happ, hmetadata, hfirst, hsecond⟩
    rw [happ]
    exact ⟨hexecutables, htarget, ⟨rfl, hfirst⟩, hmetadata, hsecond⟩

private theorem copyLibrary_error_iff {runtime : String} (hruntime : SupportedRuntime runtime) :
    (s.copyLibrary env now failures runtime).error = none ↔ failures.copyLibrary = none := by
  have hfailure : ((oracleDirname runtime).bind fun _ ↦ failures.copyLibrary) =
      failures.copyLibrary := by
    rcases hruntime with rfl | rfl <;> rfl
  simp only [copyLibrary, Outcome.error_within, attemptCopy_error, hfailure, Outcome.error_done,
    and_true]

private theorem launch_error_iff {runtime : String} :
    (s.launch env request now failures runtime).error = none ↔
      SupportedRuntime runtime ∧ failures.openLog = none ∧ failures.start = none ∧
        failures.forwardMessage = none := by
  unfold launch Machine.executeApplication
  by_cases hruntime : SupportedRuntime runtime
  · simp only [if_pos hruntime, Outcome.andThen_error_eq_none, attempt_error, Outcome.error_done,
      and_true, and_iff_right hruntime]
  · simp only [if_neg hruntime]
    exact iff_of_false nofun fun h ↦ hruntime h.1

private theorem failures_eq_none_iff : failures = Failures.none ↔
    failures.readJson = none ∧ failures.ensureExecutables = none ∧ failures.ensureTarget = none ∧
      failures.copyApp = none ∧ failures.copyMetadata = none ∧ failures.copyLibrary = none ∧
      failures.openLog = none ∧ failures.start = none ∧ failures.forwardMessage = none := by
  cases failures
  simp only [Failures.none, Failures.mk.injEq]

private theorem readJson?_of_not_null (files : FileSystem) (p : Path)
    (hnull : (files p).any env.isNull = false) :
    env.readJson? files p = (env.readJson files p).map some := by
  rw [JsonInstallation.readJson?, hnull, if_neg Bool.false_ne_true]

/-- An execution is answered without an error exactly if no call fails and the application can be
started. -/
theorem executeApplication_error_iff :
    (executeApplication env request now failures s).error = none ↔
      s.Completes env request failures := by
  unfold executeApplication Completes AppManager.CanStart
  rw [failures_eq_none_iff]
  cases hfails : failures.readJson with
  | some error => exact iff_of_false nofun fun h ↦ by cases h.1.1
  | none =>
    by_cases hnull : (s.files request.deployMetadataPath).any env.isNull = true
    · rw [JsonInstallation.readJson?, if_pos hnull]
      simp only [Outcome.andThen_error_eq_none, hnull]
      exact iff_of_false (fun h ↦ nomatch h.2) fun h ↦ nomatch h.2.1
    · rw [Bool.not_eq_true] at hnull
      rw [readJson?_of_not_null _ _ hnull]
      cases hread : env.readJson s.files request.deployMetadataPath with
      | error error =>
        exact iff_of_false nofun fun h ↦ Bool.false_ne_true h.2.2.2
      | ok metadata =>
        simp only [Except.map, Outcome.andThen_error_eq_none, storeApp_error_iff hread,
          launch_error_iff, hnull, Except.toOption, Option.any_some, decide_eq_true_eq, true_and]
        constructor
        · rintro ⟨⟨hexecutables, htarget, happ, hmetadata, hpackage⟩, hlibrary, hruntime, hrest⟩
          rw [copyLibrary_error_iff hruntime] at hlibrary
          exact ⟨⟨hexecutables, htarget, happ, hmetadata, hlibrary, hrest⟩, hpackage, hruntime⟩
        · rintro ⟨⟨hexecutables, htarget, happ, hmetadata, hlibrary, hrest⟩, hpackage, hruntime⟩
          rw [copyLibrary_error_iff hruntime]
          exact ⟨⟨hexecutables, htarget, happ, hmetadata, hpackage⟩, hlibrary, hruntime, hrest⟩

/-- An execution that fails before it makes a directory does nothing. -/
theorem state_of_failsBeforeStoring (h : s.FailsBeforeStoring env request failures) :
    (executeApplication env request now failures s).state = s := by
  unfold executeApplication
  cases hfails : failures.readJson with
  | some error => rfl
  | none =>
    cases hread : env.readJson? s.files request.deployMetadataPath with
    | error error => rfl
    | ok metadata =>
      simp only [storeApp]
      cases hexecutables : failures.ensureExecutables with
      | some error => rfl
      | none =>
        rcases h with h | ⟨error, h⟩ | h | ⟨htarget, hdirectory⟩
        · exact absurd hfails h
        · rw [hread] at h
          cases h
        · exact absurd hexecutables h
        · obtain ⟨error, htarget⟩ := Option.ne_none_iff_exists'.mp htarget
          have hsame : s.ensureDirSync (executableDirPath env.dirname) = s := by
            rw [ensureDirSync, ← hdirectory, Function.update_eq_self]
          simp only [htarget, attempt, Outcome.done_andThen, Outcome.throw_andThen, hsame]
          rfl

private theorem directories_copyLibrary (runtime : String) :
    (s.copyLibrary env now failures runtime).state.directories = s.directories := rfl

private theorem directories_launch (runtime : String) :
    (s.launch env request now failures runtime).state.directories = s.directories := by
  simp only [launch]
  split
  · rfl
  · refine Outcome.andThen_state (P := fun t : Deployer ↦ t.directories = s.directories) ?_
      fun t ht ↦ Outcome.andThen_state (P := fun t : Deployer ↦ t.directories = s.directories) ?_
        fun t ht ↦ Outcome.andThen_state (P := fun t : Deployer ↦ t.directories = s.directories) ?_
          fun t ht ↦ ?_
    · rw [attempt_state]
    · rw [attempt_state]
      exact ht
    · rw [attempt_state]
      exact ht
    · exact ht

/-- An execution that does not fail before leaves a directory. -/
theorem directory_of_not_failsBeforeStoring (h : ¬ s.FailsBeforeStoring env request failures) :
    (executeApplication env request now failures s).state.directories
        (targetDirectoryPath env.dirname now) = true ∨
      s.directories (executableDirPath env.dirname) = false ∧
        (executeApplication env request now failures s).state.directories
          (executableDirPath env.dirname) = true := by
  simp only [FailsBeforeStoring, not_or, not_exists, not_and, Decidable.not_not,
    Bool.not_eq_true] at h
  obtain ⟨hfails, hread, hexecutables, htarget⟩ := h
  unfold executeApplication
  rw [hfails]
  cases hmetadata : env.readJson? s.files request.deployMetadataPath with
  | error error => exact absurd hmetadata (hread error)
  | ok metadata =>
    cases hfailure : failures.ensureTarget with
    | some error =>
      right
      refine ⟨htarget (by rw [hfailure]; exact nofun), ?_⟩
      simp only [storeApp, hexecutables, hfailure, attempt, Outcome.done_andThen,
        Outcome.throw_andThen]
      exact Function.update_self ..
    | none =>
      left
      refine Outcome.andThen_state
        (P := fun t : Deployer ↦ t.directories (targetDirectoryPath env.dirname now) = true) ?_ ?_
      · simp only [storeApp, hexecutables, hfailure, attempt, Outcome.done_andThen,
          Outcome.state_within, withFiles, ensureDirSync, Function.update_self]
      · intro t ht
        cases metadata with
        | none => exact ht
        | some metadata =>
          refine Outcome.andThen_state
            (P := fun t : Deployer ↦ t.directories (targetDirectoryPath env.dirname now) = true)
            ?_ fun u hu ↦ ?_
          · rw [directories_copyLibrary]
            exact ht
          · rw [directories_launch]
            exact hu

/-- A clean execution that rejects leaves everything as it was. -/
theorem rolledBack_of_clean {e : DeployEvent} (h : s.Clean env e) : s.RolledBack env e := by
  cases e with
  | app e => trivial
  | execute k now failures =>
    intro request hrequest herror
    rcases h request hrequest with hfails | hcompletes
    · have hstate : (executeApplication env request now failures (s.resume k)).state = s.resume k :=
        state_of_failsBeforeStoring hfails
      simp only [finishExecution, hstate]
      exact ⟨rfl, rfl, rfl, rfl, rfl⟩
    · have hresumed : (s.resume k).Completes env request failures := hcompletes
      exact absurd (executeApplication_error_iff.mpr hresumed) herror

/-- No other execution leaves everything as it was, if its directory is new. -/
theorem clean_of_rolledBack {e : DeployEvent} (hnew : s.NewDirectory env e)
    (h : s.RolledBack env e) : s.Clean env e := by
  cases e with
  | app e => trivial
  | execute k now failures =>
    intro request hrequest
    by_cases hfails : s.FailsBeforeStoring env request failures
    · exact Or.inl hfails
    right
    have hdirectory : (executeApplication env request now failures (s.resume k)).state.directories
          (targetDirectoryPath env.dirname now) = true ∨
        s.directories (executableDirPath env.dirname) = false ∧
          (executeApplication env request now failures (s.resume k)).state.directories
            (executableDirPath env.dirname) = true :=
      directory_of_not_failsBeforeStoring hfails
    by_contra hcompletes
    have hresumed : ¬ (s.resume k).Completes env request failures := hcompletes
    have herror : (executeApplication env request now failures (s.resume k)).error ≠ none :=
      mt executeApplication_error_iff.mp hresumed
    have hsame : (executeApplication env request now failures (s.resume k)).state.directories =
        s.directories := (h request hrequest herror).directories
    rw [hsame] at hdirectory
    rcases hdirectory with htarget | ⟨hbefore, hafter⟩
    · rw [hnew] at htarget
      cases htarget
    · rw [hbefore] at hafter
      cases hafter

end Proofs

/-- In a run whose executions are clean every rejected one leaves everything as it was; as long as
the clock names new directories, no others do. -/
theorem rolledBack_run (env : JsonInstallation) (files : FileSystem)
    (databases : JsObject (JsObject Dao.App)) (directories : Path → Bool)
    (es : List DeployEvent) :
    (EachStep (step env) (Clean env) (initial files databases directories) es →
      EachStep (step env) (RolledBack env) (initial files databases directories) es) ∧
    (EachStep (step env) (NewDirectory env) (initial files databases directories) es →
      EachStep (step env) (RolledBack env) (initial files databases directories) es →
        EachStep (step env) (Clean env) (initial files databases directories) es) :=
  ⟨EachStep.imp (step env) fun _ _ ↦ rolledBack_of_clean,
    fun hnew h ↦ (hnew.and (step env) h).imp (step env) fun _ _ hboth ↦
      clean_of_rolledBack hboth.1 hboth.2⟩

-- The second half, after the application is stored.
private theorem startApplication_refines (env : JsonInstallation) (request : ExecuteRequest)
    (now : Nat) (runtime : String) (s : Deployer) :
    ((s.copyLibrary env now Failures.none runtime).andThen
      (launch env request now Failures.none runtime)).within Deployer.manager =
        AppManager.startApplication env.toInstallation request now runtime s.manager := by
  have hcopied : s.copyLibrary env now Failures.none runtime =
      .done (s.withFiles (copyOracleLibrary env.dirname (targetDirectoryPath env.dirname now)
        runtime s.files)) := by
    unfold copyLibrary
    cases oracleDirname runtime <;> rfl
  rw [hcopied, Outcome.done_andThen]
  unfold AppManager.startApplication Machine.executeApplication launch Machine.executeApplication
  by_cases hruntime : SupportedRuntime runtime
  · simp only [if_pos hruntime]
    rfl
  · simp only [if_neg hruntime]
    rfl

/-- Without failing calls an execution is that of the application manager, unless the metadata is
`null`. -/
theorem executeApplication_refines (env : JsonInstallation) (request : ExecuteRequest) (now : Nat)
    (s : Deployer) (hnull : (s.files request.deployMetadataPath).any env.isNull = false) :
    (executeApplication env request now Failures.none s).within Deployer.manager =
      AppManager.executeApplication env.toInstallation request now s.manager := by
  unfold executeApplication AppManager.executeApplication
  rw [readJson?_of_not_null _ _ hnull]
  cases hread : env.readJson s.files request.deployMetadataPath with
  | error error => rfl
  | ok metadata =>
    let made := (s.ensureDirSync (executableDirPath env.dirname)).ensureDirSync
      (targetDirectoryPath env.dirname now)
    have hstored : s.storeApp env request now Failures.none =
        (Apps.storeApp env.dirname now request.packagePath request.deployMetadataPath
          s.files).2.within made.withFiles := rfl
    simp only [Except.map, Failures.none] at hstored ⊢
    rw [hstored]
    exact Outcome.within_andThen
      (startApplication_refines env request now metadata.runtime _)

/-- An application for a runtime that is not supported is executed. -/
def unsupportedRuntime : List DeployEvent :=
  let packagePath : Path := ["uploads", "a", "app.rb"]
  let deployMetadataPath : Path := ["uploads", "a", "metadata.json"]
  [.app (.upload packagePath ""), .app (.upload deployMetadataPath "\x7b\"runtime\":\"ruby\"\x7d"),
    .app (.executeApp ⟨"a", none, packagePath, deployMetadataPath⟩)]

/-- An installation, as far as it parses the metadata of the application. -/
def rubyInstallation : JsonInstallation where
  dirname := ["platform", "app-manager"]
  parse text := if text = "\x7b\"runtime\":\"ruby\"\x7d" then .ok ⟨"ruby", none⟩
    else .error "SyntaxError"
  isNull text := text = "null"

/-- The rejected execution leaves its directory behind. -/
theorem unsupportedRuntime_not_rolledBack :
    ¬ EachStep (step rubyInstallation) (RolledBack rubyInstallation)
      (initial (fun _ ↦ none) JsObject.empty fun _ ↦ false)
      (unsupportedRuntime ++ [.execute 0 1 Failures.none]) := by
  intro h
  let target := targetDirectoryPath rubyInstallation.dirname 1
  have hfacts : (run (step rubyInstallation) (initial (fun _ ↦ none) JsObject.empty fun _ ↦ false)
      unsupportedRuntime).map (fun s ↦ (s.directories target,
        s.manager.executing[0]?.map fun request ↦
          ((executeApplication rubyInstallation request 1 Failures.none (s.resume 0)).error,
            (s.finishExecution rubyInstallation 0 request 1 Failures.none).directories target))) =
        some (false, some (some "Unsupported runtime: 'ruby'.", true)) := by
    decide +kernel
  obtain ⟨s, hs, hfacts⟩ := Option.map_eq_some_iff.mp hfacts
  obtain ⟨hbefore, hexecuted⟩ := Prod.mk.inj hfacts
  obtain ⟨request, hrequest, hexecuted⟩ := Option.map_eq_some_iff.mp hexecuted
  obtain ⟨herror, hafter⟩ := Prod.mk.inj hexecuted
  have hstep : step rubyInstallation s (.execute 0 1 Failures.none) =
      some (s.finishExecution rubyInstallation 0 request 1 Failures.none) := by
    rw [step, hrequest, Option.map_some]
  have hrolled := EachStep.at_prefix _ h hs hstep request hrequest (by rw [herror]; exact nofun)
  rw [hrolled.directories, hbefore] at hafter
  cases hafter

end Deployer
end NexusEdge.Apps
