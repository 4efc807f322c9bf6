import NexusEdge.Apps.Deployment
import NexusEdge.Dao.Collection

/-!
# Application manager

Library `Apps`. `app-manager/app-manager.js:19–211`: the table of running applications, their
processes and files, the database of applications and the restart after start-up. Reads,
removals, the link graph and the database answer later than they are called, in any order.
-/

namespace NexusEdge.Apps
open NexusEdge.Base NexusEdge.Platform NexusEdge.Dao

/-- The fields of a metadata file in use. -/
structure AppMetadata where
  runtime : String
  deviceIds : Option (List String)
  deriving DecidableEq

/-- Where the platform is installed, and `JSON.parse` on metadata files. -/
structure Installation where
  dirname : Path
  parse : String → Except String AppMetadata

/-- `fs.readJson`. -/
def Installation.readJson (env : Installation) (files : FileSystem) (p : Path) :
    Except String AppMetadata :=
  match files p with
  | some content => env.parse content
  | none => .error ("ENOENT: no such file or directory, open '" ++ p.toText ++ "'")

/-- An entry of `apps`, `app-manager.js:86–93`. -/
structure AppInfo where
  id : String
  name : String
  process : Nat
  appPath : Path
  metadataPath : Path
  logPath : Path
  deriving DecidableEq

/-- Parameters of `execute-app`, `app-manager.js:357`. -/
structure ExecuteRequest where
  appId : String
  linkGraph : Option LinkGraph
  packagePath : Path
  deployMetadataPath : Path

/-- Data of `request-streams`, `app-manager.js:50–53,143–147`. -/
structure StreamsRequest where
  topic : String
  linkGraph : Option LinkGraph
  metadataPath : Path
  deriving DecidableEq

/-- An `fs.remove` under way, and the application it is made for. -/
structure Removal where
  appId : String
  path : Path
  deriving DecidableEq

/-- Progress of `restartAllApps`, `app-manager.js:22–68`. -/
inductive Restart where
  /-- The two seconds after start-up are not over. -/
  | waiting
  | gettingLinkGraph
  /-- The answer to the call decides between restart and removal. -/
  | fetching (ticket : Nat) (lastGateway : Bool)
  | finished
  deriving DecidableEq

/-- Answer to a query: its error, or none for `status: true`. -/
inductive Response where
  | executeApp (appId : String) (error : Option String)
  | terminateApp (appId : String) (error : Option String)
  deriving DecidableEq

/-- The process of the app manager and what it has under way. -/
structure AppManager where
  apps : JsObject AppInfo
  db : DirtyDbService Dao.App
  machine : Machine
  restart : Restart
  /-- Calls of `executeApplication` that wait for `fs.readJson`. -/
  executing : List ExecuteRequest
  removing : List Removal
  /-- Messages to the sensor stream manager not yet processed. -/
  requests : List StreamsRequest
  responses : List Response

/-- What the app manager reacts to. -/
inductive AppEvent where
  /-- A file arrives outside of the platform. -/
  | upload (p : Path) (content : String)
  | startUp
  | linkGraph (answer : Option LinkGraph)
  /-- Continuation of `fetchAll`. -/
  | fetched
  | executeApp (request : ExecuteRequest)
  /-- The read of the `k`-th waiting call completes. -/
  | metadataRead (k : Nat) (now : Nat)
  | terminateApp (appId : String)
  /-- The `k`-th removal completes. -/
  | removed (k : Nat)
  | readFile (k : Nat)
  | load (k : Nat)
  | run
  | flush (k : Nat)

/-- `getLogPath`, `app-manager.js:96–98`. -/
def getLogPath (dirname : Path) (appName : String) : Path :=
  (dirname.join "logs").join (appName ++ ".out")

namespace AppManager

/-- The loaded module, with the databases of earlier processes. -/
def initial (files : FileSystem) (databases : JsObject (JsObject Dao.App)) : AppManager :=
  ⟨JsObject.empty, DirtyDbService.initial databases, ⟨files, [], []⟩, .waiting, [], [], [], []⟩

/-- `storeAppInfo`, `app-manager.js:85–94`. -/
def storeAppInfo (s : AppManager) (app : Dao.App) (process : Nat) (logPath : Path) : AppManager :=
  { s with
    apps := s.apps.set app.id
      ⟨app.id, app.name, process, app.executablePath, app.metadataPath, logPath⟩ }

/-- `messagingService.forwardMessage` of `request-streams`. -/
def requestStreams (s : AppManager) (request : StreamsRequest) : AppManager :=
  { s with requests := s.requests ++ [request] }

section Installed

variable (env : Installation)

/-- The body of the loop of `restartAllApps`, `app-manager.js:37–54`. -/
def restartApp (app : Dao.App) (s : AppManager) : Outcome String AppManager :=
  let logPath := getLogPath env.dirname app.name
  match s.machine.executeApplication app.id app.executablePath logPath app.runtime with
  | .error error => .throw s error
  | .ok (appProcess, machine) =>
    .done (({ s with machine := machine }.storeAppInfo app appProcess logPath).requestStreams
      ⟨app.id, none, app.metadataPath⟩)

/-- The removal from the database on a gateway that is not the last one,
`app-manager.js:60–64`. -/
def removeApps (s : AppManager) (apps : List Dao.App) : AppManager :=
  { s with db := apps.foldl (fun db app ↦ db.removeApp app.id) s.db }

/-- The two continuations of `fetchAll`, `app-manager.js:36–65`; what the loop throws is an
unhandled rejection. -/
def finishRestart (s : AppManager) (lastGateway : Bool) (apps : List Dao.App) : AppManager :=
  let s := { s with restart := .finished }
  if lastGateway then (Outcome.forEach (restartApp env) apps s).state else s.removeApps apps

/-- The application described by an `execute-app` request, `app-manager.js:121–133`. -/
def describe (request : ExecuteRequest) (now : Nat) (runtime : String) : Dao.App :=
  let appName := request.packagePath.basename
  let appDirectoryPath := targetDirectoryPath env.dirname now
  ⟨request.appId, appName, appDirectoryPath.join appName,
    appDirectoryPath.join request.deployMetadataPath.basename, runtime⟩

/-- `executeApplication` once the application is stored, `app-manager.js:126–147`. -/
def startApplication (request : ExecuteRequest) (now : Nat) (runtime : String)
    (s : AppManager) : Outcome String AppManager :=
  let files := copyOracleLibrary env.dirname (targetDirectoryPath env.dirname now) runtime
    s.machine.files
  let s := { s with machine := { s.machine with files := files } }
  let app := describe env request now runtime
  let logPath := getLogPath env.dirname app.name
  match s.machine.executeApplication app.id app.executablePath logPath runtime with
  | .error error => .throw s error
  | .ok (appProcess, machine) =>
    let s := { s with machine := machine }.storeAppInfo app appProcess logPath
    .done ({ s with db := s.db.addApp app }.requestStreams
      ⟨app.id, request.linkGraph, app.metadataPath⟩)

/-- `executeApplication` from the completion of its read on, `app-manager.js:113–148`. -/
def executeApplication (request : ExecuteRequest) (now : Nat) (s : AppManager) :
    Outcome String AppManager :=
  match env.readJson s.machine.files request.deployMetadataPath with
  | .error error => .throw s ("while executing app " ++ request.appId ++
      ", error reading json file at metadataPath " ++ request.deployMetadataPath.toText ++
      ". Error = " ++ error)
  | .ok metadata =>
    let stored := storeApp env.dirname now request.packagePath request.deployMetadataPath
      s.machine.files
    (stored.2.within fun files ↦ { s with machine := { s.machine with files := files } }).andThen
      (startApplication env request now metadata.runtime)

/-- The `execute-app` listener from there on, `app-manager.js:357–368`. -/
def finishExecution (s : AppManager) (k : Nat) (request : ExecuteRequest) (now : Nat) :
    AppManager :=
  let o := executeApplication env request now { s with executing := s.executing.eraseIdx k }
  { o.state with responses := o.state.responses ++ [.executeApp request.appId o.error] }

end Installed

/-- The `terminate-app` listener for a running application, `app-manager.js:171–201`. -/
def terminate (s : AppManager) (appId : String) (app : AppInfo) : AppManager :=
  { s with
    machine := { s.machine with killed := s.machine.killed ++ [app.process] }
    removing := s.removing ++ [⟨appId, app.logPath⟩, ⟨appId, app.appPath.dirname⟩]
    apps := s.apps.erase appId
    db := s.db.removeApp appId
    responses := s.responses ++ [.terminateApp appId none] }

/-- The `terminate-app` listener, `app-manager.js:163–211`. -/
def terminateApp (s : AppManager) (appId : String) : AppManager :=
  match s.apps.get? appId with
  | some app => s.terminate appId app
  | none => { s with responses := s.responses ++
      [.terminateApp appId (some ("App " ++ appId ++ " is not a running app on this gateway."))] }

/-- An `fs.remove` completes. -/
def finishRemoval (s : AppManager) (k : Nat) (removal : Removal) : AppManager :=
  { s with
    removing := s.removing.eraseIdx k
    machine := { s.machine with files := s.machine.files.remove removal.path } }

/-- The applications fetched by a call, once it is answered. -/
def fetchedApps? (s : AppManager) (ticket : Nat) : Option (List Dao.App) :=
  match s.db.answers.find? fun answer ↦ answer.pending.ticket = ticket with
  | some ⟨_, .fetched apps⟩ => some apps
  | _ => none

/-- One event; none when the event cannot happen. -/
def step (env : Installation) (s : AppManager) : AppEvent → Option AppManager
  | .upload p content =>
    if env.dirname <+: p then none
    else some { s with machine := { s.machine with files := s.machine.files.write p content } }
  | .startUp =>
    match s.restart with
    | .waiting => some { s with restart := .gettingLinkGraph }
    | _ => none
  | .linkGraph answer =>
    match s.restart, answer with
    | .gettingLinkGraph, some linkGraph => some { s with
        restart := .fetching s.db.calls (linkGraph.data.keys.length = 1)
        db := s.db.fetchAll appsDbName }
    -- A rejection is not handled: nothing is restarted or removed.
    | .gettingLinkGraph, none => some { s with restart := .finished }
    | _, _ => none
  | .fetched =>
    match s.restart with
    | .fetching ticket lastGateway => (s.fetchedApps? ticket).map (s.finishRestart env lastGateway)
    | _ => none
  | .executeApp request => some { s with executing := s.executing ++ [request] }
  | .metadataRead k now => (s.executing[k]?).map fun request ↦ s.finishExecution env k request now
  | .terminateApp appId => some (s.terminateApp appId)
  | .removed k => (s.removing[k]?).map (s.finishRemoval k)
  | .readFile k => (s.db.step (.readFile k)).map fun db ↦ { s with db := db }
  | .load k => (s.db.step (.load k)).map fun db ↦ { s with db := db }
  | .run => (s.db.step .run).map fun db ↦ { s with db := db }
  | .flush k => (s.db.step (.flush k)).map fun db ↦ { s with db := db }

/-! ### What starting an application does -/

section Start

variable (env : Installation)

/-- The entry of a started application. -/
def entryOf (app : Dao.App) (process : Nat) : AppInfo :=
  ⟨app.id, app.name, process, app.executablePath, app.metadataPath, getLogPath env.dirname app.name⟩

/-- The state after the start of an application, the files being these. -/
def started (app : Dao.App) (linkGraph : Option LinkGraph) (files : FileSystem)
    (s : AppManager) : AppManager :=
  { s with
    machine := ⟨files, s.machine.processes ++
      [⟨app.id, app.executablePath, getLogPath env.dirname app.name, app.runtime⟩],
      s.machine.killed⟩
    apps := s.apps.set app.id (entryOf env app s.machine.processes.length)
    requests := s.requests ++ [⟨app.id, linkGraph, app.metadataPath⟩] }

/-- A restart starts the application, its log emptied, or throws without doing anything. -/
theorem restartApp_cases (app : Dao.App) (s : AppManager) :
    (¬ SupportedRuntime app.runtime ∧ ∃ error, restartApp env app s = .throw s error) ∨
      (SupportedRuntime app.runtime ∧ restartApp env app s = .done (s.started env app none
        (s.machine.files.write (getLogPath env.dirname app.name) ""))) := by
  unfold restartApp Machine.executeApplication
  by_cases h : SupportedRuntime app.runtime
  · refine Or.inr ⟨h, ?_⟩
    simp only [if_pos h]
    rfl
  · refine Or.inl ⟨h, ?_⟩
    simp only [if_neg h]
    exact ⟨_, rfl⟩

/-- The paths at and below which an execution writes. -/
def writtenPaths (request : ExecuteRequest) (now : Nat) : List Path :=
  [targetDirectoryPath env.dirname now, getLogPath env.dirname request.packagePath.basename]

private theorem changesWithin_writtenPaths (request : ExecuteRequest) {now : Nat}
    {files files' : FileSystem}
    (h : FileSystem.ChangesWithin [targetDirectoryPath env.dirname now] files files') :
    FileSystem.ChangesWithin (writtenPaths env request now) files files' :=
  fun q hq ↦ h q fun p hp ↦ hq p (List.mem_cons.mpr (Or.inl (List.mem_singleton.mp hp)))

/-- A running application is terminated; to any other request an error is sent. -/
theorem terminateApp_cases (s : AppManager) (appId : String) :
    (∃ app, s.apps.get? appId = some app ∧ s.terminateApp appId = s.terminate appId app) ∨
    (s.apps.get? appId = none ∧ s.terminateApp appId = { s with
      responses := s.responses ++ [.terminateApp appId
        (some ("App " ++ appId ++ " is not a running app on this gateway."))] }) := by
  unfold terminateApp
  cases happ : s.apps.get? appId with
  | some app => exact Or.inl ⟨app, rfl, rfl⟩
  | none => exact Or.inr ⟨rfl, rfl⟩

/-- The metadata can be read, so that the application is stored. -/
def Stores (files : FileSystem) (request : ExecuteRequest) : Prop :=
  (env.readJson files request.deployMetadataPath).isOk = true

instance (files : FileSystem) : DecidablePred (Stores env files) := fun _ ↦
  inferInstanceAs (Decidable (_ = _))

/-- The package is there, and the metadata names a supported runtime. -/
def CanStart (files : FileSystem) (request : ExecuteRequest) : Prop :=
  (files request.packagePath).isSome ∧
    (env.readJson files request.deployMetadataPath).toOption.any fun metadata ↦
      SupportedRuntime metadata.runtime

instance (files : FileSystem) : DecidablePred (CanStart env files) := fun _ ↦
  inferInstanceAs (Decidable (_ ∧ _))

variable {env} in
/-- With metadata that can be read, an application is stored if its package is there. -/
theorem storeApp_error (now : Nat) {request : ExecuteRequest} {files : FileSystem}
    {metadata : AppMetadata}
    (hread : env.readJson files request.deployMetadataPath = .ok metadata) :
    (storeApp env.dirname now request.packagePath request.deployMetadataPath files).2.error = none ↔
      (files request.packagePath).isSome := by
  have hmetadata : (files request.deployMetadataPath).isSome := by
    unfold Installation.readJson at hread
    split at hread
    · next hcontent => rw [hcontent, Option.isSome_some]
    · cases hread
  simp only [storeApp]
  cases hpackage : files request.packagePath with
  | none =>
    simp only [FileSystem.copySync, hpackage, Outcome.throw_andThen, Option.isSome_none,
      Bool.false_eq_true, iff_false]
    exact nofun
  | some content =>
    simp only [FileSystem.copySync, hpackage, Outcome.done_andThen, Option.isSome_some, iff_true]
    by_cases hsame : request.deployMetadataPath =
        (targetDirectoryPath env.dirname now).join request.packagePath.basename
    · rw [FileSystem.write, hsame, Function.update_self]
      rfl
    · rw [FileSystem.write, Function.update_of_ne hsame]
      obtain ⟨text, htext⟩ := Option.isSome_iff_exists.mp hmetadata
      rw [htext]
      rfl

variable {env} in
/-- For that its metadata can be read. -/
theorem CanStart.stores {files : FileSystem} {request : ExecuteRequest}
    (h : CanStart env files request) : Stores env files request := by
  obtain ⟨_, hruntime⟩ := h
  unfold Stores
  cases hread : env.readJson files request.deployMetadataPath with
  | ok metadata => rfl
  | error error =>
    rw [hread] at hruntime
    cases hruntime

private theorem startApplication_spec (request : ExecuteRequest) (now : Nat) (runtime : String)
    (s : AppManager) :
    ∃ files, FileSystem.ChangesWithin (writtenPaths env request now) s.machine.files files ∧
      ((SupportedRuntime runtime ∧ (startApplication env request now runtime s).error = none ∧
        (startApplication env request now runtime s).state =
          { s.started env (describe env request now runtime) request.linkGraph files with
            db := s.db.addApp (describe env request now runtime) }) ∨
        (¬ SupportedRuntime runtime ∧ (startApplication env request now runtime s).error ≠ none ∧
          (startApplication env request now runtime s).state =
            { s with machine := { s.machine with files := files } })) := by
  have hcopied := changesWithin_writtenPaths env request
    (copyOracleLibrary_changesWithin env.dirname (targetDirectoryPath env.dirname now) runtime
      s.machine.files)
  unfold startApplication Machine.executeApplication
  by_cases h : SupportedRuntime runtime
  · simp only [if_pos h]
    exact ⟨_, hcopied.trans (FileSystem.ChangesWithin.write
      (List.mem_cons_of_mem _ (List.mem_singleton_self _)) List.prefix_rfl _ ""),
      Or.inl ⟨h, rfl, rfl⟩⟩
  · simp only [if_neg h]
    exact ⟨_, hcopied, Or.inr ⟨h, nofun, rfl⟩⟩

/-- An execution writes into its directory and its log, if it can read the metadata. It starts the
application if it can; otherwise it rejects, and everything but files is as it was. -/
theorem executeApplication_spec (request : ExecuteRequest) (now : Nat) (s : AppManager) :
    ∃ files, FileSystem.ChangesWithin (writtenPaths env request now) s.machine.files files ∧
      (¬ Stores env s.machine.files request → files = s.machine.files) ∧
      ((CanStart env s.machine.files request ∧
        (executeApplication env request now s).error = none ∧
        ∃ runtime, SupportedRuntime runtime ∧ (executeApplication env request now s).state =
          { s.started env (describe env request now runtime) request.linkGraph files with
            db := s.db.addApp (describe env request now runtime) }) ∨
        (¬ CanStart env s.machine.files request ∧
          (executeApplication env request now s).error ≠ none ∧
          (executeApplication env request now s).state =
            { s with machine := { s.machine with files := files } })) := by
  unfold executeApplication CanStart Stores
  cases hread : env.readJson s.machine.files request.deployMetadataPath with
  | error error =>
    refine ⟨s.machine.files, FileSystem.ChangesWithin.refl _ _, fun _ ↦ rfl,
      Or.inr ⟨?_, nofun, rfl⟩⟩
    exact fun h ↦ Bool.false_ne_true h.2
  | ok metadata =>
    have herror := storeApp_error now hread
    have hchanges := changesWithin_writtenPaths env request
      (storeApp_changesWithin env.dirname now request.packagePath request.deployMetadataPath
        s.machine.files)
    simp only
    generalize storeApp env.dirname now request.packagePath request.deployMetadataPath
      s.machine.files = stored at herror hchanges ⊢
    by_cases hstored : stored.2.error = none
    · rw [Outcome.andThen_of_none ((Outcome.error_within _ _).trans hstored)]
      obtain ⟨files, hfiles, hcase⟩ := startApplication_spec env request now metadata.runtime
        { s with machine := { s.machine with files := stored.2.state } }
      refine ⟨files, hchanges.trans hfiles, fun h ↦ absurd rfl h, ?_⟩
      rcases hcase with ⟨hruntime, hnone, hstate⟩ | ⟨hruntime, hsome, hstate⟩
      · exact Or.inl ⟨⟨herror.mp hstored, decide_eq_true hruntime⟩, hnone, metadata.runtime,
          hruntime, hstate⟩
      · exact Or.inr ⟨fun h ↦ hruntime (of_decide_eq_true h.2), hsome, hstate⟩
    · rw [Outcome.andThen_of_ne_none (by rwa [Outcome.error_within])]
      exact ⟨stored.2.state, hchanges, fun h ↦ absurd rfl h,
        Or.inr ⟨fun h ↦ hstored (herror.mpr h.1), hstored, rfl⟩⟩

end Start

/-! ### What a step does to the database -/

section Database

variable {env : Installation}

/-- An application described when it was stored. -/
def Described (env : Installation) (app : Dao.App) : Prop :=
  ∃ request now runtime, SupportedRuntime runtime ∧ app = describe env request now runtime

/-- The loop of the restart leaves the database and its own progress alone. -/
theorem frame_restart (apps : List Dao.App) (s : AppManager) :
    (Outcome.forEach (restartApp env) apps s).state.db = s.db ∧
      (Outcome.forEach (restartApp env) apps s).state.restart = s.restart := by
  refine Outcome.forEach_relates (R := fun s t : AppManager ↦ t.db = s.db ∧ t.restart = s.restart)
    (fun _ ↦ ⟨rfl, rfl⟩) (fun _ _ _ h h' ↦ ⟨h'.1.trans h.1, h'.2.trans h.2⟩) apps
    (fun app _ s ↦ ?_) s
  rcases restartApp_cases env app s with ⟨_, error, hthrow⟩ | ⟨_, hdone⟩
  · rw [hthrow]
    exact ⟨rfl, rfl⟩
  · rw [hdone]
    exact ⟨rfl, rfl⟩

section Step

variable {s t : AppManager}

/-- An upload goes past the directory of the installation. -/
theorem step_upload {p : Path} {content : String} (ht : step env s (.upload p content) = some t) :
    ¬ env.dirname <+: p ∧
      t = { s with machine := { s.machine with files := s.machine.files.write p content } } := by
  simp only [step] at ht
  split at ht
  · cases ht
  · next houtside => exact ⟨houtside, (Option.some.inj ht).symm⟩

/-- The start-up asks for the link graph. -/
theorem step_startUp (ht : step env s .startUp = some t) :
    t = { s with restart := .gettingLinkGraph } := by
  simp only [step] at ht
  split at ht
  · exact (Option.some.inj ht).symm
  · cases ht

/-- With the link graph the applications are fetched; without it the restart is over. -/
theorem step_linkGraph {answer : Option LinkGraph}
    (ht : step env s (.linkGraph answer) = some t) :
    (∃ linkGraph, answer = some linkGraph ∧ t = { s with
        restart := .fetching s.db.calls (linkGraph.data.keys.length = 1)
        db := s.db.fetchAll appsDbName }) ∨
      (answer = none ∧ t = { s with restart := .finished }) := by
  simp only [step] at ht
  split at ht
  · next linkGraph _ => exact Or.inl ⟨linkGraph, rfl, (Option.some.inj ht).symm⟩
  · exact Or.inr ⟨rfl, (Option.some.inj ht).symm⟩
  · cases ht

/-- The fetched applications finish the restart that waits for them. -/
theorem step_fetched (ht : step env s .fetched = some t) :
    ∃ ticket lastGateway apps, s.restart = .fetching ticket lastGateway ∧
      s.fetchedApps? ticket = some apps ∧ t = s.finishRestart env lastGateway apps := by
  simp only [step] at ht
  split at ht
  · next ticket lastGateway hrestart =>
    obtain ⟨apps, hfetched, rfl⟩ := Option.map_eq_some_iff.mp ht
    exact ⟨ticket, lastGateway, apps, hrestart, hfetched, rfl⟩
  · cases ht

end Step

/-- An event makes calls on the collection of applications, adding applications as described, or
is progress of the database. -/
theorem step_db {s t : AppManager} {e : AppEvent} (ht : step env s e = some t) :
    (∃ calls : List (Call Dao.App), (∀ c ∈ calls, c.Adds (Described env)) ∧
      t.db = calls.foldl (fun db c ↦ db.call appsDbName c) s.db) ∨
    (∃ k, t.db = s.db.readFile k) ∨
    (∃ k, e = .load k ∧ s.db.step (.load k) = some t.db) ∨
    s.db.step .run = some t.db ∨ ∃ k, s.db.step (.flush k) = some t.db := by
  cases e with
  | upload p content =>
    obtain ⟨_, rfl⟩ := step_upload ht
    exact Or.inl ⟨[], nofun, rfl⟩
  | startUp =>
    obtain rfl := step_startUp ht
    exact Or.inl ⟨[], nofun, rfl⟩
  | linkGraph answer =>
    rcases step_linkGraph ht with ⟨linkGraph, rfl, rfl⟩ | ⟨rfl, rfl⟩
    · refine Or.inl ⟨[.fetchAll], fun c hc ↦ ?_, rfl⟩
      rw [List.mem_singleton.mp hc]
      nofun
    · exact Or.inl ⟨[], nofun, rfl⟩
  | fetched =>
    obtain ⟨ticket, lastGateway, apps, _, _, rfl⟩ := step_fetched ht
    cases lastGateway with
    | true => exact Or.inl ⟨[], nofun, (frame_restart apps _).1⟩
    | false =>
      refine Or.inl ⟨apps.map fun app ↦ .remove app.id, fun c hc ↦ ?_, ?_⟩
      · obtain ⟨app, _, rfl⟩ := List.mem_map.mp hc
        nofun
      · rw [List.foldl_map]
        rfl
  | executeApp request =>
    cases ht
    exact Or.inl ⟨[], nofun, rfl⟩
  | metadataRead k now =>
    simp only [step, Option.map_eq_some_iff] at ht
    obtain ⟨request, _, rfl⟩ := ht
    obtain ⟨files, _, _, hcase⟩ :=
      executeApplication_spec env request now { s with executing := s.executing.eraseIdx k }
    have hdb : (s.finishExecution env k request now).db =
        (executeApplication env request now
          { s with executing := s.executing.eraseIdx k }).state.db := rfl
    rcases hcase with ⟨_, _, runtime, hruntime, hcase⟩ | ⟨_, _, hcase⟩
    · refine Or.inl ⟨[.add (describe env request now runtime)], fun c hc ↦ ?_, ?_⟩
      · rw [List.mem_singleton.mp hc]
        exact fun app happ ↦ ⟨request, now, runtime, hruntime, (Call.add.inj happ).symm⟩
      · rw [hdb, hcase]
        rfl
    · refine Or.inl ⟨[], nofun, ?_⟩
      rw [hdb, hcase]
      rfl
  | terminateApp appId =>
    obtain rfl := Option.some.inj ht
    rcases s.terminateApp_cases appId with ⟨app, _, heq⟩ | ⟨_, heq⟩
    · rw [heq]
      refine Or.inl ⟨[.remove appId], fun c hc ↦ ?_, rfl⟩
      rw [List.mem_singleton.mp hc]
      nofun
    · rw [heq]
      exact Or.inl ⟨[], nofun, rfl⟩
  | removed k =>
    simp only [step, Option.map_eq_some_iff] at ht
    obtain ⟨removal, _, rfl⟩ := ht
    exact Or.inl ⟨[], nofun, rfl⟩
  | readFile k =>
    cases ht
    exact Or.inr (Or.inl ⟨k, rfl⟩)
  | load k =>
    simp only [step, Option.map_eq_some_iff] at ht
    obtain ⟨db, hdb, rfl⟩ := ht
    exact Or.inr (Or.inr (Or.inl ⟨k, rfl, hdb⟩))
  | run =>
    simp only [step, Option.map_eq_some_iff] at ht
    obtain ⟨db, hdb, rfl⟩ := ht
    exact Or.inr (Or.inr (Or.inr (Or.inl hdb)))
  | flush k =>
    simp only [step, Option.map_eq_some_iff] at ht
    obtain ⟨db, hdb, rfl⟩ := ht
    exact Or.inr (Or.inr (Or.inr (Or.inr ⟨k, hdb⟩)))

/-- What has been fetched is the answer to the call with the ticket. -/
theorem exists_answer {s : AppManager} {ticket : Nat} {apps : List Dao.App}
    (h : s.fetchedApps? ticket = some apps) :
    ∃ answer ∈ s.db.answers, answer.pending.ticket = ticket ∧ answer.result = .fetched apps := by
  unfold fetchedApps? at h
  split at h
  · next hfind =>
    obtain rfl := Option.some.inj h
    have hticket := List.find?_some hfind
    exact ⟨_, List.mem_of_find?_eq_some hfind, of_decide_eq_true hticket, rfl⟩
  · cases h

/-- Database rule: what each operation in use keeps holds of the database after a step. -/
theorem keeps_db {P : DirtyDbService Dao.App → Prop} {s t : AppManager} {e : AppEvent}
    (hs : P s.db)
    (hcall : ∀ c : Call Dao.App, c.Adds (Described env) → ∀ db, P db → P (db.call appsDbName c))
    (hread : ∀ k, P (s.db.readFile k))
    (hload : ∀ k l content, e = .load k → s.db.loading[k]? = some l → l.content = some content →
      P (s.db.finishLoad k l content))
    (hrun : ∀ task rest, s.db.ready = task :: rest → P (s.db.runNext task rest))
    (hflush : ∀ k entry, s.db.unflushed[k]? = some entry → P (s.db.flush k entry))
    (ht : step env s e = some t) : P t.db := by
  rcases step_db ht with ⟨calls, hcalls, hdb⟩ | ⟨k, hdb⟩ | ⟨k, he, hstep⟩ | hstep | ⟨k, hstep⟩
  · rw [hdb]
    exact foldl_invariant calls (fun c hc db hdb ↦ hcall c (hcalls c hc) db hdb) s.db hs
  · rw [hdb]
    exact hread k
  · obtain ⟨l, hl, content, hcontent, hdb⟩ := DirtyDbService.step_load hstep
    rw [hdb]
    exact hload k l content he hl hcontent
  · obtain ⟨task, rest, hready, hdb⟩ := DirtyDbService.step_run hstep
    rw [hdb]
    exact hrun task rest hready
  · obtain ⟨entry, hentry, hdb⟩ := DirtyDbService.step_flush hstep
    rw [hdb]
    exact hflush k entry hentry

/-- What holds of every application when it is described holds of all in the database. -/
theorem holds_step {P : Dao.App → Prop} (hP : ∀ app, Described env app → P app)
    {s t : AppManager} {e : AppEvent} (hs : s.db.Holds P) (ht : step env s e = some t) :
    t.db.Holds P := by
  refine keeps_db hs ?_ hs.readFile ?_ ?_ ?_ ht
  · intro c hc db hdb
    exact hdb.call appsDbName fun app happ ↦ hP app (hc app happ)
  · intro k l content _ hl hcontent
    exact hs.finishLoad hl hcontent
  · intro task rest hready
    exact hs.runNext hready
  · intro k entry hentry
    exact hs.flush hentry

/-- The application manager uses one collection; a single load keeps it alone. -/
theorem alone_step {s t : AppManager} {e : AppEvent} (hs : s.db.Alone appsDbName)
    (hsingle : ∀ k, e = .load k → s.db.SingleLoad (.load k)) (ht : step env s e = some t) :
    t.db.Alone appsDbName := by
  refine keeps_db hs ?_ hs.readFile ?_ ?_ ?_ ht
  · intro c _ db hdb
    exact hdb.call c
  · intro k l content he hl _
    exact hs.finishLoad hl (hsingle k he l hl) content
  · intro task rest hready
    exact hs.runNext hready
  · intro k entry hentry
    exact hs.flush hentry

/-- Calls are numbered on. -/
theorem continues_step {s t : AppManager} {e : AppEvent} (ht : step env s e = some t) :
    DirtyDbService.Continues s.db t.db := by
  refine keeps_db (DirtyDbService.Continues.refl s.db) ?_
    (DirtyDbService.Continues.readFile s.db) ?_ ?_ ?_ ht
  · intro c _ db hdb
    exact hdb.call appsDbName c
  · intro k l content _ hl _
    exact DirtyDbService.Continues.finishLoad hl content
  · intro task rest hready
    exact DirtyDbService.Continues.runNext hready
  · intro k entry _
    exact DirtyDbService.Continues.flush s.db k entry

/-- A second load does not end as long as no collection is loaded twice. -/
theorem loadsTwice_step {s t : AppManager} {e : AppEvent} (hs : s.db.LoadsTwice appsDbName)
    (halone : s.db.Alone appsDbName)
    (hsingle : ∀ k, e = .load k → s.db.SingleLoad (.load k)) (ht : step env s e = some t) :
    t.db.LoadsTwice appsDbName := by
  refine keeps_db hs ?_ hs.readFile ?_ (fun _ _ _ ↦ hs) (fun _ _ _ ↦ hs) ht
  · intro c _ db hdb
    exact hdb.call c
  · intro k l content he hl _
    exact hs.finishLoad halone hl (hsingle k he l hl) content

end Database

end AppManager
end NexusEdge.Apps
