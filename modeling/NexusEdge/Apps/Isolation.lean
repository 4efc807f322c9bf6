import NexusEdge.Apps.AppManager
import NexusEdge.Dao.Collection

/-!
# Isolation of applications

Library `Apps`. The log of an application is named after its file, its directory after the
clock: two applications may be given the same ones, and the removal made for one then reaches
the other. As long as every application started gets a log and a directory that neither
another running application nor a removal for one has, no step for one application touches the
log, directory, entries or process of another.
-/

namespace NexusEdge.Apps
open NexusEdge.Base NexusEdge.Platform NexusEdge.Dao

/-- The execution directory, `app-manager.js:187`. -/
def AppInfo.directory (info : AppInfo) : Path := info.appPath.dirname

/-! ### Places below the installation -/

/-- A path two levels below the directory. -/
def Slot (dirname p : Path) : Prop := ∃ x y, p = (dirname.join x).join y

/-- Only one of these paths is above a given one. -/
theorem Slot.eq_of_prefix {dirname p p' q : Path} (hp : Slot dirname p) (hp' : Slot dirname p')
    (h : p <+: q) (h' : p' <+: q) : p = p' := by
  obtain ⟨x, y, rfl⟩ := hp
  obtain ⟨x', y', rfl⟩ := hp'
  have hlength : ((dirname.join x).join y).length = ((dirname.join x').join y').length := by
    simp [Path.join]
  exact (List.prefix_of_prefix_length_le h h' hlength.le).eq_of_length hlength

/-- It is below the directory. -/
theorem Slot.below {dirname p : Path} (h : Slot dirname p) : dirname <+: p := by
  obtain ⟨x, y, rfl⟩ := h
  exact ⟨[x, y], (List.append_assoc dirname [x] [y]).symm⟩

/-- The logs. -/
theorem slot_getLogPath (dirname : Path) (appName : String) :
    Slot dirname (getLogPath dirname appName) :=
  ⟨"logs", appName ++ ".out", rfl⟩

/-- The directory of an application stored at some time. -/
def ExecutableDir (dirname p : Path) : Prop := ∃ name, p = (executableDirPath dirname).join name

/-- The execution directories. -/
theorem ExecutableDir.slot {dirname p : Path} (h : ExecutableDir dirname p) : Slot dirname p := by
  obtain ⟨name, rfl⟩ := h
  exact ⟨"executables", name, rfl⟩

/-- No log is an execution directory. -/
theorem ExecutableDir.ne_getLogPath {dirname p : Path} (h : ExecutableDir dirname p)
    (appName : String) : getLogPath dirname appName ≠ p := by
  obtain ⟨name, rfl⟩ := h
  simp [getLogPath, executableDirPath, Path.join]

/-- The log and the directory are where the application manager puts them. -/
structure AppInfo.InPlace (dirname : Path) (info : AppInfo) : Prop where
  log : info.logPath = getLogPath dirname info.name
  directory : ExecutableDir dirname info.directory

/-- An application of the database is in an execution directory. -/
def InExecutables (dirname : Path) (app : Dao.App) : Prop :=
  ExecutableDir dirname app.executablePath.dirname

/-- Changes at other places reach neither the log nor the directory. -/
theorem AppInfo.InPlace.frame {dirname : Path} {info : AppInfo} (hinfo : info.InPlace dirname)
    {ps : List Path} (hps : ∀ p ∈ ps, Slot dirname p ∧ p ≠ info.logPath ∧ p ≠ info.directory)
    {files files' : FileSystem} (h : FileSystem.ChangesWithin ps files files') :
    files' info.logPath = files info.logPath ∧
      FileSystem.AgreeBelow info.directory files files' := by
  constructor
  · refine h _ fun p hp hprefix ↦ ?_
    obtain ⟨hslot, hne, _⟩ := hps p hp
    exact hne (hslot.eq_of_prefix (hinfo.log ▸ slot_getLogPath _ _) hprefix List.prefix_rfl)
  · intro q hq
    refine h q fun p hp hprefix ↦ ?_
    obtain ⟨hslot, _, hne⟩ := hps p hp
    exact hne (hslot.eq_of_prefix hinfo.directory.slot hprefix hq)

namespace AppManager

/-! ### What stays the same -/

/-- Log file, execution directory, entries and process of the application are unchanged. -/
structure Untouched (id : String) (info : AppInfo) (s t : AppManager) : Prop where
  apps : s.apps.get? id = some info → t.apps.get? id = some info
  log : t.machine.files info.logPath = s.machine.files info.logPath
  directory : FileSystem.AgreeBelow info.directory s.machine.files t.machine.files
  database : (t.db.store appsDbName).get? id = (s.db.store appsDbName).get? id
  process : ∀ p, s.machine.processes[info.process]? = some p →
    t.machine.processes[info.process]? = some p
  killed : info.process ∈ t.machine.killed ↔ info.process ∈ s.machine.killed

namespace Untouched

variable {id : String} {info : AppInfo} {s t u : AppManager}

/-- A step that changes nothing. -/
theorem refl (id : String) (info : AppInfo) (s : AppManager) : Untouched id info s s :=
  ⟨fun h ↦ h, rfl, fun _ _ ↦ rfl, rfl, fun _ h ↦ h, Iff.rfl⟩

/-- Successive steps. -/
theorem trans (h : Untouched id info s t) (h' : Untouched id info t u) :
    Untouched id info s u :=
  ⟨fun happs ↦ h'.apps (h.apps happs), h'.log.trans h.log,
    fun q hq ↦ (h'.directory q hq).trans (h.directory q hq), h'.database.trans h.database,
    fun p hp ↦ h'.process p (h.process p hp), h'.killed.trans h.killed⟩

/-- Only the database may change. -/
theorem of_db {db : DirtyDbService Dao.App}
    (h : (db.store appsDbName).get? id = (s.db.store appsDbName).get? id) :
    Untouched id info s { s with db := db } :=
  ⟨fun h ↦ h, rfl, fun _ _ ↦ rfl, h, fun _ h ↦ h, Iff.rfl⟩

/-- Applications, machine and collection are those of before. -/
theorem of_eq (happs : t.apps = s.apps) (hmachine : t.machine = s.machine)
    (hdb : t.db.store appsDbName = s.db.store appsDbName) : Untouched id info s t := by
  refine ⟨?_, ?_, ?_, by rw [hdb], ?_, by rw [hmachine]⟩
  · rw [happs]
    exact fun h ↦ h
  · rw [hmachine]
  · rw [hmachine]
    exact fun _ _ ↦ rfl
  · rw [hmachine]
    exact fun _ h ↦ h

/-- Another application is started. -/
theorem started {env : Installation} (hinfo : info.InPlace env.dirname) {app : Dao.App}
    (hid : id ≠ app.id) (linkGraph : Option LinkGraph) {files : FileSystem} {ps : List Path}
    (hps : ∀ p ∈ ps, Slot env.dirname p ∧ p ≠ info.logPath ∧ p ≠ info.directory)
    (hfiles : FileSystem.ChangesWithin ps s.machine.files files) :
    Untouched id info s (s.started env app linkGraph files) := by
  obtain ⟨hlog, hdirectory⟩ := hinfo.frame hps hfiles
  refine ⟨fun h ↦ ?_, hlog, hdirectory, rfl, fun p hp ↦ ?_, Iff.rfl⟩
  · rw [AppManager.started, JsObject.get?_set_ne _ _ hid]
    exact h
  · have hlt := (List.getElem?_eq_some_iff.mp hp).1
    rw [AppManager.started, List.getElem?_append_left hlt]
    exact hp

end Untouched

/-- The application whose records the first waiting call touches. -/
def nextTarget? (s : AppManager) : Option String :=
  s.db.ready.head?.bind fun task ↦ task.pending.call.target?

/-- The applications fetched for the continuation that waits for them. -/
def fetched? (s : AppManager) : Option (List Dao.App) :=
  match s.restart with
  | .fetching ticket _ => s.fetchedApps? ticket
  | _ => none

/-- The fetched applications, if they are to be restarted. -/
def restarting? (s : AppManager) : Option (List Dao.App) :=
  match s.restart with
  | .fetching ticket true => s.fetchedApps? ticket
  | _ => none

/-- The step executes, restarts or terminates the application, or is a later part of that. -/
def ActsFor (s : AppManager) : AppEvent → String → Prop
  | .metadataRead k _, id => ∃ request ∈ s.executing[k]?, request.appId = id
  | .terminateApp appId, id => appId = id
  | .removed k, id => ∃ removal ∈ s.removing[k]?, removal.appId = id
  | .fetched, id => ∃ apps ∈ s.fetched?, ∃ app ∈ apps, app.id = id
  | .run, id => s.nextTarget? = some id
  | _, _ => False

/-- The step leaves every running application untouched for which it does not act. -/
def Isolated (env : Installation) (s : AppManager) (e : AppEvent) : Prop :=
  ∀ t, step env s e = some t → ∀ id info, s.apps.get? id = some info → ¬ s.ActsFor e id →
    Untouched id info s t

/-! ### The condition -/

/-- No other running application, and no removal for another one, has the log or the
directory. -/
def Free (s : AppManager) (id : String) (logPath directory : Path) : Prop :=
  (∀ entry ∈ s.apps.ownEntries, entry.1 ≠ id →
    entry.2.logPath ≠ logPath ∧ entry.2.directory ≠ directory) ∧
  ∀ removal ∈ s.removing, removal.appId ≠ id → removal.path ≠ logPath ∧ removal.path ≠ directory

instance (s : AppManager) (id : String) (logPath directory : Path) :
    Decidable (s.Free id logPath directory) :=
  inferInstanceAs (Decidable (_ ∧ _))

/-- The log and the directory of an application of the database are free. -/
abbrev FreeFor (env : Installation) (s : AppManager) (app : Dao.App) : Prop :=
  s.Free app.id (getLogPath env.dirname app.name) app.executablePath.dirname

/-- Two applications of the database have different logs and directories. -/
abbrev Differ (env : Installation) (app app' : Dao.App) : Prop :=
  app.id ≠ app'.id → getLogPath env.dirname app.name ≠ getLogPath env.dirname app'.name ∧
    app.executablePath.dirname ≠ app'.executablePath.dirname

/-- Applications are stored and started with logs and directories that are free, and the database
is loaded once. -/
def Separate (env : Installation) (s : AppManager) : AppEvent → Prop
  | .metadataRead k now => ∀ request ∈ s.executing[k]?, Stores env s.machine.files request →
    s.Free request.appId (getLogPath env.dirname request.packagePath.basename)
      (targetDirectoryPath env.dirname now)
  | .fetched => ∀ apps ∈ s.restarting?,
    (∀ app ∈ apps, s.FreeFor env app) ∧ apps.Pairwise (Differ env)
  | .load k => s.db.SingleLoad (.load k)
  | _ => True

instance (env : Installation) (s : AppManager) : DecidablePred (s.Separate env) := fun e ↦
  match e with
  | .metadataRead k now => inferInstanceAs (Decidable (∀ request ∈ s.executing[k]?,
      Stores env s.machine.files request →
        s.Free request.appId (getLogPath env.dirname request.packagePath.basename)
          (targetDirectoryPath env.dirname now)))
  | .fetched => inferInstanceAs (Decidable (∀ apps ∈ s.restarting?,
      (∀ app ∈ apps, s.FreeFor env app) ∧ apps.Pairwise (Differ env)))
  | .load k => inferInstanceAs (Decidable (s.db.SingleLoad (.load k)))
  | .upload _ _ => .isTrue trivial
  | .startUp => .isTrue trivial
  | .linkGraph _ => .isTrue trivial
  | .executeApp _ => .isTrue trivial
  | .terminateApp _ => .isTrue trivial
  | .removed _ => .isTrue trivial
  | .readFile _ => .isTrue trivial
  | .run => .isTrue trivial
  | .flush _ => .isTrue trivial

/-! ### The invariant -/

/-- The running applications have logs and directories in their places, no two the same, no
removal for another application among them, and processes of their own. -/
structure Apart (dirname : Path) (s : AppManager) : Prop where
  placed : ∀ id info, s.apps.get? id = some info → info.InPlace dirname
  differ : ∀ id info id' info', s.apps.get? id = some info → s.apps.get? id' = some info' →
    id ≠ id' → info.logPath ≠ info'.logPath ∧ info.directory ≠ info'.directory
  slots : ∀ removal ∈ s.removing, Slot dirname removal.path
  clear : ∀ removal ∈ s.removing, ∀ id info, s.apps.get? id = some info → removal.appId ≠ id →
    removal.path ≠ info.logPath ∧ removal.path ≠ info.directory
  process : ∀ id info, s.apps.get? id = some info →
    ∃ p, s.machine.processes[info.process]? = some p ∧ p.appDataTopic = id

/-- The running application with this id does not have the log or the directory, if they are
free for another one. -/
theorem Free.ne {s : AppManager} {id id' : String} {logPath directory : Path} {info : AppInfo}
    (h : s.Free id logPath directory) (hget : s.apps.get? id' = some info) (hne : id' ≠ id) :
    info.logPath ≠ logPath ∧ info.directory ≠ directory :=
  h.1 (id', info) ((JsObject.mem_ownEntries_iff _ _ _).mpr hget) hne

/-- The places written by a start do not belong to another application. -/
theorem Free.slots {s : AppManager} {env : Installation} {id id' : String} {info : AppInfo}
    {appName : String} {directory : Path}
    (h : s.Free id (getLogPath env.dirname appName) directory)
    (hdirectory : ExecutableDir env.dirname directory) (hs : s.Apart env.dirname)
    (hget : s.apps.get? id' = some info) (hne : id' ≠ id) :
    ∀ p ∈ [directory, getLogPath env.dirname appName],
      Slot env.dirname p ∧ p ≠ info.logPath ∧ p ≠ info.directory := by
  obtain ⟨hlog, hdir⟩ := h.ne hget hne
  have hinfo := hs.placed id' info hget
  intro p hp
  rcases List.mem_cons.mp hp with rfl | hp
  · refine ⟨hdirectory.slot, fun heq ↦ ?_, hdir.symm⟩
    exact hdirectory.ne_getLogPath info.name (hinfo.log.symm.trans heq.symm)
  · rw [List.mem_singleton.mp hp]
    exact ⟨slot_getLogPath _ _, hlog.symm, hinfo.directory.ne_getLogPath appName⟩

/-- An application is started with a free log and a free directory. -/
theorem Apart.started {env : Installation} {s : AppManager} (hs : s.Apart env.dirname)
    {app : Dao.App} (happ : InExecutables env.dirname app) (hfree : s.FreeFor env app)
    (linkGraph : Option LinkGraph) (files : FileSystem) :
    (s.started env app linkGraph files).Apart env.dirname := by
  have hget : ∀ id info, (s.started env app linkGraph files).apps.get? id = some info →
      (id = app.id ∧ info = entryOf env app s.machine.processes.length) ∨
        (id ≠ app.id ∧ s.apps.get? id = some info) := by
    intro id info hinfo
    rw [AppManager.started, JsObject.get?_set] at hinfo
    split at hinfo
    · next hid => exact Or.inl ⟨hid, (Option.some.inj hinfo).symm⟩
    · next hid => exact Or.inr ⟨hid, hinfo⟩
  refine ⟨fun id info hinfo ↦ ?_, fun id info id' info' hinfo hinfo' hne ↦ ?_, hs.slots,
    fun removal hremoval id info hinfo hne ↦ ?_, fun id info hinfo ↦ ?_⟩
  · rcases hget id info hinfo with ⟨_, rfl⟩ | ⟨_, hinfo⟩
    · exact ⟨rfl, happ⟩
    · exact hs.placed id info hinfo
  · rcases hget id info hinfo with ⟨rfl, rfl⟩ | ⟨hid, hinfo⟩
    · rcases hget id' info' hinfo' with ⟨rfl, _⟩ | ⟨hid', hinfo'⟩
      · exact absurd rfl hne
      · exact (hfree.ne hinfo' hid').imp Ne.symm Ne.symm
    · rcases hget id' info' hinfo' with ⟨rfl, rfl⟩ | ⟨_, hinfo'⟩
      · exact hfree.ne hinfo hid
      · exact hs.differ id info id' info' hinfo hinfo' hne
  · rcases hget id info hinfo with ⟨rfl, rfl⟩ | ⟨_, hinfo⟩
    · exact hfree.2 removal hremoval hne
    · exact hs.clear removal hremoval id info hinfo hne
  · rcases hget id info hinfo with ⟨rfl, rfl⟩ | ⟨_, hinfo⟩
    · exact ⟨_, List.getElem?_concat_length, rfl⟩
    · obtain ⟨p, hp, htopic⟩ := hs.process id info hinfo
      have hlt := (List.getElem?_eq_some_iff.mp hp).1
      exact ⟨p, by rw [AppManager.started, List.getElem?_append_left hlt, hp], htopic⟩

/-- The running applications and the removals are those of before. -/
theorem Apart.congr {dirname : Path} {s t : AppManager} (hs : s.Apart dirname)
    (happs : t.apps = s.apps) (hremoving : t.removing = s.removing)
    (hprocesses : t.machine.processes = s.machine.processes) : t.Apart dirname := by
  refine ⟨?_, ?_, ?_, ?_, ?_⟩
  · rw [happs]
    exact hs.placed
  · rw [happs]
    exact hs.differ
  · rw [hremoving]
    exact hs.slots
  · rw [happs, hremoving]
    exact hs.clear
  · rw [happs, hprocesses]
    exact hs.process

/-- An application is terminated. -/
theorem Apart.terminate {dirname : Path} {s : AppManager} (hs : s.Apart dirname)
    {appId : String} {app : AppInfo} (happ : s.apps.get? appId = some app) :
    (s.terminate appId app).Apart dirname := by
  have hget : ∀ id info, (s.terminate appId app).apps.get? id = some info →
      id ≠ appId ∧ s.apps.get? id = some info := by
    intro id info hinfo
    rw [AppManager.terminate, JsObject.get?_erase] at hinfo
    split at hinfo
    · cases hinfo
    · next hne => exact ⟨hne, hinfo⟩
  have hplaced := hs.placed appId app happ
  refine ⟨fun id info hinfo ↦ hs.placed id info (hget id info hinfo).2,
    fun id info id' info' hinfo hinfo' ↦
      hs.differ id info id' info' (hget id info hinfo).2 (hget id' info' hinfo').2,
    fun removal hremoval ↦ ?_, fun removal hremoval id info hinfo hne ↦ ?_,
    fun id info hinfo ↦ hs.process id info (hget id info hinfo).2⟩
  · rcases List.mem_append.mp hremoval with hremoval | hremoval
    · exact hs.slots removal hremoval
    · rcases List.mem_cons.mp hremoval with rfl | hremoval
      · exact hplaced.log ▸ slot_getLogPath _ _
      · rw [List.mem_singleton.mp hremoval]
        exact hplaced.directory.slot
  · obtain ⟨hid, hinfo⟩ := hget id info hinfo
    obtain ⟨hlog, hdir⟩ := hs.differ appId app id info happ hinfo hid.symm
    have hother := hs.placed id info hinfo
    rcases List.mem_append.mp hremoval with hremoval | hremoval
    · exact hs.clear removal hremoval id info hinfo hne
    · rcases List.mem_cons.mp hremoval with rfl | hremoval
      · refine ⟨hlog, ?_⟩
        rw [hplaced.log]
        exact hother.directory.ne_getLogPath app.name
      · rw [List.mem_singleton.mp hremoval]
        refine ⟨fun heq ↦ ?_, hdir⟩
        exact hplaced.directory.ne_getLogPath info.name (hother.log.symm.trans heq.symm)

/-- A removal completes. -/
theorem Apart.finishRemoval {dirname : Path} {s : AppManager} (hs : s.Apart dirname) (k : Nat)
    (removal : Removal) : (s.finishRemoval k removal).Apart dirname := by
  have hsub := (List.eraseIdx_sublist s.removing k).subset
  exact ⟨hs.placed, hs.differ, fun other hother ↦ hs.slots other (hsub hother),
    fun other hother ↦ hs.clear other (hsub hother), hs.process⟩

/-! ### One step -/

/-- An application is described with an execution directory. -/
theorem Described.inExecutables {env : Installation} {app : Dao.App} (h : Described env app) :
    InExecutables env.dirname app := by
  obtain ⟨request, now, runtime, _, rfl⟩ := h
  exact ⟨toString now, Path.dirname_join _ _⟩

/-- The invariant, and a database used as one collection with applications in execution
directories. -/
structure Kept (dirname : Path) (s : AppManager) : Prop where
  apart : s.Apart dirname
  alone : s.db.Alone appsDbName
  holds : s.db.Holds (InExecutables dirname)

/-- What earlier processes left in the database files. -/
def StoredBefore (dirname : Path) (databases : JsObject (JsObject Dao.App)) : Prop :=
  ∀ dbName db, databases.get? dbName = some db → Keyed (InExecutables dirname) db

/-- Nothing was stored before. -/
theorem storedBefore_empty (dirname : Path) : StoredBefore dirname JsObject.empty := nofun

/-- The loaded module. -/
theorem kept_initial (dirname : Path) (files : FileSystem)
    {databases : JsObject (JsObject Dao.App)} (h : StoredBefore dirname databases) :
    (initial files databases).Kept dirname :=
  ⟨⟨nofun, nofun, nofun, nofun, nofun⟩, DirtyDbService.alone_initial _ _,
    DirtyDbService.holds_initial h⟩

/-- Termination leaves the other applications alone. -/
theorem untouched_terminate {dirname : Path} {s : AppManager} (hs : s.Apart dirname)
    {appId : String} {app : AppInfo} (happ : s.apps.get? appId = some app)
    {id : String} {info : AppInfo} (hinfo : s.apps.get? id = some info) (hne : appId ≠ id) :
    Untouched id info s (s.terminate appId app) := by
  refine ⟨fun _ ↦ ?_, rfl, fun _ _ ↦ rfl, ?_, fun p hp ↦ hp, ?_⟩
  · rw [AppManager.terminate, JsObject.get?_erase, if_neg hne.symm]
    exact hinfo
  · exact congrArg (JsObject.get? · id) (DirtyDbService.store_call s.db _ _ _)
  · have hprocess : info.process ≠ app.process := by
      intro heq
      obtain ⟨p, hp, htopic⟩ := hs.process id info hinfo
      obtain ⟨p', hp', htopic'⟩ := hs.process appId app happ
      rw [← heq] at hp'
      obtain rfl := Option.some.inj (hp.symm.trans hp')
      exact hne (htopic'.symm.trans htopic)
    simp only [AppManager.terminate, List.mem_append, List.mem_singleton, hprocess, or_false]

/-- A removal reaches the application it is made for only. -/
theorem untouched_finishRemoval {dirname : Path} {s : AppManager} (hs : s.Apart dirname)
    {k : Nat} {removal : Removal} (hk : s.removing[k]? = some removal) {id : String}
    {info : AppInfo} (hinfo : s.apps.get? id = some info) (hne : removal.appId ≠ id) :
    Untouched id info s (s.finishRemoval k removal) := by
  have hmem := List.mem_of_getElem? hk
  have hslot : ∀ p ∈ [removal.path], Slot dirname p ∧ p ≠ info.logPath ∧ p ≠ info.directory := by
    intro p hp
    rw [List.mem_singleton.mp hp]
    exact ⟨hs.slots removal hmem, hs.clear removal hmem id info hinfo hne⟩
  obtain ⟨hlog, hdirectory⟩ := (hs.placed id info hinfo).frame hslot
    (FileSystem.ChangesWithin.remove (List.mem_singleton_self _) s.machine.files)
  exact ⟨fun h ↦ h, hlog, hdirectory, rfl, fun _ h ↦ h, Iff.rfl⟩

/-- An execution reaches no other application. -/
theorem executeApplication_isolated {env : Installation} {s : AppManager}
    (hs : s.Apart env.dirname) (request : ExecuteRequest) (now : Nat)
    (hfree : Stores env s.machine.files request → s.Free request.appId
      (getLogPath env.dirname request.packagePath.basename)
      (targetDirectoryPath env.dirname now)) :
    (executeApplication env request now s).state.Apart env.dirname ∧
      ∀ id info, s.apps.get? id = some info → id ≠ request.appId →
        Untouched id info s (executeApplication env request now s).state := by
  have hdirectory : ExecutableDir env.dirname (targetDirectoryPath env.dirname now) :=
    ⟨toString now, rfl⟩
  have hslots : Stores env s.machine.files request → ∀ id info, s.apps.get? id = some info →
      id ≠ request.appId → ∀ p ∈ writtenPaths env request now,
        Slot env.dirname p ∧ p ≠ info.logPath ∧ p ≠ info.directory :=
    fun hstores id info hinfo hne ↦ (hfree hstores).slots hdirectory hs hinfo hne
  obtain ⟨files, hfiles, hunread, hcase⟩ := executeApplication_spec env request now s
  rcases hcase with ⟨hstart, _, runtime, hruntime, hcase⟩ | ⟨_, _, hcase⟩
  · have hstores := hstart.stores
    have hin : InExecutables env.dirname (describe env request now runtime) :=
      Described.inExecutables ⟨request, now, runtime, hruntime, rfl⟩
    have hfreeApp : s.FreeFor env (describe env request now runtime) := by
      rw [FreeFor, describe, Path.dirname_join]
      exact hfree hstores
    rw [hcase]
    refine ⟨(hs.started hin hfreeApp request.linkGraph files).congr rfl rfl rfl,
      fun id info hinfo hne ↦ ?_⟩
    refine (Untouched.started (hs.placed id info hinfo) hne request.linkGraph
      (hslots hstores id info hinfo hne) hfiles).trans (Untouched.of_db ?_)
    exact congrArg (JsObject.get? · id) (DirtyDbService.store_call _ _ _ _)
  · rw [hcase]
    refine ⟨hs.congr rfl rfl rfl, fun id info hinfo hne ↦ ?_⟩
    by_cases hstores : Stores env s.machine.files request
    · obtain ⟨hlog, hbelow⟩ :=
        (hs.placed id info hinfo).frame (hslots hstores id info hinfo hne) hfiles
      exact ⟨fun h ↦ h, hlog, hbelow, rfl, fun _ h ↦ h, Iff.rfl⟩
    · rw [hunread hstores]
      exact Untouched.of_eq rfl rfl rfl

/-- A restart reaches none but the applications restarted. -/
theorem restart_isolated {env : Installation} (apps : List Dao.App) {s : AppManager}
    (hs : s.Apart env.dirname) (hin : ∀ app ∈ apps, InExecutables env.dirname app)
    (hfree : ∀ app ∈ apps, s.FreeFor env app) (hdiffer : apps.Pairwise (Differ env)) :
    (Outcome.forEach (restartApp env) apps s).state.Apart env.dirname ∧
      ∀ id info, s.apps.get? id = some info → (∀ app ∈ apps, app.id ≠ id) →
        Untouched id info s (Outcome.forEach (restartApp env) apps s).state := by
  induction apps generalizing s with
  | nil => exact ⟨hs, fun id info _ _ ↦ Untouched.refl id info s⟩
  | cons app apps ih =>
    rw [Outcome.forEach]
    rcases restartApp_cases env app s with ⟨_, error, hthrow⟩ | ⟨_, hdone⟩
    · rw [hthrow, Outcome.throw_andThen]
      exact ⟨hs, fun id info _ _ ↦ Untouched.refl id info s⟩
    · have hfreeApp := hfree app List.mem_cons_self
      obtain ⟨hdifferApp, hdiffer⟩ := List.pairwise_cons.mp hdiffer
      let s' := s.started env app none (s.machine.files.write (getLogPath env.dirname app.name) "")
      have hs' : s'.Apart env.dirname := hs.started (hin app List.mem_cons_self) hfreeApp none _
      have hfree' : ∀ app' ∈ apps, s'.FreeFor env app' := by
        intro app' happ'
        obtain ⟨hentries, hremovals⟩ := hfree app' (List.mem_cons_of_mem _ happ')
        refine ⟨fun entry hentry hne ↦ ?_, hremovals⟩
        have hget := (JsObject.mem_ownEntries_iff _ _ _).mp hentry
        rw [show s'.apps = s.apps.set app.id _ from rfl, JsObject.get?_set] at hget
        split at hget
        · next hid =>
          rw [← Option.some.inj hget]
          exact hdifferApp app' happ' (hid ▸ hne)
        · exact hentries entry ((JsObject.mem_ownEntries_iff _ _ _).mpr hget) hne
      obtain ⟨hapart, hrest⟩ := ih hs' (fun app' h ↦ hin app' (List.mem_cons_of_mem _ h))
        hfree' hdiffer
      rw [hdone, Outcome.done_andThen]
      refine ⟨hapart, fun id info hinfo hne ↦ ?_⟩
      have hid : id ≠ app.id := (hne app List.mem_cons_self).symm
      have hstart : Untouched id info s s' :=
        Untouched.started (hs.placed id info hinfo) hid none
          (hfreeApp.slots (hin app List.mem_cons_self) hs hinfo hid)
          (FileSystem.ChangesWithin.write (List.mem_cons_of_mem _ (List.mem_singleton_self _))
            List.prefix_rfl s.machine.files "")
      exact hstart.trans (hrest id info (hstart.apps hinfo)
        fun app' h ↦ hne app' (List.mem_cons_of_mem _ h))

/-- Removals called on the database change nothing before they run. -/
theorem untouched_removeApps (id : String) (info : AppInfo) (s : AppManager)
    (apps : List Dao.App) : Untouched id info s (s.removeApps apps) := by
  refine Untouched.of_eq rfl rfl ?_
  exact foldl_invariant (P := fun db : DirtyDbService Dao.App ↦
    db.store appsDbName = s.db.store appsDbName) apps
    (fun app _ db hdb ↦ (DirtyDbService.store_call _ _ _ _).trans hdb) s.db rfl

/-- The end of the restart reaches none but the fetched applications. -/
theorem finishRestart_isolated {env : Installation} {s : AppManager} (hs : s.Apart env.dirname)
    (lastGateway : Bool) {apps : List Dao.App} (hin : ∀ app ∈ apps, InExecutables env.dirname app)
    (hfree : lastGateway = true →
      (∀ app ∈ apps, s.FreeFor env app) ∧ apps.Pairwise (Differ env)) :
    (s.finishRestart env lastGateway apps).Apart env.dirname ∧
      ∀ id info, s.apps.get? id = some info → (∀ app ∈ apps, app.id ≠ id) →
        Untouched id info s (s.finishRestart env lastGateway apps) := by
  let s' := { s with restart := .finished }
  have hs' : s'.Apart env.dirname := hs.congr rfl rfl rfl
  have hfinished : ∀ id info, Untouched id info s s' := fun _ _ ↦ Untouched.of_eq rfl rfl rfl
  cases lastGateway with
  | true =>
    obtain ⟨hfree, hdiffer⟩ := hfree rfl
    obtain ⟨hapart, hrest⟩ := restart_isolated apps hs' hin hfree hdiffer
    exact ⟨hapart, fun id info hinfo hne ↦ (hfinished id info).trans (hrest id info hinfo hne)⟩
  | false =>
    exact ⟨hs.congr rfl rfl rfl, fun id info _ _ ↦
      (hfinished id info).trans (untouched_removeApps id info s' apps)⟩

/-- Under the condition a step keeps the applications apart and reaches none but those it acts
for. -/
theorem step_isolated {env : Installation} {s t : AppManager} {e : AppEvent}
    (hs : s.Kept env.dirname) (hsep : s.Separate env e) (ht : step env s e = some t) :
    t.Apart env.dirname ∧ ∀ id info, s.apps.get? id = some info → ¬ s.ActsFor e id →
      Untouched id info s t := by
  cases e with
  | upload p content =>
    obtain ⟨houtside, rfl⟩ := step_upload ht
    refine ⟨hs.apart.congr rfl rfl rfl, fun id info hinfo _ ↦ ?_⟩
    have hplaced := hs.apart.placed id info hinfo
    have hwritten : ∀ q, env.dirname <+: q →
        s.machine.files.write p content q = s.machine.files q := by
      intro q hq
      apply Function.update_of_ne
      rintro rfl
      exact houtside hq
    refine ⟨fun h ↦ h, hwritten _ ?_, fun q hq ↦ hwritten q ?_, rfl, fun _ h ↦ h, Iff.rfl⟩
    · rw [hplaced.log]
      exact (slot_getLogPath _ _).below
    · exact hplaced.directory.slot.below.trans hq
  | startUp =>
    obtain rfl := step_startUp ht
    exact ⟨hs.apart.congr rfl rfl rfl, fun _ _ _ _ ↦ Untouched.of_eq rfl rfl rfl⟩
  | linkGraph answer =>
    rcases step_linkGraph ht with ⟨linkGraph, rfl, rfl⟩ | ⟨rfl, rfl⟩
    · exact ⟨hs.apart.congr rfl rfl rfl,
        fun _ _ _ _ ↦ Untouched.of_eq rfl rfl (DirtyDbService.store_call _ _ _ _)⟩
    · exact ⟨hs.apart.congr rfl rfl rfl, fun _ _ _ _ ↦ Untouched.of_eq rfl rfl rfl⟩
  | fetched =>
    obtain ⟨ticket, lastGateway, apps, hrestart, hfetched, rfl⟩ := step_fetched ht
    obtain ⟨answer, hanswer, _, hresult⟩ := exists_answer hfetched
    obtain ⟨hapart, hrest⟩ := finishRestart_isolated hs.apart lastGateway
      (hs.holds.answers answer hanswer apps hresult).2
      fun hlast ↦ hsep apps (by rwa [restarting?, hrestart, hlast])
    refine ⟨hapart, fun id info hinfo hacts ↦ hrest id info hinfo fun app happ heq ↦ hacts ?_⟩
    exact ⟨apps, by rwa [fetched?, hrestart], app, happ, heq⟩
  | executeApp request =>
    cases ht
    exact ⟨hs.apart.congr rfl rfl rfl, fun _ _ _ _ ↦
      Untouched.of_eq rfl rfl rfl⟩
  | metadataRead k now =>
    simp only [step, Option.map_eq_some_iff] at ht
    obtain ⟨request, hrequest, rfl⟩ := ht
    have hwaiting : { s with executing := s.executing.eraseIdx k }.Apart env.dirname :=
      hs.apart.congr rfl rfl rfl
    obtain ⟨hapart, hrest⟩ := executeApplication_isolated hwaiting request now
      (hsep request hrequest)
    refine ⟨hapart.congr rfl rfl rfl, fun id info hinfo hacts ↦ ?_⟩
    have hne : id ≠ request.appId := fun heq ↦ hacts ⟨request, hrequest, heq.symm⟩
    obtain ⟨happs, hlog, hdirectory, hdatabase, hprocess, hkilled⟩ := hrest id info hinfo hne
    exact ⟨happs, hlog, hdirectory, hdatabase, hprocess, hkilled⟩
  | terminateApp appId =>
    obtain rfl := Option.some.inj ht
    rcases s.terminateApp_cases appId with ⟨app, happ, heq⟩ | ⟨_, heq⟩
    · rw [heq]
      exact ⟨hs.apart.terminate happ, fun id info hinfo hne ↦
        untouched_terminate hs.apart happ hinfo hne⟩
    · rw [heq]
      exact ⟨hs.apart.congr rfl rfl rfl, fun _ _ _ _ ↦
        Untouched.of_eq rfl rfl rfl⟩
  | removed k =>
    simp only [step, Option.map_eq_some_iff] at ht
    obtain ⟨removal, hremoval, rfl⟩ := ht
    exact ⟨hs.apart.finishRemoval k removal, fun id info hinfo hacts ↦
      untouched_finishRemoval hs.apart hremoval hinfo fun heq ↦ hacts ⟨removal, hremoval, heq⟩⟩
  | readFile k =>
    cases ht
    exact ⟨hs.apart.congr rfl rfl rfl, fun _ _ _ _ ↦ Untouched.of_db rfl⟩
  | load k =>
    simp only [step, Option.map_eq_some_iff] at ht
    obtain ⟨db, hload, rfl⟩ := ht
    obtain ⟨l, hl, content, hcontent, rfl⟩ := DirtyDbService.step_load hload
    exact ⟨hs.apart.congr rfl rfl rfl, fun _ _ _ _ ↦ Untouched.of_eq rfl rfl
      (DirtyDbService.store_finishLoad hs.alone hl (hsep l hl) hcontent)⟩
  | run =>
    simp only [step, Option.map_eq_some_iff] at ht
    obtain ⟨db, hrun, rfl⟩ := ht
    obtain ⟨task, rest, hready, rfl⟩ := DirtyDbService.step_run hrun
    refine ⟨hs.apart.congr rfl rfl rfl, fun id info _ hacts ↦ Untouched.of_db ?_⟩
    rw [(DirtyDbService.store_runNext hs.alone hready).2]
    refine get?_after_of_ne (fun htarget ↦ hacts ?_) _
    rw [ActsFor, nextTarget?, hready]
    exact htarget
  | flush k =>
    simp only [step, Option.map_eq_some_iff] at ht
    obtain ⟨db, hflush, rfl⟩ := ht
    obtain ⟨entry, hentry, rfl⟩ := DirtyDbService.step_flush hflush
    exact ⟨hs.apart.congr rfl rfl rfl, fun _ _ _ _ ↦ Untouched.of_eq rfl rfl
      (DirtyDbService.store_flush hs.alone hentry)⟩

/-- Under the condition a step keeps the invariant. -/
theorem kept_step {env : Installation} {s t : AppManager} {e : AppEvent}
    (hs : s.Kept env.dirname) (hsep : s.Separate env e) (ht : step env s e = some t) :
    t.Kept env.dirname := by
  refine ⟨(step_isolated hs hsep ht).1, alone_step hs.alone ?_ ht,
    holds_step (fun _ ↦ Described.inExecutables) hs.holds ht⟩
  rintro k rfl
  exact hsep

/-! ### Runs -/

/-- A run leaves such files to the next process, whether it meets the condition or not. -/
theorem storedBefore_run (env : Installation) (files : FileSystem)
    {databases : JsObject (JsObject Dao.App)} (h : StoredBefore env.dirname databases)
    {es : List AppEvent} {t : AppManager}
    (ht : run (step env) (initial files databases) es = some t) :
    StoredBefore env.dirname t.db.files := by
  have hholds : t.db.Holds (InExecutables env.dirname) :=
    run_invariant (step env) (P := fun s ↦ s.db.Holds (InExecutables env.dirname))
      (fun s e t hs ht ↦ holds_step (fun _ ↦ Described.inExecutables) hs ht) es
      (DirtyDbService.holds_initial h) ht
  exact hholds.files

/-- Under the condition no step of a run reaches an application it does not act for. -/
theorem isolated_run (env : Installation) (files : FileSystem)
    {databases : JsObject (JsObject Dao.App)} (h : StoredBefore env.dirname databases)
    (es : List AppEvent) (hsep : EachStep (step env) (Separate env) (initial files databases) es) :
    EachStep (step env) (Isolated env) (initial files databases) es := by
  refine eachStep_of_eachStep (step env) (I := Kept env.dirname) (fun s e t hs hsep ht ↦ ?_) es
    (kept_initial env.dirname files h) hsep
  refine ⟨fun t' ht' ↦ ?_, kept_step hs hsep ht⟩
  exact (step_isolated hs hsep ht').2

/-- The metadata of an application for node. -/
def nodeMetadata : String := "\x7b\"runtime\":\"nodejs\"\x7d"

/-- An installation, as far as it parses the metadata of applications for node. -/
def sampleInstallation : Installation where
  dirname := ["platform", "app-manager"]
  parse text := if text = nodeMetadata then .ok ⟨"nodejs", none⟩ else .error "SyntaxError"

/-- An application arrives in a directory of its own and is executed. -/
def deploy (appId fileName : String) (now : Nat) : List AppEvent :=
  let packagePath : Path := ["uploads", appId, fileName]
  let deployMetadataPath : Path := ["uploads", appId, "metadata.json"]
  [.upload packagePath "", .upload deployMetadataPath nodeMetadata,
    .executeApp ⟨appId, none, packagePath, deployMetadataPath⟩, .metadataRead 0 now]

/-- Two applications with different file names are deployed; the first one is terminated. -/
def differentNames : List AppEvent :=
  deploy "a" "heating.js" 1 ++ [.readFile 0, .load 0, .run] ++ deploy "b" "lights.js" 2 ++
    [.run, .terminateApp "a", .removed 0, .removed 0, .run]

/-- The second application runs on, with its log. -/
theorem isolated_differentNames :
    EachStep (step sampleInstallation) (Isolated sampleInstallation)
        (initial (fun _ ↦ none) JsObject.empty) differentNames ∧
      (run (step sampleInstallation) (initial (fun _ ↦ none) JsObject.empty) differentNames).map
        (fun t ↦ (t.apps.keys, t.machine.files (getLogPath sampleInstallation.dirname "lights.js"))) =
          some (["b"], some "") :=
  ⟨isolated_run sampleInstallation (fun _ ↦ none) (storedBefore_empty _) differentNames
    (by decide +kernel), by decide +kernel⟩

/-- Two applications with one file name are deployed; the first one is terminated. -/
def sameName : List AppEvent :=
  deploy "a" "app.js" 1 ++ [.readFile 0, .load 0, .run] ++ deploy "b" "app.js" 2 ++
    [.run, .terminateApp "a"]

/-- The removal for the first application takes the log of the second one away. -/
theorem sameName_not_isolated :
    ¬ EachStep (step sampleInstallation) (Isolated sampleInstallation)
      (initial (fun _ ↦ none) JsObject.empty) (sameName ++ [.removed 0]) := by
  intro h
  let logPath := getLogPath sampleInstallation.dirname "app.js"
  let appPath : Path := ["platform", "app-manager", "executables", "2", "app.js"]
  let metadataPath : Path := ["platform", "app-manager", "executables", "2", "metadata.json"]
  have hrun : (run (step sampleInstallation) (initial (fun _ ↦ none) JsObject.empty) sameName).map
      (fun t ↦ (t.apps.get? "b", t.removing[0]?, t.machine.files logPath)) =
        some (some ⟨"b", "app.js", 1, appPath, metadataPath, logPath⟩, some ⟨"a", logPath⟩,
          some "") := by
    decide +kernel
  obtain ⟨t, ht, hstate⟩ := Option.map_eq_some_iff.mp hrun
  simp only [Prod.mk.injEq] at hstate
  obtain ⟨happ, hremoving, hlog⟩ := hstate
  have hremoved : step sampleInstallation t (.removed 0) =
      some (t.finishRemoval 0 ⟨"a", logPath⟩) := by
    rw [step, hremoving, Option.map_some]
  have hacts : ¬ t.ActsFor (.removed 0) "b" := by
    rw [ActsFor, hremoving]
    decide
  have huntouched := EachStep.at_prefix _ h ht hremoved _ hremoved "b" _ happ hacts
  have hgone : (t.finishRemoval 0 ⟨"a", logPath⟩).machine.files logPath = none :=
    FileSystem.remove_self t.machine.files logPath
  cases (hgone.symm.trans huntouched.log).trans hlog

end AppManager
end NexusEdge.Apps
