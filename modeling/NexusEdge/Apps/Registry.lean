import NexusEdge.Apps.Isolation

/-!
# The two tables of applications

Library `Apps`. Applications are recorded in memory, where a later entry replaces an earlier
one, and in the database, where the earlier record stays. As long as no application is executed
under an id in use, and the restart meets the database as it was fetched, the two agree whenever
nothing is under way, and every process that runs is the one recorded for its id.
-/

namespace NexusEdge.Apps
open NexusEdge.Base NexusEdge.Platform NexusEdge.Dao

/-- The record and the entry describe the same application. -/
structure Matches (app : Dao.App) (info : AppInfo) : Prop where
  name : app.name = info.name
  executablePath : app.executablePath = info.appPath
  metadataPath : app.metadataPath = info.metadataPath

/-- The entry made for a record. -/
theorem matches_entryOf (env : Installation) (app : Dao.App) (process : Nat) :
    Matches app (AppManager.entryOf env app process) := ⟨rfl, rfl, rfl⟩

namespace AppManager

/-- The database of applications. -/
abbrev storedApps (s : AppManager) : JsObject Dao.App := s.db.store appsDbName

/-- The database of applications once the calls under way have run. -/
abbrev eventualApps (s : AppManager) : JsObject Dao.App := s.db.eventual appsDbName

/-- The restart is over, and no read, removal or database call is under way. -/
structure Quiescent (s : AppManager) : Prop where
  restart : s.restart = .finished
  executing : s.executing = []
  removing : s.removing = []
  loading : s.db.loading = []
  ready : s.db.ready = []

/-- Every process started and not killed is the one recorded for its id. -/
def Recorded (s : AppManager) : Prop :=
  ∀ pid p, s.machine.processes[pid]? = some p → pid ∉ s.machine.killed →
    ∃ info, s.apps.get? p.appDataTopic = some info ∧ info.process = pid

/-- The tables hold the same applications, and the processes are the recorded ones. -/
structure Agrees (s : AppManager) : Prop where
  stored : ∀ id info, s.apps.get? id = some info →
    ∃ app, s.storedApps.get? id = some app ∧ Matches app info
  running : ∀ id app, s.storedApps.get? id = some app → ∃ info, s.apps.get? id = some info
  recorded : s.Recorded

/-! ### The condition -/

/-- Only ids in neither table are started; the restart finds no fetched application running,
and those it restarts still stored as fetched; without a link graph nothing was left to restart;
the database is loaded once. -/
def Fresh (env : Installation) (s : AppManager) : AppEvent → Prop
  | .metadataRead k _ => ∀ request ∈ s.executing[k]?, CanStart env s.machine.files request →
    ¬ s.apps.hasOwn request.appId ∧ ¬ s.eventualApps.hasOwn request.appId
  | .linkGraph none => ∀ entry ∈ s.eventualApps.ownEntries, s.apps.hasOwn entry.1
  | .fetched => ∀ apps ∈ s.fetched?, (∀ app ∈ apps, ¬ s.apps.hasOwn app.id) ∧
    (s.restarting?.isSome → ∀ app ∈ apps, s.eventualApps.get? app.id = some app)
  | .load k => s.db.SingleLoad (.load k)
  | _ => True

instance (env : Installation) (s : AppManager) : DecidablePred (s.Fresh env) := fun e ↦
  match e with
  | .metadataRead k _ => inferInstanceAs (Decidable (∀ request ∈ s.executing[k]?,
      CanStart env s.machine.files request →
        ¬ s.apps.hasOwn request.appId ∧ ¬ s.eventualApps.hasOwn request.appId))
  | .linkGraph none =>
    inferInstanceAs (Decidable (∀ entry ∈ s.eventualApps.ownEntries, s.apps.hasOwn entry.1))
  | .fetched => inferInstanceAs (Decidable (∀ apps ∈ s.fetched?,
      (∀ app ∈ apps, ¬ s.apps.hasOwn app.id) ∧
        (s.restarting?.isSome → ∀ app ∈ apps, s.eventualApps.get? app.id = some app)))
  | .load k => inferInstanceAs (Decidable (s.db.SingleLoad (.load k)))
  | .upload _ _ => .isTrue trivial
  | .startUp => .isTrue trivial
  | .linkGraph (some _) => .isTrue trivial
  | .executeApp _ => .isTrue trivial
  | .terminateApp _ => .isTrue trivial
  | .removed _ => .isTrue trivial
  | .readFile _ => .isTrue trivial
  | .run => .isTrue trivial
  | .flush _ => .isTrue trivial

/-! ### Processes -/

/-- The first process of an id is recorded for it. -/
theorem Recorded.started {env : Installation} {s : AppManager} (hs : s.Recorded) {app : Dao.App}
    (hnew : s.apps.get? app.id = none) (linkGraph : Option LinkGraph) (files : FileSystem) :
    (s.started env app linkGraph files).Recorded := by
  intro pid p hp hkilled
  simp only [AppManager.started] at hp hkilled ⊢
  rcases lt_or_ge pid s.machine.processes.length with hlt | hge
  · rw [List.getElem?_append_left hlt] at hp
    obtain ⟨info, hinfo, hpid⟩ := hs pid p hp hkilled
    have hne : p.appDataTopic ≠ app.id := by
      intro heq
      rw [heq, hnew] at hinfo
      cases hinfo
    exact ⟨info, by rw [JsObject.get?_set_ne _ _ hne, hinfo], hpid⟩
  · rw [List.getElem?_append_right hge, List.getElem?_singleton] at hp
    split at hp
    · next hzero =>
      obtain rfl := Option.some.inj hp
      exact ⟨_, JsObject.get?_set_self _ _ _, by simp only [entryOf]; omega⟩
    · cases hp

/-- The recorded process of a terminated application was its only one. -/
theorem Recorded.terminate {s : AppManager} (hs : s.Recorded) {appId : String} {app : AppInfo}
    (happ : s.apps.get? appId = some app) : (s.terminate appId app).Recorded := by
  intro pid p hp hkilled
  simp only [AppManager.terminate, List.mem_append, List.mem_singleton, not_or] at hp hkilled ⊢
  obtain ⟨info, hinfo, hpid⟩ := hs pid p hp hkilled.1
  have hne : p.appDataTopic ≠ appId := by
    intro heq
    rw [heq, happ] at hinfo
    obtain rfl := Option.some.inj hinfo
    exact hkilled.2 hpid.symm
  exact ⟨info, by rw [JsObject.get?_erase, if_neg hne, hinfo], hpid⟩

/-- The applications restarted are the new entries. -/
structure Restarted (apps : List Dao.App) (s t : AppManager) : Prop where
  recorded : t.Recorded
  entries : ∀ id info, t.apps.get? id = some info →
    s.apps.get? id = some info ∨ ∃ app ∈ apps, app.id = id ∧ Matches app info
  kept : ∀ id info, s.apps.get? id = some info → ∃ info', t.apps.get? id = some info'
  added : ∀ app ∈ apps, ∃ info, t.apps.get? app.id = some info

/-- The loop of the restart. -/
theorem restart_restarted {env : Installation} (apps : List Dao.App) {s : AppManager}
    (hs : s.Recorded) (hruntime : ∀ app ∈ apps, SupportedRuntime app.runtime)
    (hids : (apps.map Dao.App.id).Nodup) (hnew : ∀ app ∈ apps, s.apps.get? app.id = none) :
    Restarted apps s (Outcome.forEach (restartApp env) apps s).state := by
  induction apps generalizing s with
  | nil => exact ⟨hs, fun _ _ ↦ Or.inl, fun _ info h ↦ ⟨info, h⟩, nofun⟩
  | cons app apps ih =>
    obtain ⟨hid, hids⟩ := List.nodup_cons.mp hids
    rcases restartApp_cases env app s with ⟨hunsupported, _⟩ | ⟨_, hdone⟩
    · exact absurd (hruntime app List.mem_cons_self) hunsupported
    · let s' := s.started env app none (s.machine.files.write (getLogPath env.dirname app.name) "")
      have hget : ∀ id, s'.apps.get? id =
          if id = app.id then some (entryOf env app s.machine.processes.length)
          else s.apps.get? id := fun id ↦ JsObject.get?_set _ _ _ _
      have hs' : s'.Recorded := hs.started (hnew app List.mem_cons_self) none _
      have hnew' : ∀ app' ∈ apps, s'.apps.get? app'.id = none := by
        intro app' happ'
        have hne : app'.id ≠ app.id := fun heq ↦ hid (heq ▸ List.mem_map_of_mem happ')
        rw [hget, if_neg hne]
        exact hnew app' (List.mem_cons_of_mem _ happ')
      obtain ⟨hrecorded, hentries, hkept, hadded⟩ :=
        ih hs' (fun app' h ↦ hruntime app' (List.mem_cons_of_mem _ h)) hids hnew'
      rw [Outcome.forEach, hdone, Outcome.done_andThen]
      refine ⟨hrecorded, fun id info hinfo ↦ ?_, fun id info hinfo ↦ ?_, fun app' happ' ↦ ?_⟩
      · rcases hentries id info hinfo with hinfo | ⟨app', happ', hmatches⟩
        · rw [hget] at hinfo
          split at hinfo
          · next heq =>
            obtain rfl := Option.some.inj hinfo
            exact Or.inr ⟨app, List.mem_cons_self, heq.symm, matches_entryOf env app _⟩
          · exact Or.inl hinfo
        · exact Or.inr ⟨app', List.mem_cons_of_mem _ happ', hmatches⟩
      · have hne : id ≠ app.id := by
          rintro rfl
          cases (hnew app List.mem_cons_self).symm.trans hinfo
        exact hkept id info (by rw [hget, if_neg hne]; exact hinfo)
      · rcases List.mem_cons.mp happ' with rfl | happ'
        · exact hkept app'.id _ (by rw [hget, if_pos rfl])
        · exact hadded app' happ'

/-! ### The invariant -/

/-- An application of the database that is not running. -/
def Unrestarted (s : AppManager) (id : String) : Prop :=
  (∃ app, s.eventualApps.get? id = some app) ∧ s.apps.get? id = none

/-- Running applications are or will be stored as they run; what is stored and does not run
waits for the restart, which fetches it as it is. -/
structure Tracks (s : AppManager) : Prop where
  stored : ∀ id info, s.apps.get? id = some info →
    ∃ app, s.eventualApps.get? id = some app ∧ Matches app info
  unclaimed : ∀ id, s.Unrestarted id → ∀ p ∈ s.db.pending, p.call.target? ≠ some id
  finished : s.restart = .finished → ∀ id, ¬ s.Unrestarted id
  fetching : ∀ ticket last, s.restart = .fetching ticket last → s.db.Fetching ticket ∧
    ∀ apps, s.fetchedApps? ticket = some apps →
      ∀ id, s.Unrestarted id → ∃ app ∈ apps, app.id = id
  recorded : s.Recorded

/-- The answers decide what has been fetched. -/
theorem fetchedApps?_congr {s t : AppManager} (h : t.db.answers = s.db.answers) (ticket : Nat) :
    t.fetchedApps? ticket = s.fetchedApps? ticket := by
  rw [fetchedApps?, fetchedApps?, h]

/-- A step outside of the restart that leaves nothing more unrestarted. -/
theorem Tracks.carry {s t : AppManager} (hs : s.Tracks) (hrestart : t.restart = s.restart)
    (hdb : DirtyDbService.Continues s.db t.db)
    (hfetched : ∀ ticket last, s.restart = .fetching ticket last → ∀ apps,
      t.fetchedApps? ticket = some apps → s.fetchedApps? ticket = some apps ∨
        ∀ id, s.Unrestarted id → ∃ app ∈ apps, app.id = id)
    (hunrestarted : ∀ id, t.Unrestarted id → s.Unrestarted id ∧
      ∀ p ∈ t.db.pending, p ∈ s.db.pending ∨ p.call.target? ≠ some id)
    (hstored : ∀ id info, t.apps.get? id = some info →
      ∃ app, t.eventualApps.get? id = some app ∧ Matches app info)
    (hrecorded : t.Recorded) : t.Tracks := by
  refine ⟨hstored, fun id hid p hp ↦ ?_, fun hfinished id hid ↦ ?_, fun ticket last ht ↦ ?_,
    hrecorded⟩
  · obtain ⟨hold, hpending⟩ := hunrestarted id hid
    rcases hpending p hp with hp | hp
    · exact hs.unclaimed id hold p hp
    · exact hp
  · exact hs.finished (hrestart ▸ hfinished) id (hunrestarted id hid).1
  · rw [hrestart] at ht
    obtain ⟨hfetching, hcovers⟩ := hs.fetching ticket last ht
    refine ⟨hfetching.continues hdb, fun apps happs id hid ↦ ?_⟩
    have hold := (hunrestarted id hid).1
    rcases hfetched ticket last ht apps happs with happs | hall
    · exact hcovers apps happs id hold
    · exact hall id hold

/-- Tables, processes and database stay as they are. -/
theorem Tracks.congr {s t : AppManager} (hs : s.Tracks) (happs : t.apps = s.apps)
    (hdb : t.db = s.db) (hrestart : t.restart = s.restart)
    (hprocesses : t.machine.processes = s.machine.processes)
    (hkilled : t.machine.killed = s.machine.killed) : t.Tracks := by
  refine hs.carry hrestart ?_ (fun ticket last _ apps h ↦ Or.inl ?_) (fun id hid ↦ ?_) ?_ ?_
  · rw [hdb]
    exact DirtyDbService.Continues.refl s.db
  · rwa [fetchedApps?_congr (congrArg DirtyDbService.answers hdb)] at h
  · rw [Unrestarted, eventualApps, happs, hdb] at hid
    rw [hdb]
    exact ⟨hid, fun p ↦ Or.inl⟩
  · rw [eventualApps, happs, hdb]
    exact hs.stored
  · rw [Recorded, happs, hprocesses, hkilled]
    exact hs.recorded

/-- The database makes progress without an answer. -/
theorem Tracks.of_db {s : AppManager} (hs : s.Tracks) {db : DirtyDbService Dao.App}
    (heventual : db.eventual appsDbName = s.eventualApps)
    (hdb : DirtyDbService.Continues s.db db) (hpending : ∀ p ∈ db.pending, p ∈ s.db.pending)
    (hfetched : ∀ ticket last, s.restart = .fetching ticket last → ∀ apps,
      { s with db := db }.fetchedApps? ticket = some apps → s.fetchedApps? ticket = some apps ∨
        ∀ id, s.Unrestarted id → ∃ app ∈ apps, app.id = id) :
    { s with db := db }.Tracks := by
  refine hs.carry rfl hdb hfetched (fun id hid ↦ ?_) ?_ hs.recorded
  · rw [Unrestarted, eventualApps, heventual] at hid
    exact ⟨hid, fun p hp ↦ Or.inl (hpending p hp)⟩
  · rw [eventualApps, heventual]
    exact hs.stored

/-- An application is described once it can be started. -/
theorem Described.supportedRuntime {env : Installation} {app : Dao.App} (h : Described env app) :
    SupportedRuntime app.runtime := by
  obtain ⟨request, now, runtime, hruntime, rfl⟩ := h
  exact hruntime

/-- The invariant; once a second load has begun, it is not over. -/
structure Managed (s : AppManager) : Prop where
  alone : s.db.Alone appsDbName
  holds : s.db.Holds fun app ↦ SupportedRuntime app.runtime
  numbered : s.db.Numbered
  tracks : s.db.LoadsTwice appsDbName ∨ s.Tracks

/-! ### One step -/

/-- An application with a new id is executed. -/
theorem Tracks.started {env : Installation} {s : AppManager} (hs : s.Tracks)
    (halone : s.db.Alone appsDbName) (hone : ¬ s.db.LoadsTwice appsDbName) {app : Dao.App}
    (happs : s.apps.get? app.id = none) (hdb : s.eventualApps.get? app.id = none)
    (linkGraph : Option LinkGraph) (files : FileSystem) :
    { s.started env app linkGraph files with db := s.db.addApp app }.Tracks := by
  have heventual : (s.db.addApp app).eventual appsDbName = (Call.add app).after s.eventualApps :=
    DirtyDbService.eventual_call halone hone _
  have happ : ((s.db.addApp app).eventual appsDbName).get? app.id = some app := by
    have hkept := get?_after_add s.eventualApps appsDbName app
    rw [show HasId.id app = app.id from rfl, hdb] at hkept
    rw [heventual, hkept]
    rfl
  have hother : ∀ id, id ≠ app.id →
      ((s.db.addApp app).eventual appsDbName).get? id = s.eventualApps.get? id := by
    intro id hne
    rw [heventual]
    exact get?_after_of_ne (fun htarget ↦ hne (target?_add.mp htarget).symm) _
  have hentry : ∀ id, (s.started env app linkGraph files).apps.get? id =
      if id = app.id then some (entryOf env app s.machine.processes.length)
      else s.apps.get? id := fun id ↦ JsObject.get?_set _ _ _ _
  refine hs.carry rfl ((DirtyDbService.Continues.refl s.db).call _ _)
    (fun ticket last _ apps h ↦ Or.inl ?_) (fun id hid ↦ ?_) (fun id info hinfo ↦ ?_)
    (hs.recorded.started happs linkGraph files)
  · rwa [fetchedApps?_congr (DirtyDbService.answers_call _ _ _)] at h
  · obtain ⟨hstored, hrunning⟩ := hid
    have hne : id ≠ app.id := by
      rintro rfl
      rw [hentry, if_pos rfl] at hrunning
      cases hrunning
    rw [hentry, if_neg hne] at hrunning
    rw [eventualApps, hother id hne] at hstored
    refine ⟨⟨hstored, hrunning⟩, fun p hp ↦ ?_⟩
    refine (DirtyDbService.mem_pending_call hp).imp_right fun heq htarget ↦ hne ?_
    rw [heq] at htarget
    exact (target?_add.mp htarget).symm
  · rw [hentry] at hinfo
    split at hinfo
    · next hid =>
      subst hid
      obtain rfl := Option.some.inj hinfo
      exact ⟨app, happ, matches_entryOf env app _⟩
    · next hne =>
      rw [eventualApps, hother id hne]
      exact hs.stored id info hinfo

/-- An execution that fails starts nothing; one that succeeds has a new id. -/
theorem Tracks.finishExecution {env : Installation} {s : AppManager} (hs : s.Tracks)
    (halone : s.db.Alone appsDbName) (hone : ¬ s.db.LoadsTwice appsDbName) {k now : Nat}
    {request : ExecuteRequest} (hnew : CanStart env s.machine.files request →
      ¬ s.apps.hasOwn request.appId ∧ ¬ s.eventualApps.hasOwn request.appId) :
    (s.finishExecution env k request now).Tracks := by
  let s' := { s with executing := s.executing.eraseIdx k }
  have hs' : s'.Tracks := hs.congr rfl rfl rfl rfl rfl
  obtain ⟨files, _, _, hcase⟩ := executeApplication_spec env request now s'
  have hstate : (executeApplication env request now s').state.Tracks := by
    rcases hcase with ⟨hstart, _, runtime, _, hcase⟩ | ⟨_, _, hcase⟩
    · obtain ⟨happs, hdb⟩ := hnew hstart
      rw [hcase]
      exact hs'.started halone hone (JsObject.get?_of_not_hasOwn happs)
        (JsObject.get?_of_not_hasOwn hdb) request.linkGraph files
    · rw [hcase]
      exact hs'.congr rfl rfl rfl rfl rfl
  exact hstate.congr rfl rfl rfl rfl rfl

/-- An application is terminated. -/
theorem Tracks.terminate {s : AppManager} (hs : s.Tracks) (halone : s.db.Alone appsDbName)
    (hone : ¬ s.db.LoadsTwice appsDbName) {appId : String} {app : AppInfo}
    (happ : s.apps.get? appId = some app) : (s.terminate appId app).Tracks := by
  have hstored : ∀ id, (s.terminate appId app).eventualApps.get? id =
      if id = appId then none else s.eventualApps.get? id := by
    intro id
    rw [eventualApps, AppManager.terminate, DirtyDbService.removeApp,
      DirtyDbService.eventual_call halone hone, get?_after_remove]
  have hentry : ∀ id, (s.terminate appId app).apps.get? id =
      if id = appId then none else s.apps.get? id := fun id ↦ JsObject.get?_erase _ _ _
  refine hs.carry rfl ((DirtyDbService.Continues.refl s.db).call _ _)
    (fun ticket last _ apps h ↦ Or.inl ?_) (fun id hid ↦ ?_) (fun id info hinfo ↦ ?_)
    (hs.recorded.terminate happ)
  · rwa [fetchedApps?_congr (DirtyDbService.answers_call _ _ _)] at h
  · obtain ⟨hin, hrunning⟩ := hid
    rw [hstored] at hin
    rw [hentry] at hrunning
    split at hin
    · obtain ⟨_, hin⟩ := hin
      cases hin
    · next hne =>
      rw [if_neg hne] at hrunning
      refine ⟨⟨hin, hrunning⟩, fun p hp ↦ ?_⟩
      refine (DirtyDbService.mem_pending_call hp).imp_right fun heq htarget ↦ hne ?_
      rw [heq] at htarget
      exact (target?_remove.mp htarget).symm
  · rw [hentry] at hinfo
    split at hinfo
    · cases hinfo
    · next hne =>
      rw [hstored, if_neg hne]
      exact hs.stored id info hinfo

/-- A call runs; a `fetchAll` answers with all that waits for the restart. -/
theorem Tracks.runNext {s : AppManager} (hs : s.Tracks) (halone : s.db.Alone appsDbName)
    {P : Dao.App → Prop} (hholds : s.db.Holds P) {task : Ready Dao.App}
    {rest : List (Ready Dao.App)} (hready : s.db.ready = task :: rest) :
    { s with db := s.db.runNext task rest }.Tracks := by
  have htask : task.pending ∈ s.db.pending := by
    rw [DirtyDbService.pending_runNext hready]
    exact List.mem_cons_self
  refine hs.of_db (DirtyDbService.eventual_runNext halone hready)
    (DirtyDbService.Continues.runNext hready) (fun p hp ↦ ?_) fun ticket last ht apps happs ↦ ?_
  · rw [DirtyDbService.pending_runNext hready]
    exact List.mem_cons_of_mem _ hp
  · unfold fetchedApps? at happs ⊢
    simp only [DirtyDbService.runNext, List.find?_append] at happs
    cases hfind : s.db.answers.find? fun answer ↦ answer.pending.ticket = ticket with
    | some answer =>
      rw [hfind, Option.some_or] at happs
      exact Or.inl happs
    | none =>
      rw [hfind, Option.none_or, List.find?_singleton] at happs
      split at happs
      · next hanswer =>
        split at hanswer
        · next hticket =>
          rw [(hs.fetching ticket last ht).1.call _ htask (of_decide_eq_true hticket)] at hanswer
          cases hanswer
          obtain rfl := Option.some.inj happs
          refine Or.inr fun id hid ↦ ?_
          obtain ⟨app, happ⟩ := hid.1
          -- No call that waits has the id as its target: it is in the database already.
          have hstore : s.storedApps.get? id = some app := by
            rw [← happ, eventualApps, DirtyDbService.eventual, ← List.foldl_map,
              get?_foldl_after]
            intro c hc
            obtain ⟨p, hp, rfl⟩ := List.mem_map.mp hc
            exact hs.unclaimed id hid p hp
          rw [storedApps, ← (DirtyDbService.store_runNext halone hready).1] at hstore
          refine ⟨app, List.mem_map.mpr ⟨(id, app), ?_, rfl⟩, (hholds.content _ id app hstore).1⟩
          exact (JsObject.mem_ownEntries_iff _ _ _).mpr hstore
        · cases hanswer
      · cases happs

/-- The answer to the question for the link graph decides; the applications are fetched. -/
theorem Tracks.fetchAll {s : AppManager} (hs : s.Tracks) (halone : s.db.Alone appsDbName)
    (hnumbered : s.db.Numbered) (hone : ¬ s.db.LoadsTwice appsDbName) (last : Bool) :
    { s with restart := .fetching s.db.calls last, db := s.db.fetchAll appsDbName }.Tracks := by
  have heventual : (s.db.fetchAll appsDbName).eventual appsDbName = s.eventualApps :=
    DirtyDbService.eventual_call halone hone _
  have hpending : ∀ p ∈ (s.db.fetchAll appsDbName).pending, p ∈ s.db.pending ∨
      p.call = .fetchAll :=
    fun p hp ↦ (DirtyDbService.mem_pending_call hp).imp_right fun heq ↦ by rw [heq]
  refine ⟨?_, fun id hid p hp ↦ ?_, nofun, fun ticket last' ht ↦ ?_, hs.recorded⟩
  · rw [eventualApps, heventual]
    exact hs.stored
  · rw [Unrestarted, eventualApps, heventual] at hid
    rcases hpending p hp with hp | hcall
    · exact hs.unclaimed id hid p hp
    · rw [hcall]
      nofun
  · cases ht
    refine ⟨⟨?_, fun p hp hticket ↦ ?_⟩, fun apps happs ↦ ?_⟩
    · rw [DirtyDbService.fetchAll, DirtyDbService.calls_call]
      exact Nat.lt_succ_self _
    · rcases hpending p hp with hp | hcall
      · have hlt := hnumbered.pending p hp
        omega
      · exact hcall
    -- The ticket is new: no answer has it yet.
    · rw [fetchedApps?_congr (s := s) (DirtyDbService.answers_call _ _ _)] at happs
      obtain ⟨answer, hanswer, hticket, _⟩ := exists_answer happs
      have hlt := hnumbered.answers answer hanswer
      omega

/-- The restart starts what was left to start. -/
theorem Tracks.restart {env : Installation} {s : AppManager} (hs : s.Tracks) {ticket : Nat}
    (hrestart : s.restart = .fetching ticket true) {apps : List Dao.App}
    (hfetched : s.fetchedApps? ticket = some apps)
    (hruntime : ∀ app ∈ apps, SupportedRuntime app.runtime)
    (hids : (apps.map Dao.App.id).Nodup) (hnew : ∀ app ∈ apps, s.apps.get? app.id = none)
    (hstored : ∀ app ∈ apps, s.eventualApps.get? app.id = some app) :
    (s.finishRestart env true apps).Tracks := by
  let s' := { s with restart := .finished }
  have hcovers := (hs.fetching ticket true hrestart).2 apps hfetched
  have hdb : (s.finishRestart env true apps).db = s.db := (frame_restart apps s').1
  have hfinished : (s.finishRestart env true apps).restart = .finished := (frame_restart apps s').2
  obtain ⟨hrecorded, hentries, hkept, hadded⟩ :=
    @restart_restarted env apps s' hs.recorded hruntime hids hnew
  have hun : ∀ id, ¬ (s.finishRestart env true apps).Unrestarted id := by
    rintro id ⟨hin, hrunning⟩
    have hstored : ∃ app, s.eventualApps.get? id = some app := by rwa [eventualApps, hdb] at hin
    have hold : s.apps.get? id = none := by
      cases hinfo : s.apps.get? id with
      | none => rfl
      | some info =>
        obtain ⟨info', hinfo'⟩ := hkept id info hinfo
        cases hrunning.symm.trans hinfo'
    obtain ⟨app, happ, rfl⟩ := hcovers id ⟨hstored, hold⟩
    obtain ⟨info, hinfo⟩ := hadded app happ
    cases hrunning.symm.trans hinfo
  refine ⟨fun id info hinfo ↦ ?_, fun id hid ↦ absurd hid (hun id), fun _ ↦ hun,
    fun ticket' last ht ↦ (nomatch hfinished.symm.trans ht), hrecorded⟩
  rw [eventualApps, hdb]
  rcases hentries id info hinfo with hinfo | ⟨app, happ, rfl, hmatches⟩
  · exact hs.stored id info hinfo
  · exact ⟨app, hstored app happ, hmatches⟩

/-- The removal takes away what was left to start. -/
theorem Tracks.removeApps {env : Installation} {s : AppManager} (hs : s.Tracks)
    (halone : s.db.Alone appsDbName) {ticket : Nat}
    (hrestart : s.restart = .fetching ticket false) {apps : List Dao.App}
    (hfetched : s.fetchedApps? ticket = some apps)
    (hnew : ∀ app ∈ apps, s.apps.get? app.id = none) :
    (s.finishRestart env false apps).db.LoadsTwice appsDbName ∨
      (s.finishRestart env false apps).Tracks := by
  have hcovers := (hs.fetching ticket false hrestart).2 apps hfetched
  have hdb : (s.finishRestart env false apps).db =
      ((apps.map Dao.App.id).map Call.remove).foldl (fun db c ↦ db.call appsDbName c) s.db := by
    rw [List.foldl_map, List.foldl_map]
    rfl
  have hmem : ∀ id, id ∈ apps.map Dao.App.id ↔ ∃ app ∈ apps, app.id = id :=
    fun id ↦ List.mem_map
  rw [hdb]
  rcases DirtyDbService.eventual_calls ((apps.map Dao.App.id).map Call.remove) halone with
    htwice | heventual
  · exact Or.inl htwice
  · have hget : ∀ id, (s.finishRestart env false apps).eventualApps.get? id =
        if id ∈ apps.map Dao.App.id then none else s.eventualApps.get? id := by
      intro id
      rw [eventualApps, hdb, heventual, get?_foldl_after_remove]
    have hun : ∀ id, ¬ (s.finishRestart env false apps).Unrestarted id := by
      rintro id ⟨⟨app, happ⟩, hrunning⟩
      rw [hget] at happ
      split at happ
      · cases happ
      · next hnot => exact hnot ((hmem id).mpr (hcovers id ⟨⟨app, happ⟩, hrunning⟩))
    refine Or.inr ⟨fun id info hinfo ↦ ?_, fun id hid ↦ absurd hid (hun id), fun _ ↦ hun, nofun,
      hs.recorded⟩
    have hnot : id ∉ apps.map Dao.App.id := by
      intro hid
      obtain ⟨app, happ, rfl⟩ := (hmem id).mp hid
      cases (hnew app happ).symm.trans hinfo
    rw [hget, if_neg hnot]
    exact hs.stored id info hinfo

/-- Under the condition a step keeps track of the applications, as long as there is one load. -/
theorem tracks_step {env : Installation} {s t : AppManager} {e : AppEvent} (hs : s.Managed)
    (htracks : s.Tracks) (hone : ¬ s.db.LoadsTwice appsDbName) (hfresh : s.Fresh env e)
    (ht : step env s e = some t) : t.db.LoadsTwice appsDbName ∨ t.Tracks := by
  cases e with
  | upload p content =>
    obtain ⟨_, rfl⟩ := step_upload ht
    exact Or.inr (htracks.congr rfl rfl rfl rfl rfl)
  | startUp =>
    obtain rfl := step_startUp ht
    refine Or.inr ⟨htracks.stored, htracks.unclaimed, fun h ↦ ?_, fun _ _ h ↦ ?_,
      htracks.recorded⟩
    · cases h
    · cases h
  | linkGraph answer =>
    rcases step_linkGraph ht with ⟨linkGraph, rfl, rfl⟩ | ⟨rfl, rfl⟩
    · exact Or.inr (htracks.fetchAll hs.alone hs.numbered hone _)
    · refine Or.inr ⟨htracks.stored, htracks.unclaimed, fun _ id hid ↦ ?_, fun _ _ h ↦ ?_,
        htracks.recorded⟩
      · obtain ⟨⟨app, happ⟩, hrunning⟩ := hid
        have hown := hfresh (id, app) ((JsObject.mem_ownEntries_iff _ _ _).mpr happ)
        obtain ⟨info, hinfo⟩ := (JsObject.hasOwn_iff _ _).mp hown
        cases hrunning.symm.trans hinfo
      · cases h
  | fetched =>
    obtain ⟨ticket, lastGateway, apps, hrestart, hfetched, rfl⟩ := step_fetched ht
    have hfetched? : s.fetched? = some apps := by rwa [fetched?, hrestart]
    obtain ⟨hnew, hstored⟩ := hfresh apps hfetched?
    have hnone : ∀ app ∈ apps, s.apps.get? app.id = none :=
      fun app happ ↦ JsObject.get?_of_not_hasOwn (hnew app happ)
    cases lastGateway with
    | true =>
      have hrestarting : s.restarting? = some apps := by rwa [restarting?, hrestart]
      obtain ⟨answer, hanswer, _, hresult⟩ := exists_answer hfetched
      obtain ⟨hids, hruntime⟩ := hs.holds.answers answer hanswer apps hresult
      exact Or.inr (htracks.restart hrestart hfetched hruntime hids hnone
        (hstored (Option.isSome_iff_exists.mpr ⟨apps, hrestarting⟩)))
    | false => exact htracks.removeApps hs.alone hrestart hfetched hnone
  | executeApp request =>
    cases ht
    exact Or.inr (htracks.congr rfl rfl rfl rfl rfl)
  | metadataRead k now =>
    simp only [step, Option.map_eq_some_iff] at ht
    obtain ⟨request, hrequest, rfl⟩ := ht
    exact Or.inr (htracks.finishExecution hs.alone hone (hfresh request hrequest))
  | terminateApp appId =>
    obtain rfl := Option.some.inj ht
    rcases s.terminateApp_cases appId with ⟨app, happ, heq⟩ | ⟨_, heq⟩
    · rw [heq]
      exact Or.inr (htracks.terminate hs.alone hone happ)
    · rw [heq]
      exact Or.inr (htracks.congr rfl rfl rfl rfl rfl)
  | removed k =>
    simp only [step, Option.map_eq_some_iff] at ht
    obtain ⟨removal, _, rfl⟩ := ht
    exact Or.inr (htracks.congr rfl rfl rfl rfl rfl)
  | readFile k =>
    cases ht
    exact Or.inr (htracks.of_db (DirtyDbService.eventual_readFile s.db k)
      (DirtyDbService.Continues.readFile s.db k)
      (fun p hp ↦ by rwa [DirtyDbService.pending_readFile] at hp) fun _ _ _ _ h ↦ Or.inl h)
  | load k =>
    simp only [step, Option.map_eq_some_iff] at ht
    obtain ⟨db, hload, rfl⟩ := ht
    obtain ⟨l, hl, content, hcontent, rfl⟩ := DirtyDbService.step_load hload
    exact Or.inr (htracks.of_db
      (DirtyDbService.eventual_finishLoad hs.alone hone hl (hfresh l hl) hcontent)
      (DirtyDbService.Continues.finishLoad hl content)
      (fun _ hp ↦ DirtyDbService.mem_pending_finishLoad hl hp) fun _ _ _ _ h ↦ Or.inl h)
  | run =>
    simp only [step, Option.map_eq_some_iff] at ht
    obtain ⟨db, hrun, rfl⟩ := ht
    obtain ⟨task, rest, hready, rfl⟩ := DirtyDbService.step_run hrun
    exact Or.inr (htracks.runNext hs.alone hs.holds hready)
  | flush k =>
    simp only [step, Option.map_eq_some_iff] at ht
    obtain ⟨db, hflush, rfl⟩ := ht
    obtain ⟨entry, hentry, rfl⟩ := DirtyDbService.step_flush hflush
    exact Or.inr (htracks.of_db (DirtyDbService.eventual_flush hs.alone hentry)
      (DirtyDbService.Continues.flush s.db k entry) (fun _ hp ↦ hp) fun _ _ _ _ h ↦ Or.inl h)

/-- Under the condition a step keeps the invariant. -/
theorem managed_step {env : Installation} {s t : AppManager} {e : AppEvent} (hs : s.Managed)
    (hfresh : s.Fresh env e) (ht : step env s e = some t) : t.Managed := by
  have hsingle : ∀ k, e = .load k → s.db.SingleLoad (.load k) := by
    rintro k rfl
    exact hfresh
  refine ⟨alone_step hs.alone hsingle ht,
    holds_step (fun _ ↦ Described.supportedRuntime) hs.holds ht,
    hs.numbered.continues (continues_step ht), ?_⟩
  by_cases htwice : s.db.LoadsTwice appsDbName
  · exact Or.inl (loadsTwice_step htwice hs.alone hsingle ht)
  · exact tracks_step hs (hs.tracks.resolve_left htwice) htwice hfresh ht

/-- The invariant is the agreement when nothing is under way. -/
theorem Managed.agrees {s : AppManager} (hs : s.Managed) (hquiescent : s.Quiescent) :
    s.Agrees := by
  have hone : ¬ s.db.LoadsTwice appsDbName := fun h ↦ h.1 hquiescent.loading
  have htracks := hs.tracks.resolve_left hone
  have heventual : s.eventualApps = s.storedApps := by
    rw [eventualApps, DirtyDbService.eventual, DirtyDbService.pending, hquiescent.ready,
      hquiescent.loading]
    rfl
  refine ⟨fun id info hinfo ↦ ?_, fun id app happ ↦ ?_, htracks.recorded⟩
  · rw [← heventual]
    exact htracks.stored id info hinfo
  · rw [← heventual] at happ
    cases hinfo : s.apps.get? id with
    | some info => exact ⟨info, rfl⟩
    | none => exact absurd ⟨⟨app, happ⟩, hinfo⟩ (htracks.finished hquiescent.restart id)

/-! ### Runs -/

/-- What earlier processes left in the database files. -/
def StartedBefore (databases : JsObject (JsObject Dao.App)) : Prop :=
  ∀ dbName db, databases.get? dbName = some db → Keyed (fun app ↦ SupportedRuntime app.runtime) db

/-- Nothing was stored before. -/
theorem startedBefore_empty : StartedBefore JsObject.empty := nofun

/-- A run leaves such files to the next process, whether it meets the condition or not. -/
theorem startedBefore_run (env : Installation) (files : FileSystem)
    {databases : JsObject (JsObject Dao.App)} (h : StartedBefore databases)
    {es : List AppEvent} {t : AppManager}
    (ht : run (step env) (initial files databases) es = some t) : StartedBefore t.db.files := by
  have hholds : t.db.Holds fun app ↦ SupportedRuntime app.runtime :=
    run_invariant (step env) (P := fun s ↦ s.db.Holds fun app ↦ SupportedRuntime app.runtime)
      (fun s e t hs ht ↦ holds_step (fun _ ↦ Described.supportedRuntime) hs ht) es
      (DirtyDbService.holds_initial h) ht
  exact hholds.files

/-- The loaded module. -/
theorem managed_initial (files : FileSystem) {databases : JsObject (JsObject Dao.App)}
    (h : StartedBefore databases) : (initial files databases).Managed := by
  refine ⟨DirtyDbService.alone_initial _ _, DirtyDbService.holds_initial h, ⟨nofun, nofun⟩,
    Or.inr ⟨nofun, nofun, nofun, nofun, nofun⟩⟩

/-- Under the condition the tables and the processes agree in every state of a run in which
nothing is under way. -/
theorem agrees_run (env : Installation) (files : FileSystem)
    {databases : JsObject (JsObject Dao.App)} (h : StartedBefore databases)
    (es : List AppEvent) (hfresh : EachStep (step env) (Fresh env) (initial files databases) es) :
    Always (step env) (fun s ↦ s.Quiescent → s.Agrees) (initial files databases) es :=
  Always.imp (step env) (fun _ hs ↦ hs.agrees)
    (always_of_eachStep (step env) (fun _ _ _ hs hfresh ht ↦ managed_step hs hfresh ht) es
      (managed_initial files h) hfresh)

/-- The link graph of a gateway without others. -/
def onlyGateway : LinkGraph where
  graph := JsObject.empty.set "gateway" []
  data := JsObject.empty.set "gateway" ⟨"10.0.0.1", [], []⟩

/-- The restart of a gateway without others. -/
def restartAlone : List AppEvent :=
  [.startUp, .linkGraph (some onlyGateway), .readFile 0, .load 0, .run, .fetched]

/-- What an earlier process has stored. -/
def earlierApp : Dao.App :=
  ⟨"a", "heating.js", ["platform", "app-manager", "executables", "1", "heating.js"],
    ["platform", "app-manager", "executables", "1", "metadata.json"], "nodejs"⟩

/-- The databases with this application. -/
def earlierDatabases : JsObject (JsObject Dao.App) :=
  JsObject.empty.set appsDbName (JsObject.empty.set "a" earlierApp)

/-- An application is restarted, another one executed; then the first one is terminated. -/
def restartAndExecute : List AppEvent :=
  restartAlone ++ deploy "b" "lights.js" 2 ++
    [.run, .terminateApp "a", .run, .removed 0, .removed 0]

/-- The database of the earlier process. -/
theorem startedBefore_earlierDatabases : StartedBefore earlierDatabases := by
  intro dbName db hdb
  rw [earlierDatabases, JsObject.get?_set] at hdb
  split at hdb
  · obtain rfl := Option.some.inj hdb
    have hruntime : SupportedRuntime earlierApp.runtime := Or.inl rfl
    exact (keyed_empty (P := fun app : Dao.App ↦ SupportedRuntime app.runtime)).set hruntime
  · cases hdb

/-- The tables agree; at the end both hold the second application. -/
theorem agrees_restartAndExecute :
    Always (step sampleInstallation) (fun s ↦ s.Quiescent → s.Agrees)
        (initial (fun _ ↦ none) earlierDatabases) restartAndExecute ∧
      (run (step sampleInstallation) (initial (fun _ ↦ none) earlierDatabases)
        restartAndExecute).map (fun t ↦ (t.apps.keys, t.storedApps.keys, t.machine.killed)) =
          some (["b"], ["b"], [0]) :=
  ⟨agrees_run sampleInstallation (fun _ ↦ none) startedBefore_earlierDatabases restartAndExecute
    (by decide +kernel), by decide +kernel⟩

/-- One id is executed twice. -/
def executedTwice : List AppEvent :=
  restartAlone ++ deploy "a" "heating.js" 1 ++ [.run] ++ deploy "a" "heating.js" 2 ++ [.run]

/-- The first process runs on unrecorded, and the database describes the first deployment. -/
theorem executedTwice_disagrees :
    ¬ Always (step sampleInstallation) (fun s ↦ s.Quiescent → s.Agrees)
      (initial (fun _ ↦ none) JsObject.empty) executedTwice := by
  intro h
  have hrun : (run (step sampleInstallation) (initial (fun _ ↦ none) JsObject.empty)
      executedTwice).map (fun t ↦ (t.machine.processes.map ChildProcess.appDataTopic,
        t.machine.killed, (t.apps.get? "a").map AppInfo.process)) =
          some (["a", "a"], [], some 1) := by
    decide +kernel
  have hidle : (run (step sampleInstallation) (initial (fun _ ↦ none) JsObject.empty)
      executedTwice).map (fun t ↦ (t.restart, t.executing.length, t.removing,
        t.db.loading.length, t.db.ready.length)) = some (.finished, 0, [], 0, 0) := by
    decide +kernel
  obtain ⟨t, ht, hstate⟩ := Option.map_eq_some_iff.mp hrun
  rw [ht] at hidle
  simp only [Option.map_some, Option.some.injEq, Prod.mk.injEq, List.length_eq_zero_iff]
    at hstate hidle
  obtain ⟨hprocesses, hkilled, hentry⟩ := hstate
  obtain ⟨hrestart, hexecuting, hremoving, hloading, hready⟩ := hidle
  have hagrees := h.last _ ht ⟨hrestart, hexecuting, hremoving, hloading, hready⟩
  have hfirst : (t.machine.processes[0]?).map ChildProcess.appDataTopic = some "a" := by
    rw [← List.getElem?_map, hprocesses]
    rfl
  obtain ⟨p, hp, htopic⟩ := Option.map_eq_some_iff.mp hfirst
  obtain ⟨info, hinfo, hprocess⟩ := hagrees.recorded 0 p hp (by rw [hkilled]; exact List.not_mem_nil)
  rw [htopic] at hinfo
  rw [hinfo, Option.map_some, hprocess] at hentry
  cases hentry

end AppManager
end NexusEdge.Apps
