import NexusEdge.Apps.Deployment
import NexusEdge.Base.JsArray
import NexusEdge.Base.Timers
import NexusEdge.Base.Transition
import NexusEdge.Platform.LinkGraph

/-!
# Watched applications

Library `Apps`. `app-manager/watcher.js`: the applications a gateway watches, the periodic
check of their executors, and the deletion of an entry after the asynchronous deletion of its
files. Two promises are stated here, one about the list of watched applications and one about
the requests to reschedule; each is kept exactly under a condition on the single steps.
-/

namespace NexusEdge.Apps
open NexusEdge.Base NexusEdge.Platform

/-- `App`, `watcher.js:11–18`; `ref` is the identity of the object. -/
structure App where
  ref : Nat
  id : String
  executorGatewayId : String
  appPath : Path
  metadataPath : Path
  deriving DecidableEq

/-- What the continuation of `deleteApp` captures, `watcher.js:78–86`. -/
structure Deletion where
  appIndex : Nat
  app : App
  deriving DecidableEq

/-- The module variables, the operations under way and what has happened so far. -/
structure Watcher where
  files : FileSystem
  watchTimer : Option Nat
  watchingApps : List App
  timers : Timers Unit
  /-- Calls of `getLinkGraph` not yet answered. -/
  linkGraphRequests : Nat
  /-- Calls of `scheduleApp` not yet answered. -/
  scheduling : List App
  deleting : List Deletion
  /-- Applications ever watched, in order. -/
  watched : List App
  /-- Applications to stop watching. -/
  stopped : List App
  /-- Applications whose deletion has completed. -/
  deleted : List App
  /-- Applications whose `scheduleApp` has succeeded. -/
  rescheduled : List App
  /-- Applications requested to be scheduled after that. -/
  reissued : List App

/-- What the watcher reacts to. -/
inductive WatcherEvent where
  /-- A file arrives. -/
  | upload (p : Path) (content : String)
  | watch (appId executorGatewayId : String) (tempAppPath tempMetadataPath : Path) (now : Nat)
  /-- The interval with this handle fires. -/
  | timer (handle : Nat)
  | linkGraph (answer : Except String LinkGraph)
  /-- Answer to the `k`-th outstanding `scheduleApp`. -/
  | scheduled (k : Nat) (answer : Except String Unit)
  | stopWatchingApp (appId : String)
  /-- Completion of the `k`-th pending `deleteApp`. -/
  | deletionDone (k : Nat)

namespace Watcher

/-- The loaded module. -/
def initial (files : FileSystem) : Watcher :=
  ⟨files, none, [], Timers.empty, 0, [], [], [], [], [], [], []⟩

/-- `watch`, `watcher.js:22–75`. -/
def watch (dirname : Path) (s : Watcher) (appId executorGatewayId : String)
    (tempAppPath tempMetadataPath : Path) (now : Nat) : Outcome String Watcher :=
  let (storageDirPath, stored) := storeApp dirname now tempAppPath tempMetadataPath s.files
  match stored.error with
  | some error => .throw { s with files := stored.state } ("Error trying to execute app " ++ appId ++
      " on " ++ executorGatewayId ++ ". Error = " ++ error)
  | none =>
    let app : App := ⟨s.watched.length, appId, executorGatewayId,
      storageDirPath.join tempAppPath.basename, storageDirPath.join tempMetadataPath.basename⟩
    let s := { s with
      files := stored.state
      watchingApps := s.watchingApps ++ [app]
      watched := s.watched ++ [app] }
    match s.watchTimer with
    | some _ => .done s
    | none =>
      let (handle, timers) := s.timers.set ()
      .done { s with watchTimer := some handle, timers := timers }

/-- `_stopWatchingApp`, `watcher.js:77–101`, up to the call of `deleteApp`. -/
def stopWatchingApp (s : Watcher) (appId : String) : Watcher :=
  let appIndex := s.watchingApps.findIdx (fun watchingApp ↦ watchingApp.id == appId)
  match s.watchingApps[appIndex]? with
  | some app => { s with
      deleting := s.deleting ++ [⟨appIndex, app⟩]
      stopped := s.stopped ++ [app] }
  | none => s

/-- The continuation of `deleteApp`, `watcher.js:83–97`. -/
def finishDeletion (s : Watcher) (k : Nat) (deletion : Deletion) : Watcher :=
  let watchingApps := spliceOne s.watchingApps deletion.appIndex
  let s := { s with
    files := deleteApp deletion.app.appPath.dirname s.files
    watchingApps := watchingApps
    deleting := s.deleting.eraseIdx k
    deleted := s.deleted ++ [deletion.app] }
  if watchingApps.length = 0 then
    { s with
      timers := s.watchTimer.elim s.timers s.timers.clear
      watchTimer := none }
  else s

/-- `utils.scheduleApp(appFiles)` for one entry. -/
def requestSchedule (s : Watcher) (watchingApp : App) : Watcher :=
  { s with
    scheduling := s.scheduling ++ [watchingApp]
    reissued := s.reissued ++ if watchingApp ∈ s.rescheduled then [watchingApp] else [] }

/-- The check of one entry, `watcher.js:45–69`. -/
def checkApp (linkGraph : LinkGraph) (s : Watcher) (watchingApp : App) : Watcher :=
  match linkGraph.data.get? watchingApp.executorGatewayId with
  | none => s.requestSchedule watchingApp
  | some gatewayData =>
    if gatewayData.apps.findIdx? (fun app ↦ app.id == watchingApp.id) = none then
      s.stopWatchingApp watchingApp.id
    else s

/-- One event; none when the event cannot happen. -/
def step (dirname : Path) (s : Watcher) : WatcherEvent → Option Watcher
  | .upload p content => some { s with files := s.files.write p content }
  | .watch appId executorGatewayId tempAppPath tempMetadataPath now =>
    some (s.watch dirname appId executorGatewayId tempAppPath tempMetadataPath now).state
  | .timer handle =>
    if (handle, ()) ∈ s.timers.pending then
      some { s with linkGraphRequests := s.linkGraphRequests + 1 }
    else none
  | .linkGraph answer =>
    if s.linkGraphRequests = 0 then none
    else
      let s := { s with linkGraphRequests := s.linkGraphRequests - 1 }
      match answer with
      | .ok linkGraph => some (s.watchingApps.foldl (checkApp linkGraph) s)
      | .error _ => some s
  | .scheduled k answer =>
    match s.scheduling[k]? with
    | none => none
    | some watchingApp =>
      let s := { s with scheduling := s.scheduling.eraseIdx k }
      match answer with
      | .ok _ => some ({ s with
          rescheduled := s.rescheduled ++ [watchingApp] }.stopWatchingApp watchingApp.id)
      | .error _ => some s
  | .stopWatchingApp appId => some (s.stopWatchingApp appId)
  | .deletionDone k => (s.deleting[k]?).map (s.finishDeletion k)

/-! ### What a step does to the list -/

/-- Stopped applications are deleted or being deleted. -/
def Accounted (s : Watcher) : Prop :=
  ∀ app, app ∈ s.stopped ↔ app ∈ s.deleted ∨ ∃ deletion ∈ s.deleting, deletion.app = app

/-- The list and its history are the same; listed applications may have been stopped, and
these stay accounted for. -/
structure KeepsApps (s t : Watcher) : Prop where
  watchingApps : t.watchingApps = s.watchingApps
  watched : t.watched = s.watched
  deleted : t.deleted = s.deleted
  stopped : ∀ app ∈ t.stopped, app ∈ s.stopped ∨ app ∈ s.watchingApps
  accounted : s.Accounted → t.Accounted

/-- Nothing happened. -/
theorem KeepsApps.refl (s : Watcher) : KeepsApps s s := ⟨rfl, rfl, rfl, fun _ ↦ Or.inl, id⟩

/-- Two changes in a row. -/
theorem KeepsApps.trans {s t u : Watcher} (h : KeepsApps s t) (h' : KeepsApps t u) :
    KeepsApps s u where
  watchingApps := h'.watchingApps.trans h.watchingApps
  watched := h'.watched.trans h.watched
  deleted := h'.deleted.trans h.deleted
  stopped app happ := (h'.stopped app happ).elim (h.stopped app) fun hmem ↦
    Or.inr (h.watchingApps ▸ hmem)
  accounted hs := h'.accounted (h.accounted hs)

/-- Stopping only starts a deletion. -/
theorem stopWatchingApp_keepsApps (s : Watcher) (appId : String) :
    KeepsApps s (s.stopWatchingApp appId) := by
  simp only [stopWatchingApp]
  split
  · next app happ =>
    refine ⟨rfl, rfl, rfl, fun a ha ↦ ?_, fun h a ↦ ?_⟩
    · rcases List.mem_append.mp ha with ha | ha
      · exact Or.inl ha
      · rw [List.mem_singleton.mp ha]
        exact Or.inr (List.mem_of_getElem? happ)
    simp only [List.mem_append, List.mem_singleton, h a]
    constructor
    · rintro ((hd | ⟨deletion, hd, ha⟩) | rfl)
      · exact Or.inl hd
      · exact Or.inr ⟨deletion, Or.inl hd, ha⟩
      · exact Or.inr ⟨_, Or.inr rfl, rfl⟩
    · rintro (hd | ⟨deletion, hd | rfl, rfl⟩)
      · exact Or.inl (Or.inl hd)
      · exact Or.inl (Or.inr ⟨deletion, hd, rfl⟩)
      · exact Or.inr rfl
  · exact KeepsApps.refl s

/-- The check of one entry removes nothing. -/
theorem checkApp_keepsApps (linkGraph : LinkGraph) (s : Watcher) (watchingApp : App) :
    KeepsApps s (checkApp linkGraph s watchingApp) := by
  unfold checkApp
  split
  · exact ⟨rfl, rfl, rfl, fun _ ↦ Or.inl, id⟩
  · split
    · exact stopWatchingApp_keepsApps s watchingApp.id
    · exact KeepsApps.refl s

/-- The check of all entries removes nothing. -/
theorem foldl_checkApp_keepsApps (linkGraph : LinkGraph) (l : List App) (s : Watcher) :
    KeepsApps s (l.foldl (checkApp linkGraph) s) :=
  foldl_invariant l (fun watchingApp _ t ht ↦ ht.trans (checkApp_keepsApps linkGraph t watchingApp))
    s (KeepsApps.refl s)

/-- A step completes a deletion, keeps the list, or appends a new application. -/
theorem step_cases {dirname : Path} {s t : Watcher} {e : WatcherEvent}
    (h : step dirname s e = some t) :
    (∃ k deletion, e = .deletionDone k ∧ s.deleting[k]? = some deletion ∧
      t = s.finishDeletion k deletion) ∨
    (∀ k, e ≠ .deletionDone k) ∧ (KeepsApps s t ∨
      ∃ app, app.ref = s.watched.length ∧ t.watchingApps = s.watchingApps ++ [app] ∧
        t.watched = s.watched ++ [app] ∧ t.deleted = s.deleted ∧ t.stopped = s.stopped ∧
        (s.Accounted → t.Accounted)) := by
  cases e with
  | upload p content =>
    cases h
    exact Or.inr ⟨nofun, Or.inl ⟨rfl, rfl, rfl, fun _ ↦ Or.inl, id⟩⟩
  | watch appId executorGatewayId tempAppPath tempMetadataPath now =>
    apply Or.inr
    simp only [step, Option.some.injEq, watch] at h
    subst h
    refine ⟨nofun, ?_⟩
    split
    · exact Or.inl ⟨rfl, rfl, rfl, fun _ ↦ Or.inl, id⟩
    · split
      · exact Or.inr ⟨_, rfl, rfl, rfl, rfl, rfl, id⟩
      · exact Or.inr ⟨_, rfl, rfl, rfl, rfl, rfl, id⟩
  | timer handle =>
    simp only [step] at h
    split at h
    · cases h
      exact Or.inr ⟨nofun, Or.inl ⟨rfl, rfl, rfl, fun _ ↦ Or.inl, id⟩⟩
    · cases h
  | linkGraph answer =>
    simp only [step] at h
    split at h
    · cases h
    · refine Or.inr ⟨nofun, Or.inl ?_⟩
      cases answer with
      | ok linkGraph =>
        cases h
        apply KeepsApps.trans _ (foldl_checkApp_keepsApps linkGraph _ _)
        exact ⟨rfl, rfl, rfl, fun _ ↦ Or.inl, id⟩
      | error _ =>
        cases h
        exact ⟨rfl, rfl, rfl, fun _ ↦ Or.inl, id⟩
  | scheduled k answer =>
    simp only [step] at h
    split at h
    · cases h
    · next watchingApp _ =>
      refine Or.inr ⟨nofun, Or.inl ?_⟩
      cases answer with
      | ok _ =>
        cases h
        apply KeepsApps.trans _ (stopWatchingApp_keepsApps _ watchingApp.id)
        exact ⟨rfl, rfl, rfl, fun _ ↦ Or.inl, id⟩
      | error _ =>
        cases h
        exact ⟨rfl, rfl, rfl, fun _ ↦ Or.inl, id⟩
  | stopWatchingApp appId =>
    cases h
    exact Or.inr ⟨nofun, Or.inl (stopWatchingApp_keepsApps s appId)⟩
  | deletionDone k =>
    obtain ⟨deletion, hk, ht⟩ := Option.map_eq_some_iff.mp h
    exact Or.inl ⟨k, deletion, rfl, hk, ht.symm⟩

/-- What a completing deletion does to the list and its history, with or without an entry
left for the timer. -/
structure Removes (s t : Watcher) (k : Nat) (deletion : Deletion) : Prop where
  watchingApps : t.watchingApps = spliceOne s.watchingApps deletion.appIndex
  watched : t.watched = s.watched
  stopped : t.stopped = s.stopped
  deleted : t.deleted = s.deleted ++ [deletion.app]
  deleting : t.deleting = s.deleting.eraseIdx k

/-- A completing deletion removes the entry at the index recorded for it. -/
theorem removes_finishDeletion (s : Watcher) (k : Nat) (deletion : Deletion) :
    Removes s (s.finishDeletion k deletion) k deletion := by
  simp only [finishDeletion]
  split
  · exact ⟨rfl, rfl, rfl, rfl, rfl⟩
  · exact ⟨rfl, rfl, rfl, rfl, rfl⟩

/-! ### Every application stopped is the one removed -/

/-- The list shows the watched applications without the deleted ones, in order. -/
def Consistent (s : Watcher) : Prop := s.watchingApps = s.watched.filter (· ∉ s.deleted)

/-- Objects are distinct and the list holds some of the watched ones. -/
structure Wf (s : Watcher) : Prop where
  refs : ∀ (i : Nat) (app : App), s.watched[i]? = some app → app.ref = i
  sublist : s.watchingApps.Sublist s.watched
  stopped : ∀ app ∈ s.stopped, app ∈ s.watched
  accounted : s.Accounted

/-- A completing deletion finds the application it is about at the index recorded for it; or
it finds nothing there, the application having been removed already. -/
def FindsItsApp (s : Watcher) (e : WatcherEvent) : Prop :=
  ∀ k deletion, e = .deletionDone k → s.deleting[k]? = some deletion →
    s.watchingApps[deletion.appIndex]? = some deletion.app ∨
      deletion.app ∉ s.watchingApps ∧ s.watchingApps.length ≤ deletion.appIndex

/-- No application is watched twice. -/
theorem Wf.nodup_watched {s : Watcher} (h : s.Wf) : s.watched.Nodup := by
  rw [List.nodup_iff_getElem?_ne_getElem?]
  intro i j hij hj heq
  have hget : s.watched[j]? = some s.watched[j] := List.getElem?_eq_getElem hj
  have hi := h.refs i _ (heq.trans hget)
  have hj := h.refs j _ hget
  omega

/-- No application is listed twice. -/
theorem Wf.nodup_watchingApps {s : Watcher} (h : s.Wf) : s.watchingApps.Nodup :=
  h.sublist.nodup h.nodup_watched

/-- The loaded module watches nothing. -/
theorem wf_initial (files : FileSystem) : (initial files).Wf :=
  ⟨nofun, List.Sublist.refl _, nofun, fun _ ↦ ⟨nofun, nofun⟩⟩

/-- An application yet to be watched has not been deleted. -/
theorem Wf.fresh {s : Watcher} (h : s.Wf) {app : App} (href : app.ref = s.watched.length) :
    app ∉ s.deleted := by
  intro hmem
  obtain ⟨i, hi⟩ := List.getElem?_of_mem (h.stopped app ((h.accounted app).mpr (Or.inl hmem)))
  have hlt : i < s.watched.length := (List.getElem?_eq_some_iff.mp hi).1
  have hi := h.refs i app hi
  omega

/-- A completing deletion moves its application to the deleted ones. -/
theorem accounted_finishDeletion {s : Watcher} {k : Nat} {deletion : Deletion}
    (hk : s.deleting[k]? = some deletion) (h : s.Accounted) :
    (s.finishDeletion k deletion).Accounted := by
  have hremoves := removes_finishDeletion s k deletion
  intro app
  rw [hremoves.stopped, hremoves.deleted, hremoves.deleting, h app, List.mem_append,
    List.mem_singleton, or_assoc, eq_comm (a := app)]
  simp only [(perm_cons_eraseIdx hk).mem_iff, List.mem_cons, or_and_right, exists_or,
    exists_eq_left]

/-- Objects stay distinct, whatever a deletion removes. -/
theorem wf_step {dirname : Path} {s t : Watcher} {e : WatcherEvent} (hs : s.Wf)
    (h : step dirname s e = some t) : t.Wf := by
  rcases step_cases h with ⟨k, deletion, _, hk, rfl⟩ |
    ⟨_, hkeep | ⟨app, href, happs, hwatched, _, hstopped, haccounted⟩⟩
  · have hremoves := removes_finishDeletion s k deletion
    refine ⟨?_, ?_, ?_, accounted_finishDeletion hk hs.accounted⟩
    · rw [hremoves.watched]
      exact hs.refs
    · rw [hremoves.watchingApps, hremoves.watched]
      exact (List.eraseIdx_sublist _ _).trans hs.sublist
    · rw [hremoves.stopped, hremoves.watched]
      exact hs.stopped
  · refine ⟨?_, ?_, fun app happ ↦ ?_, hkeep.accounted hs.accounted⟩
    · rw [hkeep.watched]
      exact hs.refs
    · rw [hkeep.watched, hkeep.watchingApps]
      exact hs.sublist
    · rw [hkeep.watched]
      exact (hkeep.stopped app happ).elim (hs.stopped app) fun hmem ↦ hs.sublist.subset hmem
  · refine ⟨fun i a hi ↦ ?_, ?_, fun a ha ↦ ?_, haccounted hs.accounted⟩
    · rw [hwatched, List.getElem?_append] at hi
      split at hi
      · exact hs.refs i a hi
      · have hlast := List.mem_of_getElem? hi
        obtain ⟨hlt, _⟩ := List.getElem?_eq_some_iff.mp hi
        rw [List.mem_singleton.mp hlast, href]
        rw [List.length_singleton] at hlt
        omega
    · rw [happs, hwatched]
      exact hs.sublist.append_right [app]
    · rw [hwatched]
      exact List.mem_append_left _ (hs.stopped a (hstopped ▸ ha))

/-- A completing deletion keeps the list consistent exactly when it finds its application. -/
theorem consistent_finishDeletion_iff {s : Watcher} (hs : s.Wf) (hcons : s.Consistent) (k : Nat)
    (deletion : Deletion) :
    (s.finishDeletion k deletion).Consistent ↔
      s.watchingApps[deletion.appIndex]? = some deletion.app ∨
        deletion.app ∉ s.watchingApps ∧ s.watchingApps.length ≤ deletion.appIndex := by
  have hfilter : s.watched.filter (· ∉ s.deleted ++ [deletion.app]) =
      s.watchingApps.filter (· ≠ deletion.app) := by
    rw [hcons, List.filter_filter]
    apply List.filter_congr
    intro app _
    simp [and_comm]
  have hremoves := removes_finishDeletion s k deletion
  rw [← spliceOne_eq_filter_iff hs.nodup_watchingApps, ← hfilter, Consistent,
    hremoves.watchingApps, hremoves.watched, hremoves.deleted]

/-- A step keeps the list consistent exactly when a completing deletion finds its
application. -/
theorem consistent_step_iff {dirname : Path} {s t : Watcher} {e : WatcherEvent} (hs : s.Wf)
    (hcons : s.Consistent) (h : step dirname s e = some t) :
    t.Consistent ↔ s.FindsItsApp e := by
  rcases step_cases h with ⟨k, deletion, rfl, hk, rfl⟩ |
    ⟨hother, hkeep | ⟨app, href, happs, hwatched, hdeleted, _, _⟩⟩
  · rw [consistent_finishDeletion_iff hs hcons]
    constructor
    · intro hfinds j d hj hd
      cases hj
      cases hk.symm.trans hd
      exact hfinds
    · intro hfinds
      exact hfinds k deletion rfl hk
  · refine iff_of_true ?_ fun k _ he ↦ absurd he (hother k)
    rw [Consistent, hkeep.watchingApps, hkeep.watched, hkeep.deleted]
    exact hcons
  · refine iff_of_true ?_ fun k _ he ↦ absurd he (hother k)
    rw [Consistent, happs, hwatched, hdeleted, List.filter_append, ← hcons]
    simp [hs.fresh href]

/-- After its deletions a consistent list shows the watched applications not stopped. -/
theorem Consistent.settled {s : Watcher} (hcons : s.Consistent) (hs : s.Wf)
    (hsettled : s.deleting = []) : s.watchingApps = s.watched.filter (· ∉ s.stopped) := by
  rw [hcons]
  apply List.filter_congr
  intro app _
  have hmem : app ∈ s.stopped ↔ app ∈ s.deleted := by
    rw [hs.accounted app, hsettled]
    simp
  simp [hmem]

/-- Throughout a run the list shows the watched applications without the deleted ones exactly
if every completing deletion finds its application; then what is left in the end are the
applications not stopped. -/
theorem watchingApps_run (dirname : Path) (files : FileSystem) (es : List WatcherEvent) :
    (Always (step dirname) Consistent (initial files) es ↔
      EachStep (step dirname) FindsItsApp (initial files) es) ∧
    (EachStep (step dirname) FindsItsApp (initial files) es →
      ∀ t, run (step dirname) (initial files) es = some t → t.deleting = [] →
        t.watchingApps = t.watched.filter (· ∉ t.stopped)) := by
  have hiff : Always (step dirname) Consistent (initial files) es ↔
      EachStep (step dirname) FindsItsApp (initial files) es :=
    always_iff_eachStep (step dirname) (fun _ _ _ hs h ↦ wf_step hs h)
      (fun _ _ _ hs hcons h ↦ consistent_step_iff hs hcons h) es (wf_initial files) rfl
  refine ⟨hiff, fun h t hrun hsettled ↦ ?_⟩
  have hcons : t.Consistent := Always.last (step dirname) (hiff.mpr h) hrun
  have hwf : t.Wf := run_invariant (step dirname) (fun _ _ _ hs h ↦ wf_step hs h) es
    (wf_initial files) hrun
  exact hcons.settled hwf hsettled

/-- Applications `a`, `b` and `c` are watched; the first check finds only `c` running. -/
def twoFinished : List WatcherEvent :=
  [.upload ["tmp", "app.js"] "", .upload ["tmp", "app.json"] "",
    .watch "a" "executor" ["tmp", "app.js"] ["tmp", "app.json"] 0,
    .watch "b" "executor" ["tmp", "app.js"] ["tmp", "app.json"] 1,
    .watch "c" "executor" ["tmp", "app.js"] ["tmp", "app.json"] 2,
    .timer 0,
    .linkGraph (.ok ⟨JsObject.empty,
      JsObject.empty.set "executor" ⟨"10.0.0.1", [], [⟨"c", "app.js"⟩]⟩⟩)]

/-- With the deletions of `a` and `b` completed in this order, `b` is left and `c` is gone. -/
theorem watchingApps_wrong_entry :
    (run (step []) (initial fun _ ↦ none)
      (twoFinished ++ [.deletionDone 0, .deletionDone 0])).map (fun t ↦
        (t.deleting, t.watchingApps.map App.id,
          (t.watched.filter (· ∉ t.stopped)).map App.id)) =
      some ([], ["b"], ["c"]) := by
  decide +kernel

-- In the other order `c` is left.
example : (run (step []) (initial fun _ ↦ none)
    (twoFinished ++ [.deletionDone 1, .deletionDone 0])).map (fun t ↦
      (t.deleting, t.watchingApps.map App.id)) = some ([], ["c"]) := by
  decide +kernel

/-! ### One request per failed executor -/

/-- At most one request is outstanding for an application, and none was made after one had
succeeded. -/
def RescheduledOnce (s : Watcher) : Prop :=
  (∀ app, s.scheduling.count app ≤ 1) ∧ s.reissued = []

/-- When a link graph without the executor of a watched application arrives, no request for
the application is outstanding and none has succeeded. -/
def NoneUnderWay (s : Watcher) (e : WatcherEvent) : Prop :=
  ∀ linkGraph, e = .linkGraph (.ok linkGraph) → ∀ app ∈ s.watchingApps,
    linkGraph.data.get? app.executorGatewayId = none →
      app ∉ s.scheduling ∧ app ∉ s.rescheduled

/-- The requests to schedule, and what is known about their answers, are the same. -/
structure KeepsRequests (s t : Watcher) : Prop where
  scheduling : t.scheduling = s.scheduling
  rescheduled : t.rescheduled = s.rescheduled
  reissued : t.reissued = s.reissued

/-- Stopping requests nothing. -/
theorem stopWatchingApp_keepsRequests (s : Watcher) (appId : String) :
    KeepsRequests s (s.stopWatchingApp appId) := by
  simp only [stopWatchingApp]
  split
  · exact ⟨rfl, rfl, rfl⟩
  · exact ⟨rfl, rfl, rfl⟩

/-- A check requests the applications whose executors are missing. -/
theorem foldl_checkApp_requests (linkGraph : LinkGraph) (l : List App) (s : Watcher) :
    (l.foldl (checkApp linkGraph) s).scheduling = s.scheduling ++
        l.filter (fun app ↦ linkGraph.data.get? app.executorGatewayId = none) ∧
      (l.foldl (checkApp linkGraph) s).reissued = s.reissued ++
        l.filter (fun app ↦ linkGraph.data.get? app.executorGatewayId = none ∧
          app ∈ s.rescheduled) := by
  induction l generalizing s with
  | nil => simp
  | cons app l ih =>
    rw [List.foldl_cons, (ih _).1, (ih _).2, List.filter_cons, List.filter_cons]
    cases hget : linkGraph.data.get? app.executorGatewayId with
    | none =>
      simp only [checkApp, hget, requestSchedule]
      by_cases hmem : app ∈ s.rescheduled
      · simp [hmem]
      · simp [hmem]
    | some gatewayData =>
      have hkeep : KeepsRequests s (checkApp linkGraph s app) := by
        simp only [checkApp, hget]
        split
        · exact stopWatchingApp_keepsRequests s app.id
        · exact ⟨rfl, rfl, rfl⟩
      rw [hkeep.scheduling, hkeep.rescheduled, hkeep.reissued]
      simp

/-- Only an arriving link graph adds requests. -/
theorem step_requests {dirname : Path} {s t : Watcher} {e : WatcherEvent}
    (h : step dirname s e = some t) :
    (∃ linkGraph, e = .linkGraph (.ok linkGraph) ∧
      t.scheduling = s.scheduling ++ s.watchingApps.filter
        (fun app ↦ linkGraph.data.get? app.executorGatewayId = none) ∧
      t.reissued = s.reissued ++ s.watchingApps.filter
        (fun app ↦ linkGraph.data.get? app.executorGatewayId = none ∧ app ∈ s.rescheduled)) ∨
    (∀ linkGraph, e ≠ .linkGraph (.ok linkGraph)) ∧
      t.scheduling.Sublist s.scheduling ∧ t.reissued = s.reissued := by
  cases e with
  | upload p content =>
    cases h
    exact Or.inr ⟨nofun, List.Sublist.refl _, rfl⟩
  | watch appId executorGatewayId tempAppPath tempMetadataPath now =>
    apply Or.inr
    simp only [step, Option.some.injEq, watch] at h
    subst h
    refine ⟨nofun, ?_⟩
    split
    · exact ⟨List.Sublist.refl _, rfl⟩
    · split
      · exact ⟨List.Sublist.refl _, rfl⟩
      · exact ⟨List.Sublist.refl _, rfl⟩
  | timer handle =>
    simp only [step] at h
    split at h
    · cases h
      exact Or.inr ⟨nofun, List.Sublist.refl _, rfl⟩
    · cases h
  | linkGraph answer =>
    simp only [step] at h
    split at h
    · cases h
    · cases answer with
      | ok linkGraph =>
        cases h
        exact Or.inl ⟨linkGraph, rfl, foldl_checkApp_requests linkGraph _ _⟩
      | error _ =>
        cases h
        exact Or.inr ⟨nofun, List.Sublist.refl _, rfl⟩
  | scheduled k answer =>
    simp only [step] at h
    split at h
    · cases h
    · next watchingApp _ =>
      refine Or.inr ⟨nofun, ?_⟩
      cases answer with
      | ok _ =>
        cases h
        have hkeep := stopWatchingApp_keepsRequests { s with
          scheduling := s.scheduling.eraseIdx k
          rescheduled := s.rescheduled ++ [watchingApp] } watchingApp.id
        rw [hkeep.scheduling, hkeep.reissued]
        exact ⟨List.eraseIdx_sublist _ _, rfl⟩
      | error _ =>
        cases h
        exact ⟨List.eraseIdx_sublist _ _, rfl⟩
  | stopWatchingApp appId =>
    cases h
    have hkeep := stopWatchingApp_keepsRequests s appId
    rw [hkeep.scheduling, hkeep.reissued]
    exact Or.inr ⟨nofun, List.Sublist.refl _, rfl⟩
  | deletionDone k =>
    obtain ⟨deletion, _, rfl⟩ := Option.map_eq_some_iff.mp h
    refine Or.inr ⟨nofun, ?_⟩
    simp only [finishDeletion]
    split
    · exact ⟨List.Sublist.refl _, rfl⟩
    · exact ⟨List.Sublist.refl _, rfl⟩

/-- A step keeps the requests single exactly when an arriving link graph finds none under way
for the applications it asks to schedule. -/
theorem rescheduledOnce_step_iff {dirname : Path} {s t : Watcher} {e : WatcherEvent} (hs : s.Wf)
    (honce : s.RescheduledOnce) (h : step dirname s e = some t) :
    t.RescheduledOnce ↔ s.NoneUnderWay e := by
  obtain ⟨hcount, hreissued⟩ := honce
  rcases step_requests h with ⟨linkGraph, rfl, hscheduling, hagain⟩ | ⟨hother, hsub, hagain⟩
  · rw [RescheduledOnce, hscheduling, hagain, hreissued, List.nil_append, List.filter_eq_nil_iff]
    have hnodup := hs.nodup_watchingApps.filter
      (fun app ↦ linkGraph.data.get? app.executorGatewayId = none)
    constructor
    · rintro ⟨hcount', hnone⟩ g hg app happ hmissing
      cases hg
      constructor
      · intro hmem
        have hone := hcount' app
        have hpos := List.count_pos_iff.mpr hmem
        have hadded : 0 < (s.watchingApps.filter
            (fun app ↦ linkGraph.data.get? app.executorGatewayId = none)).count app := by
          rw [List.count_pos_iff, List.mem_filter]
          exact ⟨happ, by simpa using hmissing⟩
        rw [List.count_append] at hone
        omega
      · intro hmem
        exact hnone app happ (by simp [hmissing, hmem])
    · intro hnone
      constructor
      · intro app
        rw [List.count_append]
        by_cases hadded : app ∈ s.watchingApps.filter
            (fun app ↦ linkGraph.data.get? app.executorGatewayId = none)
        · obtain ⟨happ, hmissing⟩ := List.mem_filter.mp hadded
          have hout := (hnone linkGraph rfl app happ (by simpa using hmissing)).1
          rw [List.count_eq_zero_of_not_mem hout, hnodup.count, if_pos hadded]
        · rw [List.count_eq_zero_of_not_mem hadded]
          exact hcount app
      · intro app happ hboth
        have hboth : linkGraph.data.get? app.executorGatewayId = none ∧ app ∈ s.rescheduled := by
          simpa using hboth
        exact (hnone linkGraph rfl app happ hboth.1).2 hboth.2
  · refine iff_of_true ⟨fun app ↦ ?_, hagain.trans hreissued⟩ fun linkGraph he ↦
      absurd he (hother linkGraph)
    exact (hsub.count_le app).trans (hcount app)

/-- Throughout a run applications are rescheduled once exactly if no link graph arrives while
a request for an application it finds without executor is under way or has succeeded. -/
theorem rescheduledOnce_run (dirname : Path) (files : FileSystem) (es : List WatcherEvent) :
    Always (step dirname) RescheduledOnce (initial files) es ↔
      EachStep (step dirname) NoneUnderWay (initial files) es :=
  always_iff_eachStep (step dirname) (fun _ _ _ hs h ↦ wf_step hs h)
    (fun _ _ _ hs honce h ↦ rescheduledOnce_step_iff hs honce h) es (wf_initial files)
    ⟨fun _ ↦ Nat.zero_le 1, rfl⟩

/-- The executor of `a` stays away for two checks, and the first request is not yet answered
at the second one. -/
def failedTwice : List WatcherEvent :=
  [.upload ["tmp", "app.js"] "", .upload ["tmp", "app.json"] "",
    .watch "a" "executor" ["tmp", "app.js"] ["tmp", "app.json"] 0,
    .timer 0, .linkGraph (.ok ⟨JsObject.empty, JsObject.empty⟩),
    .timer 0, .linkGraph (.ok ⟨JsObject.empty, JsObject.empty⟩)]

/-- Two requests for the same entry are outstanding, and both are answered with success. -/
theorem rescheduled_twice :
    (run (step []) (initial fun _ ↦ none) failedTwice).map (fun t ↦
      t.scheduling.map App.ref) = some [0, 0] ∧
    (run (step []) (initial fun _ ↦ none)
      (failedTwice ++ [.scheduled 0 (.ok ()), .scheduled 0 (.ok ())])).map (fun t ↦
        t.rescheduled.map App.ref) = some [0, 0] := by
  constructor
  · decide +kernel
  · decide +kernel

end Watcher
end NexusEdge.Apps
