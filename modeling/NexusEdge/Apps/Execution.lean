import NexusEdge.Apps.Isolation

/-!
# Which applications an event starts

Library `Apps`. Whether an execution starts its application depends on the two files of the
request and the runtime, `app-manager.js:113–148`; a restart starts applications up to the first
with a runtime that is not supported, `app-manager.js:36–55`. Entries are new objects then, with
processes of their own; the others stay until they are terminated.
-/

namespace NexusEdge.Apps
open NexusEdge.Base NexusEdge.Platform NexusEdge.Dao

namespace AppManager

/-! ### Entries -/

/-- Every entry has a process that was started under its id. -/
def Owned (s : AppManager) : Prop :=
  ∀ id info, s.apps.get? id = some info →
    ∃ p, s.machine.processes[info.process]? = some p ∧ p.appDataTopic = id

/-- Entries of different ids have different processes. -/
theorem Owned.process_injective {s : AppManager} (hs : s.Owned) {id id' : String}
    {info info' : AppInfo} (hinfo : s.apps.get? id = some info)
    (hinfo' : s.apps.get? id' = some info') (hprocess : info.process = info'.process) :
    id = id' := by
  obtain ⟨p, hp, rfl⟩ := hs id info hinfo
  obtain ⟨p', hp', rfl⟩ := hs id' info' hinfo'
  rw [hprocess, hp'] at hp
  rw [Option.some.inj hp]

/-- The process of an entry has been started. -/
theorem Owned.process_lt {s : AppManager} (hs : s.Owned) {id : String} {info : AppInfo}
    (hinfo : s.apps.get? id = some info) : info.process < s.machine.processes.length := by
  obtain ⟨p, hp, _⟩ := hs id info hinfo
  exact (List.getElem?_eq_some_iff.mp hp).1

/-- The applications with these ids have been started anew; the other entries are as before. -/
structure Starts (ids : List String) (s t : AppManager) : Prop where
  processes : s.machine.processes <+: t.machine.processes
  kept : ∀ id, id ∉ ids → t.apps.get? id = s.apps.get? id
  fresh : ∀ id ∈ ids, ∃ info, t.apps.get? id = some info ∧
    s.machine.processes.length ≤ info.process
  owned : s.Owned → t.Owned

namespace Starts

variable {ids ids' : List String} {s t u : AppManager}

/-- Neither the table nor the processes change. -/
theorem of_same (happs : t.apps = s.apps)
    (hprocesses : t.machine.processes = s.machine.processes) : Starts [] s t := by
  refine ⟨?_, fun id _ ↦ by rw [happs], nofun, fun hs ↦ ?_⟩
  · rw [hprocesses]
  · rw [Owned, happs, hprocesses]
    exact hs

/-- One after the other. -/
theorem trans (h : Starts ids s t) (h' : Starts ids' t u) : Starts (ids ++ ids') s u := by
  refine ⟨h.processes.trans h'.processes, fun id hid ↦ ?_, fun id hid ↦ ?_,
    fun hs ↦ h'.owned (h.owned hs)⟩
  · rw [List.mem_append, not_or] at hid
    rw [h'.kept id hid.2, h.kept id hid.1]
  · by_cases hid' : id ∈ ids'
    · obtain ⟨info, hinfo, hle⟩ := h'.fresh id hid'
      exact ⟨info, hinfo, h.processes.length_le.trans hle⟩
    · obtain ⟨info, hinfo, hle⟩ := h.fresh id ((List.mem_append.mp hid).resolve_right hid')
      exact ⟨info, (h'.kept id hid').trans hinfo, hle⟩

/-- One application is started. -/
theorem started (env : Installation) (app : Dao.App) (linkGraph : Option LinkGraph)
    (files : FileSystem) (happs : t.apps = (s.started env app linkGraph files).apps)
    (hprocesses : t.machine.processes =
      (s.started env app linkGraph files).machine.processes) : Starts [app.id] s t := by
  have hget : ∀ id, t.apps.get? id =
      if id = app.id then some (entryOf env app s.machine.processes.length)
      else s.apps.get? id := fun id ↦ by rw [happs, AppManager.started, JsObject.get?_set]
  refine ⟨?_, fun id hid ↦ ?_, fun id hid ↦ ?_, fun hs id info hinfo ↦ ?_⟩
  · rw [hprocesses]
    exact List.prefix_append _ _
  · rw [hget, if_neg (mt List.mem_singleton.mpr hid)]
  · rw [hget, if_pos (List.mem_singleton.mp hid)]
    exact ⟨_, rfl, le_refl _⟩
  · rw [hget] at hinfo
    rw [hprocesses, AppManager.started]
    split at hinfo
    · next hid =>
      obtain rfl := Option.some.inj hinfo
      exact ⟨_, List.getElem?_concat_length, hid.symm⟩
    · obtain ⟨p, hp, htopic⟩ := hs id info hinfo
      rw [List.getElem?_append_left (List.getElem?_eq_some_iff.mp hp).1]
      exact ⟨p, hp, htopic⟩

end Starts

/-! ### Events -/

variable {env : Installation}

/-- The applications a restart starts. -/
def restartedApps (apps : List Dao.App) : List Dao.App :=
  apps.takeWhile fun app ↦ SupportedRuntime app.runtime

/-- The ids of the applications that an event starts. -/
def startedIds (env : Installation) (s : AppManager) : AppEvent → List String
  | .metadataRead k _ =>
    match s.executing[k]? with
    | some request => if CanStart env s.machine.files request then [request.appId] else []
    | none => []
  | .fetched => (restartedApps (s.restarting?.getD [])).map Dao.App.id
  | _ => []

/-- The loop of the restart. -/
theorem starts_restart (apps : List Dao.App) (s : AppManager) :
    Starts ((restartedApps apps).map Dao.App.id) s
      (Outcome.forEach (restartApp env) apps s).state := by
  induction apps generalizing s with
  | nil => exact Starts.of_same rfl rfl
  | cons app apps ih =>
    rw [Outcome.forEach, restartedApps, List.takeWhile_cons]
    rcases restartApp_cases env app s with ⟨hunsupported, error, hthrow⟩ | ⟨hsupported, hdone⟩
    · rw [hthrow, decide_eq_false hunsupported]
      exact Starts.of_same rfl rfl
    · rw [hdone, decide_eq_true hsupported]
      exact (Starts.started env app none _ rfl rfl).trans (ih _)

/-- The answer to an execution's request. -/
theorem starts_finishExecution (s : AppManager) (k : Nat) (request : ExecuteRequest) (now : Nat) :
    Starts (if CanStart env s.machine.files request then [request.appId] else []) s
      (s.finishExecution env k request now) := by
  obtain ⟨files, _, _, ⟨hstart, _, runtime, _, hstate⟩ | ⟨hstart, _, hstate⟩⟩ :=
    executeApplication_spec env request now { s with executing := s.executing.eraseIdx k }
  · rw [if_pos hstart]
    refine Starts.started env (describe env request now runtime) request.linkGraph files ?_ ?_
    · simp only [finishExecution, hstate]
      rfl
    · simp only [finishExecution, hstate]
      rfl
  · rw [if_neg hstart]
    refine Starts.of_same ?_ ?_
    · simp only [finishExecution, hstate]
    · simp only [finishExecution, hstate]

/-- Every event but a termination starts the applications with its ids and leaves the other
entries as they are. -/
theorem step_starts {s t : AppManager} {e : AppEvent}
    (hterminate : ∀ appId, e ≠ .terminateApp appId) (ht : step env s e = some t) :
    Starts (startedIds env s e) s t := by
  cases e with
  | upload p content =>
    obtain ⟨_, rfl⟩ := step_upload ht
    exact Starts.of_same rfl rfl
  | startUp =>
    obtain rfl := step_startUp ht
    exact Starts.of_same rfl rfl
  | linkGraph answer =>
    rcases step_linkGraph ht with ⟨linkGraph, rfl, rfl⟩ | ⟨rfl, rfl⟩
    · exact Starts.of_same rfl rfl
    · exact Starts.of_same rfl rfl
  | fetched =>
    obtain ⟨ticket, lastGateway, apps, hrestart, hfetched, rfl⟩ := step_fetched ht
    cases lastGateway with
    | true =>
      simp only [startedIds, restarting?, hrestart, hfetched, Option.getD_some]
      have hfinished : Starts [] s { s with restart := .finished } := Starts.of_same rfl rfl
      exact hfinished.trans (starts_restart apps _)
    | false =>
      simp only [startedIds, restarting?, hrestart, Option.getD_none]
      exact Starts.of_same rfl rfl
  | executeApp request =>
    cases ht
    exact Starts.of_same rfl rfl
  | metadataRead k now =>
    obtain ⟨request, hrequest, rfl⟩ := Option.map_eq_some_iff.mp ht
    simp only [startedIds, hrequest]
    exact starts_finishExecution s k request now
  | terminateApp appId => exact absurd rfl (hterminate appId)
  | removed k =>
    obtain ⟨removal, _, rfl⟩ := Option.map_eq_some_iff.mp ht
    exact Starts.of_same rfl rfl
  | readFile k =>
    cases ht
    exact Starts.of_same rfl rfl
  | load k =>
    obtain ⟨db, _, rfl⟩ := Option.map_eq_some_iff.mp ht
    exact Starts.of_same rfl rfl
  | run =>
    obtain ⟨db, _, rfl⟩ := Option.map_eq_some_iff.mp ht
    exact Starts.of_same rfl rfl
  | flush k =>
    obtain ⟨db, _, rfl⟩ := Option.map_eq_some_iff.mp ht
    exact Starts.of_same rfl rfl

/-- A termination deletes its entry. -/
theorem get?_terminateApp (s : AppManager) (appId id : String) :
    (s.terminateApp appId).apps.get? id = if id = appId then none else s.apps.get? id := by
  rcases s.terminateApp_cases appId with ⟨app, _, heq⟩ | ⟨hnone, heq⟩
  · rw [heq]
    exact JsObject.get?_erase _ _ _
  · rw [heq]
    split
    · next hid => rw [hid, hnone]
    · rfl

/-- A termination starts no process. -/
theorem processes_terminateApp (s : AppManager) (appId : String) :
    (s.terminateApp appId).machine.processes = s.machine.processes := by
  rcases s.terminateApp_cases appId with ⟨app, _, heq⟩ | ⟨_, heq⟩
  · rw [heq]
    rfl
  · rw [heq]

/-- Every event keeps the processes of the entries. -/
theorem owned_step {s t : AppManager} {e : AppEvent} (hs : s.Owned) (ht : step env s e = some t) :
    t.Owned ∧ s.machine.processes <+: t.machine.processes := by
  by_cases hterminate : ∃ appId, e = .terminateApp appId
  · obtain ⟨appId, rfl⟩ := hterminate
    obtain rfl := Option.some.inj ht
    refine ⟨fun id info hinfo ↦ ?_, ?_⟩
    · rw [get?_terminateApp] at hinfo
      split at hinfo
      · cases hinfo
      · rw [processes_terminateApp]
        exact hs id info hinfo
    · rw [processes_terminateApp]
  · have hstarts := step_starts (not_exists.mp hterminate) ht
    exact ⟨hstarts.owned hs, hstarts.processes⟩

end AppManager
end NexusEdge.Apps
