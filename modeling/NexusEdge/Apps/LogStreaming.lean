import NexusEdge.Apps.Execution

/-!
# Streaming of logs

Library `Apps`. The `start-log-streaming` and `stop-log-streaming` listeners and the error callback
of a `Tail`, `app-manager.js:235–323`, next to everything else the app manager does. The entry of
an application holds its `Tail` in the field `logTail`. A termination or a new start drops the
entry with the field, and the error callback ends the watch without it; every other event keeps
fields and watches together.
-/

namespace NexusEdge.Apps
open NexusEdge.Base NexusEdge.Platform NexusEdge.Dao

/-- A `Tail` made for the log of an application. -/
structure Tail where
  appId : String
  logPath : Path
  watching : Bool
  deriving DecidableEq

/-- Answer to a query: its error, or none for `status: true`. -/
inductive StreamingResponse where
  | startLogStreaming (appId : String) (error : Option String)
  | stopLogStreaming (appId : String) (error : Option String)
  deriving DecidableEq

/-- The app manager with its tails. -/
structure LogStreamer where
  manager : AppManager
  /-- Every `Tail` ever made. -/
  tails : List Tail
  /-- The field `logTail` of an entry, by the process of the entry. -/
  logTails : Nat → Option Nat
  responses : List StreamingResponse

/-- What the app manager and its tails react to. -/
inductive LogEvent where
  | app (e : AppEvent)
  | startLogStreaming (appId : String)
  | stopLogStreaming (appId : String)
  /-- The `k`-th tail emits an error. -/
  | tailError (k : Nat)

/-- Error of a query about an application that is not in the table. -/
def notRunning (appId : String) : String :=
  "App " ++ appId ++ " is not a running app on this gateway."

namespace LogStreamer

/-- The loaded module. -/
def initial (files : FileSystem) (databases : JsObject (JsObject Dao.App)) : LogStreamer :=
  ⟨AppManager.initial files databases, [], fun _ ↦ none, []⟩

/-- `messagingService.respondToQuery`. -/
def respond (s : LogStreamer) (response : StreamingResponse) : LogStreamer :=
  { s with responses := s.responses ++ [response] }

/-- `new Tail(appLogPath, …)`, stored in the entry, `app-manager.js:253–268`. -/
def tailLog (s : LogStreamer) (appId : String) (app : AppInfo) : LogStreamer :=
  { s with
    tails := s.tails ++ [⟨appId, app.logPath, true⟩]
    logTails := Function.update s.logTails app.process (some s.tails.length) }

/-- `tail.unwatch()`. -/
def unwatch (s : LogStreamer) (k : Nat) : LogStreamer :=
  { s with tails := s.tails.modify k fun tail ↦ { tail with watching := false } }

/-- The `start-log-streaming` listener, `app-manager.js:235–283`; there is no answer when the log
does not exist. -/
def startLogStreaming (s : LogStreamer) (appId : String) : LogStreamer :=
  match s.manager.apps.get? appId with
  | some app =>
    if (s.logTails app.process).isSome then s.respond (.startLogStreaming appId none)
    else if (s.manager.machine.files app.logPath).isSome then
      (s.tailLog appId app).respond (.startLogStreaming appId none)
    else s
  | none => s.respond (.startLogStreaming appId (some (notRunning appId)))

/-- The `stop-log-streaming` listener, `app-manager.js:285–323`; the app manager itself has not
subscribed to the topic of the log. -/
def stopLogStreaming (s : LogStreamer) (appId : String) : LogStreamer :=
  match s.manager.apps.get? appId with
  | some app =>
    match s.logTails app.process with
    | some k =>
      { s.unwatch k with logTails := Function.update s.logTails app.process none }.respond
        (.stopLogStreaming appId none)
    | none => s.respond (.stopLogStreaming appId
        (some ("App " ++ appId ++ " was not streaming its logs.")))
  | none => s.respond (.stopLogStreaming appId (some (notRunning appId)))

/-- One event; none when the event cannot happen. -/
def step (env : Installation) (s : LogStreamer) : LogEvent → Option LogStreamer
  | .app e => (s.manager.step env e).map fun manager ↦ { s with manager := manager }
  | .startLogStreaming appId => some (s.startLogStreaming appId)
  | .stopLogStreaming appId => some (s.stopLogStreaming appId)
  -- The callback of the error, `app-manager.js:262–265`.
  | .tailError k => if k < s.tails.length then some (s.unwatch k) else none

/-- The `k`-th tail watches the log of the application. -/
def Watches (s : LogStreamer) (k : Nat) (appId : String) : Prop :=
  ∃ tail, s.tails[k]? = some tail ∧ tail.watching ∧ tail.appId = appId

/-- An entry has a `logTail` exactly if a tail for the log of the application is watched, and
every tail that is watched is of an application in the table. -/
structure Consistent (s : LogStreamer) : Prop where
  field_iff : ∀ appId app, s.manager.apps.get? appId = some app →
    ((s.logTails app.process).isSome ↔ ∃ k, s.Watches k appId)
  listed : ∀ k appId, s.Watches k appId → s.manager.apps.hasOwn appId

/-- The entries that an event drops or replaces. -/
def droppedIds (env : Installation) (s : AppManager) : AppEvent → List String
  | .terminateApp appId => [appId]
  | e => s.startedIds env e

/-- An entry that is dropped or replaced has no `logTail`, and no tail that is watched fails. -/
def StopsFirst (env : Installation) (s : LogStreamer) : LogEvent → Prop
  | .app e => ∀ appId ∈ droppedIds env s.manager e, ∀ app,
      s.manager.apps.get? appId = some app → s.logTails app.process = none
  | .tailError k => ∀ appId, ¬ s.Watches k appId
  | .startLogStreaming _ | .stopLogStreaming _ => True

/-! ### Tails and entries -/

/-- The entries have their processes, and later processes are not in use yet. -/
structure Wf (s : LogStreamer) : Prop where
  owned : s.manager.Owned
  unused : ∀ process, s.manager.machine.processes.length ≤ process → s.logTails process = none

/-- The tails that are watched are those of the entries. -/
structure Follows (s : LogStreamer) : Prop where
  watched : ∀ appId app k, s.manager.apps.get? appId = some app →
    s.logTails app.process = some k → s.Watches k appId
  stored : ∀ k appId, s.Watches k appId →
    ∃ app, s.manager.apps.get? appId = some app ∧ s.logTails app.process = some k

variable {s t : LogStreamer}

/-- A tail is for one application. -/
theorem Watches.unique {k : Nat} {appId appId' : String} (h : s.Watches k appId)
    (h' : s.Watches k appId') : appId = appId' := by
  obtain ⟨tail, htail, _, rfl⟩ := h
  obtain ⟨tail', htail', _, rfl⟩ := h'
  rw [htail] at htail'
  rw [Option.some.inj htail']

/-- One tail is no longer watched. -/
theorem watches_unwatch {k k' : Nat} {appId : String} :
    (s.unwatch k).Watches k' appId ↔ k' ≠ k ∧ s.Watches k' appId := by
  have hget : (s.unwatch k).tails[k']? = s.tails[k']?.map fun tail ↦
      if k = k' then { tail with watching := false } else tail := List.getElem?_modify ..
  constructor
  · rintro ⟨tail, htail, hwatching, happId⟩
    rw [hget] at htail
    obtain ⟨old, hold, rfl⟩ := Option.map_eq_some_iff.mp htail
    by_cases hk : k = k'
    · rw [if_pos hk] at hwatching
      cases hwatching
    · rw [if_neg hk] at hwatching happId
      exact ⟨Ne.symm hk, old, hold, hwatching, happId⟩
  · rintro ⟨hk, tail, htail, hwatching, happId⟩
    refine ⟨tail, ?_, hwatching, happId⟩
    rw [hget, htail, Option.map_some, if_neg (Ne.symm hk)]

/-- One tail more is watched. -/
theorem watches_tailLog {k : Nat} {appId id : String} {app : AppInfo} :
    (s.tailLog id app).Watches k appId ↔
      (k = s.tails.length ∧ appId = id) ∨ s.Watches k appId := by
  simp only [Watches, tailLog]
  rcases lt_trichotomy k s.tails.length with hlt | rfl | hgt
  · rw [List.getElem?_append_left hlt]
    exact (or_iff_right fun h ↦ Nat.ne_of_lt hlt h.1).symm
  · rw [List.getElem?_concat_length, List.getElem?_eq_none (le_refl _)]
    constructor
    · rintro ⟨tail, htail, _, happId⟩
      obtain rfl := Option.some.inj htail
      exact Or.inl ⟨rfl, happId.symm⟩
    · rintro (⟨_, rfl⟩ | ⟨tail, htail, _⟩)
      · exact ⟨_, rfl, rfl, rfl⟩
      · cases htail
  · have hend : (s.tails ++ [⟨id, app.logPath, true⟩])[k]? = none :=
      List.getElem?_eq_none (by rw [List.length_append, List.length_singleton]; omega)
    rw [hend, List.getElem?_eq_none (le_of_lt hgt)]
    exact (or_iff_right fun h ↦ Nat.ne_of_gt hgt h.1).symm

/-- Followed tails are consistent. -/
theorem Follows.consistent (h : s.Follows) : s.Consistent := by
  refine ⟨fun appId app happ ↦ ⟨fun hsome ↦ ?_, ?_⟩, fun k appId hwatches ↦ ?_⟩
  · obtain ⟨k, hk⟩ := Option.isSome_iff_exists.mp hsome
    exact ⟨k, h.watched appId app k happ hk⟩
  · rintro ⟨k, hwatches⟩
    obtain ⟨app', happ', hk⟩ := h.stored k appId hwatches
    obtain rfl := Option.some.inj (happ.symm.trans happ')
    rw [hk, Option.isSome_some]
  · obtain ⟨app, happ, _⟩ := h.stored k appId hwatches
    exact (JsObject.hasOwn_iff _ _).mpr ⟨app, happ⟩

/-- Answers concern neither tails nor entries. -/
theorem Follows.respond (h : s.Follows) (response : StreamingResponse) :
    (s.respond response).Follows := ⟨h.watched, h.stored⟩

/-- A new tail is stored in its entry. -/
theorem Follows.tailLog (hs : s.Wf) (h : s.Follows) {appId : String} {app : AppInfo}
    (happ : s.manager.apps.get? appId = some app) (hnone : s.logTails app.process = none) :
    (s.tailLog appId app).Follows := by
  refine ⟨fun appId' app' k happ' hk ↦ ?_, fun k appId' hwatches ↦ ?_⟩
  · rw [watches_tailLog]
    simp only [LogStreamer.tailLog, Function.update_apply] at hk
    split at hk
    · next hprocess =>
      exact Or.inl ⟨(Option.some.inj hk).symm, hs.owned.process_injective happ' happ hprocess⟩
    · exact Or.inr (h.watched appId' app' k happ' hk)
  · rcases watches_tailLog.mp hwatches with ⟨rfl, rfl⟩ | hwatches
    · exact ⟨app, happ, Function.update_self ..⟩
    · obtain ⟨app', happ', hk⟩ := h.stored k appId' hwatches
      refine ⟨app', happ', ?_⟩
      have hne : app'.process ≠ app.process := by
        intro heq
        rw [heq, hnone] at hk
        cases hk
      exact (Function.update_of_ne hne _ _).trans hk

/-- A tail is no longer watched nor stored. -/
theorem Follows.untail (h : s.Follows) {appId : String} {app : AppInfo} {k : Nat}
    (happ : s.manager.apps.get? appId = some app) (hk : s.logTails app.process = some k) :
    { s.unwatch k with
      logTails := Function.update s.logTails app.process none : LogStreamer }.Follows := by
  have hwatch {k' : Nat} {appId' : String} : ({ s.unwatch k with
      logTails := Function.update s.logTails app.process none : LogStreamer }.Watches k' appId' ↔
        k' ≠ k ∧ s.Watches k' appId') := watches_unwatch
  refine ⟨fun appId' app' k' happ' hk' ↦ ?_, fun k' appId' hwatches ↦ ?_⟩
  · simp only [Function.update_apply] at hk'
    split at hk'
    · cases hk'
    · next hprocess =>
      have hwatches := h.watched appId' app' k' happ' hk'
      refine hwatch.mpr ⟨?_, hwatches⟩
      rintro rfl
      obtain rfl := hwatches.unique (h.watched appId app k' happ hk)
      exact hprocess (congrArg AppInfo.process (Option.some.inj (happ'.symm.trans happ)))
  · obtain ⟨hne, hwatches⟩ := hwatch.mp hwatches
    obtain ⟨app', happ', hk'⟩ := h.stored k' appId' hwatches
    refine ⟨app', happ', ?_⟩
    have hprocess : app'.process ≠ app.process := by
      intro heq
      rw [heq, hk] at hk'
      exact hne (Option.some.inj hk').symm
    exact (Function.update_of_ne hprocess _ _).trans hk'

/-! ### Events -/

variable {env : Installation}

/-- What an event of the app manager does to its entries. -/
theorem droppedIds_spec {m n : AppManager} {e : AppEvent} (ht : m.step env e = some n) :
    (∀ id, id ∉ droppedIds env m e → n.apps.get? id = m.apps.get? id) ∧
      ∀ id ∈ droppedIds env m e, ∀ info, n.apps.get? id = some info →
        m.machine.processes.length ≤ info.process := by
  by_cases hterminate : ∃ appId, e = .terminateApp appId
  · obtain ⟨appId, rfl⟩ := hterminate
    obtain rfl := Option.some.inj ht
    refine ⟨fun id hid ↦ ?_, fun id hid info hinfo ↦ ?_⟩
    · rw [AppManager.get?_terminateApp, if_neg (mt List.mem_singleton.mpr hid)]
    · rw [AppManager.get?_terminateApp, if_pos (List.mem_singleton.mp hid)] at hinfo
      cases hinfo
  · have hstarts := AppManager.step_starts (not_exists.mp hterminate) ht
    have hids : droppedIds env m e = m.startedIds env e := by
      unfold droppedIds
      split
      · next appId => exact absurd ⟨appId, rfl⟩ hterminate
      · rfl
    rw [hids]
    refine ⟨hstarts.kept, fun id hid info hinfo ↦ ?_⟩
    obtain ⟨info', hinfo', hle⟩ := hstarts.fresh id hid
    obtain rfl := Option.some.inj (hinfo.symm.trans hinfo')
    exact hle

/-- Every event keeps the processes in use. -/
theorem Wf.step {e : LogEvent} (hs : s.Wf) (ht : s.step env e = some t) : t.Wf := by
  cases e with
  | app e =>
    obtain ⟨manager, hmanager, rfl⟩ := Option.map_eq_some_iff.mp ht
    obtain ⟨howned, hprocesses⟩ := AppManager.owned_step hs.owned hmanager
    exact ⟨howned, fun process hle ↦ hs.unused process (hprocesses.length_le.trans hle)⟩
  | startLogStreaming appId =>
    obtain rfl := Option.some.inj ht
    unfold startLogStreaming
    split
    · next app happ =>
      split
      · exact ⟨hs.owned, hs.unused⟩
      · split
        · refine ⟨hs.owned, fun process hle ↦ ?_⟩
          have hlt := hs.owned.process_lt happ
          have hne : process ≠ app.process := Nat.ne_of_gt (lt_of_lt_of_le hlt hle)
          exact (Function.update_of_ne hne _ _).trans (hs.unused process hle)
        · exact hs
    · exact ⟨hs.owned, hs.unused⟩
  | stopLogStreaming appId =>
    obtain rfl := Option.some.inj ht
    unfold stopLogStreaming
    split
    · next app happ =>
      split
      · refine ⟨hs.owned, fun process hle ↦ ?_⟩
        have hlt := hs.owned.process_lt happ
        have hne : process ≠ app.process := Nat.ne_of_gt (lt_of_lt_of_le hlt hle)
        exact (Function.update_of_ne hne _ _).trans (hs.unused process hle)
      · exact ⟨hs.owned, hs.unused⟩
    · exact ⟨hs.owned, hs.unused⟩
  | tailError k =>
    simp only [LogStreamer.step] at ht
    split at ht
    · cases ht
      exact ⟨hs.owned, hs.unused⟩
    · cases ht

/-- A start of streaming keeps the tails followed. -/
theorem Follows.startLogStreaming (hs : s.Wf) (h : s.Follows) (appId : String) :
    (s.startLogStreaming appId).Follows := by
  unfold LogStreamer.startLogStreaming
  split
  · next app happ =>
    split
    · exact h.respond _
    · next hnone =>
      split
      · rw [Bool.not_eq_true, Option.isSome_eq_false_iff, Option.isNone_iff_eq_none] at hnone
        exact (h.tailLog hs happ hnone).respond _
      · exact h
  · exact h.respond _

/-- So does its stop. -/
theorem Follows.stopLogStreaming (h : s.Follows) (appId : String) :
    (s.stopLogStreaming appId).Follows := by
  unfold LogStreamer.stopLogStreaming
  split
  · next app happ =>
    split
    · next k hk => exact (h.untail happ hk).respond _
    · exact h.respond _
  · exact h.respond _

/-- An event that drops no entry with a `logTail`, and is no error of a tail that is watched,
keeps the tails followed. -/
theorem Follows.step {e : LogEvent} (hs : s.Wf) (h : s.Follows) (hstops : s.StopsFirst env e)
    (ht : s.step env e = some t) : t.Follows := by
  cases e with
  | app e =>
    obtain ⟨manager, hmanager, rfl⟩ := Option.map_eq_some_iff.mp ht
    obtain ⟨hkept, hfresh⟩ := droppedIds_spec hmanager
    refine ⟨fun appId app k happ hk ↦ ?_, fun k appId hwatches ↦ ?_⟩
    · by_cases hid : appId ∈ droppedIds env s.manager e
      · have hnone := hs.unused app.process (hfresh appId hid app happ)
        rw [hnone] at hk
        cases hk
      · exact h.watched appId app k ((hkept appId hid).symm.trans happ) hk
    · obtain ⟨app, happ, hk⟩ := h.stored k appId hwatches
      by_cases hid : appId ∈ droppedIds env s.manager e
      · rw [hstops appId hid app happ] at hk
        cases hk
      · exact ⟨app, (hkept appId hid).trans happ, hk⟩
  | startLogStreaming appId =>
    obtain rfl := Option.some.inj ht
    exact h.startLogStreaming hs appId
  | stopLogStreaming appId =>
    obtain rfl := Option.some.inj ht
    exact h.stopLogStreaming appId
  | tailError k =>
    simp only [LogStreamer.step] at ht
    split at ht
    · cases ht
      refine ⟨fun appId app k' happ hk ↦ ?_, fun k' appId hwatches ↦ ?_⟩
      · have hwatches := h.watched appId app k' happ hk
        refine watches_unwatch.mpr ⟨?_, hwatches⟩
        rintro rfl
        exact hstops appId hwatches
      · exact h.stored k' appId (watches_unwatch.mp hwatches).2
    · cases ht

/-- Nothing else leaves followed tails consistent. -/
theorem stopsFirst_of_consistent {e : LogEvent} (hs : s.Wf) (h : s.Follows)
    (ht : s.step env e = some t) (hconsistent : t.Consistent) : s.StopsFirst env e := by
  cases e with
  | app e =>
    obtain ⟨manager, hmanager, rfl⟩ := Option.map_eq_some_iff.mp ht
    obtain ⟨_, hfresh⟩ := droppedIds_spec hmanager
    intro appId hid app happ
    by_contra htail
    obtain ⟨k, hk⟩ := Option.ne_none_iff_exists'.mp htail
    have hwatches := h.watched appId app k happ hk
    obtain ⟨info, hinfo⟩ := (JsObject.hasOwn_iff _ _).mp (hconsistent.listed k appId hwatches)
    have hsome := (hconsistent.field_iff appId info hinfo).mpr ⟨k, hwatches⟩
    have hnone := hs.unused info.process (hfresh appId hid info hinfo)
    rw [hnone] at hsome
    cases hsome
  | startLogStreaming appId => trivial
  | stopLogStreaming appId => trivial
  | tailError k =>
    simp only [LogStreamer.step] at ht
    split at ht
    · cases ht
      intro appId hwatches
      obtain ⟨app, happ, hk⟩ := h.stored k appId hwatches
      obtain ⟨k', hwatches'⟩ := (hconsistent.field_iff appId app happ).mp (by
        rw [LogStreamer.unwatch, hk, Option.isSome_some])
      obtain ⟨hne, hwatches'⟩ := watches_unwatch.mp hwatches'
      obtain ⟨app', happ', hk'⟩ := h.stored k' appId hwatches'
      obtain rfl := Option.some.inj (happ.symm.trans happ')
      exact hne (Option.some.inj (hk'.symm.trans hk))
    · cases ht

/-- In a run of requests, restarts and errors of tails the fields and the watches are consistent
exactly if streaming is stopped before its entry is dropped, and no tail that is watched fails. -/
theorem consistent_run (env : Installation) (files : FileSystem)
    (databases : JsObject (JsObject Dao.App)) (es : List LogEvent) :
    Always (step env) Consistent (initial files databases) es ↔
      EachStep (step env) (StopsFirst env) (initial files databases) es := by
  apply always_iff_eachStep_of_imp (step env) (Q := Follows) (fun _ h ↦ h.consistent)
    (fun _ _ _ hs ht ↦ hs.step ht) (fun _ _ _ hs h hstops ht ↦ h.step hs hstops ht)
    (fun _ _ _ hs h ht hconsistent ↦ stopsFirst_of_consistent hs h ht hconsistent) es
  · exact ⟨nofun, fun _ _ ↦ rfl⟩
  · exact ⟨nofun, nofun⟩

/-- The log of an application is streamed when the application is terminated. -/
def terminatedStreaming : List LogEvent :=
  (AppManager.deploy "a" "app.js" 1).map .app ++ [.startLogStreaming "a", .app (.terminateApp "a")]

/-- The tail of the terminated application is watched on. -/
theorem watched_after_termination :
    ∃ t, run (step AppManager.sampleInstallation) (initial (fun _ ↦ none) JsObject.empty)
        terminatedStreaming = some t ∧
      t.Watches 0 "a" ∧ t.manager.apps.get? "a" = none ∧ ¬ t.Consistent := by
  have hfacts : (run (step AppManager.sampleInstallation) (initial (fun _ ↦ none) JsObject.empty)
      terminatedStreaming).map (fun t ↦ (t.manager.apps.get? "a", t.tails[0]?)) =
        some (none, some ⟨"a", getLogPath AppManager.sampleInstallation.dirname "app.js", true⟩) := by
    decide +kernel
  obtain ⟨t, ht, hfacts⟩ := Option.map_eq_some_iff.mp hfacts
  obtain ⟨hgone, htail⟩ := Prod.mk.inj hfacts
  have hwatches : t.Watches 0 "a" := ⟨_, htail, rfl, rfl⟩
  refine ⟨t, ht, hwatches, hgone, fun hconsistent ↦ ?_⟩
  obtain ⟨app, happ⟩ := (JsObject.hasOwn_iff _ _).mp (hconsistent.listed 0 "a" hwatches)
  rw [hgone] at happ
  cases happ

end LogStreamer
end NexusEdge.Apps
