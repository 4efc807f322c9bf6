import NexusEdge.Apps.LogStreaming
import NexusEdge.Messaging.MessagingService

/-!
# Responses to queries about an application

Library `Apps`. The four listeners of `app-manager.js:163–323` on queries that carry the id of an
application, and what they pass to `respondToQuery`. Each of them answers at once, on every path
but one: streaming is to be started for an application whose log has been removed. Logs are
removed by terminations, and applications of one name share their log.
-/

namespace NexusEdge.Apps
open NexusEdge.Base NexusEdge.Platform NexusEdge.Dao

/-- `"params"` of a query about an application. -/
structure AppParams where
  id : Option String
  deriving DecidableEq

/-- What such a query is answered with. -/
structure AppResponse where
  status : Bool
  error : Option String
  appLogTopic : Option String
  deriving DecidableEq

/-- The event a listener is registered for. -/
inductive AppListener where
  | terminateApp
  | getLogStreamingTopic
  | startLogStreaming
  | stopLogStreaming
  deriving DecidableEq

/-- A query about an application. -/
abbrev AppQuery := Messaging.Query AppParams

/-- A response on its way to the platform manager. -/
abbrev AppForward := Messaging.Forward AppParams AppResponse

/-- `getAppLogTopic`, `app-manager.js:75–77`. -/
def getAppLogTopic (appId : String) : String := appId ++ "-log"

/-- The response with this error, or with `status: true`. -/
def AppResponse.ofError (error : Option String) : AppResponse := ⟨error.isNone, error, none⟩

/-- The error of a response recorded by the app manager. -/
def Response.error : Response → Option String
  | .executeApp _ error => error
  | .terminateApp _ error => error

/-- The error of a response about streaming. -/
def StreamingResponse.error : StreamingResponse → Option String
  | .startLogStreaming _ error => error
  | .stopLogStreaming _ error => error

/-- The app manager with the queries that carried an id and what it has sent. -/
structure QueryListeners where
  streamer : LogStreamer
  received : List AppQuery
  sent : List AppForward

/-- What the app manager reacts to: a query, or anything else. -/
inductive QueryEvent where
  | query (listener : AppListener) (query : AppQuery)
  | other (e : LogEvent)

/-- The event is a query about an application. -/
def LogEvent.isQuery : LogEvent → Bool
  | .app (.terminateApp _) | .startLogStreaming _ | .stopLogStreaming _ => true
  | _ => false

/-- The `get-log-streaming-topic` listener, `app-manager.js:213–233`. -/
def LogStreamer.getLogStreamingTopic (s : LogStreamer) (appId : String) : AppResponse :=
  if s.manager.apps.hasOwn appId then ⟨true, none, some (getAppLogTopic appId)⟩
  else AppResponse.ofError (some (notRunning appId))

/-- What a listener does, and the responses it sends. -/
def LogStreamer.listen (s : LogStreamer) (appId : String) :
    AppListener → LogStreamer × List AppResponse
  | .terminateApp =>
    let manager := s.manager.terminateApp appId
    ({ s with manager := manager },
      (manager.responses.drop s.manager.responses.length).map fun r ↦ .ofError r.error)
  | .getLogStreamingTopic => (s, [s.getLogStreamingTopic appId])
  | .startLogStreaming =>
    let t := s.startLogStreaming appId
    (t, (t.responses.drop s.responses.length).map fun r ↦ .ofError r.error)
  | .stopLogStreaming =>
    let t := s.stopLogStreaming appId
    (t, (t.responses.drop s.responses.length).map fun r ↦ .ofError r.error)

namespace QueryListeners

/-- The loaded module. -/
def initial (files : FileSystem) (databases : JsObject (JsObject Dao.App)) : QueryListeners :=
  ⟨LogStreamer.initial files databases, [], []⟩

/-- A listener called with a query; without an id it does nothing. -/
def listen (s : QueryListeners) (listener : AppListener) (query : AppQuery) : QueryListeners :=
  match query.params.id with
  | some appId =>
    let answer := s.streamer.listen appId listener
    ⟨answer.1, s.received ++ [query], s.sent ++ answer.2.map (Messaging.System.responseTo query)⟩
  | none => s

/-- One event; none when the event cannot happen. -/
def step (env : Installation) (s : QueryListeners) : QueryEvent → Option QueryListeners
  | .query listener query => some (s.listen listener query)
  | .other e =>
    if e.isQuery then none
    else (s.streamer.step env e).map fun streamer ↦ { s with streamer := streamer }

/-- The addressee of a message, the event and the call it answers. -/
def address (forward : AppForward) : Messaging.Metadata × Option Nat :=
  (forward.metadata, forward.payload.call?)

/-- Where the response to a query has to go. -/
def expected (query : AppQuery) : Messaging.Metadata × Option Nat :=
  (⟨query.metadata.recipient, query.metadata.sender,
    Messaging.responseEvent query.metadata.event⟩, some query.call)

/-- The messages sent are the responses to the queries received, one for each, in order. -/
def Answered (s : QueryListeners) : Prop :=
  s.sent.map address = s.received.map expected

/-- An application whose streaming is to be started, and is not started yet, has its log. -/
def LogExists (s : QueryListeners) : QueryEvent → Prop
  | .query .startLogStreaming query => ∀ appId app, query.params.id = some appId →
      s.streamer.manager.apps.get? appId = some app → s.streamer.logTails app.process = none →
      (s.streamer.manager.machine.files app.logPath).isSome
  | _ => True

/-! ### How often a listener answers -/

variable {s t : LogStreamer}

/-- A termination is answered once. -/
theorem responses_terminateApp (m : AppManager) (appId : String) :
    ∃ r, (m.terminateApp appId).responses = m.responses ++ [r] := by
  unfold AppManager.terminateApp
  split
  · exact ⟨_, rfl⟩
  · exact ⟨_, rfl⟩

/-- So is the end of streaming. -/
theorem responses_stopLogStreaming (s : LogStreamer) (appId : String) :
    ∃ r, (s.stopLogStreaming appId).responses = s.responses ++ [r] := by
  unfold LogStreamer.stopLogStreaming
  split
  · split
    · exact ⟨_, rfl⟩
    · exact ⟨_, rfl⟩
  · exact ⟨_, rfl⟩

/-- The start of streaming is answered once, or not at all when there is no log. -/
theorem responses_startLogStreaming (s : LogStreamer) (appId : String) :
    ((∃ app, s.manager.apps.get? appId = some app ∧ s.logTails app.process = none ∧
        s.manager.machine.files app.logPath = none) ∧
      (s.startLogStreaming appId).responses = s.responses) ∨
    ((∀ app, s.manager.apps.get? appId = some app → s.logTails app.process = none →
        (s.manager.machine.files app.logPath).isSome) ∧
      ∃ r, (s.startLogStreaming appId).responses = s.responses ++ [r]) := by
  unfold LogStreamer.startLogStreaming
  cases happ : s.manager.apps.get? appId with
  | none => exact Or.inr ⟨fun _ h ↦ absurd h nofun, _, rfl⟩
  | some app =>
    simp only
    split
    · next htail =>
      refine Or.inr ⟨fun app' happ' hnone ↦ ?_, _, rfl⟩
      obtain rfl := Option.some.inj happ'
      rw [hnone] at htail
      cases htail
    · next htail =>
      split
      · next hlog =>
        refine Or.inr ⟨fun app' happ' _ ↦ ?_, _, rfl⟩
        obtain rfl := Option.some.inj happ'
        exact hlog
      · next hlog =>
        refine Or.inl ⟨⟨app, rfl, ?_, ?_⟩, rfl⟩
        · exact Option.not_isSome_iff_eq_none.mp htail
        · exact Option.not_isSome_iff_eq_none.mp hlog

/-- What comes after the responses sent so far. -/
private theorem length_drop_concat {α : Type} {l l' : List α} (h : ∃ r, l' = l ++ [r]) :
    (l'.drop l.length).length = 1 := by
  obtain ⟨r, rfl⟩ := h
  rw [List.drop_left, List.length_singleton]

/-- A listener sends exactly one response to a query with an id, unless streaming is to be started
for an application without a log. -/
theorem length_listen (s : LogStreamer) (appId : String) (listener : AppListener) :
    (s.listen appId listener).2.length = 1 ↔ (listener = .startLogStreaming → ∀ app,
      s.manager.apps.get? appId = some app → s.logTails app.process = none →
      (s.manager.machine.files app.logPath).isSome) := by
  cases listener with
  | terminateApp =>
    have hone := length_drop_concat (responses_terminateApp s.manager appId)
    refine iff_of_true ?_ nofun
    rw [LogStreamer.listen, List.length_map, hone]
  | getLogStreamingTopic => exact iff_of_true rfl nofun
  | startLogStreaming =>
    simp only [LogStreamer.listen, List.length_map, forall_const]
    rcases responses_startLogStreaming s appId with
      ⟨⟨app, happ, htail, hlog⟩, hresponses⟩ | ⟨hlog, hresponses⟩
    · refine iff_of_false ?_ fun h ↦ ?_
      · rw [hresponses, List.drop_length]
        exact Nat.zero_ne_one
      · have hsome := h app happ htail
        rw [hlog] at hsome
        cases hsome
    · exact iff_of_true (length_drop_concat hresponses) hlog
  | stopLogStreaming =>
    have hone := length_drop_concat (responses_stopLogStreaming s appId)
    refine iff_of_true ?_ nofun
    rw [LogStreamer.listen, List.length_map, hone]

/-! ### Runs -/

/-- Responses to a query go where they have to go. -/
theorem map_address_responseTo (query : AppQuery) (responses : List AppResponse) :
    (responses.map (Messaging.System.responseTo query)).map address =
      List.replicate responses.length (expected query) := by
  rw [List.map_map, List.eq_replicate_iff]
  refine ⟨List.length_map _, fun a ha ↦ ?_⟩
  obtain ⟨r, _, rfl⟩ := List.mem_map.mp ha
  rfl

/-- A step keeps the queries answered exactly if it finds the log it needs. -/
theorem answered_step_iff {env : Installation} {s t : QueryListeners} {e : QueryEvent}
    (hs : s.Answered) (ht : s.step env e = some t) : t.Answered ↔ s.LogExists e := by
  cases e with
  | query listener query =>
    obtain rfl := Option.some.inj ht
    cases hid : query.params.id with
    | none =>
      have hlisten : s.listen listener query = s := by
        unfold listen
        rw [hid]
      rw [hlisten]
      refine iff_of_true hs ?_
      cases listener with
      | startLogStreaming =>
        intro appId app happId
        rw [hid] at happId
        cases happId
      | terminateApp => trivial
      | getLogStreamingTopic => trivial
      | stopLogStreaming => trivial
    | some appId =>
      have hone := length_listen s.streamer appId listener
      have hanswered : (s.listen listener query).Answered ↔
          (s.streamer.listen appId listener).2.length = 1 := by
        unfold Answered listen
        rw [hid]
        simp only [List.map_append, map_address_responseTo, List.map_cons, List.map_nil]
        rw [show s.sent.map address = s.received.map expected from hs, List.append_cancel_left_eq]
        constructor
        · intro h
          simpa using congrArg List.length h
        · intro h
          rw [h]
          rfl
      rw [hanswered, hone]
      cases listener with
      | startLogStreaming =>
        constructor
        · intro h id app hid' happ
          obtain rfl := Option.some.inj (hid.symm.trans hid')
          exact h rfl app happ
        · exact fun h _ app happ ↦ h appId app hid happ
      | terminateApp => exact iff_of_true nofun trivial
      | getLogStreamingTopic => exact iff_of_true nofun trivial
      | stopLogStreaming => exact iff_of_true nofun trivial
  | other e =>
    simp only [step] at ht
    split at ht
    · cases ht
    · obtain ⟨streamer, _, rfl⟩ := Option.map_eq_some_iff.mp ht
      exact iff_of_true hs trivial

/-- In a run of queries, executions, restarts, removals and everything else the app manager reacts
to, every query with an id is sent exactly one response, exactly if the log of an application is
there whenever the streaming of it is to be started. -/
theorem answered_run (env : Installation) (files : FileSystem)
    (databases : JsObject (JsObject Dao.App)) (es : List QueryEvent) :
    Always (step env) Answered (initial files databases) es ↔
      EachStep (step env) LogExists (initial files databases) es :=
  always_iff_eachStep (step env) (I := fun _ ↦ True) (fun _ _ _ _ _ ↦ trivial)
    (fun _ _ _ _ hs ht ↦ answered_step_iff hs ht) es trivial rfl

/-- A query of the API server. -/
def apiQuery (event appId : String) (call : Nat) : AppQuery :=
  ⟨⟨some appId⟩, ⟨"api-server", "app-manager", event⟩, call⟩

/-- Two applications of one name run; the termination of the first one removes the log of both. -/
def logRemoved : List QueryEvent :=
  (AppManager.deploy "a" "app.js" 1 ++ AppManager.deploy "b" "app.js" 2).map
      (fun e ↦ .other (.app e)) ++
    [.query .terminateApp (apiQuery "terminate-app" "a" 0), .other (.app (.removed 0)),
      .query .startLogStreaming (apiQuery "start-log-streaming" "b" 1)]

/-- The query about the second application is not answered. -/
theorem startLogStreaming_unanswered :
    ¬ ∀ (env : Installation) (files : FileSystem) (databases : JsObject (JsObject Dao.App))
      (es : List QueryEvent), Always (step env) Answered (initial files databases) es := by
  intro h
  have hfacts : (run (step AppManager.sampleInstallation)
      (initial (fun _ ↦ none) JsObject.empty) logRemoved).map (fun t ↦
        (t.sent.length, t.received.length, t.streamer.manager.apps.hasOwn "b")) =
      some (1, 2, true) := by
    decide +kernel
  obtain ⟨t, ht, hfacts⟩ := Option.map_eq_some_iff.mp hfacts
  obtain ⟨hsent, hrest⟩ := Prod.mk.inj hfacts
  obtain ⟨hreceived, _⟩ := Prod.mk.inj hrest
  have hanswered := (h _ _ _ _).last (step AppManager.sampleInstallation) ht
  have hlength := congrArg List.length hanswered
  rw [List.length_map, List.length_map, hsent, hreceived] at hlength
  cases hlength

end QueryListeners
end NexusEdge.Apps
