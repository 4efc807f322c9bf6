import NexusEdge.Devices.Radio

/-!
# One connection at a time

Library `Devices`. The radio is idle, connecting, connected, or left after an attempt that failed;
every event is one transition between these. Peripherals are served in the order in which
connections were asked for, one at a time. The promise of a caller whose request had to wait is
settled by nothing, and a failed attempt is the last one.
-/

namespace NexusEdge.Devices
open NexusEdge.Base

/-- What the radio is doing. -/
inductive Link where
  | idle
  /-- The `connect` of a request is not answered; the waiter awaits its promise. -/
  | connecting (peripheral : String) (request : Nat) (waiter : Option Nat)
  | connected (peripheral : String)
  | failed (peripheral : String)

namespace Link

/-- `isConnectedToPeripheral`. -/
def busy : Link → Bool
  | .idle => false
  | _ => true

/-- The calls of `connect` not answered. -/
def connects : Link → List ConnectCall
  | .connecting peripheral _ waiter => [⟨peripheral, waiter⟩]
  | _ => []

/-- The requests of these calls. -/
def underWay : Link → List Nat
  | .connecting _ request _ => [request]
  | _ => []

/-- The peripherals connected. -/
def connected? : Link → List String
  | .connected peripheral => [peripheral]
  | _ => []

/-- The peripherals whose disconnection is listened for. -/
def listeners : Link → List String
  | .idle => []
  | .connecting peripheral _ _ | .connected peripheral | .failed peripheral => [peripheral]

/-- After the answer to a `connect`. -/
def answered (peripheral : String) (err : Option String) : Link :=
  if err.isNone then .connected peripheral else .failed peripheral

end Link

namespace Radio

/-- The radio is doing this, and nothing waits while it is idle. -/
structure HasLink (s : Radio) (link : Link) : Prop where
  busy : s.controller.isConnectedToPeripheral = link.busy
  connects : s.controller.connects = link.connects
  listeners : s.controller.disconnectListeners = link.listeners
  underWay : s.underWay = link.underWay
  connected : s.connected = link.connected?
  queue : link.busy = false → s.controller.connectionQueue = []

/-- The transitions of the radio. -/
inductive Takes (s : Radio) : Link → RadioEvent → Radio → Link → Prop where
  | start (peripheral : String) : Takes s .idle (.connectToPeripheralAsync peripheral)
      { s with
        controller := ⟨true, [], [⟨peripheral, some s.requests.length⟩], [peripheral]⟩
        scanning := false
        requests := s.requests ++ [⟨peripheral, false⟩]
        promises := s.promises ++ [none]
        started := s.started ++ [peripheral]
        underWay := [s.started.length] }
      (.connecting peripheral s.started.length (some s.requests.length))
  | wait (link : Link) (peripheral : String) (hbusy : link.busy = true) :
      Takes s link (.connectToPeripheralAsync peripheral)
      { s with
        controller := { s.controller with
          connectionQueue := s.controller.connectionQueue ++ [peripheral] }
        requests := s.requests ++ [⟨peripheral, true⟩]
        promises := s.promises ++ [none] }
      link
  | answer (peripheral : String) (request : Nat) (waiter : Option Nat) (err : Option String) :
      Takes s (.connecting peripheral request waiter) (.connected 0 err)
      { s with
        controller := { s.controller with connects := [] }
        connected := (Link.answered peripheral err).connected?
        underWay := []
        answers := s.answers ++ [(request, err)]
        promises := match waiter with
          | some n => s.promises.modify n (·.or (some err))
          | none => s.promises }
      (.answered peripheral err)
  | release (peripheral : String) (hqueue : s.controller.connectionQueue = []) :
      Takes s (.connected peripheral) (.disconnected peripheral)
      { s with
        controller := ⟨false, [], [], []⟩
        connected := []
        scanning := true }
      .idle
  | next (peripheral nextPeripheral : String) (connectionQueue : List String)
      (hqueue : s.controller.connectionQueue = nextPeripheral :: connectionQueue) :
      Takes s (.connected peripheral) (.disconnected peripheral)
      { s with
        controller := ⟨true, connectionQueue, [⟨nextPeripheral, none⟩], [nextPeripheral]⟩
        connected := []
        scanning := false
        started := s.started ++ [nextPeripheral]
        underWay := [s.started.length] }
      (.connecting nextPeripheral s.started.length none)
  | stateChange (link : Link) (state : AdapterState) :
      Takes s link (.stateChange state) (s.onStateChange state) link
  | write (link : Link) (data : WrittenData) : Takes s link (.write data) (s.write data) link

variable {s t : Radio} {link : Link} {e : RadioEvent}

/-- State changes of the radio concern the scan only. -/
theorem HasLink.onStateChange (hs : s.HasLink link) (state : AdapterState) :
    (s.onStateChange state).HasLink link := by
  obtain ⟨scanning, heq⟩ := s.onStateChange_eq state
  rw [heq]
  exact ⟨hs.busy, hs.connects, hs.listeners, hs.underWay, hs.connected, hs.queue⟩

/-- A request is served at once or has to wait. -/
theorem takes_request (hs : s.HasLink link) (peripheral : String) :
    ∃ link', s.Takes link (.connectToPeripheralAsync peripheral) (s.request peripheral) link' ∧
      (s.request peripheral).HasLink link' := by
  obtain ⟨⟨flag, queue, connects, listeners⟩, _⟩ := s
  obtain ⟨hbusy, hconnects, hlisteners, hunderWay, hconnected, hqueue⟩ := hs
  simp only at hbusy hconnects hlisteners hunderWay hconnected hqueue
  subst hbusy hconnects hlisteners hunderWay hconnected
  cases link with
  | idle =>
    obtain rfl := hqueue rfl
    exact ⟨_, .start peripheral, rfl, rfl, rfl, rfl, rfl, nofun⟩
  | connecting p n waiter => exact ⟨_, .wait _ peripheral rfl, rfl, rfl, rfl, rfl, rfl, nofun⟩
  | connected p => exact ⟨_, .wait _ peripheral rfl, rfl, rfl, rfl, rfl, rfl, nofun⟩
  | failed p => exact ⟨_, .wait _ peripheral rfl, rfl, rfl, rfl, rfl, rfl, nofun⟩

/-- Only an attempt under way is answered. -/
theorem takes_finishConnect (hs : s.HasLink link) {k : Nat} {call : ConnectCall}
    (hcall : s.controller.connects[k]? = some call) (err : Option String) :
    ∃ link', s.Takes link (.connected k err) (s.finishConnect k call err) link' ∧
      (s.finishConnect k call err).HasLink link' := by
  obtain ⟨⟨flag, queue, connects, listeners⟩, _⟩ := s
  obtain ⟨hbusy, hconnects, hlisteners, hunderWay, hconnected, _⟩ := hs
  simp only at hbusy hconnects hlisteners hunderWay hconnected hcall
  subst hbusy hconnects hlisteners hunderWay hconnected
  cases link with
  | connecting p n waiter =>
    obtain ⟨rfl, rfl⟩ : k = 0 ∧ call = ⟨p, waiter⟩ := by
      cases k with
      | zero => exact ⟨rfl, (Option.some.inj hcall).symm⟩
      | succ k => cases hcall
    cases err with
    | none => exact ⟨_, .answer p n waiter none, rfl, rfl, rfl, rfl, rfl, nofun⟩
    | some err => exact ⟨_, .answer p n waiter (some err), rfl, rfl, rfl, rfl, rfl, nofun⟩
  | idle => cases hcall
  | connected p => cases hcall
  | failed p => cases hcall

/-- After a disconnection the next peripheral is served, or noble scans again. -/
theorem takes_disconnected (hs : s.HasLink link) {peripheral : String}
    (hmem : peripheral ∈ s.connected) :
    ∃ link', s.Takes link (.disconnected peripheral) (s.disconnected peripheral) link' ∧
      (s.disconnected peripheral).HasLink link' := by
  obtain ⟨⟨flag, queue, connects, listeners⟩, _⟩ := s
  obtain ⟨hbusy, hconnects, hlisteners, hunderWay, hconnected, _⟩ := hs
  simp only at hbusy hconnects hlisteners hunderWay hconnected hmem
  subst hbusy hconnects hlisteners hunderWay hconnected
  cases link with
  | connected p =>
    obtain rfl := List.mem_singleton.mp hmem
    have hone : [peripheral].count peripheral = 1 := List.count_singleton_self
    have hfilter : [peripheral].filter (fun p ↦ decide (p ≠ peripheral)) = [] := by simp
    have herase : [peripheral].erase peripheral = [] := List.erase_cons_head ..
    unfold disconnected
    simp only [Link.listeners, Link.connected?, hone, hfilter, herase, Function.iterate_one]
    cases queue with
    | nil => exact ⟨_, .release peripheral rfl, rfl, rfl, rfl, rfl, rfl, fun _ ↦ rfl⟩
    | cons q queue => exact ⟨_, .next peripheral q queue rfl, rfl, rfl, rfl, rfl, rfl, nofun⟩
  | idle => cases hmem
  | connecting p n waiter => cases hmem
  | failed p => cases hmem

/-- Every event is one of the transitions. -/
theorem takes_step (hs : s.HasLink link) (ht : s.step e = some t) :
    ∃ link', s.Takes link e t link' ∧ t.HasLink link' := by
  cases e with
  | connectToPeripheralAsync peripheral =>
    obtain rfl := Option.some.inj ht
    exact takes_request hs peripheral
  | connected k err =>
    obtain ⟨call, hcall, rfl⟩ := Option.map_eq_some_iff.mp ht
    exact takes_finishConnect hs hcall err
  | disconnected peripheral =>
    simp only [step] at ht
    split at ht
    · next hmem =>
      obtain rfl := Option.some.inj ht
      exact takes_disconnected hs hmem
    · cases ht
  | stateChange state =>
    obtain rfl := Option.some.inj ht
    exact ⟨link, .stateChange link state, hs.onStateChange state⟩
  | write data =>
    obtain rfl := Option.some.inj ht
    exact ⟨link, .write link data, hs.busy, hs.connects, hs.listeners, hs.underWay, hs.connected,
      hs.queue⟩

/-! ### Order of service -/

/-- The peripherals connected to are the first ones asked for, the queue holds the others in
order, and at most one is connecting or connected. -/
structure Served (s : Radio) : Prop where
  started : s.started <+: s.requests.map ConnectRequest.peripheral
  queue : s.controller.connectionQueue =
    (s.requests.map ConnectRequest.peripheral).drop s.started.length
  exclusive : (s.controller.connects.map ConnectCall.peripheral ++ s.connected).length ≤ 1

/-- The requests are those served and those that wait. -/
structure Wf (s : Radio) : Prop where
  link : ∃ link, s.HasLink link
  requests : s.requests.map ConnectRequest.peripheral = s.started ++ s.controller.connectionQueue

/-- The loaded module. -/
theorem hasLink_initial : initial.HasLink .idle := ⟨rfl, rfl, rfl, rfl, rfl, fun _ ↦ rfl⟩

/-- Nothing has been asked for. -/
theorem wf_initial : initial.Wf := ⟨⟨_, hasLink_initial⟩, rfl⟩

/-- Whatever the radio is doing, it is at most one link. -/
theorem Wf.served (hs : s.Wf) : s.Served := by
  obtain ⟨link, hlink⟩ := hs.link
  refine ⟨?_, ?_, ?_⟩
  · rw [hs.requests]
    exact List.prefix_append _ _
  · rw [hs.requests, List.drop_left]
  · rw [hlink.connects, hlink.connected]
    cases link with
    | idle => exact Nat.zero_le 1
    | connecting => exact le_refl 1
    | connected => exact le_refl 1
    | failed => exact Nat.zero_le 1

/-- A transition takes from the front of the queue or adds to its end. -/
theorem Takes.requests {link' : Link} (hs : s.HasLink link) (htakes : s.Takes link e t link')
    (h : s.requests.map ConnectRequest.peripheral = s.started ++ s.controller.connectionQueue) :
    t.requests.map ConnectRequest.peripheral = t.started ++ t.controller.connectionQueue := by
  cases htakes with
  | start peripheral =>
    rw [hs.queue rfl, List.append_nil] at h
    simp only [List.map_append, List.map_cons, List.map_nil, List.append_nil, h]
  | wait =>
    simp only [List.map_append, List.map_cons, List.map_nil, h, List.append_assoc]
  | answer => exact h
  | release peripheral hqueue =>
    rw [hqueue] at h
    exact h
  | next peripheral q queue hqueue =>
    rw [hqueue] at h
    simp only [List.append_assoc, List.singleton_append, h]
  | stateChange _ state =>
    obtain ⟨scanning, heq⟩ := s.onStateChange_eq state
    rw [heq]
    exact h
  | write => exact h

/-- Every event keeps the order. -/
theorem Wf.step (hs : s.Wf) (ht : s.step e = some t) : t.Wf := by
  obtain ⟨link, hlink⟩ := hs.link
  obtain ⟨link', htakes, hlink'⟩ := takes_step hlink ht
  exact ⟨⟨link', hlink'⟩, htakes.requests hlink hs.requests⟩

/-- In every run of requests, answers, disconnections and whatever starts and stops the scan, the
peripherals are served one at a time in the order of the requests. -/
theorem served_run (es : List RadioEvent) : Always Radio.step Served initial es :=
  (always_of_invariant Radio.step (fun _ _ _ hs ht ↦ hs.step ht) es wf_initial).imp Radio.step
    fun _ hs ↦ hs.served

/-- The peripheral of a call of `connectToPeripheralAsync`. -/
def requested? : RadioEvent → Option String
  | .connectToPeripheralAsync peripheral => some peripheral
  | _ => none

/-- A transition records the request it serves or lets wait. -/
theorem Takes.requested {link' : Link} (htakes : s.Takes link e t link') :
    t.requests.map ConnectRequest.peripheral =
      s.requests.map ConnectRequest.peripheral ++ (requested? e).toList := by
  cases htakes with
  | start peripheral =>
    simp only [List.map_append, List.map_cons, List.map_nil, requested?, Option.toList_some]
  | wait _ peripheral =>
    simp only [List.map_append, List.map_cons, List.map_nil, requested?, Option.toList_some]
  | answer => exact (List.append_nil _).symm
  | release => exact (List.append_nil _).symm
  | next => exact (List.append_nil _).symm
  | stateChange _ state =>
    obtain ⟨scanning, heq⟩ := s.onStateChange_eq state
    rw [heq]
    exact (List.append_nil _).symm
  | write => exact (List.append_nil _).symm

/-- The requests of a run are its calls of `connectToPeripheralAsync`, in their order. -/
theorem requests_run {es : List RadioEvent} (hs : run Radio.step initial es = some s) :
    s.requests.map ConnectRequest.peripheral = es.filterMap requested? := by
  refine (run_history Radio.step (P := fun before s ↦ s.Wf ∧
    s.requests.map ConnectRequest.peripheral = before.filterMap requested?) ?_ es []
    ⟨wf_initial, rfl⟩ hs).2
  rintro before s e t ⟨hwf, hbefore⟩ ht
  obtain ⟨link, hlink⟩ := hwf.link
  obtain ⟨link', htakes, _⟩ := takes_step hlink ht
  refine ⟨hwf.step ht, ?_⟩
  rw [htakes.requested, hbefore, List.filterMap_append, List.filterMap_cons, List.filterMap_nil]
  cases requested? e <;> rfl

/-- The peripheral that was asked for second is connected to when the first one has gone. -/
example : (run Radio.step initial
    [.connectToPeripheralAsync "light", .connectToPeripheralAsync "socket", .connected 0 none,
      .disconnected "light"]).map (fun s ↦
        (s.requests.map ConnectRequest.peripheral, s.started, s.controller.connectionQueue)) =
    some (["light", "socket"], ["light", "socket"], []) := by decide

/-! ### The promises of the callers -/

/-- Every attempt that is answered has settled the promise of its caller. -/
def Settles (s : Radio) : Prop :=
  ∀ n err, (n, err) ∈ s.answers → s.promises[n]? = some (some err)

/-- A request whose attempt is answered did not wait in the queue. -/
def Direct (s : Radio) : RadioEvent → Prop
  | .connected k _ => ∀ (n : Nat) (r : ConnectRequest), s.underWay[k]? = some n → s.requests[n]? = some r →
      r.queued = false
  | _ => True

/-- What the promises have to do with the requests. -/
structure Promised (s : Radio) : Prop where
  length : s.promises.length = s.requests.length
  /-- Requests that are not served wait. -/
  waiting : ∀ (n : Nat) (r : ConnectRequest), s.started.length ≤ n → s.requests[n]? = some r →
    r.queued = true
  /-- Promises of requests that had to wait are pending. -/
  pending : ∀ (n : Nat) (r : ConnectRequest), s.requests[n]? = some r → r.queued = true →
    s.promises[n]? = some none
  /-- The promise of the request under way is pending, and awaited if it did not have to wait. -/
  underWay : ∀ (call : ConnectCall) (n : Nat), call ∈ s.controller.connects → n ∈ s.underWay →
    ∃ r : ConnectRequest, s.requests[n]? = some r ∧ s.promises[n]? = some none ∧
      call.waiter = if r.queued then none else some n

/-- Nothing has been asked for. -/
theorem promised_initial : initial.Promised := by
  refine ⟨rfl, fun n r _ hr ↦ ?_, fun n r hr ↦ ?_, nofun⟩
  · cases hr
  · cases hr

/-- An entry of a list with one more at its end. -/
private theorem getElem?_concat_cases {α : Type} {l : List α} {a b : α} {n : Nat}
    (h : (l ++ [a])[n]? = some b) : l[n]? = some b ∨ n = l.length ∧ b = a := by
  rcases lt_or_ge n l.length with hlt | hge
  · rw [List.getElem?_append_left hlt] at h
    exact Or.inl h
  · rw [List.getElem?_append_right hge, List.getElem?_singleton] at h
    split at h
    · exact Or.inr ⟨by omega, (Option.some.inj h).symm⟩
    · cases h

/-- An entry stays when one more is added at the end. -/
private theorem getElem?_concat_of_some {α : Type} {l : List α} {b : α} {n : Nat}
    (h : l[n]? = some b) (a : α) : (l ++ [a])[n]? = some b := by
  rw [List.getElem?_append_left (List.getElem?_eq_some_iff.mp h).1, h]

/-- One more request comes with a pending promise. -/
private theorem Promised.pending_concat (hp : s.Promised) (request : ConnectRequest) {n : Nat}
    {r : ConnectRequest} (hr : (s.requests ++ [request])[n]? = some r) (hqueued : r.queued = true) :
    (s.promises ++ [none])[n]? = some none := by
  rcases getElem?_concat_cases hr with hr | ⟨rfl, _⟩
  · exact getElem?_concat_of_some (hp.pending n r hr hqueued) none
  · rw [← hp.length, List.getElem?_concat_length]

/-- Settling the promise of a request that did not wait leaves those that wait pending. -/
private theorem Promised.pending_modify (hp : s.Promised) {n : Nat} {r : ConnectRequest}
    (hr : s.requests[n]? = some r) (hdirect : r.queued = false)
    (settle : Option (Option String) → Option (Option String)) {m : Nat} {r' : ConnectRequest}
    (hr' : s.requests[m]? = some r') (hqueued : r'.queued = true) :
    (s.promises.modify n settle)[m]? = some none := by
  have hne : n ≠ m := by
    rintro rfl
    obtain rfl := Option.some.inj (hr.symm.trans hr')
    rw [hdirect] at hqueued
    cases hqueued
  rw [List.getElem?_modify, hp.pending m r' hr' hqueued, Option.map_eq_map, Option.map_some,
    if_neg hne]

/-- A transition keeps promises and requests together. -/
theorem Takes.promised {link' : Link} (hs : s.HasLink link) (hp : s.Promised)
    (hrequests : s.requests.map ConnectRequest.peripheral =
      s.started ++ s.controller.connectionQueue)
    (htakes : s.Takes link e t link') : t.Promised := by
  have ⟨hlength, hwaiting, hpending, hunderWay⟩ := hp
  have hcount : s.requests.length = s.started.length + s.controller.connectionQueue.length := by
    rw [← List.length_append, ← hrequests, List.length_map]
  cases htakes with
  | start peripheral =>
    rw [hs.queue rfl, List.length_nil, Nat.add_zero] at hcount
    refine ⟨?_, fun n r hle hr ↦ ?_, fun n r hr hqueued ↦ ?_, ?_⟩
    · simp only [List.length_append, List.length_singleton, hlength]
    · rw [List.length_append, List.length_singleton] at hle
      rcases getElem?_concat_cases hr with hr | ⟨rfl, _⟩
      · exact hwaiting n r (by omega) hr
      · omega
    · exact hp.pending_concat _ hr hqueued
    · intro call n hcall hn
      obtain rfl := List.mem_singleton.mp hcall
      obtain rfl := List.mem_singleton.mp hn
      refine ⟨⟨peripheral, false⟩, ?_, ?_, ?_⟩
      · rw [← hcount, List.getElem?_concat_length]
      · rw [← hcount, ← hlength, List.getElem?_concat_length]
      · rw [hcount]
        rfl
  | wait _ peripheral =>
    refine ⟨?_, fun n r hle hr ↦ ?_, fun n r hr hqueued ↦ ?_, fun call n hcall hn ↦ ?_⟩
    · simp only [List.length_append, List.length_singleton, hlength]
    · rcases getElem?_concat_cases hr with hr | ⟨_, rfl⟩
      · exact hwaiting n r hle hr
      · rfl
    · exact hp.pending_concat _ hr hqueued
    · obtain ⟨r, hr, hpromise, hwaiter⟩ := hunderWay call n hcall hn
      exact ⟨r, getElem?_concat_of_some hr _, getElem?_concat_of_some hpromise _, hwaiter⟩
  | answer peripheral n waiter err =>
    obtain ⟨r, hr, hpromise, hwaiter⟩ := hunderWay ⟨peripheral, waiter⟩ n
      (by rw [hs.connects]; exact List.mem_singleton_self _)
      (by rw [hs.underWay]; exact List.mem_singleton_self _)
    simp only at hwaiter
    subst hwaiter
    refine ⟨?_, hwaiting, fun m r' hr' hqueued ↦ ?_, nofun⟩
    · split
      · exact (List.length_modify ..).trans hlength
      · exact hlength
    · split
      · next k hk =>
        split at hk
        · cases hk
        · next hdirect =>
          obtain rfl := Option.some.inj hk
          exact hp.pending_modify hr (eq_false_of_ne_true hdirect) _ hr' hqueued
      · exact hpending m r' hr' hqueued
  | release => exact ⟨hlength, hwaiting, hpending, nofun⟩
  | next peripheral q queue hqueue =>
    refine ⟨hlength, fun n r hle hr ↦ ?_, hpending, ?_⟩
    · rw [List.length_append] at hle
      exact hwaiting n r (by omega) hr
    · intro call n hcall hn
      obtain rfl := List.mem_singleton.mp hcall
      obtain rfl := List.mem_singleton.mp hn
      have hlt : s.started.length < s.requests.length := by
        rw [hcount, hqueue, List.length_cons]
        omega
      have hr := List.getElem?_eq_getElem hlt
      have hqueued := hwaiting _ _ (le_refl _) hr
      refine ⟨_, hr, hpending _ _ hr hqueued, ?_⟩
      rw [if_pos hqueued]
  | stateChange _ state =>
    obtain ⟨scanning, heq⟩ := s.onStateChange_eq state
    rw [heq]
    exact ⟨hlength, hwaiting, hpending, hunderWay⟩
  | write => exact ⟨hlength, hwaiting, hpending, hunderWay⟩

/-- Promises that are only added to stay settled. -/
theorem Settles.concat (hs : s.Settles) (hanswers : t.answers = s.answers)
    (hpromises : t.promises = s.promises ++ [none]) : t.Settles := by
  intro n err hmem
  rw [hanswers] at hmem
  rw [hpromises]
  exact getElem?_concat_of_some (hs n err hmem) none

/-- The answer to the request under way, if it did not wait, settles its promise and no other. -/
private theorem Settles.answer (hs : s.Settles) {n : Nat} (hpromise : s.promises[n]? = some none)
    (err : Option String) {m : Nat} {err' : Option String}
    (hmem : (m, err') ∈ s.answers ++ [(n, err)]) :
    (s.promises.modify n (·.or (some err)))[m]? = some (some err') := by
  rw [List.getElem?_modify]
  rcases List.mem_append.mp hmem with hmem | hmem
  · have hold := hs m err' hmem
    have hne : n ≠ m := by
      rintro rfl
      rw [hpromise] at hold
      cases hold
    rw [hold, Option.map_eq_map, Option.map_some, if_neg hne]
  · obtain ⟨rfl, rfl⟩ := Prod.mk.inj (List.mem_singleton.mp hmem)
    rw [hpromise, Option.map_eq_map, Option.map_some, if_pos rfl, Option.none_or]

/-- An answer settles the promise of its caller exactly if the request did not wait. -/
theorem settles_step_iff (hwf : s.Wf) (hp : s.Promised) (hs : s.Settles)
    (ht : s.step e = some t) : t.Settles ↔ s.Direct e := by
  obtain ⟨link, hlink⟩ := hwf.link
  obtain ⟨link', htakes, _⟩ := takes_step hlink ht
  cases htakes with
  | start => exact iff_of_true (hs.concat rfl rfl) trivial
  | wait => exact iff_of_true (hs.concat rfl rfl) trivial
  | answer peripheral n waiter err =>
    obtain ⟨r, hr, hpromise, hwaiter⟩ := hp.underWay ⟨peripheral, waiter⟩ n
      (by rw [hlink.connects]; exact List.mem_singleton_self _)
      (by rw [hlink.underWay]; exact List.mem_singleton_self _)
    simp only at hwaiter
    subst hwaiter
    have hdirect : s.Direct (.connected 0 err) ↔ r.queued = false := by
      constructor
      · intro h
        exact h n r (by rw [hlink.underWay]; rfl) hr
      · intro h n' r' hn' hr'
        rw [hlink.underWay] at hn'
        obtain rfl := Option.some.inj hn'
        obtain rfl := Option.some.inj (hr.symm.trans hr')
        exact h
    rw [hdirect]
    constructor
    · intro h
      by_contra hqueued
      rw [Bool.not_eq_false] at hqueued
      have hsettled := h n err (List.mem_append_right _ (List.mem_singleton_self _))
      simp only [hqueued, if_true] at hsettled
      rw [hpromise] at hsettled
      cases hsettled
    · intro hqueued m err' hmem
      simp only [hqueued, Bool.false_eq_true, if_false]
      exact hs.answer hpromise err hmem
  | release => exact iff_of_true hs trivial
  | next => exact iff_of_true hs trivial
  | stateChange _ state =>
    obtain ⟨scanning, heq⟩ := s.onStateChange_eq state
    rw [heq]
    exact iff_of_true hs trivial
  | write => exact iff_of_true hs trivial

/-- In a run every attempt answered settles the promise of its caller exactly if no request that
had to wait is answered. -/
theorem settles_run (es : List RadioEvent) :
    Always Radio.step Settles initial es ↔ EachStep Radio.step Direct initial es := by
  apply always_iff_eachStep Radio.step (I := fun s ↦ s.Wf ∧ s.Promised) _
    (fun _ _ _ hI hs ht ↦ settles_step_iff hI.1 hI.2 hs ht) es ⟨wf_initial, promised_initial⟩ nofun
  rintro s e t ⟨hwf, hp⟩ ht
  obtain ⟨link, hlink⟩ := hwf.link
  obtain ⟨link', htakes, hlink'⟩ := takes_step hlink ht
  exact ⟨hwf.step ht, htakes.promised hlink hp hwf.requests⟩

/-- Two callers; the peripheral of the second one is connected after the first one disconnects. -/
def secondCaller : List RadioEvent :=
  [.connectToPeripheralAsync "light", .connectToPeripheralAsync "socket", .connected 0 none,
    .disconnected "light", .connected 0 none]

/-- The socket is connected, and its caller waits on. -/
theorem secondCaller_waits : ¬ ∀ es, Always Radio.step Settles initial es := by
  intro h
  have hfacts : (run Radio.step initial secondCaller).map
      (fun t ↦ (t.connected, t.answers, t.promises)) =
        some (["socket"], [(0, none), (1, none)], [some none, none]) := by
    decide
  obtain ⟨t, ht, hfacts⟩ := Option.map_eq_some_iff.mp hfacts
  obtain ⟨_, hrest⟩ := Prod.mk.inj hfacts
  obtain ⟨hanswers, hpromises⟩ := Prod.mk.inj hrest
  have hsettled := (h secondCaller).last Radio.step ht 1 none (by simp only [hanswers]; decide)
  rw [hpromises] at hsettled
  cases hsettled

/-! ### Attempts that fail -/

/-- The radio is free for the next connection: the flag is set only for an attempt under way,
noble scans when nothing waits, and whatever waits is being served. -/
structure Released (s : Radio) : Prop where
  flag : s.controller.isConnectedToPeripheral = true → s.controller.connects ≠ []
  scanning : s.controller.connectionQueue = [] → s.controller.connects = [] → s.scanning = true
  served : s.controller.connectionQueue ≠ [] → s.controller.connects ≠ []

/-- After an attempt that failed the flag stays set and nothing is under way. -/
theorem HasLink.not_released {peripheral : String} (hs : s.HasLink (.failed peripheral)) :
    ¬ s.Released :=
  fun h ↦ h.flag hs.busy hs.connects

/-- Nothing leads out of this. -/
theorem Takes.failed {peripheral : String} {link' : Link}
    (htakes : s.Takes (.failed peripheral) e t link') :
    link' = .failed peripheral ∧ t.started = s.started := by
  cases htakes with
  | wait => exact ⟨rfl, rfl⟩
  | stateChange _ state =>
    obtain ⟨scanning, heq⟩ := s.onStateChange_eq state
    rw [heq]
    exact ⟨rfl, rfl⟩
  | write => exact ⟨rfl, rfl⟩

/-- An attempt that fails in a run does not release the radio, then or later: from there on no
`connect` is called any more, whatever waits and whatever is asked for. -/
theorem not_released_after_error (es : List RadioEvent)
    (hs : run Radio.step initial es = some s) {k : Nat} {err : String}
    (ht : s.step (.connected k (some err)) = some t) (later : List RadioEvent) {u : Radio}
    (hu : run Radio.step t later = some u) : ¬ u.Released ∧ u.started = s.started := by
  have hwf : s.Wf := run_invariant Radio.step (fun _ _ _ hs ht ↦ Wf.step hs ht) es wf_initial hs
  obtain ⟨link, hlink⟩ := hwf.link
  obtain ⟨link', htakes, hlink'⟩ := takes_step hlink ht
  cases htakes with
  | answer peripheral n waiter =>
    have hfailed := run_invariant Radio.step
      (P := fun u ↦ u.HasLink (.failed peripheral) ∧ u.started = s.started)
      (fun u e v ⟨hlink, hstarted⟩ hv ↦ by
        obtain ⟨link', htakes, hlink'⟩ := takes_step hlink hv
        obtain ⟨rfl, heq⟩ := htakes.failed
        exact ⟨hlink', heq.trans hstarted⟩) later ⟨hlink', rfl⟩ hu
    exact ⟨hfailed.1.not_released, hfailed.2⟩

/-- A connection is asked for and fails while another one waits; noble does not scan, and the
other one is not served when the scan is started anew. -/
theorem released_never :
    ∃ s t u, run Radio.step initial
        [.connectToPeripheralAsync "light", .connectToPeripheralAsync "socket"] = some s ∧
      s.step (.connected 0 (some "timeout")) = some t ∧
      run Radio.step t [.stateChange .poweredOn] = some u ∧
      t.scanning = false ∧ u.controller.connectionQueue = ["socket"] ∧
      ¬ u.Released ∧ u.started = s.started :=
  ⟨_, _, _, rfl, rfl, rfl, rfl, rfl, not_released_after_error
    [.connectToPeripheralAsync "light", .connectToPeripheralAsync "socket"] rfl
    (show Radio.step _ (.connected 0 (some "timeout")) = _ from rfl) [.stateChange .poweredOn] rfl⟩

/-- After an error the radio is not released. -/
theorem error_not_released : ¬ ∀ (es : List RadioEvent) (s t : Radio) (k : Nat) (err : String),
    run Radio.step initial es = some s → s.step (.connected k (some err)) = some t →
    t.Released := by
  intro h
  have hreleased := h [.connectToPeripheralAsync "light"] _ _ 0 "timeout" rfl rfl
  exact hreleased.flag rfl rfl

end Radio
end NexusEdge.Devices
