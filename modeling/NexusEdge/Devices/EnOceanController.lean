import Mathlib.Data.List.Nodup
import NexusEdge.Base.Loop
import NexusEdge.Base.Promise
import NexusEdge.Base.Transition

/-!
# Initialisation of the EnOcean controller

Library `Devices`. `enocean-controller.js:9–88`: `initialize` with the promises of its callers, the
listing of the serial ports, and the listeners that are set up once for every EnOcean port. The
callers that wait, and the flag that lets them wait, are only reset for such a port. Callbacks of
subscribers may throw, which ends the event.
-/

namespace NexusEdge.Devices
open NexusEdge.Base

universe u

/-- A port of `serialPort.list`, and what `enocean.listen` throws for it. -/
structure SerialPort where
  path : String
  pnpId : Option String
  listenError : Option String
  deriving DecidableEq

/-- `port.pnpId && port.pnpId.indexOf('EnOcean') !== -1`. -/
def SerialPort.isEnOcean (port : SerialPort) : Bool :=
  port.pnpId.any fun pnpId ↦ "EnOcean".toList <:+: pnpId.toList

/-- A packet, the subscribers when it came, and the calls of their callbacks. -/
structure PacketDelivery where
  subscribers : List Nat
  called : List Nat
  deriving DecidableEq

/-- The controller. Callers of `initialize` and subscribers are numbered in the order in which they
come. -/
structure EnOceanController where
  initialized : Bool
  initializing : Bool
  initializeQueue : List Nat
  promises : List (PromiseState String Unit)
  /-- Callers for which the ports are being listed. -/
  listing : List Nat
  subscribers : List Nat
  /-- The ports that are listened to. The listeners of `enocean` are set up once for each. -/
  listening : List String
  learningStarts : Nat
  deliveries : List PacketDelivery
  deriving DecidableEq

/-- What the controller reacts to. The listener of `learned` only prints. -/
inductive EnOceanEvent (Data : Type u) where
  | initializeCalled
  | listed (result : Except String (List SerialPort))
  | subscribe (isFunction : Bool)
  | ready
  | learnModeStop
  | knownData (data : Data)

namespace EnOceanController

/-- The constructor and the variables of the module, lines 6–16. -/
def initial : EnOceanController := ⟨false, false, [], [], [], [], [], 0, []⟩

/-- `initialize`, lines 29–43. -/
def initializeController (c : EnOceanController) : EnOceanController :=
  let caller := c.promises.length
  let c : EnOceanController := { c with promises := c.promises ++ [.pending] }
  if c.initialized then
    { c with promises := PromiseState.resolveAt () c.promises caller }
  else if c.initializing then
    { c with initializeQueue := c.initializeQueue ++ [caller] }
  else { c with initializing := true, listing := c.listing ++ [caller] }

/-- A port that is listened to: lines 48–56, and `_setupEnOceanEvents`. -/
def listenTo (caller : Nat) (c : EnOceanController) (port : SerialPort) : EnOceanController :=
  let promises := PromiseState.resolveAt () c.promises caller
  { c with
    initializing := false
    initialized := true
    promises := c.initializeQueue.foldl (PromiseState.resolveAt ()) promises
    listening := c.listening ++ [port.path] }

/-- The body of the loop, lines 45–58. -/
def usePort (caller : Nat) (port : SerialPort) (c : EnOceanController) :
    Outcome String EnOceanController :=
  if port.isEnOcean then
    match port.listenError with
    | some err => .throw c err
    | none => .done (c.listenTo caller port)
  else .done c

/-- What is chained to the listing, lines 43–60. -/
def onListed (caller : Nat) (result : Except String (List SerialPort)) (c : EnOceanController) :
    EnOceanController :=
  match result with
  | .error err => { c with promises := PromiseState.rejectAt err c.promises caller }
  | .ok ports =>
    let outcome := Outcome.forEach (usePort caller) ports c
    match outcome.error with
    | none => outcome.state
    | some err =>
      { outcome.state with promises := PromiseState.rejectAt err outcome.state.promises caller }

/-- `subscribe`, lines 66–70. -/
def subscribe (c : EnOceanController) (isFunction : Bool) : EnOceanController :=
  if isFunction then { c with subscribers := c.subscribers ++ [c.subscribers.length] } else c

variable {Data : Type u} (throws : Nat → Data → Bool)

/-- `callbackFn(data)`. -/
def callback (data : Data) (subscriber : Nat) (called : List Nat) : Outcome Unit (List Nat) :=
  if throws subscriber data then .throw (called ++ [subscriber]) ()
  else .done (called ++ [subscriber])

/-- The listener of `known-data`, lines 82–84. -/
def onKnownData (subscribers : List Nat) (data : Data) (called : List Nat) :
    Outcome Unit (List Nat) :=
  Outcome.forEach (callback throws data) subscribers called

/-- A packet is emitted: every listener is called. -/
def emitKnownData (c : EnOceanController) (data : Data) : EnOceanController :=
  let outcome := Outcome.forEach (fun _ ↦ onKnownData throws c.subscribers data) c.listening []
  { c with deliveries := c.deliveries ++ [⟨c.subscribers, outcome.state⟩] }

/-- One event. Packets come from ports that are listened to. -/
def step (c : EnOceanController) : EnOceanEvent Data → Option EnOceanController
  | .initializeCalled => some c.initializeController
  | .listed result =>
    match c.listing with
    | [] => none
    | caller :: listing => some ({ c with listing := listing }.onListed caller result)
  | .subscribe isFunction => some (c.subscribe isFunction)
  | .ready => some { c with learningStarts := c.learningStarts + c.listening.length }
  | .learnModeStop => some { c with learningStarts := c.learningStarts + c.listening.length }
  | .knownData data => if c.listening = [] then none else some (c.emitKnownData throws data)

/-! ### What is expected -/

/-- Every caller's promise is resolved. -/
def Resolved (c : EnOceanController) : Prop := ∀ p ∈ c.promises, p = .fulfilled ()

/-- The next call lists the ports again. -/
def CanRetry (c : EnOceanController) : Prop := c.initializeController.listing ≠ []

/-- Once the ports are listed, either the controller is initialised and every caller served, or no
caller waits and the next one tries again. Packets are passed to each subscriber once. -/
structure Reliable (c : EnOceanController) : Prop where
  retry : c.listing = [] → c.initialized = false → c.CanRetry ∧ ∀ p ∈ c.promises, p ≠ .pending
  resolved : c.initialized = true → c.Resolved
  once : ∀ d ∈ c.deliveries, ∀ subscriber ∈ d.subscribers, d.called.count subscriber = 1

/-- The first EnOcean port of the listing can be listened to. -/
def FindsPort : Except String (List SerialPort) → Prop
  | .error _ => False
  | .ok ports => ∃ port, ports.find? SerialPort.isEnOcean = some port ∧ port.listenError = none

/-- Nobody subscribes, or the first callback that throws is the last, or none throws and one port is
listened to. -/
def PassesOnce (c : EnOceanController) (data : Data) : Prop :=
  c.subscribers = [] ∨
    match c.subscribers.find? (throws · data) with
    | some subscriber => c.subscribers.getLast? = some subscriber
    | none => c.listening.length = 1

/-- A listing finds a port, and a packet is passed once. -/
def Meets (c : EnOceanController) : EnOceanEvent Data → Prop
  | .listed result => FindsPort result
  | .knownData data => c.PassesOnce throws data
  | _ => True

variable {throws : Nat → Data → Bool} {c : EnOceanController}

/-! ### Packets -/

/-- Callbacks that throw nothing are all called. -/
theorem onKnownData_of_silent {subscribers : List Nat} {data : Data}
    (h : ∀ subscriber ∈ subscribers, throws subscriber data = false) (called : List Nat) :
    onKnownData throws subscribers data called = .done (called ++ subscribers) := by
  unfold onKnownData
  induction subscribers generalizing called with
  | nil => rw [List.append_nil, Outcome.forEach]
  | cons subscriber subscribers ih =>
    rw [List.forall_mem_cons] at h
    rw [Outcome.forEach, callback, if_neg (ne_true_of_eq_false h.1), Outcome.done_andThen, ih h.2,
      List.append_assoc, List.singleton_append]

/-- One that throws ends the loop. -/
theorem onKnownData_of_throws {before after : List Nat} {subscriber : Nat} {data : Data}
    (hbefore : ∀ s ∈ before, throws s data = false) (h : throws subscriber data = true)
    (called : List Nat) :
    onKnownData throws (before ++ subscriber :: after) data called =
      .throw (called ++ before ++ [subscriber]) () := by
  have hprefixed := onKnownData_of_silent hbefore called
  unfold onKnownData at hprefixed ⊢
  rw [Outcome.forEach_append, hprefixed, Outcome.done_andThen, Outcome.forEach, callback, if_pos h,
    Outcome.throw_andThen]

/-- Without exceptions every listener calls every subscriber. -/
theorem emitted_of_silent {subscribers : List Nat} {data : Data}
    (h : ∀ subscriber ∈ subscribers, throws subscriber data = false) (listening : List String)
    (called : List Nat) :
    (Outcome.forEach (fun _ ↦ onKnownData throws subscribers data) listening called).state =
      called ++ (List.replicate listening.length subscribers).flatten := by
  induction listening generalizing called with
  | nil => simp [Outcome.forEach]
  | cons path listening ih =>
    rw [Outcome.forEach, onKnownData_of_silent h, Outcome.done_andThen, ih, List.length_cons,
      List.replicate_succ, List.flatten_cons, List.append_assoc]

/-- An exception ends the event in the first listener. -/
theorem emitted_of_throws {before after : List Nat} {subscriber : Nat} {data : Data}
    (hbefore : ∀ s ∈ before, throws s data = false) (h : throws subscriber data = true)
    {listening : List String} (hlistening : listening ≠ []) :
    (Outcome.forEach (fun _ ↦ onKnownData throws (before ++ subscriber :: after) data) listening
      []).state = before ++ [subscriber] := by
  cases listening with
  | nil => exact absurd rfl hlistening
  | cons path listening =>
    rw [Outcome.forEach, onKnownData_of_throws hbefore h, Outcome.throw_andThen]
    rfl

/-- Without exceptions each is called once exactly if nobody subscribes, or one port is listened
to. -/
theorem once_of_silent_iff {subscribers : List Nat} (hnodup : subscribers.Nodup) {data : Data}
    (h : ∀ subscriber ∈ subscribers, throws subscriber data = false) (listening : List String) :
    (∀ subscriber ∈ subscribers, (Outcome.forEach
      (fun _ ↦ onKnownData throws subscribers data) listening []).state.count subscriber = 1) ↔
      subscribers = [] ∨ listening.length = 1 := by
  rw [emitted_of_silent h, List.nil_append]
  have hcount : ∀ subscriber ∈ subscribers,
      (List.replicate listening.length subscribers).flatten.count subscriber =
        listening.length := by
    intro subscriber hmem
    rw [List.count_flatten, List.map_replicate, List.sum_replicate_nat,
      List.count_eq_one_of_mem hnodup hmem, Nat.mul_one]
  constructor
  · intro hone
    cases hsubscribers : subscribers with
    | nil => exact .inl rfl
    | cons first rest =>
      have hfirst : first ∈ subscribers := hsubscribers ▸ List.mem_cons_self
      exact .inr ((hcount first hfirst).symm.trans (hone first hfirst))
  · rintro (rfl | hone)
    · exact nofun
    · exact fun subscriber hmem ↦ (hcount subscriber hmem).trans hone

/-- With an exception each is called once exactly if the first that throws is the last. -/
theorem once_of_throws_iff {before after : List Nat} {subscriber : Nat} {data : Data}
    (hnodup : (before ++ subscriber :: after).Nodup)
    (hbefore : ∀ s ∈ before, throws s data = false) (h : throws subscriber data = true)
    {listening : List String} (hlistening : listening ≠ []) :
    (∀ s ∈ before ++ subscriber :: after, (Outcome.forEach
      (fun _ ↦ onKnownData throws (before ++ subscriber :: after) data) listening
      []).state.count s = 1) ↔ (before ++ subscriber :: after).getLast? = some subscriber := by
  rw [emitted_of_throws hbefore h hlistening]
  cases after with
  | nil =>
    apply iff_of_true
    · exact fun s hmem ↦ List.count_eq_one_of_mem hnodup hmem
    · exact List.getLast?_concat ..
  | cons next after =>
    have hparts := List.nodup_append.mp hnodup
    have hrest := List.nodup_cons.mp hparts.2.1
    apply iff_of_false
    · intro hone
      -- `next` comes after the exception and is never called
      have hnext : next ∉ before ++ [subscriber] := by
        rw [List.mem_append, List.mem_singleton, not_or]
        refine ⟨fun hmem ↦ hparts.2.2 next hmem next (by simp) rfl, ?_⟩
        rintro rfl
        exact hrest.1 List.mem_cons_self
      have hcount := hone next (by simp)
      rw [List.count_eq_zero.mpr hnext] at hcount
      cases hcount
    · intro hlast
      rw [List.getLast?_append_cons, List.getLast?_cons_cons] at hlast
      exact hrest.1 (List.mem_of_getLast? hlast)

/-- A packet is passed to each subscriber once exactly if the controller meets the condition. -/
theorem emitKnownData_once_iff (hnodup : c.subscribers.Nodup) (hlistening : c.listening ≠ [])
    (data : Data) :
    (∀ subscriber ∈ c.subscribers, (Outcome.forEach
      (fun _ ↦ onKnownData throws c.subscribers data) c.listening []).state.count subscriber = 1) ↔
      c.PassesOnce throws data := by
  unfold PassesOnce
  cases hfind : c.subscribers.find? (throws · data) with
  | none =>
    have hsilent : ∀ subscriber ∈ c.subscribers, throws subscriber data = false := by
      simpa using List.find?_eq_none.mp hfind
    exact once_of_silent_iff hnodup hsilent c.listening
  | some subscriber =>
    obtain ⟨hthrows, before, after, hsubscribers, hbefore⟩ :=
      List.find?_eq_some_iff_append.mp hfind
    have hsilent : ∀ s ∈ before, throws s data = false := by simpa using hbefore
    have hne : before ++ subscriber :: after ≠ [] := List.append_ne_nil_of_right_ne_nil _ nofun
    rw [hsubscribers] at hnodup ⊢
    rw [or_iff_right hne]
    exact once_of_throws_iff hnodup hsilent hthrows hlistening

/-! ### Ports -/

/-- A port that is no EnOcean port is skipped. -/
theorem usePort_of_other {port : SerialPort} (h : port.isEnOcean = false) (caller : Nat)
    (c : EnOceanController) : usePort caller port c = .done c := by
  rw [usePort, if_neg (ne_true_of_eq_false h)]

/-- A port that cannot be listened to ends the loop. -/
theorem usePort_of_error {port : SerialPort} {err : String} (h : port.isEnOcean = true)
    (herror : port.listenError = some err) (caller : Nat) (c : EnOceanController) :
    usePort caller port c = .throw c err := by
  rw [usePort, if_pos h, herror]

/-- Any other is listened to. -/
theorem usePort_of_listens {port : SerialPort} (h : port.isEnOcean = true)
    (herror : port.listenError = none) (caller : Nat) (c : EnOceanController) :
    usePort caller port c = .done (c.listenTo caller port) := by
  rw [usePort, if_pos h, herror]

/-- Skipped ports, before the first EnOcean port. -/
theorem forEach_usePort_of_others {ports : List SerialPort}
    (h : ∀ port ∈ ports, port.isEnOcean = false) (caller : Nat) (c : EnOceanController) :
    Outcome.forEach (usePort caller) ports c = .done c := by
  induction ports with
  | nil => rfl
  | cons port ports ih =>
    rw [List.forall_mem_cons] at h
    rw [Outcome.forEach, usePort_of_other h.1, Outcome.done_andThen, ih h.2]

/-- What a port that is listened to leaves: everybody is served, and nothing else changes but the
ports that are listened to. -/
structure Served (c c' : EnOceanController) : Prop where
  initialized : c'.initialized = true
  initializing : c'.initializing = false
  resolved : c'.Resolved
  queue : c'.initializeQueue = c.initializeQueue
  length : c'.promises.length = c.promises.length
  listing : c'.listing = c.listing
  subscribers : c'.subscribers = c.subscribers
  deliveries : c'.deliveries = c.deliveries

/-- Nobody has been rejected: the listing is for one caller, and the others are in the queue. -/
structure Servable (caller : Nat) (c : EnOceanController) : Prop where
  unrejected : ∀ p ∈ c.promises, p = .pending ∨ p = .fulfilled ()
  numbers : ∀ i < c.promises.length, i = caller ∨ i ∈ c.initializeQueue

/-- Listening to a port serves everybody. -/
theorem served_listenTo {caller : Nat} (h : Servable caller c) (port : SerialPort) :
    Served c (c.listenTo caller port) where
  initialized := rfl
  initializing := rfl
  resolved := by
    have hnumbers : ∀ i < c.promises.length, i ∈ caller :: c.initializeQueue :=
      fun i hi ↦ List.mem_cons.mpr (h.numbers i hi)
    have hall := PromiseState.fulfilled_of_mem_foldl_resolveAt hnumbers h.unrejected
    rwa [List.foldl_cons] at hall
  queue := rfl
  length := by
    rw [listenTo, PromiseState.length_foldl_resolveAt, PromiseState.length_resolveAt]
  listing := rfl
  subscribers := rfl
  deliveries := rfl

/-- Whoever is served may be served again. -/
theorem Served.servable {caller : Nat} {d : EnOceanController} (h : Served c d)
    (hc : Servable caller c) : Servable caller d where
  unrejected p hp := .inr (h.resolved p hp)
  numbers := by
    rw [h.length, h.queue]
    exact hc.numbers

/-- The ports that follow change nothing of this. -/
theorem Served.forEach_usePort {caller : Nat} {d : EnOceanController} (h : Served c d)
    (hc : Servable caller c) (ports : List SerialPort) :
    Served c (Outcome.forEach (usePort caller) ports d).state := by
  induction ports generalizing d with
  | nil => exact h
  | cons port ports ih =>
    rw [Outcome.forEach]
    cases hport : port.isEnOcean with
    | false =>
      rw [usePort_of_other hport, Outcome.done_andThen]
      exact ih h
    | true =>
      cases herror : port.listenError with
      | some err =>
        rw [usePort_of_error hport herror, Outcome.throw_andThen]
        exact h
      | none =>
        rw [usePort_of_listens hport herror, Outcome.done_andThen]
        have hnext := served_listenTo (h.servable hc) port
        exact ih ⟨rfl, rfl, hnext.resolved, hnext.queue.trans h.queue,
          hnext.length.trans h.length, hnext.listing.trans h.listing,
          hnext.subscribers.trans h.subscribers, hnext.deliveries.trans h.deliveries⟩

/-- A listing that finds a port serves everybody, even if a later port cannot be listened to. -/
theorem served_onListed {caller : Nat} (h : Servable caller c)
    {result : Except String (List SerialPort)} (hfinds : FindsPort result) :
    Served c (c.onListed caller result) := by
  cases result with
  | error err => exact hfinds.elim
  | ok ports =>
    obtain ⟨port, hfind, herror⟩ := hfinds
    obtain ⟨hport, before, after, rfl, hbefore⟩ := List.find?_eq_some_iff_append.mp hfind
    have hothers : ∀ other ∈ before, other.isEnOcean = false := by simpa using hbefore
    have hserved : Served c
        (Outcome.forEach (usePort caller) (before ++ port :: after) c).state := by
      rw [Outcome.forEach_append, forEach_usePort_of_others hothers, Outcome.done_andThen,
        Outcome.forEach, usePort_of_listens hport herror, Outcome.done_andThen]
      exact (served_listenTo h port).forEach_usePort h after
    simp only [onListed]
    split
    · exact hserved
    · have hsettled : ∀ p ∈ (Outcome.forEach (usePort caller)
          (before ++ port :: after) c).state.promises, p ≠ .pending := by
        intro p hp hpending
        cases (hserved.resolved p hp).symm.trans hpending
      rw [PromiseState.rejectAt_of_settled hsettled]
      exact hserved

/-- Any other listing at most rejects its caller. -/
theorem onListed_of_not_findsPort {result : Except String (List SerialPort)}
    (h : ¬ FindsPort result) (caller : Nat) (c : EnOceanController) :
    c.onListed caller result = c ∨
      ∃ err, c.onListed caller result =
        { c with promises := PromiseState.rejectAt err c.promises caller } := by
  cases result with
  | error err => exact .inr ⟨err, rfl⟩
  | ok ports =>
    cases hfind : ports.find? SerialPort.isEnOcean with
    | none =>
      have hothers : ∀ port ∈ ports, port.isEnOcean = false := by
        simpa using List.find?_eq_none.mp hfind
      left
      simp only [onListed, forEach_usePort_of_others hothers, Outcome.error_done,
        Outcome.state_done]
    | some port =>
      obtain ⟨hport, before, after, rfl, hbefore⟩ := List.find?_eq_some_iff_append.mp hfind
      have hothers : ∀ other ∈ before, other.isEnOcean = false := by simpa using hbefore
      cases herror : port.listenError with
      | none => exact absurd ⟨port, hfind, herror⟩ h
      | some err =>
        right
        refine ⟨err, ?_⟩
        simp only [onListed, Outcome.forEach_append, forEach_usePort_of_others hothers,
          Outcome.done_andThen, Outcome.forEach, usePort_of_error hport herror,
          Outcome.throw_andThen]
        rfl

/-! ### Runs -/

/-- Subscribers are numbered in the order in which they come. -/
def Numbered (c : EnOceanController) : Prop :=
  c.subscribers = List.range c.subscribers.length

/-- Subscribers are numbered, at most one listing is under way, for all who wait, and nobody has
called before the first listing. -/
structure Wf (c : EnOceanController) : Prop where
  subscribers : c.Numbered
  listing : ∀ caller ∈ c.listing, c.listing = [caller] ∧ c.initializing = true ∧
    c.initialized = false ∧ Servable caller c
  idle : c.initialized = false → c.initializing = false → c.promises = [] ∧ c.listing = []

/-- Nobody has called. -/
theorem wf_initial : Wf initial := ⟨rfl, nofun, fun _ _ ↦ ⟨rfl, rfl⟩⟩

/-- Later callers are served at once. -/
theorem initializeController_of_initialized (h : c.initialized = true) :
    c.initializeController = { c with promises := c.promises ++ [.fulfilled ()] } := by
  unfold initializeController
  rw [if_pos h, PromiseState.resolveAt_length]

/-- Callers during the listing wait. -/
theorem initializeController_of_initializing (h : c.initialized = false)
    (hinitializing : c.initializing = true) :
    c.initializeController =
      { c with
        promises := c.promises ++ [.pending]
        initializeQueue := c.initializeQueue ++ [c.promises.length] } := by
  unfold initializeController
  rw [if_neg (ne_true_of_eq_false h), if_pos hinitializing]

/-- The first caller lists the ports. -/
theorem initializeController_of_idle (h : c.initialized = false)
    (hinitializing : c.initializing = false) :
    c.initializeController =
      { c with
        promises := c.promises ++ [.pending]
        initializing := true
        listing := c.listing ++ [c.promises.length] } := by
  unfold initializeController
  rw [if_neg (ne_true_of_eq_false h), if_neg (ne_true_of_eq_false hinitializing)]

/-- While the controller is initialising, another call lists nothing. -/
theorem canRetry_iff (hlisting : c.listing = []) (h : c.initialized = false) :
    c.CanRetry ↔ c.initializing = false := by
  unfold CanRetry
  cases hinitializing : c.initializing with
  | true =>
    rw [initializeController_of_initializing h hinitializing]
    exact iff_of_false (fun hne ↦ hne hlisting) nofun
  | false =>
    rw [initializeController_of_idle h hinitializing]
    exact iff_of_true (List.append_ne_nil_of_right_ne_nil _ nofun) rfl

/-- A caller that comes during the listing is in the queue. -/
theorem Servable.push {caller : Nat} (h : Servable caller c) :
    Servable caller
      { c with
        promises := c.promises ++ [.pending]
        initializeQueue := c.initializeQueue ++ [c.promises.length] } where
  unrejected p hp := by
    rcases List.mem_append.mp hp with hp | hp
    · exact h.unrejected p hp
    · exact .inl (List.mem_singleton.mp hp)
  numbers i hi := by
    rw [List.length_append, List.length_singleton] at hi
    rcases Nat.lt_succ_iff_lt_or_eq.mp hi with hi | rfl
    · exact (h.numbers i hi).imp_right (List.mem_append_left _)
    · exact .inr (List.mem_append_right _ List.mem_cons_self)

/-- Calls of `initialize` keep the controller well formed. -/
theorem Wf.initializeController (h : Wf c) : Wf c.initializeController := by
  cases hinitialized : c.initialized with
  | true =>
    rw [initializeController_of_initialized hinitialized]
    refine ⟨h.subscribers, ?_, fun hfalse ↦ ?_⟩
    · intro caller hcaller
      cases hinitialized.symm.trans (h.listing caller hcaller).2.2.1
    · cases hinitialized.symm.trans hfalse
  | false =>
    cases hinitializing : c.initializing with
    | true =>
      rw [initializeController_of_initializing hinitialized hinitializing]
      refine ⟨h.subscribers, ?_, fun _ hfalse ↦ ?_⟩
      · intro caller hcaller
        obtain ⟨hlisting, -, -, hservable⟩ := h.listing caller hcaller
        exact ⟨hlisting, hinitializing, hinitialized, hservable.push⟩
      · cases hinitializing.symm.trans hfalse
    | false =>
      obtain ⟨hpromises, hlisting⟩ := h.idle hinitialized hinitializing
      rw [initializeController_of_idle hinitialized hinitializing, hpromises, hlisting]
      refine ⟨h.subscribers, ?_, fun _ hfalse ↦ by cases hfalse⟩
      intro caller hcaller
      obtain rfl := List.mem_singleton.mp hcaller
      refine ⟨rfl, rfl, hinitialized, ?_, ?_⟩
      · exact fun p hp ↦ .inl (List.mem_singleton.mp hp)
      · exact fun i hi ↦ .inl (Nat.lt_one_iff.mp hi)

/-- The answered listing leaves none under way. -/
theorem Wf.listed {caller : Nat} {listing : List Nat} (h : Wf c)
    (hlisting : c.listing = caller :: listing) :
    listing = [] ∧ c.initializing = true ∧ c.initialized = false ∧
      Servable caller { c with listing := listing } := by
  have hmem : caller ∈ c.listing := hlisting ▸ List.mem_cons_self
  obtain ⟨hone, hinitializing, hinitialized, hservable⟩ := h.listing caller hmem
  have hnil : listing = [] := (List.cons.inj (hlisting.symm.trans hone)).2
  exact ⟨hnil, hinitializing, hinitialized, hservable.unrejected, hservable.numbers⟩

/-- A listing that finds no port leaves the callers waiting. -/
theorem onListed_fields {result : Except String (List SerialPort)} (h : ¬ FindsPort result)
    (caller : Nat) (c : EnOceanController) :
    (c.onListed caller result).initialized = c.initialized ∧
      (c.onListed caller result).initializing = c.initializing ∧
      (c.onListed caller result).listing = c.listing ∧
      (c.onListed caller result).subscribers = c.subscribers ∧
      (c.onListed caller result).deliveries = c.deliveries := by
  rcases onListed_of_not_findsPort h caller c with heq | ⟨err, heq⟩ <;> rw [heq] <;>
    exact ⟨rfl, rfl, rfl, rfl, rfl⟩

/-- An answer keeps the controller well formed. -/
theorem Wf.onListed {caller : Nat} {listing : List Nat} (h : Wf c)
    (hlisting : c.listing = caller :: listing) (result : Except String (List SerialPort)) :
    Wf ({ c with listing := listing }.onListed caller result) := by
  obtain ⟨rfl, hinitializing, hinitialized, hservable⟩ := h.listed hlisting
  by_cases hfinds : FindsPort result
  · have hserved := served_onListed hservable hfinds
    refine ⟨?_, ?_, fun hfalse ↦ ?_⟩
    · rw [Numbered, hserved.subscribers]
      exact h.subscribers
    · rw [hserved.listing]
      exact nofun
    · cases hserved.initialized.symm.trans hfalse
  · obtain ⟨-, hi, hl, hs, -⟩ :=
      onListed_fields hfinds caller { c with listing := ([] : List Nat) }
    refine ⟨?_, ?_, fun _ hfalse ↦ ?_⟩
    · rw [Numbered, hs]
      exact h.subscribers
    · rw [hl]
      exact nofun
    · cases (hi.trans hinitializing).symm.trans hfalse

/-- Neither the callers nor the flags have changed. -/
structure SameCallers (c c' : EnOceanController) : Prop where
  initialized : c'.initialized = c.initialized
  initializing : c'.initializing = c.initializing
  queue : c'.initializeQueue = c.initializeQueue
  promises : c'.promises = c.promises
  listing : c'.listing = c.listing

/-- What an event does: a call, the answer of a listing, a packet, or nothing that concerns the
callers and the packets. -/
theorem step_cases {c' : EnOceanController} {e : EnOceanEvent Data}
    (hstep : c.step throws e = some c') :
    (e = .initializeCalled ∧ c' = c.initializeController) ∨
    (∃ result caller listing, e = .listed result ∧ c.listing = caller :: listing ∧
      c' = { c with listing := listing }.onListed caller result) ∨
    (∃ data, e = .knownData data ∧ c.listening ≠ [] ∧ c' = c.emitKnownData throws data) ∨
    (c.Meets throws e ∧ SameCallers c c' ∧ c'.deliveries = c.deliveries ∧
      (c.Numbered → c'.Numbered)) := by
  cases e with
  | initializeCalled => exact .inl ⟨rfl, (Option.some.inj hstep).symm⟩
  | listed result =>
    rw [step] at hstep
    split at hstep
    · cases hstep
    · next caller listing hlisting =>
      exact .inr (.inl ⟨result, caller, listing, rfl, hlisting, (Option.some.inj hstep).symm⟩)
  | knownData data =>
    rw [step] at hstep
    split at hstep
    · cases hstep
    · next hlistening =>
      exact .inr (.inr (.inl ⟨data, rfl, hlistening, (Option.some.inj hstep).symm⟩))
  | subscribe isFunction =>
    obtain rfl := Option.some.inj hstep
    refine .inr (.inr (.inr ⟨trivial, ?_⟩))
    unfold subscribe
    split
    · refine ⟨⟨rfl, rfl, rfl, rfl, rfl⟩, rfl, fun h ↦ ?_⟩
      unfold Numbered at h ⊢
      rw [List.length_append, List.length_singleton, List.range_succ, ← h]
    · exact ⟨⟨rfl, rfl, rfl, rfl, rfl⟩, rfl, id⟩
  | ready =>
    obtain rfl := Option.some.inj hstep
    exact .inr (.inr (.inr ⟨trivial, ⟨rfl, rfl, rfl, rfl, rfl⟩, rfl, id⟩))
  | learnModeStop =>
    obtain rfl := Option.some.inj hstep
    exact .inr (.inr (.inr ⟨trivial, ⟨rfl, rfl, rfl, rfl, rfl⟩, rfl, id⟩))

/-- The callers are as they were. -/
theorem Wf.of_sameCallers {c' : EnOceanController} (h : Wf c) (hsame : SameCallers c c')
    (hnumbered : c'.Numbered) : Wf c' where
  subscribers := hnumbered
  listing caller hcaller := by
    rw [hsame.listing] at hcaller ⊢
    obtain ⟨hone, hinitializing, hinitialized, hservable⟩ := h.listing caller hcaller
    refine ⟨hone, hsame.initializing.trans hinitializing, hsame.initialized.trans hinitialized,
      ?_, ?_⟩
    · rw [hsame.promises]
      exact hservable.unrejected
    · rw [hsame.promises, hsame.queue]
      exact hservable.numbers
  idle hinitialized hinitializing := by
    rw [hsame.promises, hsame.listing]
    exact h.idle (hsame.initialized.symm.trans hinitialized)
      (hsame.initializing.symm.trans hinitializing)

/-- Every event keeps the controller well formed. -/
theorem Wf.step {c' : EnOceanController} (h : Wf c) {e : EnOceanEvent Data}
    (hstep : c.step throws e = some c') : Wf c' := by
  rcases step_cases hstep with ⟨rfl, rfl⟩ | ⟨result, caller, listing, rfl, hlisting, rfl⟩ |
    ⟨data, rfl, hlistening, rfl⟩ | ⟨-, hsame, -, hnumbered⟩
  · exact h.initializeController
  · exact h.onListed hlisting result
  · exact h.of_sameCallers ⟨rfl, rfl, rfl, rfl, rfl⟩ h.subscribers
  · exact h.of_sameCallers hsame (hnumbered h.subscribers)

/-- The callers are as they were, and the packets are passed once. -/
theorem Reliable.of_sameCallers {c' : EnOceanController} (hc : c.Reliable)
    (hsame : SameCallers c c')
    (honce : ∀ d ∈ c'.deliveries, ∀ subscriber ∈ d.subscribers, d.called.count subscriber = 1) :
    c'.Reliable where
  retry hlisting hinitialized := by
    rw [canRetry_iff hlisting hinitialized, hsame.initializing, hsame.promises]
    rw [hsame.listing] at hlisting
    rw [hsame.initialized] at hinitialized
    rw [← canRetry_iff hlisting hinitialized]
    exact hc.retry hlisting hinitialized
  resolved hinitialized := by
    rw [Resolved, hsame.promises]
    exact hc.resolved (hsame.initialized.symm.trans hinitialized)
  once := honce

/-- Calls keep the controller reliable. -/
theorem Reliable.initializeController (hc : c.Reliable) : c.initializeController.Reliable := by
  cases hinitialized : c.initialized with
  | true =>
    rw [initializeController_of_initialized hinitialized]
    refine ⟨fun _ hfalse ↦ ?_, fun _ p hp ↦ ?_, hc.once⟩
    · cases hinitialized.symm.trans hfalse
    · rcases List.mem_append.mp hp with hp | hp
      · exact hc.resolved hinitialized p hp
      · exact List.mem_singleton.mp hp
  | false =>
    cases hinitializing : c.initializing with
    | true =>
      rw [initializeController_of_initializing hinitialized hinitializing]
      refine ⟨fun (hlisting : c.listing = []) _ ↦ ?_, fun htrue ↦ ?_, hc.once⟩
      · have hretry := (hc.retry hlisting hinitialized).1
        rw [canRetry_iff hlisting hinitialized] at hretry
        cases hinitializing.symm.trans hretry
      · cases hinitialized.symm.trans htrue
    | false =>
      rw [initializeController_of_idle hinitialized hinitializing]
      refine ⟨fun hlisting _ ↦ ?_, fun htrue ↦ ?_, hc.once⟩
      · exact absurd hlisting (List.append_ne_nil_of_right_ne_nil _ nofun)
      · cases hinitialized.symm.trans htrue

/-- An answer keeps it reliable exactly if it finds a port. -/
theorem reliable_onListed_iff {caller : Nat} {listing : List Nat} (h : Wf c) (hc : c.Reliable)
    (hlisting : c.listing = caller :: listing) (result : Except String (List SerialPort)) :
    ({ c with listing := listing }.onListed caller result).Reliable ↔ FindsPort result := by
  obtain ⟨rfl, hinitializing, hinitialized, hservable⟩ := h.listed hlisting
  constructor
  · intro hreliable
    by_contra hfinds
    obtain ⟨hz, hi, hl, -, -⟩ :=
      onListed_fields hfinds caller { c with listing := ([] : List Nat) }
    have hz := hz.trans hinitialized
    have hretry := (canRetry_iff hl hz).mp (hreliable.retry hl hz).1
    cases (hi.trans hinitializing).symm.trans hretry
  · intro hfinds
    have hserved := served_onListed hservable hfinds
    refine ⟨fun _ hfalse ↦ ?_, fun _ ↦ hserved.resolved, ?_⟩
    · cases hserved.initialized.symm.trans hfalse
    · rw [hserved.deliveries]
      exact hc.once

/-- A step keeps it reliable exactly if it meets the condition. -/
theorem reliable_step_iff {c' : EnOceanController} (h : Wf c) (hc : c.Reliable)
    {e : EnOceanEvent Data} (hstep : c.step throws e = some c') :
    c'.Reliable ↔ c.Meets throws e := by
  rcases step_cases hstep with ⟨rfl, rfl⟩ | ⟨result, caller, listing, rfl, hlisting, rfl⟩ |
    ⟨data, rfl, hlistening, rfl⟩ | ⟨hmeets, hsame, hdeliveries, -⟩
  · exact iff_of_true hc.initializeController trivial
  · exact reliable_onListed_iff h hc hlisting result
  · have hnodup : c.subscribers.Nodup := h.subscribers ▸ List.nodup_range
    show (c.emitKnownData throws data).Reliable ↔ c.PassesOnce throws data
    rw [← emitKnownData_once_iff hnodup hlistening]
    constructor
    · intro hreliable
      exact hreliable.once _ (List.mem_append_right _ List.mem_cons_self)
    · intro honce
      have hsame : SameCallers c (c.emitKnownData throws data) := ⟨rfl, rfl, rfl, rfl, rfl⟩
      apply hc.of_sameCallers hsame
      intro d hd
      rcases List.mem_append.mp hd with hd | hd
      · exact hc.once d hd
      · obtain rfl := List.mem_singleton.mp hd
        exact honce
  · refine iff_of_true (hc.of_sameCallers hsame ?_) hmeets
    rw [hdeliveries]
    exact hc.once

/-- A run is reliable throughout exactly if each of its listings finds a port and each of its
packets is passed once. -/
theorem always_reliable_iff (throws : Nat → Data → Bool) (es : List (EnOceanEvent Data)) :
    Always (step throws) Reliable initial es ↔ EachStep (step throws) (Meets throws) initial es :=
  always_iff_eachStep (step throws) (fun _ _ _ hs ht ↦ Wf.step hs ht)
    (fun _ _ _ hs hP ht ↦ reliable_step_iff hs hP ht) es wf_initial
    ⟨fun _ _ ↦ ⟨nofun, nofun⟩, nofun, nofun⟩

/-- Two adapters. -/
def adapters : List SerialPort :=
  [⟨"/dev/ttyUSB0", some "usb-EnOcean_GmbH_USB_300-if00", none⟩,
    ⟨"/dev/ttyUSB1", some "usb-EnOcean_GmbH_USB_310-if00", none⟩]

/-- Without a port the caller waits for ever, and with two adapters a subscriber gets its packet
twice. -/
theorem unreliable_listings :
    ¬ Always (step fun _ (_ : Unit) ↦ false) Reliable initial
      [.initializeCalled, .listed (.ok [])] ∧
    ¬ Always (step fun _ (_ : Unit) ↦ false) Reliable initial
      [.initializeCalled, .listed (.ok adapters), .subscribe true, .knownData ()] := by
  constructor
  · intro h
    have hlast := h.last _ rfl
    exact (hlast.retry rfl rfl).2 .pending List.mem_cons_self rfl
  · intro h
    have hrun : run (step fun _ (_ : Unit) ↦ false) initial
        [.initializeCalled, .listed (.ok adapters), .subscribe true, .knownData ()] =
        some ⟨true, false, [], [.fulfilled ()], [], [0], ["/dev/ttyUSB0", "/dev/ttyUSB1"], 0,
          [⟨[0], [0, 0]⟩]⟩ := by decide
    have hlast := h.last _ hrun
    cases hlast.once _ List.mem_cons_self 0 List.mem_cons_self

end EnOceanController
end NexusEdge.Devices
