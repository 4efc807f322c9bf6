import NexusEdge.Base.Promise
import NexusEdge.Devices.Radio

/-!
# Initialisation of the BLE radios

Library `Devices`. `ble-controller.js:33–117`: `initialize` with the promises of its callers, the
listeners of `stateChange` of both radios, and the microtasks that follow a promise. A radio that
is switched on settles the promise of each of its listeners; what is chained to the promise runs
later, after other callers may have come. `InitializePhase` is the life of an initialisation: bleno,
then noble.
-/

namespace NexusEdge.Devices
open NexusEdge.Base

/-- A call of `_initializeBleno` or `_initializeNoble` with its promise, for a caller of
`initialize`. -/
structure InitializeCall where
  caller : Nat
  promise : PromiseState Empty Unit
  deriving DecidableEq

/-- A microtask: what is chained to a promise of `_initializeBleno` or `_initializeNoble`. -/
inductive InitializeJob where
  | blenoInitialized (caller : Nat)
  | nobleInitialized (caller : Nat)
  deriving DecidableEq

/-- What the listeners ask of the radios. -/
inductive RadioCommand where
  | stopAdvertising
  | startScanning
  | stopScanning
  | onDiscover
  deriving DecidableEq

/-- The controller and the promises returned by `initialize`, numbered by its calls. -/
structure BleInitialization where
  initialized : Bool
  initializing : Bool
  initializeQueue : List Nat
  promises : List (PromiseState Empty Unit)
  blenoCalls : List InitializeCall
  nobleCalls : List InitializeCall
  jobs : List InitializeJob
  commands : List RadioCommand
  deriving DecidableEq

/-- What the controller reacts to. -/
inductive InitializeEvent where
  | initializeCalled
  | blenoStateChange (state : AdapterState)
  | nobleStateChange (state : AdapterState)
  | microtask
  deriving DecidableEq

namespace InitializeCall

/-- The listener resolves the promise. -/
def resolve (call : InitializeCall) : InitializeCall :=
  { call with promise := call.promise.resolve () }

/-- The callers whose promises are settled now. -/
def pendingCallers (calls : List InitializeCall) : List Nat :=
  (calls.filter fun call ↦ call.promise.isPending).map caller

end InitializeCall

namespace BleInitialization

/-- The constructor, lines 34–37. -/
def initial : BleInitialization := ⟨false, false, [], [], [], [], [], []⟩

/-- `_initializeBleno`, lines 46–60. -/
def initializeBleno (c : BleInitialization) (caller : Nat) : BleInitialization :=
  { c with blenoCalls := c.blenoCalls ++ [⟨caller, .pending⟩] }

/-- `_initializeNoble`, lines 62–92. -/
def initializeNoble (c : BleInitialization) (caller : Nat) : BleInitialization :=
  { c with nobleCalls := c.nobleCalls ++ [⟨caller, .pending⟩] }

/-- `initialize`, lines 98–117; `initialize` is a keyword here. -/
def initializeController (c : BleInitialization) : BleInitialization :=
  let caller := c.promises.length
  let c : BleInitialization := { c with promises := c.promises ++ [.pending] }
  if c.initialized then
    { c with promises := PromiseState.resolveAt () c.promises caller }
  else if c.initializing then
    { c with initializeQueue := c.initializeQueue ++ [caller] }
  else { c with initializing := true }.initializeBleno caller

/-- The listeners of lines 48–58, one for each call. -/
def onBlenoStateChange (c : BleInitialization) : AdapterState → BleInitialization
  | .poweredOn =>
    { c with
      blenoCalls := c.blenoCalls.map InitializeCall.resolve
      jobs := c.jobs ++ (InitializeCall.pendingCallers c.blenoCalls).map .blenoInitialized }
  | .poweredOff =>
    { c with commands := c.commands ++ c.blenoCalls.map fun _ ↦ .stopAdvertising }
  | .other _ => c

/-- The listeners of lines 64–90, one for each call. -/
def onNobleStateChange (c : BleInitialization) : AdapterState → BleInitialization
  | .poweredOn =>
    { c with
      nobleCalls := c.nobleCalls.map InitializeCall.resolve
      jobs := c.jobs ++ (InitializeCall.pendingCallers c.nobleCalls).map .nobleInitialized
      commands := c.commands ++ c.nobleCalls.flatMap fun _ ↦ [.startScanning, .onDiscover] }
  | .poweredOff =>
    { c with commands := c.commands ++ c.nobleCalls.map fun _ ↦ .stopScanning }
  | .other _ => c

/-- What follows bleno, and what follows noble, lines 106–113. -/
def runJob (c : BleInitialization) : InitializeJob → BleInitialization
  | .blenoInitialized caller => c.initializeNoble caller
  | .nobleInitialized caller =>
    let promises := PromiseState.resolveAt () c.promises caller
    { c with
      initializing := false
      initialized := true
      promises := c.initializeQueue.foldl (PromiseState.resolveAt ()) promises }

/-- One event. Without a job no microtask runs. -/
def step (c : BleInitialization) : InitializeEvent → Option BleInitialization
  | .initializeCalled => some c.initializeController
  | .blenoStateChange state => some (c.onBlenoStateChange state)
  | .nobleStateChange state => some (c.onNobleStateChange state)
  | .microtask =>
    match c.jobs with
    | [] => none
    | job :: jobs => some ({ c with jobs := jobs }.runJob job)

/-- bleno has been switched on for its initialisation. -/
def BlenoCompleted (c : BleInitialization) : Prop :=
  ∃ call ∈ c.blenoCalls, call.promise = .fulfilled ()

/-- noble has been switched on for its initialisation. -/
def NobleCompleted (c : BleInitialization) : Prop :=
  ∃ call ∈ c.nobleCalls, call.promise = .fulfilled ()

/-- Every caller's promise is resolved. -/
def Resolved (c : BleInitialization) : Prop := ∀ p ∈ c.promises, p = .fulfilled ()

/-- A listener resolves its promise. -/
theorem promise_resolve (call : InitializeCall) : call.resolve.promise = .fulfilled () := by
  unfold InitializeCall.resolve
  cases hpromise : call.promise with
  | pending => rfl
  | fulfilled value => rfl
  | rejected reason => exact reason.elim

/-- One of the promises is resolved. -/
theorem exists_resolved_of_ne_nil {calls : List InitializeCall} (h : calls ≠ []) :
    ∃ call ∈ calls.map InitializeCall.resolve, call.promise = .fulfilled () := by
  obtain ⟨call, hcall⟩ := List.exists_mem_of_ne_nil calls h
  exact ⟨call.resolve, List.mem_map_of_mem hcall, promise_resolve call⟩

/-- A radio that is switched on completes the initialisation that has been called. -/
theorem completed_of_poweredOn (c : BleInitialization) :
    (c.blenoCalls ≠ [] → (c.onBlenoStateChange .poweredOn).BlenoCompleted) ∧
      (c.nobleCalls ≠ [] → (c.onNobleStateChange .poweredOn).NobleCompleted) :=
  ⟨exists_resolved_of_ne_nil, exists_resolved_of_ne_nil⟩

end BleInitialization

/-! ### Phases -/

/-- How far the initialisation has come. -/
inductive InitializePhase where
  | idle
  | bleno
  | blenoReady
  | noble
  | nobleReady
  | done
  deriving DecidableEq

namespace InitializePhase

/-- The effect of an event on the phase. -/
def next : InitializePhase → InitializeEvent → InitializePhase
  | idle, .initializeCalled => bleno
  | bleno, .blenoStateChange .poweredOn => blenoReady
  | blenoReady, .microtask => noble
  | noble, .nobleStateChange .poweredOn => nobleReady
  | nobleReady, .microtask => done
  | phase, _ => phase

/-- A radio that is switched on neither starts nor ends the initialisation. -/
theorem next_of_poweredOn {e : InitializeEvent}
    (h : e = .blenoStateChange .poweredOn ∨ e = .nobleStateChange .poweredOn)
    (phase : InitializePhase) :
    (phase.next e = .idle ↔ phase = .idle) ∧ (phase.next e = .done ↔ phase = .done) := by
  rcases h with rfl | rfl <;> cases phase <;> decide

/-- The calls of `_initializeBleno` so far. -/
def blenoCalls : InitializePhase → List InitializeCall
  | idle => []
  | bleno => [⟨0, .pending⟩]
  | _ => [⟨0, .fulfilled ()⟩]

/-- The calls of `_initializeNoble` so far. -/
def nobleCalls : InitializePhase → List InitializeCall
  | noble => [⟨0, .pending⟩]
  | nobleReady => [⟨0, .fulfilled ()⟩]
  | done => [⟨0, .fulfilled ()⟩]
  | _ => []

/-- The microtasks to be run. -/
def jobs : InitializePhase → List InitializeJob
  | blenoReady => [.blenoInitialized 0]
  | nobleReady => [.nobleInitialized 0]
  | _ => []

end InitializePhase

namespace BleInitialization

/-- A controller in a phase. Whoever came before the end waits in the queue, except the first. -/
structure InPhase (phase : InitializePhase) (c : BleInitialization) : Prop where
  initialized : c.initialized = decide (phase = .done)
  initializing : c.initializing = decide (phase ≠ .idle ∧ phase ≠ .done)
  blenoCalls : c.blenoCalls = phase.blenoCalls
  nobleCalls : c.nobleCalls = phase.nobleCalls
  jobs : c.jobs = phase.jobs
  idle : phase = .idle → c.promises = []
  pending : phase ≠ .done → ∀ p ∈ c.promises, p = .pending
  waiting : ∀ caller < c.promises.length, caller = 0 ∨ caller ∈ c.initializeQueue ∨ phase = .done
  resolved : phase = .done → c.Resolved

/-- Nobody has called. -/
theorem inPhase_initial : InPhase .idle initial where
  initialized := rfl
  initializing := rfl
  blenoCalls := rfl
  nobleCalls := rfl
  jobs := rfl
  idle _ := rfl
  pending _ := nofun
  waiting _ := nofun
  resolved h := nomatch h

variable {phase : InitializePhase} {c c' : BleInitialization}

/-- The promises while nobody has been served. -/
theorem InPhase.settled (h : InPhase phase c) :
    ∀ p ∈ c.promises, p = .pending ∨ p = .fulfilled () := by
  intro p hp
  by_cases hdone : phase = .done
  · exact .inr (h.resolved hdone p hp)
  · exact .inl (h.pending hdone p hp)

/-- Callers after the initialisation are served at once. -/
theorem initializeController_of_initialized (h : c.initialized = true) :
    c.initializeController = { c with promises := c.promises ++ [.fulfilled ()] } := by
  unfold initializeController
  rw [if_pos h, PromiseState.resolveAt_length]

/-- Callers during it wait. -/
theorem initializeController_of_initializing (h : c.initialized = false)
    (hinitializing : c.initializing = true) :
    c.initializeController =
      { c with
        promises := c.promises ++ [.pending]
        initializeQueue := c.initializeQueue ++ [c.promises.length] } := by
  unfold initializeController
  rw [if_neg (ne_true_of_eq_false h), if_pos hinitializing]

/-- The first caller starts it. -/
theorem initializeController_of_idle (h : c.initialized = false)
    (hinitializing : c.initializing = false) :
    c.initializeController =
      { c with
        promises := c.promises ++ [.pending]
        initializing := true
        blenoCalls := c.blenoCalls ++ [⟨c.promises.length, .pending⟩] } := by
  unfold initializeController
  rw [if_neg (ne_true_of_eq_false h), if_neg (ne_true_of_eq_false hinitializing)]
  rfl

/-- A caller during the initialisation waits. -/
theorem InPhase.push (h : InPhase phase c) (hidle : phase ≠ .idle) (hdone : phase ≠ .done) :
    InPhase phase
      { c with
        promises := c.promises ++ [.pending]
        initializeQueue := c.initializeQueue ++ [c.promises.length] } where
  initialized := h.initialized
  initializing := h.initializing
  blenoCalls := h.blenoCalls
  nobleCalls := h.nobleCalls
  jobs := h.jobs
  idle hphase := absurd hphase hidle
  pending _ p hp := by
    rcases List.mem_append.mp hp with hp | hp
    · exact h.pending hdone p hp
    · exact List.mem_singleton.mp hp
  waiting caller hcaller := by
    rw [List.length_append, List.length_singleton] at hcaller
    rcases Nat.lt_succ_iff_lt_or_eq.mp hcaller with hcaller | rfl
    · rcases h.waiting caller hcaller with hzero | hmem | hphase
      · exact .inl hzero
      · exact .inr (.inl (List.mem_append_left _ hmem))
      · exact absurd hphase hdone
    · exact .inr (.inl (List.mem_append_right _ List.mem_cons_self))
  resolved hphase := absurd hphase hdone

/-- A caller after it is served. -/
theorem InPhase.serve (h : InPhase .done c) :
    InPhase .done { c with promises := c.promises ++ [.fulfilled ()] } where
  initialized := h.initialized
  initializing := h.initializing
  blenoCalls := h.blenoCalls
  nobleCalls := h.nobleCalls
  jobs := h.jobs
  idle := nofun
  pending hphase := absurd rfl hphase
  waiting _ _ := .inr (.inr rfl)
  resolved _ p hp := by
    rcases List.mem_append.mp hp with hp | hp
    · exact h.resolved rfl p hp
    · exact List.mem_singleton.mp hp

/-- The first caller calls bleno. -/
theorem InPhase.start (h : InPhase .idle c) :
    InPhase .bleno
      { c with
        promises := c.promises ++ [.pending]
        initializing := true
        blenoCalls := c.blenoCalls ++ [⟨c.promises.length, .pending⟩] } where
  initialized := h.initialized
  initializing := rfl
  blenoCalls := by
    rw [h.blenoCalls, h.idle rfl]
    rfl
  nobleCalls := h.nobleCalls
  jobs := h.jobs
  idle := nofun
  pending _ p hp := by
    rw [h.idle rfl] at hp
    exact List.mem_singleton.mp hp
  waiting caller hcaller := by
    rw [h.idle rfl] at hcaller
    exact .inl (Nat.lt_one_iff.mp hcaller)
  resolved := nofun

/-- A call of `initialize` in each phase. -/
theorem inPhase_initializeController (h : InPhase phase c) :
    InPhase (phase.next .initializeCalled) c.initializeController := by
  have hinitialized := h.initialized
  have hinitializing := h.initializing
  cases phase with
  | idle =>
    rw [initializeController_of_idle hinitialized hinitializing]
    exact h.start
  | done =>
    rw [initializeController_of_initialized hinitialized]
    exact h.serve
  | _ =>
    rw [initializeController_of_initializing hinitialized hinitializing]
    exact h.push (by decide) (by decide)

/-- A step within the initialisation that serves nobody and lets nobody wait. -/
theorem InPhase.move {phase' : InitializePhase} (h : InPhase phase c)
    (hidle : phase' = .idle ↔ phase = .idle) (hdone : phase' = .done ↔ phase = .done)
    (hinitialized : c'.initialized = c.initialized)
    (hinitializing : c'.initializing = c.initializing)
    (hqueue : c'.initializeQueue = c.initializeQueue) (hpromises : c'.promises = c.promises)
    (hbleno : c'.blenoCalls = phase'.blenoCalls) (hnoble : c'.nobleCalls = phase'.nobleCalls)
    (hjobs : c'.jobs = phase'.jobs) : InPhase phase' c' where
  initialized := by
    rw [hinitialized, h.initialized]
    simp only [hdone]
  initializing := by
    rw [hinitializing, h.initializing]
    simp only [ne_eq, hidle, hdone]
  blenoCalls := hbleno
  nobleCalls := hnoble
  jobs := hjobs
  idle hphase := hpromises.trans (h.idle (hidle.mp hphase))
  pending hphase := by
    rw [hpromises]
    exact h.pending (mt hdone.mpr hphase)
  waiting := by
    rw [hpromises, hqueue, hdone]
    exact h.waiting
  resolved hphase := by
    rw [Resolved, hpromises]
    exact h.resolved (hdone.mp hphase)

/-- bleno's state matters while its initialisation is under way. -/
theorem inPhase_onBlenoStateChange (h : InPhase phase c) (state : AdapterState) :
    InPhase (phase.next (.blenoStateChange state)) (c.onBlenoStateChange state) := by
  cases state with
  | poweredOn =>
    obtain ⟨hidle, hdone⟩ := InitializePhase.next_of_poweredOn (.inl rfl) phase
    refine h.move hidle hdone rfl rfl rfl rfl ?_ ?_ ?_
    · rw [onBlenoStateChange, h.blenoCalls]
      cases phase <;> rfl
    · rw [onBlenoStateChange, h.nobleCalls]
      cases phase <;> rfl
    · rw [onBlenoStateChange, h.blenoCalls, h.jobs]
      cases phase <;> rfl
  | poweredOff =>
    rw [show phase.next (.blenoStateChange .poweredOff) = phase by cases phase <;> rfl]
    exact h.move Iff.rfl Iff.rfl rfl rfl rfl rfl h.blenoCalls h.nobleCalls h.jobs
  | other state =>
    rw [show phase.next (.blenoStateChange (.other state)) = phase by cases phase <;> rfl]
    exact h

/-- noble's state matters while its initialisation is under way. -/
theorem inPhase_onNobleStateChange (h : InPhase phase c) (state : AdapterState) :
    InPhase (phase.next (.nobleStateChange state)) (c.onNobleStateChange state) := by
  cases state with
  | poweredOn =>
    obtain ⟨hidle, hdone⟩ := InitializePhase.next_of_poweredOn (.inr rfl) phase
    refine h.move hidle hdone rfl rfl rfl rfl ?_ ?_ ?_
    · rw [onNobleStateChange, h.blenoCalls]
      cases phase <;> rfl
    · rw [onNobleStateChange, h.nobleCalls]
      cases phase <;> rfl
    · rw [onNobleStateChange, h.nobleCalls, h.jobs]
      cases phase <;> rfl
  | poweredOff =>
    rw [show phase.next (.nobleStateChange .poweredOff) = phase by cases phase <;> rfl]
    exact h.move Iff.rfl Iff.rfl rfl rfl rfl rfl h.blenoCalls h.nobleCalls h.jobs
  | other state =>
    rw [show phase.next (.nobleStateChange (.other state)) = phase by cases phase <;> rfl]
    exact h

/-- A microtask leads from bleno to noble, or serves everybody. -/
theorem inPhase_microtask (h : InPhase phase c) (hstep : c.step .microtask = some c') :
    InPhase (phase.next .microtask) c' := by
  rw [step] at hstep
  have hjobs := h.jobs
  cases phase with
  | blenoReady =>
    rw [hjobs] at hstep
    obtain rfl := Option.some.inj hstep
    refine h.move (by decide) (by decide) rfl rfl rfl rfl h.blenoCalls ?_ rfl
    show c.nobleCalls ++ _ = _
    rw [h.nobleCalls]
    rfl
  | nobleReady =>
    rw [hjobs] at hstep
    obtain rfl := Option.some.inj hstep
    have hresolved : ∀ p ∈ (0 :: c.initializeQueue).foldl (PromiseState.resolveAt ()) c.promises,
        p = .fulfilled () := by
      apply PromiseState.fulfilled_of_mem_foldl_resolveAt _ h.settled
      intro caller hcaller
      rcases h.waiting caller hcaller with rfl | hmem | hdone
      · exact List.mem_cons_self
      · exact List.mem_cons_of_mem 0 hmem
      · cases hdone
    exact ⟨rfl, rfl, h.blenoCalls, h.nobleCalls, rfl, nofun, fun hdone ↦ absurd rfl hdone,
      fun _ _ ↦ .inr (.inr rfl), fun _ ↦ hresolved⟩
  | _ =>
    rw [hjobs] at hstep
    cases hstep

/-- Every event moves the initialisation along its phases. -/
theorem inPhase_step (h : InPhase phase c) {e : InitializeEvent} (hstep : c.step e = some c') :
    InPhase (phase.next e) c' := by
  cases e with
  | initializeCalled =>
    obtain rfl := Option.some.inj hstep
    exact inPhase_initializeController h
  | blenoStateChange state =>
    obtain rfl := Option.some.inj hstep
    exact inPhase_onBlenoStateChange h state
  | nobleStateChange state =>
    obtain rfl := Option.some.inj hstep
    exact inPhase_onNobleStateChange h state
  | microtask => exact inPhase_microtask h hstep

/-- A run is in the phase that its events lead to. -/
theorem inPhase_run (h : InPhase phase c) {es : List InitializeEvent}
    (hrun : run step c es = some c') : InPhase (es.foldl InitializePhase.next phase) c' := by
  induction es generalizing phase c with
  | nil =>
    obtain rfl := Option.some.inj hrun
    exact h
  | cons e es ih =>
    obtain ⟨d, hd, hrun⟩ := Option.bind_eq_some_iff.mp hrun
    exact ih (inPhase_step h hd) hrun

/-- Each call of `initialize` returns a promise. -/
theorem length_promises_step {e : InitializeEvent} (hstep : c.step e = some c') :
    c'.promises.length = c.promises.length + if e = .initializeCalled then 1 else 0 := by
  cases e with
  | initializeCalled =>
    obtain rfl := Option.some.inj hstep
    cases hinitialized : c.initialized with
    | true => simp [initializeController_of_initialized hinitialized]
    | false =>
      cases hinitializing : c.initializing with
      | true => simp [initializeController_of_initializing hinitialized hinitializing]
      | false => simp [initializeController_of_idle hinitialized hinitializing]
  | blenoStateChange state =>
    obtain rfl := Option.some.inj hstep
    cases state <;> rfl
  | nobleStateChange state =>
    obtain rfl := Option.some.inj hstep
    cases state <;> rfl
  | microtask =>
    rw [step] at hstep
    split at hstep
    · cases hstep
    · next job jobs hjobs =>
      obtain rfl := Option.some.inj hstep
      cases job with
      | blenoInitialized caller => rfl
      | nobleInitialized caller => simp [runJob, PromiseState.length_foldl_resolveAt]

/-- In a run no promise is lost. -/
theorem length_promises_run {es : List InitializeEvent} (hrun : run step c es = some c') :
    c'.promises.length = c.promises.length + es.count .initializeCalled := by
  induction es generalizing c with
  | nil =>
    obtain rfl := Option.some.inj hrun
    rfl
  | cons e es ih =>
    obtain ⟨d, hd, hrun⟩ := Option.bind_eq_some_iff.mp hrun
    rw [ih hrun, length_promises_step hd, List.count_cons]
    simp only [beq_iff_eq]
    omega

/-- Both radios have completed exactly at the end, but for a microtask. -/
theorem InPhase.completed_iff (h : InPhase phase c) :
    c.BlenoCompleted ∧ c.NobleCompleted ↔ phase = .nobleReady ∨ phase = .done := by
  rw [BlenoCompleted, NobleCompleted, h.blenoCalls, h.nobleCalls]
  cases phase <;> simp [InitializePhase.blenoCalls, InitializePhase.nobleCalls]

/-- Once both have completed, the microtasks that are left serve every caller. -/
theorem InPhase.exists_resolved (h : InPhase phase c)
    (hcompleted : c.BlenoCompleted ∧ c.NobleCompleted) :
    ∃ d, run step c (List.replicate c.jobs.length .microtask) = some d ∧ d.jobs = [] ∧
      d.promises.length = c.promises.length ∧ d.Resolved := by
  have hjobs := h.jobs
  rcases h.completed_iff.mp hcompleted with rfl | rfl
  · have hstep : c.step .microtask = some ({ c with jobs := [] }.runJob (.nobleInitialized 0)) := by
      rw [step, hjobs]
      rfl
    have hd := inPhase_microtask h hstep
    have hlength := length_promises_step hstep
    refine ⟨_, ?_, hd.jobs, hlength, hd.resolved rfl⟩
    rw [hjobs]
    exact Option.bind_eq_some_iff.mpr ⟨_, hstep, rfl⟩
  · exact ⟨c, by rw [hjobs]; rfl, hjobs, rfl, h.resolved rfl⟩

/-- In every run the radios are initialised at most once, each caller has a promise that stays
unresolved until both have completed and is resolved once they have and the microtasks have run,
and the flags are never both set. -/
theorem initializes_once {es : List InitializeEvent} (h : run step initial es = some c) :
    c.blenoCalls.length ≤ 1 ∧ c.nobleCalls.length ≤ 1 ∧
    c.promises.length = es.count .initializeCalled ∧
    (∀ p ∈ c.promises, p = .pending ∨ c.BlenoCompleted ∧ c.NobleCompleted) ∧
    (c.BlenoCompleted ∧ c.NobleCompleted →
      (c.jobs = [] → c.Resolved) ∧
      ∃ d, run step c (List.replicate c.jobs.length .microtask) = some d ∧ d.jobs = [] ∧
        d.promises.length = c.promises.length ∧ d.Resolved) ∧
    ¬ (c.initialized = true ∧ c.initializing = true) := by
  have hphase := inPhase_run inPhase_initial h
  generalize es.foldl InitializePhase.next .idle = phase at hphase
  refine ⟨?_, ?_, ?_, ?_, ?_, ?_⟩
  · rw [hphase.blenoCalls]
    cases phase <;> decide
  · rw [hphase.nobleCalls]
    cases phase <;> decide
  · rw [length_promises_run h]
    exact Nat.zero_add _
  · intro p hp
    by_cases hdone : phase = .done
    · exact .inr (hphase.completed_iff.mpr (.inr hdone))
    · exact .inl (hphase.pending hdone p hp)
  · intro hcompleted
    refine ⟨fun hjobs ↦ ?_, hphase.exists_resolved hcompleted⟩
    rcases hphase.completed_iff.mp hcompleted with rfl | rfl
    · cases hphase.jobs.symm.trans hjobs
    · exact hphase.resolved rfl
  · rw [hphase.initialized, hphase.initializing]
    cases phase <;> decide

/-- Callers before, during and after the initialisation, and one between noble and what follows. -/
def fiveCallers : List InitializeEvent :=
  [.initializeCalled, .initializeCalled, .nobleStateChange .poweredOn,
    .blenoStateChange .poweredOn, .microtask, .initializeCalled, .nobleStateChange .poweredOn,
    .initializeCalled, .microtask, .initializeCalled]

/-- What they come to. -/
def servedCallers : BleInitialization where
  initialized := true
  initializing := false
  initializeQueue := [1, 2, 3]
  promises := List.replicate 5 (.fulfilled ())
  blenoCalls := [⟨0, .fulfilled ()⟩]
  nobleCalls := [⟨0, .fulfilled ()⟩]
  jobs := []
  commands := [.startScanning, .onDiscover]

/-- All of them are served by one initialisation. -/
theorem initializes_once_fiveCallers :
    servedCallers.blenoCalls.length ≤ 1 ∧ servedCallers.nobleCalls.length ≤ 1 ∧
      servedCallers.promises.length = 5 ∧ servedCallers.Resolved := by
  have hrun : run step initial fiveCallers = some servedCallers := by decide
  obtain ⟨hbleno, hnoble, hlength, -, hcompleted, -⟩ := initializes_once hrun
  have hradios : servedCallers.BlenoCompleted ∧ servedCallers.NobleCompleted :=
    ⟨⟨_, List.mem_cons_self, rfl⟩, ⟨_, List.mem_cons_self, rfl⟩⟩
  exact ⟨hbleno, hnoble, hlength, (hcompleted hradios).1 rfl⟩

end BleInitialization
end NexusEdge.Devices
