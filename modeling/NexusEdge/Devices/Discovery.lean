import Mathlib.Data.List.Nodup
import NexusEdge.Base.Buffer
import NexusEdge.Base.Loop
import NexusEdge.Devices.Radio

/-!
# Discovered peripherals

Library `Devices`. The listener of `discover`, `ble-controller.js:69–79`, and the subscriptions of
`getPeripheralsWithPredicate`, `ble-controller.js:166–175`. The listener is registered inside the
listener of the radio's state, once for every time the radio is switched on.
-/

namespace NexusEdge.Devices
open NexusEdge.Base

/-- Data that a peripheral advertises for a service. -/
structure ServiceData where
  uuid : String
  data : Buffer
  deriving DecidableEq

/-- `peripheral.advertisement`. -/
structure Advertisement where
  localName : Option String
  manufacturerData : Option Buffer
  serviceData : Option (List ServiceData)
  serviceUuids : Option (List String)
  deriving DecidableEq

/-- A discovered peripheral with an advertisement. -/
structure Peripheral where
  id : String
  advertisement : Advertisement
  deriving DecidableEq

/-- A subscriber; callback and predicate may throw. -/
structure Subscriber where
  id : Nat
  predicateFn : Peripheral → Except String Bool
  callbackFn : Peripheral → Except String Unit

/-- The body of the loop of the listener; its state are the subscribers called. -/
def notify (peripheral : Peripheral) (subscriber : Subscriber) (called : List Nat) :
    Outcome String (List Nat) :=
  match subscriber.predicateFn peripheral with
  | .error error => .throw called error
  | .ok false => .done called
  | .ok true =>
    match subscriber.callbackFn peripheral with
    | .error error => .throw (called ++ [subscriber.id]) error
    | .ok _ => .done (called ++ [subscriber.id])

/-- The listener of `discover`, `ble-controller.js:69–79`. -/
def onDiscover (subscribers : List Subscriber) (peripheral : Option Peripheral)
    (called : List Nat) : Outcome String (List Nat) :=
  match peripheral with
  | some peripheral => Outcome.forEach (notify peripheral) subscribers called
  | none => .done called

/-- `getPeripheralsWithUuid`, `ble-controller.js:182–187`. -/
def hasServiceUuid (uuid : String) (peripheral : Peripheral) : Except String Bool :=
  .ok (peripheral.advertisement.serviceUuids.any fun serviceUuids ↦ uuid ∈ serviceUuids)

/-! ### One run of the loop -/

/-- The subscriber's filter is satisfied. -/
def Subscriber.accepts (subscriber : Subscriber) (peripheral : Peripheral) : Bool :=
  match subscriber.predicateFn peripheral with
  | .ok true => true
  | _ => false

/-- The subscriber handles the peripheral: its filter returns, and so does its callback, if it is
called. -/
def Subscriber.Handles (subscriber : Subscriber) (peripheral : Peripheral) : Prop :=
  ∃ accepted, subscriber.predicateFn peripheral = .ok accepted ∧
    (accepted = true → Returns (subscriber.callbackFn peripheral))

/-- A subscriber is called if its filter is satisfied; one that does not handle the peripheral ends
the loop. -/
theorem notify_cases (peripheral : Peripheral) (subscriber : Subscriber) (called : List Nat) :
    (notify peripheral subscriber called).state =
      called ++ (if subscriber.accepts peripheral then [subscriber.id] else []) ∧
    ((notify peripheral subscriber called).error = none ↔ subscriber.Handles peripheral) := by
  unfold notify Subscriber.Handles Subscriber.accepts
  cases hpredicate : subscriber.predicateFn peripheral with
  | error error =>
    refine ⟨(List.append_nil called).symm, iff_of_false nofun ?_⟩
    rintro ⟨_, heq, _⟩
    cases heq
  | ok accepted =>
    cases accepted with
    | false =>
      refine ⟨(List.append_nil called).symm, iff_of_true rfl ⟨false, rfl, fun h ↦ ?_⟩⟩
      cases h
    | true =>
      cases hcallback : subscriber.callbackFn peripheral with
      | ok => exact ⟨rfl, iff_of_true rfl ⟨true, rfl, fun _ ↦ ⟨_, rfl⟩⟩⟩
      | error error =>
        refine ⟨rfl, iff_of_false nofun ?_⟩
        rintro ⟨accepted, haccepted, hreturns⟩
        obtain rfl := Except.ok.inj haccepted
        obtain ⟨value, hvalue⟩ := hreturns rfl
        cases hvalue

/-- The subscribers whose filters are satisfied. -/
def acceptedBy (subscribers : List Subscriber) (peripheral : Peripheral) : List Nat :=
  (subscribers.filter fun subscriber ↦ subscriber.accepts peripheral).map Subscriber.id

/-- They are those of one part of the list and those of the other. -/
theorem acceptedBy_append (subscribers subscribers' : List Subscriber) (peripheral : Peripheral) :
    acceptedBy (subscribers ++ subscribers') peripheral =
      acceptedBy subscribers peripheral ++ acceptedBy subscribers' peripheral := by
  rw [acceptedBy, List.filter_append, List.map_append, acceptedBy, acceptedBy]

private theorem acceptedBy_cons (subscriber : Subscriber) (subscribers : List Subscriber)
    (peripheral : Peripheral) : acceptedBy (subscriber :: subscribers) peripheral =
      (if subscriber.accepts peripheral then [subscriber.id] else []) ++
        acceptedBy subscribers peripheral := by
  rw [acceptedBy, List.filter_cons]
  split
  · rw [List.map_cons, acceptedBy, List.singleton_append]
  · rw [acceptedBy, List.nil_append]

/-- The loop ends at the first subscriber that does not handle the peripheral. -/
theorem onDiscover_failing {before : List Subscriber} {failing : Subscriber}
    {peripheral : Peripheral} (hbefore : ∀ subscriber ∈ before, subscriber.Handles peripheral)
    (hfailing : ¬ failing.Handles peripheral) (after : List Subscriber) (called : List Nat) :
    (onDiscover (before ++ failing :: after) (some peripheral) called).state =
      called ++ acceptedBy (before ++ [failing]) peripheral ∧
    (onDiscover (before ++ failing :: after) (some peripheral) called).error ≠ none := by
  simp only [onDiscover]
  induction before generalizing called with
  | nil =>
    obtain ⟨hstate, herror⟩ := notify_cases peripheral failing called
    have hends : (notify peripheral failing called).error ≠ none := fun h ↦ hfailing (herror.mp h)
    rw [List.nil_append, List.nil_append, Outcome.forEach, Outcome.andThen_of_ne_none hends, hstate,
      acceptedBy_cons]
    exact ⟨by rw [acceptedBy, List.filter_nil, List.map_nil, List.append_nil], hends⟩
  | cons subscriber before ih =>
    obtain ⟨hsubscriber, hbefore⟩ := List.forall_mem_cons.mp hbefore
    obtain ⟨hstate, herror⟩ := notify_cases peripheral subscriber called
    rw [List.cons_append, List.cons_append, Outcome.forEach,
      Outcome.andThen_of_none (herror.mpr hsubscriber), hstate, acceptedBy_cons,
      ← List.append_assoc]
    exact ih hbefore _

/-- Among subscribers that do not all handle the peripheral there is a first one. -/
theorem exists_failing {subscribers : List Subscriber} {peripheral : Peripheral}
    (h : ¬ ∀ subscriber ∈ subscribers, subscriber.Handles peripheral) :
    ∃ before failing after, subscribers = before ++ failing :: after ∧
      (∀ subscriber ∈ before, subscriber.Handles peripheral) ∧ ¬ failing.Handles peripheral := by
  induction subscribers with
  | nil => exact absurd (fun _ hmem ↦ (List.not_mem_nil hmem).elim) h
  | cons subscriber subscribers ih =>
    by_cases hsubscriber : subscriber.Handles peripheral
    · rw [List.forall_mem_cons, and_iff_right hsubscriber] at h
      obtain ⟨before, failing, after, rfl, hbefore, hfailing⟩ := ih h
      exact ⟨subscriber :: before, failing, after, rfl,
        List.forall_mem_cons.mpr ⟨hsubscriber, hbefore⟩, hfailing⟩
    · exact ⟨[], subscriber, subscribers, rfl, fun _ hmem ↦ (List.not_mem_nil hmem).elim,
        hsubscriber⟩

/-- The loop calls every subscriber whose filter is satisfied, and throws nothing, exactly if all
of them handle the peripheral. -/
theorem onDiscover_eq_done_iff (subscribers : List Subscriber) (peripheral : Peripheral)
    (called : List Nat) : onDiscover subscribers (some peripheral) called =
        .done (called ++ acceptedBy subscribers peripheral) ↔
      ∀ subscriber ∈ subscribers, subscriber.Handles peripheral := by
  constructor
  · intro h
    by_contra hfails
    obtain ⟨before, failing, after, rfl, hbefore, hfailing⟩ := exists_failing hfails
    exact (onDiscover_failing hbefore hfailing after called).2 (congrArg Outcome.error h)
  · intro h
    simp only [onDiscover]
    induction subscribers generalizing called with
    | nil => rw [acceptedBy, List.filter_nil, List.map_nil, List.append_nil, Outcome.forEach]
    | cons subscriber subscribers ih =>
      obtain ⟨hsubscriber, hsubscribers⟩ := List.forall_mem_cons.mp h
      obtain ⟨hstate, herror⟩ := notify_cases peripheral subscriber called
      rw [Outcome.forEach, Outcome.andThen_of_none (herror.mpr hsubscriber), hstate,
        ih _ hsubscribers, acceptedBy_cons, List.append_assoc]

/-! ### Switching the radio on and off -/

/-- A peripheral emitted by noble: the subscribers whose predicates accept it, and those called. -/
structure Dispatch where
  accepted : List Nat
  called : List Nat
  deriving DecidableEq

/-- The controller as far as discovery is concerned. -/
structure Discovery where
  subscriberCount : Nat
  subscribers : List Subscriber
  /-- Number of listeners of `discover`. -/
  listeners : Nat
  scanning : Bool
  dispatches : List Dispatch
  /-- No exception has ended the process. -/
  running : Bool

/-- What happens to it. -/
inductive DiscoveryEvent where
  | stateChange (state : AdapterState)
  /-- Another module starts or stops the scan, after the initialization. -/
  | setScanning (scanning : Bool)
  | getPeripheralsWithPredicate (predicateFn : Peripheral → Except String Bool)
      (callback : Peripheral → Except String Unit)
  | discover (peripheral : Option Peripheral)

namespace Discovery

/-- Nothing is initialized. -/
def initial : Discovery := ⟨0, [], 0, false, [], true⟩

/-- The listener of the radio's state, `ble-controller.js:64–90`. -/
def onStateChange (s : Discovery) : AdapterState → Discovery
  | .poweredOn => { s with scanning := true, listeners := s.listeners + 1 }
  | .poweredOff => { s with scanning := false }
  | .other _ => s

/-- `getPeripheralsWithPredicate`, `ble-controller.js:166–175`. -/
def getPeripheralsWithPredicate (s : Discovery) (predicateFn : Peripheral → Except String Bool)
    (callback : Peripheral → Except String Unit) : Discovery :=
  { s with
    subscriberCount := s.subscriberCount + 1
    subscribers := s.subscribers ++ [⟨s.subscriberCount, predicateFn, callback⟩] }

/-- noble emits `discover`: all its listeners are called, until one throws. -/
def emitDiscover (s : Discovery) (peripheral : Option Peripheral) : Outcome String (List Nat) :=
  Outcome.forEach (fun _ ↦ onDiscover s.subscribers peripheral) (List.range s.listeners) []

/-- The dispatch of a discovered peripheral. -/
def discover (s : Discovery) (peripheral : Option Peripheral) : Discovery :=
  { s with
    dispatches := s.dispatches ++
      [⟨peripheral.elim [] (acceptedBy s.subscribers), (s.emitDiscover peripheral).state⟩]
    running := (s.emitDiscover peripheral).error.isNone }

/-- What an event does while the process runs; none when it cannot happen. -/
def react (s : Discovery) : DiscoveryEvent → Option Discovery
  | .stateChange state => some (s.onStateChange state)
  | .setScanning scanning => if s.listeners = 0 then none else some { s with scanning := scanning }
  | .getPeripheralsWithPredicate predicateFn callback =>
    some (s.getPeripheralsWithPredicate predicateFn callback)
  | .discover peripheral => if s.scanning then some (s.discover peripheral) else none

/-- One event. -/
def step (s : Discovery) (e : DiscoveryEvent) : Option Discovery :=
  if s.running then s.react e else none

/-- Every subscriber whose predicate accepts a peripheral is called for it once, and no other. -/
def ExactlyOnce (s : Discovery) : Prop :=
  ∀ d ∈ s.dispatches, ∀ id, d.called.count id = if id ∈ d.accepted then 1 else 0

/-- A peripheral that all subscribers handle, and some predicate accepts, is discovered after the
radio has been switched on once; one that some subscriber does not handle is accepted by no
subscriber after the first such. -/
def ReachesAll (s : Discovery) : DiscoveryEvent → Prop
  | .discover (some peripheral) =>
    ((∀ subscriber ∈ s.subscribers, subscriber.Handles peripheral) →
      acceptedBy s.subscribers peripheral ≠ [] → s.listeners = 1) ∧
    ∀ before failing after, s.subscribers = before ++ failing :: after →
      (∀ subscriber ∈ before, subscriber.Handles peripheral) → ¬ failing.Handles peripheral →
        acceptedBy after peripheral = []
  | _ => True

/-- Subscribers are told apart by their ids, and the radio is scanned only for a listener. -/
structure Wf (s : Discovery) : Prop where
  ids : (s.subscribers.map Subscriber.id).Nodup
  fresh : ∀ subscriber ∈ s.subscribers, subscriber.id < s.subscriberCount
  listening : s.scanning = true → s.listeners ≠ 0

variable {s t : Discovery} {e : DiscoveryEvent}

/-- An event happens while the process runs. -/
theorem react_of_step (h : s.step e = some t) : s.react e = some t := by
  unfold step at h
  split at h
  · exact h
  · cases h

/-- The radio is reported to be on. -/
def switchesOn : DiscoveryEvent → Bool
  | .stateChange .poweredOn => true
  | _ => false

/-- Every report that the radio is on adds a listener. -/
theorem listeners_step (h : s.step e = some t) :
    t.listeners = s.listeners + if switchesOn e then 1 else 0 := by
  have h := react_of_step h
  cases e with
  | stateChange state =>
    obtain rfl := Option.some.inj h
    cases state with
    | poweredOn => rfl
    | poweredOff => rfl
    | other => rfl
  | setScanning scanning =>
    simp only [react] at h
    split at h
    · cases h
    · cases h
      rfl
  | getPeripheralsWithPredicate predicateFn callback =>
    obtain rfl := Option.some.inj h
    rfl
  | discover peripheral =>
    simp only [react] at h
    split at h
    · cases h
      rfl
    · cases h

/-- There are as many listeners as the radio has been switched on. -/
theorem listeners_run (es : List DiscoveryEvent) {s t : Discovery}
    (h : run Discovery.step s es = some t) :
    t.listeners = s.listeners + es.countP switchesOn := by
  induction es generalizing s with
  | nil =>
    obtain rfl := Option.some.inj h
    rw [List.countP_nil, Nat.add_zero]
  | cons e es ih =>
    obtain ⟨u, hu, hrun⟩ := Option.bind_eq_some_iff.mp h
    rw [ih hrun, listeners_step hu, List.countP_cons]
    omega

/-- Nobody has subscribed. -/
theorem wf_initial : initial.Wf := ⟨List.nodup_nil, nofun, nofun⟩

/-- A new subscriber has a new id. -/
theorem Wf.getPeripheralsWithPredicate (hs : s.Wf) (predicateFn : Peripheral → Except String Bool)
    (callback : Peripheral → Except String Unit) :
    (s.getPeripheralsWithPredicate predicateFn callback).Wf := by
  refine ⟨?_, fun subscriber hmem ↦ ?_, hs.listening⟩
  · simp only [Discovery.getPeripheralsWithPredicate, List.map_append, List.map_cons, List.map_nil]
    refine List.nodup_append.mpr ⟨hs.ids, List.nodup_singleton _, ?_⟩
    intro id hid id' hid' heq
    obtain ⟨subscriber, hsubscriber, rfl⟩ := List.mem_map.mp hid
    have hlt := hs.fresh subscriber hsubscriber
    rw [heq, List.mem_singleton.mp hid'] at hlt
    exact Nat.lt_irrefl _ hlt
  · rcases List.mem_append.mp hmem with hmem | hmem
    · exact Nat.lt_succ_of_lt (hs.fresh subscriber hmem)
    · rw [List.mem_singleton.mp hmem]
      exact Nat.lt_succ_self _

/-- Every event keeps that. -/
theorem Wf.step (hs : s.Wf) (ht : s.step e = some t) : t.Wf := by
  have ht := react_of_step ht
  cases e with
  | stateChange state =>
    obtain rfl := Option.some.inj ht
    cases state with
    | poweredOn => exact ⟨hs.ids, hs.fresh, fun _ ↦ Nat.succ_ne_zero _⟩
    | poweredOff => exact ⟨hs.ids, hs.fresh, fun hscanning ↦ absurd hscanning Bool.false_ne_true⟩
    | other => exact hs
  | setScanning scanning =>
    simp only [react] at ht
    split at ht
    · cases ht
    · next hlisteners =>
      cases ht
      exact ⟨hs.ids, hs.fresh, fun _ ↦ hlisteners⟩
  | getPeripheralsWithPredicate predicateFn callback =>
    obtain rfl := Option.some.inj ht
    exact hs.getPeripheralsWithPredicate predicateFn callback
  | discover peripheral =>
    simp only [react] at ht
    split at ht
    · cases ht
      exact ⟨hs.ids, hs.fresh, hs.listening⟩
    · cases ht

/-- The ids of accepting subscribers are distinct. -/
theorem Wf.nodup_acceptedBy (hs : s.Wf) (peripheral : Peripheral) :
    (acceptedBy s.subscribers peripheral).Nodup :=
  (List.filter_sublist.map Subscriber.id).nodup hs.ids

/-- If all subscribers handle the peripheral, every listener calls each accepting one once. -/
theorem Wf.count_emitDiscover (hs : s.Wf) {peripheral : Peripheral}
    (hhandles : ∀ subscriber ∈ s.subscribers, subscriber.Handles peripheral) (id : Nat) :
    (s.emitDiscover (some peripheral)).state.count id =
      if id ∈ acceptedBy s.subscribers peripheral then s.listeners else 0 := by
  have hloop : ∀ (ns : List Nat) (called : List Nat),
      Outcome.forEach (fun _ ↦ onDiscover s.subscribers (some peripheral)) ns called =
        .done (called ++ (ns.flatMap fun _ ↦ acceptedBy s.subscribers peripheral)) := by
    intro ns
    induction ns with
    | nil => exact fun called ↦ by rw [List.flatMap_nil, List.append_nil, Outcome.forEach]
    | cons n ns ih =>
      intro called
      have hone := (onDiscover_eq_done_iff s.subscribers peripheral called).mpr hhandles
      rw [Outcome.forEach, hone, Outcome.done_andThen, ih, List.flatMap_cons, List.append_assoc]
  have hcount : ∀ ns : List Nat, (ns.flatMap fun _ ↦ acceptedBy s.subscribers peripheral).count id =
      ns.length * (acceptedBy s.subscribers peripheral).count id := by
    intro ns
    induction ns with
    | nil => rw [List.flatMap_nil, List.count_nil, List.length_nil, Nat.zero_mul]
    | cons n ns ih =>
      rw [List.flatMap_cons, List.count_append, ih, List.length_cons, Nat.succ_mul, Nat.add_comm]
  rw [emitDiscover, hloop, Outcome.state_done, List.nil_append, hcount, List.length_range,
    (hs.nodup_acceptedBy peripheral).count]
  split
  · rw [Nat.mul_one]
  · rw [Nat.mul_zero]

/-- The first subscriber that does not handle the peripheral is the last to be called, by the first
listener. -/
theorem emitDiscover_failing (hlisteners : s.listeners ≠ 0) {before after : List Subscriber}
    {failing : Subscriber} {peripheral : Peripheral}
    (hsubscribers : s.subscribers = before ++ failing :: after)
    (hbefore : ∀ subscriber ∈ before, subscriber.Handles peripheral)
    (hfailing : ¬ failing.Handles peripheral) :
    (s.emitDiscover (some peripheral)).state = acceptedBy (before ++ [failing]) peripheral := by
  obtain ⟨n, hn⟩ := Nat.exists_eq_succ_of_ne_zero hlisteners
  obtain ⟨hstate, herror⟩ := onDiscover_failing hbefore hfailing after []
  rw [emitDiscover, hn, List.range_succ_eq_map, Outcome.forEach, hsubscribers,
    Outcome.andThen_of_ne_none herror, hstate, List.nil_append]

/-- An accepting subscriber after another one is none of those up to it. -/
theorem Wf.mem_acceptedBy_after (hs : s.Wf) {before after : List Subscriber}
    {failing : Subscriber} {peripheral : Peripheral} {id : Nat}
    (hsubscribers : s.subscribers = before ++ failing :: after)
    (hid : id ∈ acceptedBy after peripheral) :
    id ∈ acceptedBy s.subscribers peripheral ∧
      id ∉ acceptedBy (before ++ [failing]) peripheral := by
  have hnodup := hs.nodup_acceptedBy peripheral
  rw [hsubscribers, List.append_cons, acceptedBy_append] at hnodup ⊢
  exact ⟨List.mem_append_right _ hid, fun hbefore ↦ (List.nodup_append.mp hnodup).2.2 id hbefore id
    hid rfl⟩

/-- If all subscribers handle the peripheral, each accepting one is called once exactly if there is
one listener or none of them. -/
theorem Wf.exact_iff_of_handles (hs : s.Wf) {peripheral : Peripheral}
    (hhandles : ∀ subscriber ∈ s.subscribers, subscriber.Handles peripheral) :
    (∀ id, (s.emitDiscover (some peripheral)).state.count id =
      if id ∈ acceptedBy s.subscribers peripheral then 1 else 0) ↔
      s.ReachesAll (.discover (some peripheral)) := by
  rw [forall_congr' fun id ↦ by rw [hs.count_emitDiscover hhandles id]]
  simp only [ReachesAll]
  constructor
  · intro honce
    refine ⟨fun _ haccepted ↦ ?_, fun before failing after hsubscribers _ hfailing ↦ ?_⟩
    · obtain ⟨id, hid⟩ := List.exists_mem_of_ne_nil _ haccepted
      have hlisteners := honce id
      rwa [if_pos hid, if_pos hid] at hlisteners
    · refine absurd (hhandles failing ?_) hfailing
      rw [hsubscribers]
      exact List.mem_append_right _ List.mem_cons_self
  · rintro ⟨hreaches, -⟩ id
    split
    · next hid => exact hreaches hhandles (List.ne_nil_of_mem hid)
    · rfl

/-- If one does not, the others are exactly if none after it accepts the peripheral. -/
theorem Wf.exact_iff_of_fails (hs : s.Wf) (hlisteners : s.listeners ≠ 0) {peripheral : Peripheral}
    (hfails : ¬ ∀ subscriber ∈ s.subscribers, subscriber.Handles peripheral) :
    (∀ id, (s.emitDiscover (some peripheral)).state.count id =
      if id ∈ acceptedBy s.subscribers peripheral then 1 else 0) ↔
      s.ReachesAll (.discover (some peripheral)) := by
  simp only [ReachesAll]
  constructor
  · intro honce
    refine ⟨fun hall ↦ absurd hall hfails,
      fun before failing after hsubscribers hbefore hfailing ↦ ?_⟩
    refine List.eq_nil_iff_forall_not_mem.mpr fun id hid ↦ ?_
    obtain ⟨haccepted, hnotCalled⟩ := hs.mem_acceptedBy_after hsubscribers hid
    have hnone := honce id
    rw [emitDiscover_failing hlisteners hsubscribers hbefore hfailing, if_pos haccepted,
      List.count_eq_zero_of_not_mem hnotCalled] at hnone
    exact absurd hnone Nat.zero_ne_one
  · rintro ⟨-, hreaches⟩ id
    obtain ⟨before, failing, after, hsubscribers, hbefore, hfailing⟩ := exists_failing hfails
    have hafter := hreaches before failing after hsubscribers hbefore hfailing
    have haccepted : acceptedBy s.subscribers peripheral =
        acceptedBy (before ++ [failing]) peripheral := by
      rw [hsubscribers, List.append_cons, acceptedBy_append, hafter, List.append_nil]
    rw [emitDiscover_failing hlisteners hsubscribers hbefore hfailing, ← haccepted,
      (hs.nodup_acceptedBy peripheral).count]

/-- A dispatch calls every accepting subscriber once exactly if it reaches all of them once. -/
theorem exactlyOnce_discover_iff (hs : s.Wf) (hscanning : s.scanning = true) (h : s.ExactlyOnce)
    (peripheral : Option Peripheral) :
    (s.discover peripheral).ExactlyOnce ↔ s.ReachesAll (.discover peripheral) := by
  have hlast : (s.discover peripheral).ExactlyOnce ↔
      ∀ id, (s.emitDiscover peripheral).state.count id =
        if id ∈ peripheral.elim [] (acceptedBy s.subscribers) then 1 else 0 := by
    simp only [ExactlyOnce, discover, List.forall_mem_append, List.forall_mem_singleton]
    exact and_iff_right h
  rw [hlast]
  cases peripheral with
  | none =>
    refine iff_of_true (fun id ↦ ?_) trivial
    have hnobody : (s.emitDiscover none).state = [] :=
      congrArg Outcome.state (congrFun (Outcome.forEach_done (List.range s.listeners)) [])
    rw [hnobody, List.count_nil]
    exact (if_neg List.not_mem_nil).symm
  | some peripheral =>
    by_cases hhandles : ∀ subscriber ∈ s.subscribers, subscriber.Handles peripheral
    · exact hs.exact_iff_of_handles hhandles
    · exact hs.exact_iff_of_fails (hs.listening hscanning) hhandles

/-- An event keeps every dispatch exact exactly if it reaches all accepting subscribers once. -/
theorem exactlyOnce_step_iff (hs : s.Wf) (h : s.ExactlyOnce) (ht : s.step e = some t) :
    t.ExactlyOnce ↔ s.ReachesAll e := by
  have ht := react_of_step ht
  cases e with
  | stateChange state =>
    obtain rfl := Option.some.inj ht
    cases state with
    | poweredOn => exact iff_of_true h trivial
    | poweredOff => exact iff_of_true h trivial
    | other => exact iff_of_true h trivial
  | setScanning scanning =>
    simp only [react] at ht
    split at ht
    · cases ht
    · cases ht
      exact iff_of_true h trivial
  | getPeripheralsWithPredicate predicateFn callback =>
    obtain rfl := Option.some.inj ht
    exact iff_of_true h trivial
  | discover peripheral =>
    simp only [react] at ht
    split at ht
    · next hscanning =>
      cases ht
      exact exactlyOnce_discover_iff hs hscanning h peripheral
    · cases ht

/-- In a run of state changes, subscriptions and discovered peripherals every accepting subscriber
is called once for each peripheral exactly if every peripheral reaches all of them once: the radio
has been switched on once, or a subscriber that throws is the last of them. -/
theorem exactlyOnce_run (es : List DiscoveryEvent) :
    Always Discovery.step ExactlyOnce initial es ↔
      EachStep Discovery.step ReachesAll initial es :=
  always_iff_eachStep Discovery.step (fun _ _ _ hs ht ↦ Wf.step hs ht)
    (fun _ _ _ hs h ht ↦ exactlyOnce_step_iff hs h ht) es wf_initial nofun

/-- The radio is switched off and on again before a peripheral is discovered. -/
def switchedOnTwice : List DiscoveryEvent :=
  [.stateChange .poweredOn, .getPeripheralsWithPredicate (fun _ ↦ .ok true) fun _ ↦ .ok (),
    .stateChange .poweredOff, .stateChange .poweredOn,
    .discover (some ⟨"p", ⟨none, none, none, none⟩⟩)]

/-- Its subscriber is called twice. -/
theorem called_twice : ¬ ∀ es, Always Discovery.step ExactlyOnce initial es := by
  intro h
  have hfacts : (run Discovery.step initial switchedOnTwice).map Discovery.dispatches =
      some [⟨[0], [0, 0]⟩] := rfl
  obtain ⟨t, ht, hdispatches⟩ := Option.map_eq_some_iff.mp hfacts
  have honce := (h switchedOnTwice).last Discovery.step ht ⟨[0], [0, 0]⟩
    (by rw [hdispatches]; exact List.mem_singleton_self _) 0
  cases honce

end Discovery
end NexusEdge.Devices
