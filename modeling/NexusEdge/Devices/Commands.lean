import NexusEdge.Devices.Delegation

/-!
# Commands of applications

Library `Devices`. What becomes of the commands that applications send to devices,
`oracle/index.js:79–91`, in the network of device managers, `device-manager.js:182–264`. A command is
dispatched to a handler, waits for the link graph, is on its way to another gateway, or is dropped.
In every run it is in one of these places at most, unaltered; it is dropped only by a handler that
takes no commands or a link graph without the device.
-/

namespace NexusEdge.Devices
open NexusEdge.Base NexusEdge.Platform

/-! ### Caches and databases -/

namespace DeviceManager

variable {D : Type} {s t : DeviceManager D}

/-- Devices of the cache, and those whose callback is due, are in the database. -/
structure Backed (s : DeviceManager D) : Prop where
  cached : ∀ deviceId, s.deviceCache.hasOwn deviceId = true → s.Lists deviceId
  added : ∀ r ∈ s.added, s.Lists r.device.id

/-- A new process has an empty cache. -/
theorem Backed.cold (db : DevicesDb) : (cold db : DeviceManager D).Backed where
  cached _ h := nomatch h
  added _ h := absurd h List.not_mem_nil

/-- The cache is filled with the devices of the database. -/
theorem Backed.loadCache (hs : s.Backed) : s.loadCache.Backed where
  cached deviceId h := by
    rw [DeviceManager.loadCache, JsObject.hasOwn, get?_foldl_fetchAll, DevicesDb.handlerOf] at h
    cases hdevice : s.devicesDb.devices.get? deviceId with
    | some device => exact (JsObject.hasOwn_iff _ _).mpr ⟨device, hdevice⟩
    | none =>
      rw [hdevice] at h
      exact hs.cached deviceId h
  added := hs.added

/-- A device that has been stored is listed. -/
theorem lists_store (r : Registration) (s : DeviceManager D) : (s.store r).Lists r.device.id := by
  show (s.devicesDb.addDevice r.device).devices.hasOwn r.device.id = true
  unfold DevicesDb.addDevice
  split
  · next hown => exact hown
  · rw [JsObject.hasOwn_set, decide_eq_true rfl, Bool.true_or]

/-- Every event keeps it so. -/
theorem Backed.step {config : GatewayConfig} {e : DeviceEvent D} (hs : s.Backed)
    (ht : step config s e = some t) : t.Backed := by
  have hlists (deviceId : String) : s.Lists deviceId → t.Lists deviceId := lists_step ht
  cases e with
  | register deviceId deviceType handlerId =>
    obtain rfl := Option.some.inj ht
    unfold register
    split
    · exact hs
    · split
      · exact hs
      · exact ⟨hs.cached, hs.added⟩
  | deliver handlerId deviceId deviceType deviceData receivedTime =>
    obtain rfl := Option.some.inj ht
    unfold deliver
    split
    · exact hs
    · dsimp only
      split
      · exact ⟨hs.cached, hs.added⟩
      · split
        · exact ⟨hs.cached, hs.added⟩
        · exact ⟨hs.cached, hs.added⟩
  | store r =>
    rw [Devices.step] at ht
    split at ht
    · obtain rfl := Option.some.inj ht
      refine ⟨fun deviceId h ↦ hlists deviceId (hs.cached deviceId h), fun r' hr' ↦ ?_⟩
      rcases List.mem_append.mp hr' with hr' | hr'
      · exact hlists _ (hs.added r' hr')
      · rw [List.mem_singleton.mp hr']
        exact lists_store r s
    · cases ht
  | complete r =>
    rw [Devices.step] at ht
    split at ht
    · next hr =>
      obtain rfl := Option.some.inj ht
      obtain ⟨hcache, hdb, _, hadded⟩ := complete_frame r s
      constructor
      · intro deviceId h
        rw [hcache, JsObject.hasOwn_set, Bool.or_eq_true, decide_eq_true_eq] at h
        rcases h with rfl | h
        · exact hlists _ (hs.added r hr)
        · exact hlists _ (hs.cached deviceId h)
      · intro r' hr'
        rw [hadded] at hr'
        exact hlists _ (hs.added r' (List.mem_of_mem_erase hr'))
    · cases ht

end DeviceManager

/-! ### Where commands are -/

namespace DeviceNetwork

variable {D A : Type} {gateways : String → Gateway}

/-- A command that an application sends. -/
def sentBy : NetworkEvent D A → Option (String × A)
  | .send _ deviceId sendAPIData => some (deviceId, sendAPIData)
  | _ => none

/-- The commands of applications, numbered. -/
def requestsOf (es : List (NetworkEvent D A)) : List (SendRequest A) :=
  (es.filterMap sentBy).mapIdx fun id sent ↦ ⟨id, sent.1, sent.2⟩

/-- The next command, with its number. -/
def numbered (id : Nat) (e : NetworkEvent D A) : List (SendRequest A) :=
  ((sentBy e).map fun sent ↦ ⟨id, sent.1, sent.2⟩).toList

/-- It comes after the others. -/
theorem requestsOf_append (es : List (NetworkEvent D A)) (e : NetworkEvent D A) :
    requestsOf (es ++ [e]) = requestsOf es ++ numbered (requestsOf es).length e := by
  rw [requestsOf, List.filterMap_append, List.mapIdx_append, ← requestsOf,
    List.append_cancel_left_eq, requestsOf, List.length_mapIdx, numbered]
  cases hsent : sentBy e with
  | none => simp [hsent]
  | some sent => simp [hsent]

/-- Commands dispatched, waiting and on their way. -/
def held (n : DeviceNetwork D A) : List (SendRequest A) :=
  n.dispatched.map Prod.snd ++ (n.searching.map Prod.snd ++ n.delegating.map Delegation.request)

/-- The handler of the device takes commands, if the cache has one. -/
def Dispatches (gateways : String → Gateway) (n : DeviceNetwork D A) (gatewayIp deviceId : String) :
    Prop :=
  ∀ handlerId ∈ (n.managers gatewayIp).deviceCache.get? deviceId,
    handlerId ∈ (gateways gatewayIp).dispatching

instance (n : DeviceNetwork D A) (gatewayIp deviceId : String) :
    Decidable (n.Dispatches gateways gatewayIp deviceId) :=
  inferInstanceAs (Decidable (∀ _ ∈ _, _))

/-- The event does not drop a command. -/
def Keeps (gateways : String → Gateway) (n : DeviceNetwork D A) : NetworkEvent D A → Prop
  | .send gatewayIp deviceId _ => n.Dispatches gateways gatewayIp deviceId
  | .linkGraph k linkGraph => ∀ p ∈ n.searching[k]?,
      (getHostGatewayIp linkGraph p.2.deviceId).isSome = true
  | .arrive k => ∀ delegation ∈ n.delegating[k]?,
      n.Dispatches gateways delegation.recipient delegation.request.deviceId
  | _ => True

instance decidableKeeps (n : DeviceNetwork D A) :
    (e : NetworkEvent D A) → Decidable (n.Keeps gateways e)
  | .load _ | .device _ _ => isTrue trivial
  | .send _ _ _ => inferInstanceAs (Decidable (Dispatches _ _ _ _))
  | .linkGraph _ _ => inferInstanceAs (Decidable (∀ _ ∈ _, _))
  | .arrive _ => inferInstanceAs (Decidable (∀ _ ∈ _, _))

instance decidableArrivesInTime (n : DeviceNetwork D A) :
    (e : NetworkEvent D A) → Decidable (n.ArrivesInTime e)
  | .load _ | .device _ _ | .send _ _ _ | .linkGraph _ _ => isTrue trivial
  | .arrive k => inferInstanceAs (Decidable (∀ delegation ∈ n.delegating[k]?,
      n.loaded delegation.recipient = true ∧
        ¬ ((∃ r ∈ (n.managers delegation.recipient).added,
          r.device.id = delegation.request.deviceId) ∧
            ¬ n.Caches delegation.recipient delegation.request.deviceId)))

/-- The state after some events: commands are those of the applications, and dispatched where the
device is listed. -/
structure Tracked (es : List (NetworkEvent D A)) (n : DeviceNetwork D A) : Prop where
  issued : n.issued = (requestsOf es).length
  held : n.held.Subperm (requestsOf es)
  backed : ∀ gatewayIp, (n.managers gatewayIp).Backed
  listed : ∀ p ∈ n.dispatched, (n.managers p.1).Lists p.2.deviceId

variable {n t : DeviceNetwork D A} {e : NetworkEvent D A}

/-- A command is dispatched where the device is in the cache, waits, or is dropped. -/
theorem held_sendToDevice (gateways : String → Gateway) (gatewayIp : String)
    (request : SendRequest A) (n : DeviceNetwork D A) :
    ∃ dropped, (request :: n.held).Perm
        (dropped ++ (sendToDevice gateways gatewayIp request n).held) ∧
      (n.Dispatches gateways gatewayIp request.deviceId → dropped = []) := by
  unfold sendToDevice
  split
  · next handlerId hcached =>
    split
    · refine ⟨[], ?_, fun _ ↦ rfl⟩
      simp only [held, List.map_append, List.map_cons, List.map_nil, List.nil_append,
        List.append_assoc, List.cons_append]
      exact List.perm_middle.symm
    · next hnot => exact ⟨[request], List.Perm.refl _, fun hkeeps ↦ absurd (hkeeps _ hcached) hnot⟩
  · have hbefore : n.held = (n.dispatched.map Prod.snd ++ n.searching.map Prod.snd) ++
        n.delegating.map Delegation.request := (List.append_assoc _ _ _).symm
    have hafter : held { n with searching := n.searching ++ [(gatewayIp, request)] } =
        (n.dispatched.map Prod.snd ++ n.searching.map Prod.snd) ++
          request :: n.delegating.map Delegation.request := by simp [held]
    refine ⟨[], ?_, fun _ ↦ rfl⟩
    rw [hbefore, hafter]
    exact List.perm_middle.symm

/-- What an event does to the commands. -/
theorem held_step (ht : step gateways n e = some t) :
    ∃ dropped, (numbered n.issued e ++ n.held).Perm (dropped ++ t.held) ∧
      (n.Keeps gateways e → dropped = []) := by
  cases e with
  | load gatewayIp =>
    rw [step] at ht
    split at ht
    · cases ht
    · obtain rfl := Option.some.inj ht
      exact ⟨[], List.Perm.refl _, fun _ ↦ rfl⟩
  | device gatewayIp e =>
    rw [step] at ht
    split at ht
    · obtain ⟨s, _, rfl⟩ := Option.map_eq_some_iff.mp ht
      exact ⟨[], List.Perm.refl _, fun _ ↦ rfl⟩
    · cases ht
  | send gatewayIp deviceId sendAPIData =>
    obtain rfl := Option.some.inj ht
    exact held_sendToDevice gateways gatewayIp ⟨n.issued, deviceId, sendAPIData⟩
      { n with issued := n.issued + 1 }
  | linkGraph k linkGraph =>
    rw [step] at ht
    split at ht
    · obtain ⟨⟨gatewayIp, request⟩, hsearch, rfl⟩ := Option.map_eq_some_iff.mp ht
      have hsearching := (perm_cons_eraseIdx hsearch).map Prod.snd
      have herased : n.held.Perm (request :: held { n with searching := n.searching.eraseIdx k }) :=
        ((hsearching.append_right _).append_left _).trans List.perm_middle
      dsimp only
      split
      · refine ⟨[], herased.trans ?_, fun _ ↦ rfl⟩
        simp only [held, delegateSendRequest, List.map_append, List.map_cons, List.map_nil,
          List.nil_append, ← List.append_assoc]
        exact (List.perm_append_singleton _ _).symm
      · next hnone =>
        refine ⟨[request], herased, fun hkeeps ↦ ?_⟩
        have hsome := hkeeps (gatewayIp, request) hsearch
        rw [hnone] at hsome
        cases hsome
    · cases ht
  | arrive k =>
    obtain ⟨delegation, hd, rfl⟩ := Option.map_eq_some_iff.mp ht
    have hdelegating := (perm_cons_eraseIdx hd).map Delegation.request
    have herased : n.held.Perm (delegation.request :: (n.takeDelegation k delegation).held) := by
      have hmoved := ((hdelegating.append_left (n.searching.map Prod.snd)).trans
        List.perm_middle).append_left (n.dispatched.map Prod.snd)
      exact hmoved.trans List.perm_middle
    obtain ⟨dropped, hperm, hkeeps⟩ := held_sendToDevice gateways delegation.recipient
      delegation.request (n.takeDelegation k delegation)
    exact ⟨dropped, herased.trans hperm, fun h ↦ hkeeps (h delegation hd)⟩

/-- Commands are numbered as they are sent. -/
theorem issued_step (ht : step gateways n e = some t) :
    t.issued = n.issued + (numbered n.issued e).length := by
  have hsend (gatewayIp : String) (request : SendRequest A) (n : DeviceNetwork D A) :
      (sendToDevice gateways gatewayIp request n).issued = n.issued := by
    rcases sendToDevice_cases gateways gatewayIp request n with ⟨_, l, heq⟩ | ⟨_, heq⟩
    · rw [heq]
    · rw [heq]
  cases e with
  | load gatewayIp =>
    rw [step] at ht
    split at ht
    · cases ht
    · obtain rfl := Option.some.inj ht
      rfl
  | device gatewayIp e =>
    rw [step] at ht
    split at ht
    · obtain ⟨s, _, rfl⟩ := Option.map_eq_some_iff.mp ht
      rfl
    · cases ht
  | send gatewayIp deviceId sendAPIData =>
    obtain rfl := Option.some.inj ht
    exact hsend gatewayIp _ _
  | linkGraph k linkGraph =>
    rw [step] at ht
    split at ht
    · obtain ⟨⟨gatewayIp, request⟩, _, rfl⟩ := Option.map_eq_some_iff.mp ht
      dsimp only
      split <;> rfl
    · cases ht
  | arrive k =>
    obtain ⟨delegation, _, rfl⟩ := Option.map_eq_some_iff.mp ht
    exact hsend delegation.recipient _ _

/-- A manager that changes loses no device, and another one stays. -/
private theorem managers_step (hbacked : ∀ gatewayIp, (n.managers gatewayIp).Backed)
    (ht : step gateways n e = some t) (gatewayIp : String) :
    (t.managers gatewayIp).Backed ∧
      ∀ deviceId, (n.managers gatewayIp).Lists deviceId →
        (t.managers gatewayIp).Lists deviceId := by
  have hupdate {s : DeviceManager D} {changed : String} (hs : s.Backed)
      (hlists : ∀ deviceId, (n.managers changed).Lists deviceId → s.Lists deviceId) :
      (Function.update n.managers changed s gatewayIp).Backed ∧ ∀ deviceId,
        (n.managers gatewayIp).Lists deviceId →
          (Function.update n.managers changed s gatewayIp).Lists deviceId := by
    by_cases heq : gatewayIp = changed
    · subst heq
      rw [Function.update_self]
      exact ⟨hs, hlists⟩
    · rw [Function.update_of_ne heq]
      exact ⟨hbacked gatewayIp, fun _ h ↦ h⟩
  have hsend (recipient : String) (request : SendRequest A) (n : DeviceNetwork D A) :
      (sendToDevice gateways recipient request n).managers = n.managers := by
    rcases sendToDevice_cases gateways recipient request n with ⟨_, l, heq⟩ | ⟨_, heq⟩
    · rw [heq]
    · rw [heq]
  cases e with
  | load changed =>
    rw [step] at ht
    split at ht
    · cases ht
    · obtain rfl := Option.some.inj ht
      exact hupdate (hbacked changed).loadCache fun _ h ↦ h
  | device changed e =>
    rw [step] at ht
    split at ht
    · obtain ⟨s, hs, rfl⟩ := Option.map_eq_some_iff.mp ht
      exact hupdate ((hbacked changed).step hs) fun _ h ↦ DeviceManager.lists_step hs h
    · cases ht
  | send recipient deviceId sendAPIData =>
    obtain rfl := Option.some.inj ht
    rw [hsend]
    exact ⟨hbacked gatewayIp, fun _ h ↦ h⟩
  | linkGraph k linkGraph =>
    rw [step] at ht
    split at ht
    · obtain ⟨⟨recipient, request⟩, _, rfl⟩ := Option.map_eq_some_iff.mp ht
      dsimp only
      split
      · exact ⟨hbacked gatewayIp, fun _ h ↦ h⟩
      · exact ⟨hbacked gatewayIp, fun _ h ↦ h⟩
    · cases ht
  | arrive k =>
    obtain ⟨delegation, _, rfl⟩ := Option.map_eq_some_iff.mp ht
    rw [hsend]
    exact ⟨hbacked gatewayIp, fun _ h ↦ h⟩

/-- A command is dispatched where the device is in the cache. -/
theorem dispatched_step (ht : step gateways n e = some t) {p : String × SendRequest A}
    (hp : p ∈ t.dispatched) : p ∈ n.dispatched ∨ t.Caches p.1 p.2.deviceId := by
  have hsend (recipient : String) (request : SendRequest A) (n : DeviceNetwork D A)
      (hp : p ∈ (sendToDevice gateways recipient request n).dispatched) :
      p ∈ n.dispatched ∨ (sendToDevice gateways recipient request n).Caches p.1 p.2.deviceId := by
    unfold sendToDevice at hp ⊢
    split at hp
    · next handlerId hcached =>
      split at hp
      · next hdispatching =>
        refine (List.mem_append.mp hp).imp_right fun hp ↦ ?_
        obtain rfl := List.mem_singleton.mp hp
        rw [if_pos hdispatching]
        exact (JsObject.hasOwn_iff _ _).mpr ⟨handlerId, hcached⟩
      · exact Or.inl hp
    · exact Or.inl hp
  cases e with
  | load gatewayIp =>
    rw [step] at ht
    split at ht
    · cases ht
    · obtain rfl := Option.some.inj ht
      exact Or.inl hp
  | device gatewayIp e =>
    rw [step] at ht
    split at ht
    · obtain ⟨s, _, rfl⟩ := Option.map_eq_some_iff.mp ht
      exact Or.inl hp
    · cases ht
  | send gatewayIp deviceId sendAPIData =>
    obtain rfl := Option.some.inj ht
    exact hsend gatewayIp _ _ hp
  | linkGraph k linkGraph =>
    rw [step] at ht
    split at ht
    · obtain ⟨⟨gatewayIp, request⟩, _, rfl⟩ := Option.map_eq_some_iff.mp ht
      dsimp only at hp
      split at hp
      · exact Or.inl hp
      · exact Or.inl hp
    · cases ht
  | arrive k =>
    obtain ⟨delegation, _, rfl⟩ := Option.map_eq_some_iff.mp ht
    exact hsend delegation.recipient _ _ hp

/-! ### Runs -/

/-- Nothing was sent yet. -/
theorem Tracked.initial (dbs : String → DevicesDb) :
    Tracked [] (initial dbs : DeviceNetwork D A) where
  issued := rfl
  held := List.Subperm.refl _
  backed gatewayIp := DeviceManager.Backed.cold (dbs gatewayIp)
  listed _ h := absurd h List.not_mem_nil

/-- Every event keeps track. -/
theorem Tracked.step {before : List (NetworkEvent D A)} (h : Tracked before n)
    (ht : step gateways n e = some t) : Tracked (before ++ [e]) t := by
  have hmanagers (gatewayIp : String) := managers_step h.backed ht gatewayIp
  refine ⟨?_, ?_, fun gatewayIp ↦ (hmanagers gatewayIp).1, fun p hp ↦ ?_⟩
  · rw [issued_step ht, requestsOf_append, List.length_append, h.issued]
  · obtain ⟨dropped, hperm, _⟩ := held_step ht
    have hkept : t.held.Subperm (dropped ++ t.held) :=
      (List.sublist_append_right dropped t.held).subperm
    rw [requestsOf_append, ← h.issued]
    have hmore : (n.held ++ numbered n.issued e).Subperm
        (requestsOf before ++ numbered n.issued e) :=
      (List.subperm_append_right _).mpr h.held
    exact (hkept.trans (hperm.symm.trans List.perm_append_comm).subperm).trans hmore
  · rcases dispatched_step ht hp with hp | hcaches
    · exact (hmanagers p.1).2 _ (h.listed p hp)
    · exact (hmanagers p.1).1.cached _ hcaches

/-- In every run each command of an application is dispatched, waiting or on its way at most once,
with the device and the data it was sent with, and dispatched only at a gateway with the device in
its database; if no event drops a command, each of them is exactly once in one of these places. -/
theorem commands_run {dbs : String → DevicesDb} {es : List (NetworkEvent D A)}
    (ht : run (step gateways) (initial dbs) es = some t) :
    t.held.Subperm (requestsOf es) ∧
      (∀ p ∈ t.dispatched, (t.managers p.1).Lists p.2.deviceId) ∧
      (EachStep (step gateways) (Keeps gateways) (initial dbs) es →
        t.held.Perm (requestsOf es)) := by
  have htracked : Tracked es t :=
    run_history (step gateways) (P := Tracked) (fun _ _ _ _ h ht ↦ h.step ht) es []
      (Tracked.initial dbs) ht
  refine ⟨htracked.held, htracked.listed, fun hkeeps ↦ ?_⟩
  refine (run_history_of_eachStep (step gateways)
    (P := fun before n ↦ Tracked before n ∧ n.held.Perm (requestsOf before)) ?_ es []
    ⟨Tracked.initial dbs, List.Perm.refl _⟩ hkeeps ht).2
  rintro before n e t ⟨htracked, hperm⟩ hkeep ht
  refine ⟨htracked.step ht, ?_⟩
  obtain ⟨dropped, hstep, hnone⟩ := held_step ht
  rw [hnone hkeep, List.nil_append] at hstep
  rw [requestsOf_append, ← htracked.issued]
  exact hstep.symm.trans (List.perm_append_comm.trans (hperm.append_right _))

/-- Handlers of lights take commands. -/
def sampleGateways (_ : String) : Gateway := ⟨DeviceManager.bleGateway, ["lighting-handler"]⟩

/-- A command reaches the gateway of the device after that one has started. -/
def sentAfterStartUp : List (NetworkEvent String String) :=
  [.load "10.0.0.1", .send "10.0.0.1" "lamp" "on", .load "10.0.0.2",
    .linkGraph 0 (lampLinkGraph "10.0.0.2"), .arrive 0]

/-- It is dispatched there once. -/
theorem commands_run_lamp : ∃ t : DeviceNetwork String String,
    run (step sampleGateways) (initial (lampAt "10.0.0.2")) sentAfterStartUp = some t ∧
      t.held.Perm (requestsOf sentAfterStartUp) ∧ t.held.length = 1 ∧
      t.dispatched.map Prod.fst = ["10.0.0.2"] := by
  have hrun : (run (step sampleGateways) (initial (lampAt "10.0.0.2")) sentAfterStartUp).map
      (fun t ↦ t.dispatched.map Prod.fst) = some ["10.0.0.2"] := by decide
  obtain ⟨t, ht, hdispatched⟩ := Option.map_eq_some_iff.mp hrun
  have hheld := (commands_run ht).2.2 (by decide)
  exact ⟨t, ht, hheld, hheld.length_eq, hdispatched⟩

/-! ### Commands come to rest -/

/-- The answer of a link graph, or the arrival of a command. -/
def IsProgress : NetworkEvent D A → Bool
  | .linkGraph _ _ | .arrive _ => true
  | _ => false

/-- What is left to be done: a command that waits may be sent on its way. -/
def remaining (n : DeviceNetwork D A) : Nat := 2 * n.searching.length + n.delegating.length

/-- A command waits after it was sent, if at all. -/
theorem remaining_sendToDevice (gateways : String → Gateway) (gatewayIp : String)
    (request : SendRequest A) (n : DeviceNetwork D A) :
    (sendToDevice gateways gatewayIp request n).remaining ≤ n.remaining + 2 ∧
      (n.Caches gatewayIp request.deviceId →
        (sendToDevice gateways gatewayIp request n).remaining = n.remaining) := by
  rcases sendToDevice_cases gateways gatewayIp request n with ⟨_, l, heq⟩ | ⟨hnot, heq⟩
  · rw [heq]
    exact ⟨Nat.le_add_right _ _, fun _ ↦ rfl⟩
  · rw [heq]
    refine ⟨?_, fun hcaches ↦ absurd hcaches hnot⟩
    simp only [remaining, List.length_append, List.length_singleton]
    omega

/-- Progress leaves less to be done, as long as commands arrive in time. -/
theorem remaining_step (hn : n.Consistent) (he : n.ArrivesInTime e)
    (ht : step gateways n e = some t) :
    (if IsProgress e then 1 else 0) + t.remaining ≤ n.remaining + 2 * (numbered n.issued e).length
    := by
  cases e with
  | load gatewayIp =>
    rw [step] at ht
    split at ht
    · cases ht
    · obtain rfl := Option.some.inj ht
      exact Nat.le_of_eq (Nat.zero_add _)
  | device gatewayIp e =>
    rw [step] at ht
    split at ht
    · obtain ⟨s, _, rfl⟩ := Option.map_eq_some_iff.mp ht
      exact Nat.le_of_eq (Nat.zero_add _)
    · cases ht
  | send gatewayIp deviceId sendAPIData =>
    obtain rfl := Option.some.inj ht
    have hsend := (remaining_sendToDevice gateways gatewayIp ⟨n.issued, deviceId, sendAPIData⟩
      { n with issued := n.issued + 1 }).1
    exact (Nat.zero_add _).trans_le hsend
  | linkGraph k linkGraph =>
    rw [step] at ht
    split at ht
    · obtain ⟨⟨gatewayIp, request⟩, hsearch, rfl⟩ := Option.map_eq_some_iff.mp ht
      have hlength := (perm_cons_eraseIdx hsearch).length_eq
      rw [List.length_cons] at hlength
      simp only [IsProgress, if_true, numbered, sentBy, Option.map_none, Option.toList_none,
        List.length_nil]
      split
      · simp only [remaining, delegateSendRequest, List.length_append, List.length_singleton]
        omega
      · simp only [remaining]
        omega
    · cases ht
  | arrive k =>
    obtain ⟨delegation, hd, rfl⟩ := Option.map_eq_some_iff.mp ht
    have hlength := (perm_cons_eraseIdx hd).length_eq
    rw [List.length_cons] at hlength
    have hcaches := (caches_iff hn (List.mem_of_getElem? hd)).mpr (he delegation hd)
    rw [(remaining_sendToDevice gateways delegation.recipient delegation.request
      (n.takeDelegation k delegation)).2 hcaches]
    simp only [IsProgress, if_true, remaining, takeDelegation]
    omega

end DeviceNetwork
end NexusEdge.Devices
