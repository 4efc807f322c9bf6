import NexusEdge.Base.JsArray
import NexusEdge.Devices.Cache

/-!
# Delegation of send requests

Library `Devices`. A device manager dispatches a send request to the handler of a device in its
cache and delegates it otherwise, `device-manager.js:182–264`. It looks for the device in the
link graph, which lists what the databases of the gateways hold; the gateway it delegates to
looks into its cache. The cache is behind the database until it is loaded at start-up, and from
the moment a registration is stored to its callback.
-/

namespace NexusEdge.Devices
open NexusEdge.Base NexusEdge.Platform

/-- Message data of `send-to-device`, numbered by the order in which applications issued them. -/
structure SendRequest (A : Type) where
  id : Nat
  deviceId : String
  sendAPIData : A

/-- A `send-to-device` posted to another gateway by `delegateSendRequest`. -/
structure Delegation (A : Type) where
  sender : String
  recipient : String
  request : SendRequest A

/-- What does not change at a gateway. -/
structure Gateway where
  config : GatewayConfig
  /-- Loaded handlers with a `dispatch` function. -/
  dispatching : List String

/-- The device managers of the gateways, by ip, and the requests between them. -/
structure DeviceNetwork (D A : Type) where
  managers : String → DeviceManager D
  /-- The cache has been filled and the handlers have been started. -/
  loaded : String → Bool
  issued : Nat
  /-- Requests of a manager that waits for the link graph. -/
  searching : List (String × SendRequest A)
  /-- Delegations that have not arrived. -/
  delegating : List (Delegation A)
  /-- Delegations made. -/
  delegated : List (Delegation A)
  /-- Delegations that arrived at a manager without the device in its cache. -/
  missed : List (Delegation A)
  /-- Requests dispatched to a handler of the gateway. -/
  dispatched : List (String × SendRequest A)

/-! ### The code -/

namespace DeviceManager

variable {D : Type}

/-- A new process before the handlers are loaded. -/
def cold (db : DevicesDb) : DeviceManager D := { initial db with deviceCache := JsObject.empty }

/-- The callback of `fetchAll` at start-up, `device-manager.js:47–50`. -/
def loadCache (s : DeviceManager D) : DeviceManager D :=
  { s with
    deviceCache := s.devicesDb.fetchAll.foldl
      (fun cache device ↦ cache.set device.id device.handlerId) s.deviceCache }

end DeviceManager

/-- `getHostGatewayIp`, `device-manager.js:246–264`: of several hosts the first one resolves the
promise; `none` when it is rejected. -/
def getHostGatewayIp (linkGraph : LinkGraph) (deviceId : String) : Option String :=
  linkGraph.data.ownEntries.findSome? fun entry ↦
    if entry.2.Hosts deviceId then some entry.2.ip else none

namespace DeviceNetwork

variable {D A : Type}

/-- Every manager has just been started. -/
def initial (dbs : String → DevicesDb) : DeviceNetwork D A where
  managers gatewayIp := DeviceManager.cold (dbs gatewayIp)
  loaded _ := false
  issued := 0
  searching := []
  delegating := []
  delegated := []
  missed := []
  dispatched := []

/-- The manager of one gateway takes a new state. -/
def withManager (n : DeviceNetwork D A) (gatewayIp : String) (s : DeviceManager D) :
    DeviceNetwork D A :=
  { n with managers := Function.update n.managers gatewayIp s }

/-- The cache of the gateway holds the device. -/
def Caches (n : DeviceNetwork D A) (gatewayIp deviceId : String) : Prop :=
  (n.managers gatewayIp).deviceCache.hasOwn deviceId

instance (n : DeviceNetwork D A) (gatewayIp deviceId : String) :
    Decidable (n.Caches gatewayIp deviceId) := inferInstanceAs (Decidable (_ = true))

/-- The `send-to-device` listener, `device-manager.js:182–204`. -/
def sendToDevice (gateways : String → Gateway) (gatewayIp : String) (request : SendRequest A)
    (n : DeviceNetwork D A) : DeviceNetwork D A :=
  match (n.managers gatewayIp).deviceCache.get? request.deviceId with
  | some handlerId =>
    if handlerId ∈ (gateways gatewayIp).dispatching then
      { n with dispatched := n.dispatched ++ [(gatewayIp, request)] }
    else n
  | none => { n with searching := n.searching ++ [(gatewayIp, request)] }

/-- `delegateSendRequest`, `device-manager.js:216–238`. -/
def delegateSendRequest (gatewayIp hostIp : String) (request : SendRequest A)
    (n : DeviceNetwork D A) : DeviceNetwork D A :=
  { n with
    delegating := n.delegating ++ [⟨gatewayIp, hostIp, request⟩]
    delegated := n.delegated ++ [⟨gatewayIp, hostIp, request⟩] }

/-- The `k`th delegation under way arrives at its recipient. -/
def takeDelegation (k : Nat) (delegation : Delegation A) (n : DeviceNetwork D A) :
    DeviceNetwork D A :=
  { n with
    delegating := n.delegating.eraseIdx k
    missed := n.missed ++
      if n.Caches delegation.recipient delegation.request.deviceId then [] else [delegation] }

/-- A gateway answers with the devices in its database, `device-manager.js:169–174`, loaded or
not; what it held when it answered it still holds. -/
def Reported (n : DeviceNetwork D A) (linkGraph : LinkGraph) : Prop :=
  ∀ entry ∈ linkGraph.data.ownEntries, ∀ device ∈ entry.2.devices,
    (n.managers entry.2.ip).devicesDb.devices.get? device.id = some device

instance (n : DeviceNetwork D A) (linkGraph : LinkGraph) : Decidable (n.Reported linkGraph) :=
  inferInstanceAs (Decidable (∀ _ ∈ _, ∀ _ ∈ _, _ = _))

end DeviceNetwork

/-- What can happen in the network. A request to a gateway that cannot be reached does not
arrive, and a link graph that cannot be fetched leaves its search waiting. -/
inductive NetworkEvent (D A : Type) where
  /-- The cache of the gateway is loaded. -/
  | load (gatewayIp : String)
  /-- The handlers and the database of the gateway. -/
  | device (gatewayIp : String) (e : DeviceEvent D)
  /-- An application of the gateway calls the send API. -/
  | send (gatewayIp deviceId : String) (sendAPIData : A)
  /-- The link graph for the `k`th search arrives. -/
  | linkGraph (k : Nat) (linkGraph : LinkGraph)
  /-- The `k`th delegation under way arrives. -/
  | arrive (k : Nat)

namespace DeviceNetwork

variable {D A : Type}

/-- One event; handlers run once the cache is loaded. -/
def step (gateways : String → Gateway) (n : DeviceNetwork D A) :
    NetworkEvent D A → Option (DeviceNetwork D A)
  | .load gatewayIp =>
    if n.loaded gatewayIp then none
    else some { n.withManager gatewayIp (n.managers gatewayIp).loadCache with
      loaded := Function.update n.loaded gatewayIp true }
  | .device gatewayIp e =>
    if n.loaded gatewayIp then
      (Devices.step (gateways gatewayIp).config (n.managers gatewayIp) e).map
        (n.withManager gatewayIp)
    else none
  | .send gatewayIp deviceId sendAPIData =>
    some (sendToDevice gateways gatewayIp ⟨n.issued, deviceId, sendAPIData⟩
      { n with issued := n.issued + 1 })
  | .linkGraph k linkGraph =>
    if n.Reported linkGraph then
      n.searching[k]?.map fun (gatewayIp, request) ↦
        let n := { n with searching := n.searching.eraseIdx k }
        match getHostGatewayIp linkGraph request.deviceId with
        | some hostIp => n.delegateSendRequest gatewayIp hostIp request
        | none => n
    else none
  | .arrive k =>
    n.delegating[k]?.map fun delegation ↦
      sendToDevice gateways delegation.recipient delegation.request (n.takeDelegation k delegation)

/-- No request has been delegated twice, and every delegation that arrived found the device in
the cache. -/
structure DelegatedOnce (n : DeviceNetwork D A) : Prop where
  once : (n.delegated.map fun delegation ↦ delegation.request.id).Nodup
  found : n.missed = []

/-- The first registration of the device is stored and its callback has not run. -/
def AwaitsCallback (n : DeviceNetwork D A) (gatewayIp deviceId : String) : Prop :=
  (∃ r ∈ (n.managers gatewayIp).added, r.device.id = deviceId) ∧ ¬ n.Caches gatewayIp deviceId

/-- A delegation arrives after the recipient has loaded its cache, and not between the first
registration of the device and its callback. -/
def ArrivesInTime (n : DeviceNetwork D A) : NetworkEvent D A → Prop
  | .arrive k => ∀ delegation, n.delegating[k]? = some delegation →
      n.loaded delegation.recipient ∧
        ¬ n.AwaitsCallback delegation.recipient delegation.request.deviceId
  | _ => True

end DeviceNetwork
/-! ### Cache and database of one gateway -/

namespace DeviceManager

variable {D : Type}

/-- The database lists the device. -/
def Lists (s : DeviceManager D) (deviceId : String) : Prop := s.devicesDb.devices.hasOwn deviceId

/-- A device of the database is in the cache, or a callback that will put it there is due. -/
def Covered (s : DeviceManager D) : Prop :=
  ∀ deviceId, s.Lists deviceId →
    s.deviceCache.hasOwn deviceId ∨ ∃ r ∈ s.added, r.device.id = deviceId

/-- What holds of a manager before and after its cache is loaded. -/
def Filled : Bool → DeviceManager D → Prop
  | false, s => s.deviceCache = JsObject.empty
  | true, s => s.Covered

/-- A loaded cache covers the database. -/
theorem covered_loadCache (s : DeviceManager D) : s.loadCache.Covered := by
  intro deviceId hlists
  obtain ⟨device, hdevice⟩ : ∃ device, s.devicesDb.devices.get? deviceId = some device :=
    (JsObject.hasOwn_iff _ _).mp hlists
  left
  rw [JsObject.hasOwn, loadCache, get?_foldl_fetchAll, DevicesDb.handlerOf, hdevice]
  rfl

private theorem lists_addDevice (db : DevicesDb) (device : Device) (deviceId : String) :
    (db.addDevice device).devices.hasOwn deviceId =
      (decide (deviceId = device.id) || db.devices.hasOwn deviceId) := by
  unfold DevicesDb.addDevice
  split
  · next hown =>
    by_cases heq : deviceId = device.id
    · rw [heq, hown, Bool.or_true]
    · rw [decide_eq_false heq, Bool.false_or]
  · rw [JsObject.hasOwn_set]

section Step

variable {config : GatewayConfig} {s t : DeviceManager D} {e : DeviceEvent D}

private theorem calls_frame (h : step config s e = some t) :
    (t.deviceCache = s.deviceCache ∧ t.devicesDb = s.devicesDb ∧ t.added = s.added) ∨
      (∃ r, t = s.store r) ∨ ∃ r, t = s.complete r := by
  cases e with
  | register deviceId deviceType handlerId =>
    obtain rfl := Option.some.inj h
    left
    unfold register
    split
    · exact ⟨rfl, rfl, rfl⟩
    · split <;> exact ⟨rfl, rfl, rfl⟩
  | deliver handlerId deviceId deviceType deviceData receivedTime =>
    obtain rfl := Option.some.inj h
    left
    unfold deliver
    split
    · exact ⟨rfl, rfl, rfl⟩
    · simp only
      split
      · exact ⟨rfl, rfl, rfl⟩
      · split <;> exact ⟨rfl, rfl, rfl⟩
  | store r =>
    rw [step] at h
    split at h
    · exact Or.inr (Or.inl ⟨r, (Option.some.inj h).symm⟩)
    · cases h
  | complete r =>
    rw [step] at h
    split at h
    · exact Or.inr (Or.inr ⟨r, (Option.some.inj h).symm⟩)
    · cases h

/-- No device leaves the database. -/
theorem lists_step (h : step config s e = some t) {deviceId : String} (hs : s.Lists deviceId) :
    t.Lists deviceId := by
  rcases calls_frame h with ⟨_, hdb, _⟩ | ⟨r, rfl⟩ | ⟨r, rfl⟩
  · rw [Lists, hdb]
    exact hs
  · rw [Lists, store, lists_addDevice, hs, Bool.or_true]
  · rw [Lists, (complete_frame r s).2.1]
    exact hs

/-- Storing makes the callback due, and the callback puts the device into the cache. -/
theorem covered_step (h : step config s e = some t) (hs : s.Covered) : t.Covered := by
  rcases calls_frame h with ⟨hcache, hdb, hadded⟩ | ⟨r, rfl⟩ | ⟨r, rfl⟩
  · intro deviceId hlists
    rw [Lists, hdb] at hlists
    rw [hcache, hadded]
    exact hs deviceId hlists
  · intro deviceId hlists
    rw [Lists, store, lists_addDevice, Bool.or_eq_true, decide_eq_true_eq] at hlists
    rcases hlists with rfl | hlists
    · exact Or.inr ⟨r, List.mem_append_right _ List.mem_cons_self, rfl⟩
    · apply (hs deviceId hlists).imp_right
      rintro ⟨r', hr', hid⟩
      exact ⟨r', List.mem_append_left _ hr', hid⟩
  · intro deviceId hlists
    obtain ⟨hcache, hdb, _, hadded⟩ := complete_frame r s
    rw [Lists, hdb] at hlists
    rw [hcache, hadded, JsObject.hasOwn_set, Bool.or_eq_true, decide_eq_true_eq]
    rcases hs deviceId hlists with hown | ⟨r', hr', hid⟩
    · exact Or.inl (Or.inr hown)
    · by_cases heq : r' = r
      · exact Or.inl (Or.inl (heq ▸ hid.symm))
      · exact Or.inr ⟨r', (List.mem_erase_of_ne heq).mpr hr', hid⟩

end Step
end DeviceManager

/-! ### Requests in the network -/

namespace DeviceNetwork

variable {D A : Type}

/-- Requests that have been delegated and requests whose search may still delegate them. -/
def requestIds (n : DeviceNetwork D A) : List Nat :=
  n.delegated.map (fun delegation ↦ delegation.request.id) ++ n.searching.map fun p ↦ p.2.id

/-- A delegation under way goes to a gateway with the device in its database. -/
structure Consistent (n : DeviceNetwork D A) : Prop where
  filled : ∀ gatewayIp, (n.managers gatewayIp).Filled (n.loaded gatewayIp)
  made : ∀ delegation ∈ n.delegating, delegation ∈ n.delegated
  hosted : ∀ delegation ∈ n.delegating,
    (n.managers delegation.recipient).Lists delegation.request.deviceId
  issued : ∀ id ∈ n.requestIds, id < n.issued

/-- No request is delegated or searched for twice, and none was missed. -/
def Unrepeated (n : DeviceNetwork D A) : Prop := n.requestIds.Nodup ∧ n.missed = []

/-- A send request is dispatched from the cache or waits for the link graph. -/
theorem sendToDevice_cases (gateways : String → Gateway) (gatewayIp : String)
    (request : SendRequest A) (n : DeviceNetwork D A) :
    (n.Caches gatewayIp request.deviceId ∧
        ∃ l, sendToDevice gateways gatewayIp request n = { n with dispatched := l }) ∨
      (¬ n.Caches gatewayIp request.deviceId ∧ sendToDevice gateways gatewayIp request n =
        { n with searching := n.searching ++ [(gatewayIp, request)] }) := by
  unfold sendToDevice Caches
  split
  · next handlerId hcached =>
    refine Or.inl ⟨(JsObject.hasOwn_iff _ _).mpr ⟨handlerId, hcached⟩, ?_⟩
    split
    · exact ⟨_, rfl⟩
    · exact ⟨n.dispatched, rfl⟩
  · next hcached =>
    refine Or.inr ⟨?_, rfl⟩
    rw [JsObject.hasOwn, hcached]
    exact Bool.false_ne_true

/-- A host is an entry of the link graph that lists the device. -/
theorem lists_of_getHostGatewayIp {n : DeviceNetwork D A} {linkGraph : LinkGraph}
    {deviceId hostIp : String} (hreported : n.Reported linkGraph)
    (h : getHostGatewayIp linkGraph deviceId = some hostIp) : (n.managers hostIp).Lists deviceId := by
  obtain ⟨entry, hentry, hhost⟩ := List.exists_of_findSome?_eq_some h
  split at hhost
  · next hhosts =>
    obtain ⟨device, hdevice, rfl⟩ := hhosts
    obtain rfl := Option.some.inj hhost
    exact (JsObject.hasOwn_iff _ _).mpr ⟨device, hreported entry hentry device hdevice⟩
  · cases hhost

section Requests

variable {n : DeviceNetwork D A}

private theorem requestIds_append_searching (gatewayIp : String) (request : SendRequest A) :
    requestIds { n with searching := n.searching ++ [(gatewayIp, request)] } =
      n.requestIds ++ [request.id] := by
  rw [requestIds, List.map_append, ← List.append_assoc]
  rfl

private theorem requestIds_eraseIdx {k : Nat} {gatewayIp : String} {request : SendRequest A}
    (h : n.searching[k]? = some (gatewayIp, request)) :
    n.requestIds.Perm
      (request.id :: requestIds { n with searching := n.searching.eraseIdx k }) := by
  have hperm := (perm_cons_eraseIdx h).map fun p ↦ p.2.id
  exact (hperm.append_left _).trans List.perm_middle

private theorem requestIds_delegateSendRequest (gatewayIp hostIp : String)
    (request : SendRequest A) : (n.delegateSendRequest gatewayIp hostIp request).requestIds.Perm
      (request.id :: n.requestIds) := by
  rw [requestIds, delegateSendRequest, List.map_append, List.append_assoc]
  exact List.perm_middle

-- One manager takes a new state, with its cache loaded or not.
private theorem consistent_withManager (hn : n.Consistent) {gatewayIp : String}
    {s : DeviceManager D} {b : Bool}
    (hlists : ∀ deviceId, (n.managers gatewayIp).Lists deviceId → s.Lists deviceId)
    (hfilled : s.Filled b) :
    Consistent { n.withManager gatewayIp s with loaded := Function.update n.loaded gatewayIp b } := by
  refine ⟨fun g ↦ ?_, hn.made, fun delegation hd ↦ ?_, hn.issued⟩
  · simp only [withManager]
    by_cases hg : g = gatewayIp
    · rw [hg, Function.update_self, Function.update_self]
      exact hfilled
    · rw [Function.update_of_ne hg, Function.update_of_ne hg]
      exact hn.filled g
  · have hhosted := hn.hosted delegation hd
    simp only [withManager]
    by_cases hg : delegation.recipient = gatewayIp
    · rw [hg] at hhosted ⊢
      rw [Function.update_self]
      exact hlists _ hhosted
    · rw [Function.update_of_ne hg]
      exact hhosted

private theorem consistent_sendToDevice (hn : n.Consistent) (gateways : String → Gateway)
    (gatewayIp : String) {request : SendRequest A} (hid : request.id < n.issued) :
    (sendToDevice gateways gatewayIp request n).Consistent := by
  rcases sendToDevice_cases gateways gatewayIp request n with ⟨_, l, heq⟩ | ⟨_, heq⟩
  · rw [heq]
    exact ⟨hn.filled, hn.made, hn.hosted, hn.issued⟩
  · rw [heq]
    refine ⟨hn.filled, hn.made, hn.hosted, fun id hmem ↦ ?_⟩
    rw [requestIds_append_searching, List.mem_append, List.mem_singleton] at hmem
    rcases hmem with hmem | rfl
    · exact hn.issued id hmem
    · exact hid

private theorem consistent_takeDelegation (hn : n.Consistent) (k : Nat)
    (delegation : Delegation A) : (n.takeDelegation k delegation).Consistent where
  filled := hn.filled
  made other hother := hn.made other (List.mem_of_mem_eraseIdx hother)
  hosted other hother := hn.hosted other (List.mem_of_mem_eraseIdx hother)
  issued := hn.issued

-- The link graph names a host, which a delegation is sent to, or the search is given up.
private theorem consistent_delegateSendRequest (hn : n.Consistent) {gatewayIp hostIp : String}
    {request : SendRequest A} (hid : request.id < n.issued)
    (hhost : (n.managers hostIp).Lists request.deviceId) :
    (n.delegateSendRequest gatewayIp hostIp request).Consistent := by
  refine ⟨hn.filled, fun delegation hd ↦ ?_, fun delegation hd ↦ ?_, fun id hmem ↦ ?_⟩
  · exact (List.mem_append.mp hd).elim
      (fun hd ↦ List.mem_append_left _ (hn.made delegation hd)) (List.mem_append_right _)
  · rcases List.mem_append.mp hd with hd | hd
    · exact hn.hosted delegation hd
    · obtain rfl := List.mem_singleton.mp hd
      exact hhost
  · rw [(requestIds_delegateSendRequest gatewayIp hostIp request).mem_iff, List.mem_cons] at hmem
    rcases hmem with rfl | hmem
    · exact hid
    · exact hn.issued id hmem

/-- The recipient of a delegation holds the device in its cache exactly if the cache is loaded
and no first callback for the device is due. -/
theorem caches_iff (hn : n.Consistent) {delegation : Delegation A}
    (h : delegation ∈ n.delegating) :
    n.Caches delegation.recipient delegation.request.deviceId ↔
      n.loaded delegation.recipient ∧
        ¬ n.AwaitsCallback delegation.recipient delegation.request.deviceId := by
  have hfilled := hn.filled delegation.recipient
  cases hloaded : n.loaded delegation.recipient with
  | false =>
    rw [hloaded] at hfilled
    refine iff_of_false ?_ fun h ↦ Bool.false_ne_true h.1
    rw [Caches, hfilled]
    exact Bool.false_ne_true
  | true =>
    rw [hloaded] at hfilled
    constructor
    · exact fun hcached ↦ ⟨rfl, fun hawaits ↦ hawaits.2 hcached⟩
    · rintro ⟨_, hnot⟩
      by_contra hcached
      rcases hfilled _ (hn.hosted delegation h) with hown | hdue
      · exact hcached hown
      · exact hnot ⟨hdue, hcached⟩

/-- An event keeps the invariant. -/
theorem consistent_step {gateways : String → Gateway} {t : DeviceNetwork D A}
    {e : NetworkEvent D A} (hn : n.Consistent) (ht : step gateways n e = some t) :
    t.Consistent := by
  cases e with
  | load gatewayIp =>
    rw [step] at ht
    split at ht
    · cases ht
    · obtain rfl := Option.some.inj ht
      exact consistent_withManager (s := (n.managers gatewayIp).loadCache) (b := true) hn
        (fun _ h ↦ h) (DeviceManager.covered_loadCache _)
  | device gatewayIp e =>
    rw [step] at ht
    split at ht
    · next hloaded =>
      obtain ⟨s, hs, rfl⟩ := Option.map_eq_some_iff.mp ht
      have hcovered := hn.filled gatewayIp
      rw [hloaded] at hcovered
      have hconsistent := consistent_withManager (s := s) (b := true) hn
        (fun _ h ↦ DeviceManager.lists_step hs h) (DeviceManager.covered_step hs hcovered)
      rw [← hloaded, Function.update_eq_self] at hconsistent
      exact hconsistent
    · cases ht
  | send gatewayIp deviceId sendAPIData =>
    obtain rfl := Option.some.inj ht
    have hnext : Consistent { n with issued := n.issued + 1 } :=
      ⟨hn.filled, hn.made, hn.hosted, fun id hid ↦ Nat.lt_succ_of_lt (hn.issued id hid)⟩
    exact consistent_sendToDevice hnext gateways gatewayIp (Nat.lt_succ_self n.issued)
  | linkGraph k linkGraph =>
    rw [step] at ht
    split at ht
    · next hreported =>
      obtain ⟨⟨gatewayIp, request⟩, hsearch, rfl⟩ := Option.map_eq_some_iff.mp ht
      have hids := requestIds_eraseIdx hsearch
      have herased : Consistent { n with searching := n.searching.eraseIdx k } :=
        ⟨hn.filled, hn.made, hn.hosted,
          fun id hid ↦ hn.issued id (hids.mem_iff.mpr (List.mem_cons_of_mem _ hid))⟩
      simp only
      split
      · next hostIp hhost =>
        exact consistent_delegateSendRequest herased
          (hn.issued request.id (hids.mem_iff.mpr List.mem_cons_self))
          (lists_of_getHostGatewayIp hreported hhost)
      · exact herased
    · cases ht
  | arrive k =>
    obtain ⟨delegation, hd, rfl⟩ := Option.map_eq_some_iff.mp ht
    have hmade := hn.made delegation (List.mem_of_getElem? hd)
    exact consistent_sendToDevice (consistent_takeDelegation hn k delegation) gateways
      delegation.recipient (hn.issued _ (List.mem_append_left _ (List.mem_map_of_mem hmade)))

/-- An event whose delegation arrives in time repeats no request. -/
theorem unrepeated_step {gateways : String → Gateway} {t : DeviceNetwork D A}
    {e : NetworkEvent D A} (hn : n.Consistent) (hu : n.Unrepeated) (he : n.ArrivesInTime e)
    (ht : step gateways n e = some t) : t.Unrepeated := by
  obtain ⟨hnodup, hmissed⟩ := hu
  cases e with
  | load gatewayIp =>
    rw [step] at ht
    split at ht
    · cases ht
    · obtain rfl := Option.some.inj ht
      exact ⟨hnodup, hmissed⟩
  | device gatewayIp e =>
    rw [step] at ht
    split at ht
    · obtain ⟨s, hs, rfl⟩ := Option.map_eq_some_iff.mp ht
      exact ⟨hnodup, hmissed⟩
    · cases ht
  | send gatewayIp deviceId sendAPIData =>
    obtain rfl := Option.some.inj ht
    rcases sendToDevice_cases gateways gatewayIp ⟨n.issued, deviceId, sendAPIData⟩
      { n with issued := n.issued + 1 } with ⟨_, l, heq⟩ | ⟨_, heq⟩
    · rw [heq]
      exact ⟨hnodup, hmissed⟩
    · rw [heq]
      refine ⟨?_, hmissed⟩
      rw [requestIds_append_searching, ← List.concat_eq_append]
      -- the number of the request is larger than all in use
      exact hnodup.concat fun hid ↦ Nat.lt_irrefl _ (hn.issued _ hid)
  | linkGraph k linkGraph =>
    rw [step] at ht
    split at ht
    · obtain ⟨⟨gatewayIp, request⟩, hsearch, rfl⟩ := Option.map_eq_some_iff.mp ht
      have hids := requestIds_eraseIdx hsearch
      simp only
      split
      · next hostIp _ =>
        refine ⟨?_, hmissed⟩
        rw [(requestIds_delegateSendRequest gatewayIp hostIp request).nodup_iff, ← hids.nodup_iff]
        exact hnodup
      · exact ⟨(hids.nodup_iff.mp hnodup).of_cons, hmissed⟩
    · cases ht
  | arrive k =>
    obtain ⟨delegation, hd, rfl⟩ := Option.map_eq_some_iff.mp ht
    have hcaches := (caches_iff hn (List.mem_of_getElem? hd)).mpr (he delegation hd)
    have hmissed' : (n.takeDelegation k delegation).missed = [] := by
      rw [takeDelegation, if_pos hcaches, List.append_nil]
      exact hmissed
    rcases sendToDevice_cases gateways delegation.recipient delegation.request
      (n.takeDelegation k delegation) with ⟨_, l, heq⟩ | ⟨hnot, _⟩
    · rw [heq]
      exact ⟨hnodup, hmissed'⟩
    · exact absurd hcaches hnot

/-- A delegation that does not arrive in time is missed. -/
theorem arrivesInTime_of_found {gateways : String → Gateway} {t : DeviceNetwork D A}
    {e : NetworkEvent D A} (hn : n.Consistent) (ht : step gateways n e = some t)
    (hfound : t.missed = []) : n.ArrivesInTime e := by
  cases e with
  | arrive k =>
    intro delegation hd
    apply (caches_iff hn (List.mem_of_getElem? hd)).mp
    by_contra hnot
    rw [step, hd, Option.map_some] at ht
    obtain rfl := Option.some.inj ht
    have hlast : delegation ∈ (n.takeDelegation k delegation).missed := by
      rw [takeDelegation, if_neg hnot]
      exact List.mem_append_right _ List.mem_cons_self
    rcases sendToDevice_cases gateways delegation.recipient delegation.request
      (n.takeDelegation k delegation) with ⟨_, l, heq⟩ | ⟨_, heq⟩
    · rw [heq] at hfound
      exact List.ne_nil_of_mem hlast hfound
    · rw [heq] at hfound
      exact List.ne_nil_of_mem hlast hfound
  | load gatewayIp => trivial
  | device gatewayIp e => trivial
  | send gatewayIp deviceId sendAPIData => trivial
  | linkGraph k linkGraph => trivial

end Requests

/-- Nothing is under way at first. -/
theorem consistent_initial (dbs : String → DevicesDb) :
    (initial dbs : DeviceNetwork D A).Consistent where
  filled _ := rfl
  made _ h := by cases h
  hosted _ h := by cases h
  issued _ h := by cases h

/-- In a network started with any databases, whatever is loaded, registered and sent in whatever
order, every request is delegated at most once and reaches a cache that holds the device, exactly
if every delegation arrives in time. -/
theorem delegatedOnce_run (gateways : String → Gateway) (dbs : String → DevicesDb)
    (es : List (NetworkEvent D A)) :
    Always (step gateways) DelegatedOnce (initial dbs) es ↔
      EachStep (step gateways) ArrivesInTime (initial dbs) es := by
  refine always_iff_eachStep_of_imp (step gateways) (I := Consistent) (Q := Unrepeated) ?_
    (fun _ _ _ hn ht ↦ consistent_step hn ht) (fun _ _ _ hn hu he ht ↦ unrepeated_step hn hu he ht)
    (fun _ _ _ hn _ ht ht' ↦ arrivesInTime_of_found hn ht ht'.found) es (consistent_initial dbs)
    ⟨List.nodup_nil, rfl⟩
  exact fun n hu ↦ ⟨(List.nodup_append.mp hu.1).1, hu.2⟩

/-- One gateway has a device in its database from an earlier run. -/
def lampAt (hostIp gatewayIp : String) : DevicesDb :=
  if gatewayIp = hostIp then
    DevicesDb.empty.addDevice ⟨"lamp", "light", "lighting-handler", "ble-controller", false⟩
  else DevicesDb.empty

/-- The link graph of a network with one device. -/
def lampLinkGraph (hostIp : String) : LinkGraph where
  graph := JsObject.empty
  data := JsObject.empty.set "host"
    ⟨hostIp, [⟨"lamp", "light", "lighting-handler", "ble-controller", false⟩], []⟩

/-- A request reaches the gateway of the device while that one starts up. -/
def sentDuringStartUp : List (NetworkEvent String String) :=
  [.load "10.0.0.1", .send "10.0.0.1" "lamp" "on", .linkGraph 0 (lampLinkGraph "10.0.0.2"),
    .arrive 0, .linkGraph 0 (lampLinkGraph "10.0.0.2")]

/-- The gateway of the device does not find it in its cache and delegates the request to
itself. -/
theorem delegated_twice : ¬ ∀ (gateways : String → Gateway) (dbs : String → DevicesDb)
    (es : List (NetworkEvent String String)),
    Always (step gateways) DelegatedOnce (initial dbs) es := by
  intro h
  have hrun : (run (step fun _ ↦ ⟨DeviceManager.bleGateway, []⟩) (initial (lampAt "10.0.0.2"))
      sentDuringStartUp).map (fun n ↦ n.delegated.map fun delegation ↦
        (delegation.sender, delegation.recipient, delegation.request.id)) =
      some [("10.0.0.1", "10.0.0.2", 0), ("10.0.0.2", "10.0.0.2", 0)] := by decide
  obtain ⟨n, hn, hdelegated⟩ := Option.map_eq_some_iff.mp hrun
  have honce := (Always.last (step _) (h _ _ _) hn).once
  have hids : n.delegated.map (fun delegation ↦ delegation.request.id) = [0, 0] := by
    have := congrArg (List.map fun p ↦ p.2.2) hdelegated
    rwa [List.map_map] at this
  rw [hids] at honce
  exact absurd honce (by decide)

end DeviceNetwork
end NexusEdge.Devices
