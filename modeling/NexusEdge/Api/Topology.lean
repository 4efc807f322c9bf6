import NexusEdge.Api.LinkGraphController
import NexusEdge.Devices.GatewayScanner

/-!
# The topology of the platform

Library `Api`. `getActiveGateways` of `gateway-scanner.js:107–119`, which a gateway answers for its
neighbours, `gateway-api-controller.js:8–21`, and the link graph that another one makes of such
answers. Gateways start and stop, and their scanners receive advertisements among everything else,
in any order. A link graph lists the gateways that are reached along advertisements of the last five
seconds.
-/

namespace NexusEdge.Api
open NexusEdge.Base NexusEdge.Devices NexusEdge.Platform

variable {Payload : Type}

/-- `timeMillis`, `gateway-scanner.js:109`. -/
def timeMillis : Nat := 5 * 1000

/-- `getActiveGateways`, `gateway-scanner.js:107–119`. -/
def getActiveGateways (s : GatewayScanner Payload) (now : Nat) : List GatewayAddress :=
  ((s.discoveredGateways.ownEntries.map Prod.snd).filter fun gateway ↦
    now < gateway.lastActiveTime + timeMillis).map fun gateway ↦ ⟨gateway.id, gateway.ip⟩

/-- A gateway that runs: its scanner, and what its services answer. -/
structure RunningGateway (Payload : Type) where
  scanner : GatewayScanner Payload
  devices : List Device
  apps : List AppListing

/-- `getLinkGraphData`, `gateway-api-controller.js:8–21`. -/
def RunningGateway.partialLinkGraph (gateway : RunningGateway Payload) (now : Nat) :
    PartialLinkGraph :=
  ⟨getActiveGateways gateway.scanner now, gateway.devices, gateway.apps⟩

/-- The gateways that run, by ip. -/
abbrev Topology (Payload : Type) := JsObject (RunningGateway Payload)

/-- What happens at the gateways. -/
inductive TopologyEvent (Payload : Type) where
  /-- A gateway starts with the devices of its database. -/
  | start (ip : String) (devices : List Device)
  | stop (ip : String)
  | scanner (ip : String) (e : ScannerEvent Payload)
  /-- Devices or applications of a gateway have changed. -/
  | services (ip : String) (devices : List Device) (apps : List AppListing)

/-- Advertisements tell the ip of the gateway. -/
def TopologyEvent.Tells (ipOf : String → String) : TopologyEvent Payload → Prop
  | .scanner _ (.advertisement _ (some details) _) => details.ip = ipOf details.id
  | _ => True

namespace Topology

/-- One event; none when the event cannot happen. -/
def step (s : Topology Payload) : TopologyEvent Payload → Option (Topology Payload)
  | .start ip devices =>
    if s.hasOwn ip then none else some (s.set ip ⟨GatewayScanner.initial, devices, []⟩)
  | .stop ip => if s.hasOwn ip then some (s.erase ip) else none
  | .scanner ip e =>
    (s.get? ip).bind fun gateway ↦ (gateway.scanner.step e).map fun scanner ↦
      s.set ip { gateway with scanner := scanner }
  | .services ip devices apps =>
    (s.get? ip).map fun gateway ↦ s.set ip { gateway with devices := devices, apps := apps }

/-- The answers that the gateways give. -/
def network (s : Topology Payload) (now : Nat) : GatewayNetwork :=
  s.mapValues fun gateway ↦ gateway.partialLinkGraph now

/-! ### What was heard -/

/-- What a scanner learns about a gateway: its ip, and when it was active. -/
def heard? (id : String) : ScannerEvent Payload → Option (String × Nat)
  | .advertisement _ (some details) now => if details.id = id then some (details.ip, now) else none
  | _ => none

/-- The last that a scanner has learnt about a gateway. -/
def lastHeard (id : String) (es : List (ScannerEvent Payload)) : Option (String × Nat) :=
  (es.filterMap (heard? id)).getLast?

/-- The entry for it. -/
def entry (id : String) (heard : String × Nat) : DiscoveredGateway := ⟨id, heard.1, heard.2⟩

/-- The events of a scanner since its gateway has started, after one more event. -/
def receive (ip : String) (received : Option (List (ScannerEvent Payload))) :
    TopologyEvent Payload → Option (List (ScannerEvent Payload))
  | .start ip' _ => if ip' = ip then some [] else received
  | .stop ip' => if ip' = ip then none else received
  | .scanner ip' e => if ip' = ip then received.map (· ++ [e]) else received
  | .services _ _ _ => received

/-- The events of a scanner since its gateway has started; none if it does not run. -/
def received (ip : String) (es : List (TopologyEvent Payload)) :
    Option (List (ScannerEvent Payload)) :=
  es.foldl (receive ip) none

/-- A gateway has heard from another one within the last five seconds. -/
def Neighboring (es : List (TopologyEvent Payload)) (now : Nat) (ip : String)
    (node : GatewayAddress) : Prop :=
  ∃ scanned time, received ip es = some scanned ∧
    lastHeard node.id scanned = some (node.ip, time) ∧ now < time + timeMillis

/-- The running gateways on paths of neighbours from the local one. -/
inductive Linked (es : List (TopologyEvent Payload)) (now : Nat) (selfDetails : GatewayAddress) :
    GatewayAddress → Prop
  | self : (received selfDetails.ip es).isSome → Linked es now selfDetails selfDetails
  | next {a b : GatewayAddress} : Linked es now selfDetails a → Neighboring es now a.ip b →
      b.id ≠ selfDetails.id → (received b.ip es).isSome → Linked es now selfDetails b

/-- One more event. -/
theorem lastHeard_append (id : String) (es : List (ScannerEvent Payload))
    (e : ScannerEvent Payload) :
    lastHeard id (es ++ [e]) = (heard? id e).or (lastHeard id es) := by
  rw [lastHeard, lastHeard, List.filterMap_append, List.getLast?_append]
  cases h : heard? id e with
  | none => simp [h]
  | some heard => simp [h]

/-- One more event. -/
theorem received_append (ip : String) (es : List (TopologyEvent Payload))
    (e : TopologyEvent Payload) :
    received ip (es ++ [e]) = receive ip (received ip es) e := by
  rw [received, List.foldl_append]
  rfl

/-- An advertisement makes an entry, and nothing else changes any. -/
theorem discoveredGateways_step {s t : GatewayScanner Payload} {e : ScannerEvent Payload}
    (ht : s.step e = some t) (id : String) :
    t.discoveredGateways.get? id =
      ((heard? id e).map (entry id)).or (s.discoveredGateways.get? id) := by
  cases e with
  | talkToGateway gatewayIP payload =>
    obtain rfl := Option.some.inj ht
    rw [GatewayScanner.talkToGateway]
    split <;> rfl
  | advertisement peripheral details now =>
    cases details with
    | none =>
      obtain rfl := Option.some.inj ht
      rfl
    | some details =>
      obtain rfl := Option.some.inj ht
      have hset : (s.handlePeripheral peripheral details now).discoveredGateways =
          s.discoveredGateways.set details.id ⟨details.id, details.ip, now⟩ := by
        rw [GatewayScanner.handlePeripheral]
        split <;> rfl
      rw [hset, JsObject.get?_set, heard?]
      by_cases hid : details.id = id
      · subst hid
        rw [if_pos rfl, if_pos rfl]
        rfl
      · rw [if_neg hid, if_neg (Ne.symm hid)]
        rfl
  | connect peripheral =>
    obtain rfl := Option.some.inj ht
    rfl
  | connected k answer =>
    simp only [GatewayScanner.step] at ht
    split at ht
    · cases ht
    · split at ht <;> obtain rfl := Option.some.inj ht <;> rfl
  | disconnected peripheral =>
    obtain rfl := Option.some.inj ht
    rfl
  | discovered handler answer =>
    obtain ⟨h, _, rfl⟩ := Option.map_eq_some_iff.mp ht
    have hsame : (s.writeMessage h answer).discoveredGateways = s.discoveredGateways := by
      simp only [GatewayScanner.writeMessage]
      split
      · split <;> rfl
      · rfl
    rw [hsame]
    rfl

/-- In every run of a scanner its entries are the last that it has learnt. -/
theorem discoveredGateways_run {s : GatewayScanner Payload} {es : List (ScannerEvent Payload)}
    (hs : run GatewayScanner.step GatewayScanner.initial es = some s) (id : String) :
    s.discoveredGateways.get? id = (lastHeard id es).map (entry id) := by
  refine run_history GatewayScanner.step (P := fun before s ↦
    s.discoveredGateways.get? id = (lastHeard id before).map (entry id)) ?_ es [] rfl hs
  intro before s e t h ht
  rw [discoveredGateways_step ht, h, lastHeard_append, Option.map_or]

/-- In every run of a scanner the active gateways are those heard within the last five seconds. -/
theorem mem_getActiveGateways_run {s : GatewayScanner Payload} {es : List (ScannerEvent Payload)}
    (hs : run GatewayScanner.step GatewayScanner.initial es = some s) (now : Nat)
    (node : GatewayAddress) :
    node ∈ getActiveGateways s now ↔
      ∃ time, lastHeard node.id es = some (node.ip, time) ∧ now < time + timeMillis := by
  simp only [getActiveGateways, List.mem_map, List.mem_filter, decide_eq_true_eq]
  constructor
  · rintro ⟨gateway, ⟨⟨⟨id, _⟩, hentry, rfl⟩, hactive⟩, rfl⟩
    have hget := (JsObject.mem_ownEntries_iff _ _ _).mp hentry
    rw [discoveredGateways_run hs] at hget
    obtain ⟨⟨ip, time⟩, hheard, hgateway⟩ := Option.map_eq_some_iff.mp hget
    rw [← hgateway] at hactive ⊢
    exact ⟨time, hheard, hactive⟩
  · rintro ⟨time, hheard, hactive⟩
    have hget : s.discoveredGateways.get? node.id = some ⟨node.id, node.ip, time⟩ := by
      rw [discoveredGateways_run hs, hheard]
      rfl
    exact ⟨_, ⟨⟨_, (JsObject.mem_ownEntries_iff _ _ _).mpr hget, rfl⟩, hactive⟩, rfl⟩

/-! ### All gateways -/

variable {s t : Topology Payload} {es : List (TopologyEvent Payload)}

/-- A gateway that runs has a scanner with these events. -/
def Scans (received : Option (List (ScannerEvent Payload)))
    (gateway : Option (RunningGateway Payload)) : Prop :=
  Option.Rel (fun scanned gateway ↦
    run GatewayScanner.step GatewayScanner.initial scanned = some gateway.scanner) received gateway

/-- Every step keeps it, for each gateway. -/
theorem scans_step {e : TopologyEvent Payload} (ht : step s e = some t) {ip : String}
    {received : Option (List (ScannerEvent Payload))} (h : Scans received (s.get? ip)) :
    Scans (receive ip received e) (t.get? ip) := by
  cases e with
  | start ip' devices =>
    simp only [step] at ht
    split at ht
    · cases ht
    · obtain rfl := Option.some.inj ht
      rw [receive, JsObject.get?_set]
      by_cases hip : ip' = ip
      · rw [if_pos hip, if_pos hip.symm]
        exact Option.Rel.some rfl
      · rw [if_neg hip, if_neg (Ne.symm hip)]
        exact h
  | stop ip' =>
    simp only [step] at ht
    split at ht
    · obtain rfl := Option.some.inj ht
      rw [receive, JsObject.get?_erase]
      by_cases hip : ip' = ip
      · rw [if_pos hip, if_pos hip.symm]
        exact Option.Rel.none
      · rw [if_neg hip, if_neg (Ne.symm hip)]
        exact h
    · cases ht
  | scanner ip' e =>
    obtain ⟨gateway, hgateway, ht⟩ := Option.bind_eq_some_iff.mp ht
    obtain ⟨scanner, hscanner, rfl⟩ := Option.map_eq_some_iff.mp ht
    rw [receive, JsObject.get?_set]
    by_cases hip : ip' = ip
    · subst hip
      rw [if_pos rfl, if_pos rfl]
      rw [hgateway] at h
      cases h with
      | some hrun =>
        apply Option.Rel.some
        rw [run_append, hrun]
        simp [run, hscanner]
    · rw [if_neg hip, if_neg (Ne.symm hip)]
      exact h
  | services ip' devices apps =>
    obtain ⟨gateway, hgateway, rfl⟩ := Option.map_eq_some_iff.mp ht
    rw [receive, JsObject.get?_set]
    by_cases hip : ip = ip'
    · subst hip
      rw [if_pos rfl]
      rw [hgateway] at h
      cases h with
      | some hrun => exact Option.Rel.some hrun
    · rw [if_neg hip]
      exact h

/-- In every run each gateway has the scanner that its events make. -/
theorem scans_run (hs : run step JsObject.empty es = some s) (ip : String) :
    Scans (received ip es) (s.get? ip) := by
  have hempty : Scans (received ip []) ((JsObject.empty : Topology Payload).get? ip) :=
    Option.Rel.none
  refine run_history step (P := fun before s ↦ Scans (received ip before) (s.get? ip)) ?_ es []
    hempty hs
  intro before s e t h ht
  rw [received_append]
  exact scans_step ht h

/-- Either a gateway does not run, or it has the scanner that its events make. -/
theorem scanner_run (hs : run step JsObject.empty es = some s) (ip : String) :
    (received ip es = none ∧ s.get? ip = none) ∨
      ∃ scanned gateway, received ip es = some scanned ∧ s.get? ip = some gateway ∧
        run GatewayScanner.step GatewayScanner.initial scanned = some gateway.scanner := by
  have h := scans_run hs ip
  cases hreceived : received ip es with
  | none =>
    rw [hreceived] at h
    cases hgateway : s.get? ip with
    | none => exact Or.inl ⟨rfl, rfl⟩
    | some gateway =>
      rw [hgateway] at h
      cases h
  | some scanned =>
    rw [hreceived] at h
    cases hgateway : s.get? ip with
    | none =>
      rw [hgateway] at h
      cases h
    | some gateway =>
      rw [hgateway] at h
      cases h with
      | some hrun => exact Or.inr ⟨scanned, gateway, rfl, rfl, hrun⟩

/-- A gateway answers as long as it runs. -/
theorem answers_iff (hs : run step JsObject.empty es = some s) (now : Nat) (node : GatewayAddress) :
    Answers (s.network now) node ↔ (received node.ip es).isSome := by
  rw [Answers, getPartialLinkGraphData, network, JsObject.get?_mapValues, Option.isSome_map]
  rcases scanner_run hs node.ip with ⟨hreceived, hgateway⟩ | ⟨_, _, hreceived, hgateway, _⟩
  · rw [hreceived, hgateway]
    exact Iff.rfl
  · rw [hreceived, hgateway]
    exact Iff.rfl

/-- Its answer lists the gateways that it has heard. -/
theorem mem_neighbors_iff (hs : run step JsObject.empty es = some s) (now : Nat)
    (node neighbor : GatewayAddress) :
    neighbor ∈ neighbors (s.network now) node ↔ Neighboring es now node.ip neighbor := by
  rw [neighbors, getPartialLinkGraphData, network, JsObject.get?_mapValues, Neighboring]
  rcases scanner_run hs node.ip with ⟨hreceived, hgateway⟩ | ⟨_, _, hreceived, hgateway, hrun⟩
  · simp [hreceived, hgateway]
  · simp [hreceived, hgateway, RunningGateway.partialLinkGraph, mem_getActiveGateways_run hrun]

/-- The entry of a gateway that answers. -/
theorem reported_iff (now : Nat) (node : GatewayAddress) (d : GatewayData) :
    reported (s.network now) node = some d ↔ d.ip = node.ip ∧
      ∃ gateway, s.get? node.ip = some gateway ∧ d.devices = gateway.devices ∧
        d.apps = gateway.apps := by
  rw [reported, getPartialLinkGraphData, network, JsObject.get?_mapValues, Option.map_map,
    Option.map_eq_some_iff]
  constructor
  · rintro ⟨gateway, hgateway, rfl⟩
    exact ⟨rfl, gateway, hgateway, rfl, rfl⟩
  · rintro ⟨hip, gateway, hgateway, hdevices, happs⟩
    refine ⟨gateway, hgateway, ?_⟩
    show (⟨node.ip, gateway.devices, gateway.apps⟩ : GatewayData) = d
    rw [← hip, ← hdevices, ← happs]

/-- The gateways that are reached and answer are those linked to the local one. -/
theorem linked_iff (hs : run step JsObject.empty es = some s) (now : Nat)
    (selfDetails node : GatewayAddress) :
    Linked es now selfDetails node ↔
      Reachable (s.network now) selfDetails node ∧ Answers (s.network now) node := by
  constructor
  · intro h
    induction h with
    | self hruns => exact ⟨Reached.root, (answers_iff hs now _).mpr hruns⟩
    | next _ hneighboring hne hruns ih =>
      exact ⟨ih.1.next ((mem_neighbors_iff hs now _ _).mpr hneighboring) hne,
        (answers_iff hs now _).mpr hruns⟩
  · rintro ⟨hreached, hanswers⟩
    rw [answers_iff hs] at hanswers
    induction hreached with
    | root => exact Linked.self hanswers
    | next _ hmem hne ih =>
      have hneighboring := (mem_neighbors_iff hs now _ _).mp hmem
      obtain ⟨_, _, hreceived, _⟩ := id hneighboring
      exact (ih (by rw [hreceived]; rfl)).next hneighboring hne hanswers

/-- What was heard was told. -/
theorem ip_of_received {ipOf : String → String} (hes : ∀ e ∈ es, e.Tells ipOf) {ip : String}
    {scanned : List (ScannerEvent Payload)} (h : received ip es = some scanned) :
    ∀ e ∈ scanned, (TopologyEvent.scanner ip e).Tells ipOf := by
  induction es using List.reverseRecOn generalizing scanned with
  | nil => cases h
  | append_singleton es e ih =>
    rw [received_append] at h
    have hbefore (e' : TopologyEvent Payload) (h' : e' ∈ es) : e'.Tells ipOf :=
      hes e' (List.mem_append_left _ h')
    cases e with
    | start ip' devices =>
      rw [receive] at h
      split at h
      · obtain rfl := Option.some.inj h
        exact fun _ h ↦ absurd h List.not_mem_nil
      · exact ih hbefore h
    | stop ip' =>
      rw [receive] at h
      split at h
      · cases h
      · exact ih hbefore h
    | scanner ip' e =>
      rw [receive] at h
      split at h
      · next hip =>
        obtain ⟨scanned', hscanned', rfl⟩ := Option.map_eq_some_iff.mp h
        intro e' he'
        rcases List.mem_append.mp he' with he' | he'
        · exact ih hbefore hscanned' e' he'
        · rw [List.mem_singleton.mp he', ← hip]
          exact hes _ (List.mem_append_right _ List.mem_cons_self)
      · exact ih hbefore h
    | services ip' devices apps => exact ih hbefore h

/-- Neighbours have the ip that was told. -/
theorem Neighboring.ip_eq {ipOf : String → String} (hes : ∀ e ∈ es, e.Tells ipOf) {now : Nat}
    {ip : String} {node : GatewayAddress} (h : Neighboring es now ip node) :
    node.ip = ipOf node.id := by
  obtain ⟨scanned, time, hreceived, hheard, _⟩ := h
  obtain ⟨e, he, hheard⟩ := List.mem_filterMap.mp (List.mem_of_getLast? hheard)
  have htells := ip_of_received hes hreceived e he
  unfold heard? at hheard
  split at hheard
  · split at hheard
    · next hid =>
      have hip := congrArg Prod.fst (Option.some.inj hheard)
      rw [← hid]
      exact hip.symm.trans htells
    · cases hheard
  · cases hheard

/-- The answers agree about ips. -/
theorem consistent_network (hs : run step JsObject.empty es = some s) {ipOf : String → String}
    (hes : ∀ e ∈ es, e.Tells ipOf) (now : Nat) : (s.network now).Consistent := by
  have hip (ip : String) (answer : PartialLinkGraph) (h : (ip, answer) ∈ (s.network now).entries)
      (n : GatewayAddress) (hn : n ∈ answer.neighbors) : n.ip = ipOf n.id := by
    have hneighbors : n ∈ neighbors (s.network now) ⟨"", ip⟩ := by
      rw [neighbors, getPartialLinkGraphData, (JsObject.get?_eq_some_iff _ _ _).mpr h]
      exact hn
    exact ((mem_neighbors_iff hs now _ n).mp hneighbors).ip_eq hes
  rintro ⟨ip, answer⟩ hanswer ⟨ip', answer'⟩ hanswer' n hn m hm hid
  rw [hip ip answer hanswer n hn, hip ip' answer' hanswer' m hm, hid]

/-- In every state of the platform the link graph that a gateway makes has an entry, with what its
services answer, for each running gateway that is linked to it, over gateways that have heard each
other within the last five seconds since they started, and no other entries. -/
theorem linkGraph_run (hs : run step JsObject.empty es = some s) {ipOf : String → String}
    (hes : ∀ e ∈ es, e.Tells ipOf) (now : Nat) (selfDetails : GatewayAddress) :
    ∃ u, Returns (s.network now) selfDetails u ∧
      ∀ id d, u.linkGraph.data.get? id = some d ↔ Linked es now selfDetails ⟨id, d.ip⟩ ∧
        ∃ gateway, s.get? d.ip = some gateway ∧ d.devices = gateway.devices ∧
          d.apps = gateway.apps := by
  obtain ⟨u, hu⟩ := exists_returns (s.network now) selfDetails
  refine ⟨u, hu, fun id d ↦ ?_⟩
  rw [get?_data_of_returns (consistent_network hs hes now) hu, linked_iff hs]
  constructor
  · rintro ⟨node, hreach, rfl, hreported⟩
    obtain ⟨hip, gateway, hgateway, hrest⟩ := (reported_iff now node d).mp hreported
    have hnode : node = ⟨node.id, d.ip⟩ := by rw [hip]
    have hanswers : Answers (s.network now) node := by
      rw [Answers, getPartialLinkGraphData, network, JsObject.get?_mapValues, hgateway]
      rfl
    rw [hnode] at hreach hanswers
    rw [← hip] at hgateway
    exact ⟨⟨hreach, hanswers⟩, gateway, hgateway, hrest⟩
  · rintro ⟨⟨hreach, _⟩, hgateway⟩
    exact ⟨⟨id, d.ip⟩, hreach, rfl, (reported_iff now _ d).mpr ⟨rfl, hgateway⟩⟩

/-- A gateway hears another one. -/
def hear (ip id heardIp : String) (now : Nat) : TopologyEvent Nat :=
  .scanner ip (.advertisement heardIp (some ⟨id, heardIp⟩) now)

/-- Gateway `B` hears `C`, and `A` hears `B`. -/
def sampleTopology : List (TopologyEvent Nat) :=
  [.start "10.0.0.1" [], .start "10.0.0.2" [], .start "10.0.0.3" [],
    hear "10.0.0.2" "C" "10.0.0.3" 1000, hear "10.0.0.1" "B" "10.0.0.2" 3000]

/-- Within five seconds `C` is in the link graph of `A`. -/
theorem linkGraph_run_sample : ∃ s u, run step JsObject.empty sampleTopology = some s ∧
    Returns (s.network 5999) ⟨"A", "10.0.0.1"⟩ u ∧
    u.linkGraph.data.get? "C" = some ⟨"10.0.0.3", [], []⟩ := by
  have hrun : (run step JsObject.empty sampleTopology).map (fun s ↦
      (s.get? "10.0.0.3").map fun gateway ↦ (gateway.devices, gateway.apps)) =
        some (some ([], [])) := by decide
  obtain ⟨s, hs, hgateway⟩ := Option.map_eq_some_iff.mp hrun
  obtain ⟨gateway, hgateway, hservices⟩ := Option.map_eq_some_iff.mp hgateway
  have htells : ∀ e ∈ sampleTopology,
      e.Tells fun id ↦ if id = "B" then "10.0.0.2" else "10.0.0.3" := by
    simp [sampleTopology, hear, TopologyEvent.Tells]
  obtain ⟨u, hu, hdata⟩ := linkGraph_run hs htells 5999 ⟨"A", "10.0.0.1"⟩
  refine ⟨s, u, hs, hu, (hdata _ _).mpr ⟨?_, gateway, hgateway, ?_, ?_⟩⟩
  · have hb : Linked sampleTopology 5999 ⟨"A", "10.0.0.1"⟩ ⟨"B", "10.0.0.2"⟩ :=
      (Linked.self (by decide)).next ⟨_, 3000, rfl, by decide, by decide⟩ (by decide) (by decide)
    exact hb.next ⟨_, 1000, rfl, by decide, by decide⟩ (by decide) (by decide)
  · exact (congrArg Prod.fst hservices).symm
  · exact (congrArg Prod.snd hservices).symm

end Topology
end NexusEdge.Api
