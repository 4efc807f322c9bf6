import Mathlib.Algebra.Order.Floor.Ring
import Mathlib.Data.Prod.Lex
import Mathlib.Data.Rat.Floor
import NexusEdge.Base.JsArray
import NexusEdge.Platform.Path
import NexusEdge.Streams.GatewayMapping

/-!
# Placement of applications

Library `Apps`. `schedule` of `app-manager/scheduler.js:98–181`: the resources of every
gateway of the link graph are requested, the gateways with enough of them are compared, the
application is executed on the best one and watched by another one. Memory and CPU values are
rational numbers.
-/

namespace NexusEdge.Apps
open NexusEdge.Base NexusEdge.Platform

/-- `Gateway`, `scheduler.js:6–18`. -/
structure Gateway where
  id : String
  ip : String
  memoryFreeMB : ℚ
  cpuFreePercent : ℚ
  numDevicesSupported : Nat
  deriving DecidableEq

/-- `CPU_FREE_PERCENT_THRESHOLD`, `scheduler.js:22`. -/
def cpuFreePercentThreshold : ℚ := 5 / 100

/-- `MEM_FREE_MB_THRESHOLD`, `scheduler.js:23`. -/
def memFreeMBThreshold : ℚ := 200

/-- `compareGateways`, `scheduler.js:32–42`. -/
def compareGateways (gateway1 gateway2 : Gateway) : Gateway :=
  if gateway1.numDevicesSupported = gateway2.numDevicesSupported then
    if gateway1.memoryFreeMB = gateway2.memoryFreeMB then
      if gateway1.cpuFreePercent ≥ gateway2.cpuFreePercent then gateway1 else gateway2
    else
      if gateway1.memoryFreeMB > gateway2.memoryFreeMB then gateway1 else gateway2
  else
    if gateway1.numDevicesSupported > gateway2.numDevicesSupported then gateway1 else gateway2

/-- `getHostGateways`, `scheduler.js:51–76`, a copy of the one of the stream manager. -/
def getHostGateways (devicesIds : List String) (linkGraph : LinkGraph) : JsObject (List String) :=
  Streams.getHostGateways devicesIds linkGraph

/-- `{cpuFreePercent, memoryFreeMB}`, `utils.js:82–85`. -/
structure ResourceUsage where
  cpuFreePercent : ℚ
  memoryFreeMB : ℚ
  deriving DecidableEq

/-- `metadata["devices"]`. -/
structure DevicesMetadata where
  ids : List String

/-- The metadata of an application, as far as the scheduler reads it. -/
structure Metadata where
  devices : Option DevicesMetadata

/-- `appFiles`, `scheduler.js:148–151`. -/
structure AppFiles where
  app : Path
  metadata : Path

/-- The files posted to a gateway. -/
inductive DeployRequest where
  /-- `executeAppOnGateway`, `utils.js:310–316`. -/
  | executeApp (gatewayIp : String) (appFiles : AppFiles) (appId : String) (linkGraph : LinkGraph)
  /-- `watchAppOnGateway`, `utils.js:326–332`. -/
  | watchApp (gatewayIp : String) (appFiles : AppFiles) (appId executorGatewayId : String)

/-- What the calls made by `schedule` yield. -/
structure SchedulerEnvironment where
  readJson : Path → Except String Metadata
  getLinkGraph : Except String LinkGraph
  /-- `fetch(url, {method: 'GET'}).then(body => body.json())`. -/
  fetchJson : String → Except String ResourceUsage
  /-- `Date.now()`. -/
  now : Nat
  /-- The SHA-1 digest in hexadecimal. -/
  sha1 : String → String
  /-- `Math.random()`. -/
  random : ℚ
  random_nonneg : 0 ≤ random
  random_lt_one : random < 1
  post : DeployRequest → Except String Unit

/-- The resolution of `schedule`, `scheduler.js:176–179`. -/
structure ScheduleInfo where
  executor : String
  watcher : String
  deriving DecidableEq

/-- What an application is deployed to. -/
structure Placement where
  linkGraph : LinkGraph
  candidateGateways : List Gateway
  executorGateway : Gateway

section Schedule

variable (env : SchedulerEnvironment)

/-- `getGatewayResourceUsage`, `utils.js:335–338`. -/
def getGatewayResourceUsage (gatewayIp : String) : Except String ResourceUsage :=
  env.fetchJson ("http://" ++ gatewayIp ++ ":5000/gateway/resource-usage")

/-- `generateAppId`, `scheduler.js:84–91`. -/
def generateAppId (appName : String) : String := env.sha1 (toString env.now ++ appName)

/-- The gateways with their resources and supported devices, `scheduler.js:113–131`; ids, ips
and resources are aligned by index. -/
def availableGateways (requiredDevices : List String) (linkGraph : LinkGraph) :
    Except String (List Gateway) := do
  let gatewayIds := linkGraph.data.keys
  let gatewayIpAddresses := linkGraph.data.ownEntries.map fun entry ↦ entry.2.ip
  let resourceUsages ← gatewayIpAddresses.mapM (getGatewayResourceUsage env)
  let gatewayToDeviceMapping := getHostGateways requiredDevices linkGraph
  return List.zipWith3
    (fun gatewayId gatewayIp (resourceUsage : ResourceUsage) ↦
      ⟨gatewayId, gatewayIp, resourceUsage.memoryFreeMB, resourceUsage.cpuFreePercent,
        if gatewayToDeviceMapping.hasOwn gatewayIp then
          ((gatewayToDeviceMapping.get? gatewayIp).getD []).length
        else 0⟩)
    gatewayIds gatewayIpAddresses resourceUsages

/-- Enough resources to run an application, `scheduler.js:134–135`. -/
def Gateway.hasResources (gateway : Gateway) : Bool :=
  gateway.cpuFreePercent ≥ cpuFreePercentThreshold ∧ gateway.memoryFreeMB ≥ memFreeMBThreshold

/-- The randomly picked gateway, `scheduler.js:164`. -/
def pickRandom (gateways : List Gateway) : Option Gateway :=
  gateways[⌊env.random * gateways.length⌋.toNat]?

/-- The choice of the executor, `scheduler.js:98–142`. -/
def placement (metadataPath : Path) : Except String Placement :=
  match env.readJson metadataPath with
  | .error err => .error ("error reading json file at metadataPath " ++ metadataPath.toText ++
      ". Error = " ++ err)
  | .ok metadata =>
    match metadata.devices with
    | none => .error "Metadata doesn't have devices specified."
    | some devices =>
      match env.getLinkGraph.bind fun linkGraph ↦
          (availableGateways env devices.ids linkGraph).map (linkGraph, ·) with
      | .error err => .error err
      | .ok (linkGraph, available) =>
        let candidateGateways := available.filter Gateway.hasResources
        match reduce compareGateways candidateGateways with
        | none => .error "Gateway devices are low on resources. Could not deploy application."
        | some executorGateway => .ok ⟨linkGraph, candidateGateways, executorGateway⟩

/-- Execution on the chosen gateway and choice of the watcher, `scheduler.js:140–179`. -/
def deploy (appFiles : AppFiles) (linkGraph : LinkGraph) (candidateGateways : List Gateway)
    (executorGateway : Gateway) : List DeployRequest × Except String ScheduleInfo :=
  let appId := generateAppId env appFiles.app.basename
  let execute := DeployRequest.executeApp executorGateway.ip appFiles appId linkGraph
  match env.post execute with
  | .error err => ([execute], .error ("Error trying to execute app " ++ appId ++ " on " ++
      executorGateway.ip ++ ". Error = " ++ err))
  | .ok _ =>
    let others := spliceOne candidateGateways (candidateGateways.idxOf executorGateway)
    match pickRandom env others with
    | some watcherGateway =>
      let watch := DeployRequest.watchApp watcherGateway.ip appFiles appId executorGateway.id
      match env.post watch with
      -- The message of the handler reads an undeclared variable.
      | .error _ => ([execute, watch], .error "error is not defined")
      | .ok _ => ([execute, watch], .ok ⟨executorGateway.ip, watcherGateway.ip⟩)
    | none => ([execute], .ok ⟨executorGateway.ip, ""⟩)

/-- `schedule`, `scheduler.js:98–181`: the requests sent, and the resolution or rejection. -/
def schedule (appPath metadataPath : Path) : List DeployRequest × Except String ScheduleInfo :=
  match placement env metadataPath with
  | .error err => ([], .error err)
  | .ok p => deploy env ⟨appPath, metadataPath⟩ p.linkGraph p.candidateGateways p.executorGateway

end Schedule

/-! ### The order of gateways -/

/-- Supported devices first, then free memory, then free CPU. -/
def Gateway.rank (gateway : Gateway) : ℕ ×ₗ ℚ ×ₗ ℚ :=
  toLex (gateway.numDevicesSupported, toLex (gateway.memoryFreeMB, gateway.cpuFreePercent))

/-- The comparison keeps its first argument unless the second one ranks higher. -/
theorem compareGateways_eq (gateway1 gateway2 : Gateway) :
    compareGateways gateway1 gateway2 =
      if gateway2.rank ≤ gateway1.rank then gateway1 else gateway2 := by
  have hrank : gateway2.rank ≤ gateway1.rank ↔
      gateway2.numDevicesSupported < gateway1.numDevicesSupported ∨
        gateway2.numDevicesSupported = gateway1.numDevicesSupported ∧
          (gateway2.memoryFreeMB < gateway1.memoryFreeMB ∨
            gateway2.memoryFreeMB = gateway1.memoryFreeMB ∧
              gateway2.cpuFreePercent ≤ gateway1.cpuFreePercent) := by
    rw [Gateway.rank, Gateway.rank, Prod.Lex.toLex_le_toLex]
    exact or_congr_right (and_congr_right fun _ ↦ Prod.Lex.toLex_le_toLex)
  unfold compareGateways
  simp only [hrank]
  split
  · next hdevices =>
    split
    · next hmemory => simp [hdevices, hmemory]
    · next hmemory => simp [hdevices, Ne.symm hmemory]
  · next hdevices => simp [Ne.symm hdevices]

/-! ### The gateways compared -/

/-- The gateway of a link graph entry with its reported resources; a required device counts as
often as it is listed. -/
def describe (requiredDevices : List String) (reports : String → ResourceUsage)
    (entry : String × GatewayData) : Gateway :=
  ⟨entry.1, entry.2.ip, (reports entry.2.ip).memoryFreeMB, (reports entry.2.ip).cpuFreePercent,
    requiredDevices.countP entry.2.Hosts⟩

/-- The gateways of a link graph that meet both thresholds, in its order. -/
def candidates (requiredDevices : List String) (reports : String → ResourceUsage)
    (linkGraph : LinkGraph) : List Gateway :=
  (linkGraph.data.ownEntries.map (describe requiredDevices reports)).filter Gateway.hasResources

private theorem mapM_ok {α β : Type} {f : α → Except String β} {g : α → β} (l : List α)
    (h : ∀ a ∈ l, f a = .ok (g a)) : l.mapM f = .ok (l.map g) := by
  induction l with
  | nil => rfl
  | cons a l ih =>
    rw [List.mapM_cons, h a List.mem_cons_self, ih fun b hb ↦ h b (List.mem_cons_of_mem a hb)]
    rfl

private theorem zipWith3_map {α β γ δ ι : Type} (f : β → γ → δ → ι) (a : α → β) (b : α → γ)
    (c : α → δ) (l : List α) :
    List.zipWith3 f (l.map a) (l.map b) (l.map c) = l.map fun x ↦ f (a x) (b x) (c x) := by
  induction l with
  | nil => rfl
  | cons x l ih => rw [List.map_cons, List.map_cons, List.map_cons, List.zipWith3, ih, List.map_cons]

-- With distinct keys only the entry looked for contributes.
private theorem flatMap_of_nodup {α β γ : Type} [DecidableEq β] {key : α → β} (f : α → List γ)
    {l : List α} (hl : (l.map key).Nodup) {a : α} (ha : a ∈ l) :
    (l.flatMap fun b ↦ if key b = key a then f b else []) = f a := by
  induction l with
  | nil => cases ha
  | cons b l ih =>
    rw [List.map_cons, List.nodup_cons] at hl
    rw [List.flatMap_cons]
    rcases List.mem_cons.mp ha with rfl | ha
    · have hrest : (l.flatMap fun b ↦ if key b = key a then f b else []) = [] := by
        rw [List.flatMap_eq_nil_iff]
        intro c hc
        rw [if_neg]
        intro heq
        exact hl.1 (heq ▸ List.mem_map_of_mem hc)
      rw [if_pos rfl, hrest, List.append_nil]
    · have hne : key b ≠ key a := fun heq ↦ hl.1 (heq ▸ List.mem_map_of_mem ha)
      rw [if_neg hne, ih hl.2 ha, List.nil_append]

/-- The number of devices the scheduler counts for a gateway. -/
theorem length_getHostGateways {requiredDevices : List String} {linkGraph : LinkGraph}
    (hips : (linkGraph.data.ownEntries.map (·.2.ip)).Nodup) {entry : String × GatewayData}
    (hentry : entry ∈ linkGraph.data.ownEntries) :
    (if (getHostGateways requiredDevices linkGraph).hasOwn entry.2.ip then
      (((getHostGateways requiredDevices linkGraph).get? entry.2.ip).getD []).length else 0) =
      requiredDevices.countP entry.2.Hosts := by
  have hlist : ((getHostGateways requiredDevices linkGraph).get? entry.2.ip).getD [] =
      requiredDevices.filter entry.2.Hosts := by
    rw [getHostGateways, Streams.getD_getHostGateways]
    exact flatMap_of_nodup (fun e ↦ requiredDevices.filter e.2.Hosts) hips hentry
  rw [List.countP_eq_length_filter, ← hlist]
  split
  · rfl
  · next hown =>
    rw [JsObject.get?_of_not_hasOwn hown]
    rfl

/-- The three aligned arrays describe the entries of the link graph in their order. -/
theorem availableGateways_eq {env : SchedulerEnvironment} {requiredDevices : List String}
    {linkGraph : LinkGraph} {reports : String → ResourceUsage}
    (hips : (linkGraph.data.ownEntries.map (·.2.ip)).Nodup)
    (hreports : ∀ entry ∈ linkGraph.data.ownEntries,
      getGatewayResourceUsage env entry.2.ip = .ok (reports entry.2.ip)) :
    availableGateways env requiredDevices linkGraph =
      .ok (linkGraph.data.ownEntries.map (describe requiredDevices reports)) := by
  have husages : (linkGraph.data.ownEntries.map fun entry ↦ entry.2.ip).mapM
      (getGatewayResourceUsage env) =
        .ok (linkGraph.data.ownEntries.map fun entry ↦ reports entry.2.ip) := by
    rw [List.mapM_map]
    exact mapM_ok _ hreports
  simp only [availableGateways]
  rw [husages]
  show Except.ok (List.zipWith3 _ (linkGraph.data.ownEntries.map Prod.fst) _ _) = _
  rw [zipWith3_map]
  apply congrArg
  apply List.map_congr_left
  intro entry hentry
  rw [describe, length_getHostGateways hips hentry]

/-- The ids of the candidates are distinct keys of the link graph. -/
theorem nodup_candidates (requiredDevices : List String) (reports : String → ResourceUsage)
    (linkGraph : LinkGraph) : ((candidates requiredDevices reports linkGraph).map (·.id)).Nodup := by
  apply (List.filter_sublist.map Gateway.id).nodup
  rw [List.map_map]
  exact linkGraph.data.nodup_keys

/-- A random pick finds an element unless there is none. -/
theorem pickRandom_eq_none_iff (env : SchedulerEnvironment) (gateways : List Gateway) :
    pickRandom env gateways = none ↔ gateways = [] := by
  rw [pickRandom, List.getElem?_eq_none_iff, ← List.length_eq_zero_iff]
  constructor
  · intro h
    by_contra hlen
    have hpos : (0 : ℚ) < gateways.length := by exact_mod_cast Nat.pos_of_ne_zero hlen
    have hlt : ⌊env.random * gateways.length⌋ < gateways.length := by
      rw [Int.floor_lt]
      exact_mod_cast mul_lt_of_lt_one_left hpos env.random_lt_one
    omega
  · intro hlen
    rw [hlen]
    exact Nat.zero_le _

/-- The requests of a deployment that succeeds: the executor is to execute the application, and the
watcher, if there is one, to watch it. -/
def ScheduleInfo.requests (env : SchedulerEnvironment) (appFiles : AppFiles)
    (linkGraph : LinkGraph) (executorGatewayId : String) (info : ScheduleInfo) :
    List DeployRequest :=
  let appId := generateAppId env appFiles.app.basename
  .executeApp info.executor appFiles appId linkGraph ::
    if info.watcher = "" then [] else [.watchApp info.watcher appFiles appId executorGatewayId]

/-- What `deploy` resolves to: the executor, and another candidate as watcher if there is one; both
have been sent their requests. -/
theorem deploy_ok {env : SchedulerEnvironment} {appFiles : AppFiles} {linkGraph : LinkGraph}
    {candidateGateways : List Gateway} {executorGateway : Gateway} {info : ScheduleInfo}
    (hips : ∀ gateway ∈ candidateGateways, gateway.ip ≠ "")
    (hdeploy : (deploy env appFiles linkGraph candidateGateways executorGateway).2 = .ok info) :
    info.executor = executorGateway.ip ∧
      ((candidateGateways.erase executorGateway = [] ∧ info.watcher = "") ∨
        ∃ watcher ∈ candidateGateways.erase executorGateway, info.watcher = watcher.ip) ∧
      (deploy env appFiles linkGraph candidateGateways executorGateway).1 =
        info.requests env appFiles linkGraph executorGateway.id := by
  have hsplice : spliceOne candidateGateways (candidateGateways.idxOf executorGateway) =
      candidateGateways.erase executorGateway :=
    (List.erase_eq_eraseIdx_of_idxOf rfl).symm
  simp only [deploy, hsplice] at hdeploy ⊢
  split at hdeploy
  · cases hdeploy
  · split at hdeploy
    · next watcher hpick =>
      have hmem := List.mem_of_getElem? hpick
      split at hdeploy
      · cases hdeploy
      · cases hdeploy
        refine ⟨rfl, Or.inr ⟨watcher, hmem, rfl⟩, ?_⟩
        rw [ScheduleInfo.requests, if_neg (hips _ (List.mem_of_mem_erase hmem))]
    · next hpick =>
      cases hdeploy
      exact ⟨rfl, Or.inl ⟨(pickRandom_eq_none_iff env _).mp hpick, rfl⟩, rfl⟩

/-- With the reports of all gateways the best one of the candidates is chosen. -/
theorem placement_eq {env : SchedulerEnvironment} {metadataPath : Path}
    {requiredDevices : List String} {linkGraph : LinkGraph} {reports : String → ResourceUsage}
    (hips : (linkGraph.data.ownEntries.map (·.2.ip)).Nodup)
    (hjson : env.readJson metadataPath = .ok ⟨some ⟨requiredDevices⟩⟩)
    (hgraph : env.getLinkGraph = .ok linkGraph)
    (hreports : ∀ entry ∈ linkGraph.data.ownEntries,
      getGatewayResourceUsage env entry.2.ip = .ok (reports entry.2.ip)) :
    placement env metadataPath =
      match (candidates requiredDevices reports linkGraph).argmax Gateway.rank with
      | none => .error "Gateway devices are low on resources. Could not deploy application."
      | some executorGateway =>
        .ok ⟨linkGraph, candidates requiredDevices reports linkGraph, executorGateway⟩ := by
  have havailable : (env.getLinkGraph.bind fun linkGraph ↦
      (availableGateways env requiredDevices linkGraph).map (linkGraph, ·)) =
          .ok (linkGraph, linkGraph.data.ownEntries.map (describe requiredDevices reports)) := by
    rw [hgraph, Except.bind, availableGateways_eq hips hreports, Except.map]
  rw [← reduce_eq_argmax compareGateways_eq]
  simp only [placement, hjson, havailable]
  rfl

/-- A gateway that reports its resources has an ip. -/
theorem ip_ne_of_mem_candidates {env : SchedulerEnvironment} {requiredDevices : List String}
    {linkGraph : LinkGraph} {reports : String → ResourceUsage}
    (hreports : ∀ entry ∈ linkGraph.data.ownEntries,
      getGatewayResourceUsage env entry.2.ip = .ok (reports entry.2.ip))
    (hurl : ∀ usage, getGatewayResourceUsage env "" ≠ .ok usage) :
    ∀ gateway ∈ candidates requiredDevices reports linkGraph, gateway.ip ≠ "" := by
  intro gateway hgateway hempty
  obtain ⟨entry, hentry, rfl⟩ := List.mem_map.mp (List.mem_filter.mp hgateway).1
  have hipentry : entry.2.ip = "" := hempty
  exact hurl _ (hipentry ▸ hreports entry hentry)

/-- The executor is the best candidate, the earliest among those of equal rank, and the
watcher another candidate, and these are sent the requests to execute the application and to watch
it; without a candidate nothing is sent. -/
theorem schedule_spec (env : SchedulerEnvironment) (appPath metadataPath : Path)
    (requiredDevices : List String) (linkGraph : LinkGraph) (reports : String → ResourceUsage)
    (hips : (linkGraph.data.ownEntries.map (·.2.ip)).Nodup)
    (hjson : env.readJson metadataPath = .ok ⟨some ⟨requiredDevices⟩⟩)
    (hgraph : env.getLinkGraph = .ok linkGraph)
    (hreports : ∀ entry ∈ linkGraph.data.ownEntries,
      getGatewayResourceUsage env entry.2.ip = .ok (reports entry.2.ip))
    (hurl : ∀ usage, getGatewayResourceUsage env "" ≠ .ok usage) :
    (∀ info, (schedule env appPath metadataPath).2 = .ok info →
      ∃ executor before after,
        candidates requiredDevices reports linkGraph = before ++ executor :: after ∧
        (∀ gateway ∈ before, gateway.rank < executor.rank) ∧
        (∀ gateway ∈ after, gateway.rank ≤ executor.rank) ∧
        info.executor = executor.ip ∧
        (info.watcher ≠ "" → ∃ watcher ∈ candidates requiredDevices reports linkGraph,
          watcher.ip = info.watcher ∧ watcher.id ≠ executor.id) ∧
        (info.watcher = "" ↔ candidates requiredDevices reports linkGraph = [executor]) ∧
        (schedule env appPath metadataPath).1 =
          info.requests env ⟨appPath, metadataPath⟩ linkGraph executor.id) ∧
    (candidates requiredDevices reports linkGraph = [] →
      ∃ err, schedule env appPath metadataPath = ([], .error err)) := by
  have hplacement := placement_eq hips hjson hgraph hreports
  constructor
  · intro info hinfo
    cases hmax : (candidates requiredDevices reports linkGraph).argmax Gateway.rank with
    | none =>
      simp only [schedule, hplacement, hmax] at hinfo
      cases hinfo
    | some executor =>
      simp only [schedule, hplacement, hmax] at hinfo ⊢
      have hmem := List.argmax_mem hmax
      have hids := nodup_candidates requiredDevices reports linkGraph
      have hnodup := hids.of_map
      have hne : ∀ gateway ∈ candidates requiredDevices reports linkGraph, gateway.ip ≠ "" :=
        ip_ne_of_mem_candidates hreports hurl
      obtain ⟨before, after, hsplit, hbefore, hafter⟩ := argmax_split hmax
      obtain ⟨hexecutor, hwatcher, hrequests⟩ := deploy_ok hne hinfo
      refine ⟨executor, before, after, hsplit, hbefore, hafter, hexecutor, ?_, ?_, hrequests⟩
      · intro hsome
        rcases hwatcher with ⟨_, hempty⟩ | ⟨watcher, hw, hip⟩
        · exact False.elim (hsome hempty)
        · obtain ⟨hdiff, hcandidate⟩ := hnodup.mem_erase_iff.mp hw
          refine ⟨watcher, hcandidate, hip.symm, fun hid ↦ hdiff ?_⟩
          exact List.inj_on_of_nodup_map hids hcandidate hmem hid
      · have hcase : (candidates requiredDevices reports linkGraph).erase executor = [] ↔
            candidates requiredDevices reports linkGraph = [executor] := by
          rw [List.erase_eq_nil_iff]
          constructor
          · rintro (h | h)
            · exact False.elim (List.ne_nil_of_mem hmem h)
            · exact h
          · exact Or.inr
        rw [← hcase]
        rcases hwatcher with ⟨hnil, hempty⟩ | ⟨watcher, hw, hip⟩
        · exact iff_of_true hempty hnil
        · refine iff_of_false (fun hempty ↦ ?_) (List.ne_nil_of_mem hw)
          exact hne watcher (hnodup.mem_erase_iff.mp hw).2 (hip.symm.trans hempty)
  · intro hnil
    simp only [schedule, hplacement, hnil]
    exact ⟨_, rfl⟩

/-- Two gateways, the second of which hosts the camera. -/
def pairGraph : LinkGraph where
  graph := JsObject.empty
  data := (JsObject.empty.set "gateway-1" ⟨"10.0.0.1", [], []⟩).set "gateway-2"
    ⟨"10.0.0.2", [⟨"camera", "", "", "", true⟩], []⟩

/-- All gateways report the same resources. -/
def pairEnvironment : SchedulerEnvironment where
  readJson _ := .ok ⟨some ⟨["camera"]⟩⟩
  getLinkGraph := .ok pairGraph
  fetchJson url :=
    if url = "http://:5000/gateway/resource-usage" then .error "Only absolute URLs are supported"
    else .ok ⟨1 / 2, 512⟩
  now := 0
  sha1 text := text
  random := 0
  random_nonneg := le_rfl
  random_lt_one := zero_lt_one
  post _ := .ok ()

/-- The camera's gateway runs the application, the other one watches it. -/
theorem schedule_pair :
    (schedule pairEnvironment ["app.js"] ["app.json"]).2 = .ok ⟨"10.0.0.2", "10.0.0.1"⟩ ∧
      (∃ watcher ∈ candidates ["camera"] (fun _ ↦ ⟨1 / 2, 512⟩) pairGraph,
        watcher.ip = "10.0.0.1") ∧
      (schedule pairEnvironment ["app.js"] ["app.json"]).1.length = 2 := by
  have hrun : (schedule pairEnvironment ["app.js"] ["app.json"]).2 =
      .ok ⟨"10.0.0.2", "10.0.0.1"⟩ := by decide +kernel
  obtain ⟨_, _, _, _, _, _, _, hwatcher, _, hrequests⟩ :=
    (schedule_spec pairEnvironment ["app.js"] ["app.json"] ["camera"] pairGraph
      (fun _ ↦ ⟨1 / 2, 512⟩) (by decide +kernel) rfl rfl (by decide +kernel)
      (fun _ ↦ nofun)).1 _ hrun
  obtain ⟨watcher, hmem, hip, _⟩ := hwatcher (by decide)
  exact ⟨hrun, ⟨watcher, hmem, hip⟩, by rw [hrequests]; rfl⟩

/-! ### Rejections -/

/-- The request has a gateway execute the application under the id. -/
def DeployRequest.ExecutesAs (appId : String) : DeployRequest → Prop
  | .executeApp _ _ id _ => id = appId
  | .watchApp _ _ _ _ => False

section Rejections

variable (env : SchedulerEnvironment)

/-- The request that has the executor run the application. -/
def Placement.execute (p : Placement) (appFiles : AppFiles) : DeployRequest :=
  .executeApp p.executorGateway.ip appFiles (generateAppId env appFiles.app.basename) p.linkGraph

/-- The request that has a gateway watch the application. -/
def Placement.watch (p : Placement) (appFiles : AppFiles) (watcherGateway : Gateway) :
    DeployRequest :=
  .watchApp watcherGateway.ip appFiles (generateAppId env appFiles.app.basename)
    p.executorGateway.id

/-- The watcher picked among the other candidates, if there is one. -/
def Placement.watcher? (p : Placement) : Option Gateway :=
  pickRandom env (spliceOne p.candidateGateways (p.candidateGateways.idxOf p.executorGateway))

variable (starts : DeployRequest → Prop) (appPath metadataPath : Path)

/-- If `schedule` rejects, no request that it sent has started the application. -/
def AllOrNothing : Prop :=
  ∀ err, (schedule env appPath metadataPath).2 = .error err →
    ∀ r ∈ (schedule env appPath metadataPath).1,
      r.ExecutesAs (generateAppId env appPath.basename) → ¬ starts r

/-- An execution that starts the application is answered without an error, and so is the request
to watch it, if it is sent. -/
def AnsweredOnceStarted : Prop :=
  ∀ p, placement env metadataPath = .ok p → starts (p.execute env ⟨appPath, metadataPath⟩) →
    env.post (p.execute env ⟨appPath, metadataPath⟩) = .ok () ∧
      ∀ watcherGateway, p.watcher? env = some watcherGateway →
        env.post (p.watch env ⟨appPath, metadataPath⟩ watcherGateway) = .ok ()

/-- What a deployment sends. -/
theorem deploy_requests (p : Placement) (appFiles : AppFiles) :
    p.execute env appFiles ∈
        (deploy env appFiles p.linkGraph p.candidateGateways p.executorGateway).1 ∧
      ∀ r ∈ (deploy env appFiles p.linkGraph p.candidateGateways p.executorGateway).1,
        r = p.execute env appFiles ∨
          ∃ watcherGateway, r = p.watch env appFiles watcherGateway := by
  simp only [deploy]
  split
  · exact ⟨List.mem_cons_self, fun r hr ↦ Or.inl (List.mem_singleton.mp hr)⟩
  · split
    · next watcherGateway _ =>
      have hboth : ∀ r ∈ [p.execute env appFiles, p.watch env appFiles watcherGateway],
          r = p.execute env appFiles ∨
            ∃ watcherGateway, r = p.watch env appFiles watcherGateway := by
        intro r hr
        rcases List.mem_cons.mp hr with hr | hr
        · exact Or.inl hr
        · exact Or.inr ⟨watcherGateway, List.mem_singleton.mp hr⟩
      split
      · exact ⟨List.mem_cons_self, hboth⟩
      · exact ⟨List.mem_cons_self, hboth⟩
    · exact ⟨List.mem_cons_self, fun r hr ↦ Or.inl (List.mem_singleton.mp hr)⟩

/-- A deployment rejects unless every request that it sends is answered without an error. -/
theorem deploy_error_iff (p : Placement) (appFiles : AppFiles) :
    (∃ err, (deploy env appFiles p.linkGraph p.candidateGateways p.executorGateway).2 =
        .error err) ↔
      ¬ (env.post (p.execute env appFiles) = .ok () ∧
        ∀ watcherGateway, p.watcher? env = some watcherGateway →
          env.post (p.watch env appFiles watcherGateway) = .ok ()) := by
  simp only [deploy, Placement.execute, Placement.watcher?, Placement.watch]
  cases env.post (.executeApp p.executorGateway.ip appFiles
      (generateAppId env appFiles.app.basename) p.linkGraph) with
  | error err => exact iff_of_true ⟨_, rfl⟩ fun h ↦ by cases h.1
  | ok answer =>
    cases pickRandom env
        (spliceOne p.candidateGateways (p.candidateGateways.idxOf p.executorGateway)) with
    | none =>
      refine iff_of_false (fun h ↦ ?_) fun h ↦ h ⟨rfl, nofun⟩
      obtain ⟨err, h⟩ := h
      cases h
    | some watcherGateway =>
      simp only [Option.some.injEq, forall_eq', true_and]
      cases env.post (.watchApp watcherGateway.ip appFiles
          (generateAppId env appFiles.app.basename) p.executorGateway.id) with
      | error err => exact iff_of_true ⟨_, rfl⟩ nofun
      | ok answer =>
        refine iff_of_false (fun h ↦ ?_) fun h ↦ h rfl
        obtain ⟨err, h⟩ := h
        cases h

/-- A rejection leaves no application started exactly if, once the application is started, both
requests are answered without an error. -/
theorem allOrNothing_iff :
    AllOrNothing env starts appPath metadataPath ↔
      AnsweredOnceStarted env starts appPath metadataPath := by
  unfold AllOrNothing AnsweredOnceStarted schedule
  cases placement env metadataPath with
  | error err => exact iff_of_true (fun _ _ _ hr ↦ by cases hr) (fun _ hp ↦ by cases hp)
  | ok p =>
    have hrequests := deploy_requests env p ⟨appPath, metadataPath⟩
    have herror := deploy_error_iff env p ⟨appPath, metadataPath⟩
    simp only [Except.ok.injEq, forall_eq']
    constructor
    · intro h hstarts
      by_contra hanswers
      obtain ⟨err, herr⟩ := herror.mpr hanswers
      exact h err herr _ hrequests.1 rfl hstarts
    · rintro h err herr r hr hexecutes
      rcases hrequests.2 r hr with rfl | ⟨watcherGateway, rfl⟩
      · exact fun hstarts ↦ herror.mp ⟨err, herr⟩ (h hstarts)
      · exact False.elim hexecutes

end Rejections

/-- The gateway that is to watch the application does not answer. -/
def watcherUnreachable : SchedulerEnvironment where
  readJson := pairEnvironment.readJson
  getLinkGraph := pairEnvironment.getLinkGraph
  fetchJson := pairEnvironment.fetchJson
  now := pairEnvironment.now
  sha1 := pairEnvironment.sha1
  random := pairEnvironment.random
  random_nonneg := pairEnvironment.random_nonneg
  random_lt_one := pairEnvironment.random_lt_one
  post
    | .executeApp _ _ _ _ => .ok ()
    | .watchApp _ _ _ _ => .error "connect ECONNREFUSED"

/-- The scheduling is rejected, and the application runs. -/
theorem started_though_rejected :
    ¬ AllOrNothing watcherUnreachable (fun r ↦ watcherUnreachable.post r = .ok ()) ["app.js"]
      ["app.json"] := by
  intro h
  have hrun : (schedule watcherUnreachable ["app.js"] ["app.json"]).2 =
      .error "error is not defined" := by decide +kernel
  have hplaced : (placement watcherUnreachable ["app.json"]).toOption.isSome := by decide +kernel
  obtain ⟨p, hp⟩ : ∃ p, placement watcherUnreachable ["app.json"] = .ok p := by
    cases hp : placement watcherUnreachable ["app.json"] with
    | error err =>
      rw [hp] at hplaced
      cases hplaced
    | ok p => exact ⟨p, rfl⟩
  have hexecute := (deploy_requests watcherUnreachable p ⟨["app.js"], ["app.json"]⟩).1
  have hsent : p.execute watcherUnreachable ⟨["app.js"], ["app.json"]⟩ ∈
      (schedule watcherUnreachable ["app.js"] ["app.json"]).1 := by
    simpa only [schedule, hp] using hexecute
  exact h _ hrun _ hsent rfl rfl

end NexusEdge.Apps
