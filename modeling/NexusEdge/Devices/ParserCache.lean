import NexusEdge.Base.JsString
import NexusEdge.Base.Transition
import NexusEdge.Devices.Eddystone

/-!
# Parsers of beacons

Library `Devices`. The caches of `lab11-ble-handler.js:46–360`: a beacon names a web page, from
whose directory `parse.js` is fetched, kept in memory and in a file, and handed what the device
advertises. Beacons, answers from the web and the calls that parsers make come in any order. What is
cached is not fetched again. Loading a module runs its code, here a function of its source and name;
nobody else writes the file; the file of URLs is written, but never read, as no error is ever passed
to `got_expanded_url`.
-/

namespace NexusEdge.Devices
open NexusEdge.Base

/-- The libraries that handle URLs and modules, and objects that parsers make. -/
structure ParserLibrary (Parser Data : Type) extends UrlLibrary where
  /-- `url.format` of the parts of the URL without query and hash. -/
  clean : String → String
  /-- `_require_from_string(src, filename)`. -/
  requireFromString : String → String → Except String Parser
  hasParseAdvertisement : Parser → Bool
  hasParseServices : Parser → Bool
  /-- `data.device`. -/
  device : Data → Option String
  /-- `data.id = id`. -/
  withId : String → Data → Data

/-- An entry of `_device_to_data`. -/
structure DeviceData where
  url : String
  requestUrl : String

/-- An entry of `_cached_parsers`: `parse.js` and, once it is loaded, its exports. -/
structure CachedParser (Parser : Type) where
  source : String
  parser : Option Parser

/-- A request of `parse.js` under way. -/
structure ParserFetch where
  id : String
  requestUrl : String
  deriving DecidableEq

/-- Functions the handler has passed on, and which may be called. -/
inductive ParserCall (Parser Data : Type) where
  /-- `parse_advertisement_done`. -/
  | advertisement (parser : Parser) (peripheral : Peripheral)
  /-- The callback of `peripheral.connect`. -/
  | connect (parser : Parser) (peripheral : Peripheral)
  /-- `parse_services_done`. -/
  | services (parser : Parser) (peripheral : Peripheral)
  /-- The callback of `peripheral.disconnect`. -/
  | disconnect (parser : Parser) (peripheral : Peripheral) (data : Data)

namespace ParserCall

variable {Parser Data : Type}

/-- The parser a function belongs to. -/
def parser : ParserCall Parser Data → Parser
  | .advertisement parser _ | .connect parser _ | .services parser _
  | .disconnect parser _ _ => parser

/-- The peripheral it is about. -/
def peripheral : ParserCall Parser Data → Peripheral
  | .advertisement _ peripheral | .connect _ peripheral | .services _ peripheral
  | .disconnect _ peripheral _ => peripheral

end ParserCall

/-- What is passed to `platformCallback.deliver`, with the parser that made it. -/
structure ParserDelivery (Parser Data : Type) where
  deviceId : String
  deviceType : Option String
  data : Data
  parser : Parser

/-- The handler with its parsers, `cached_parsers.json`, requests sent and under way, functions
passed on and deliveries. -/
structure ParserHandler (Parser Data : Type) extends Lab11BleHandler where
  /-- `_device_to_data`. -/
  deviceToData : JsObject DeviceData
  /-- `_cached_parsers`. -/
  cachedParsers : JsObject (CachedParser Parser)
  /-- None when the file cannot be read. -/
  parsersFile : Option (JsObject String)
  requested : List String
  fetches : List ParserFetch
  calls : List (ParserCall Parser Data)
  delivered : List (ParserDelivery Parser Data)

/-- What happens to the handler; functions passed on are named by their numbers. -/
inductive ParserEvent (Data : Type) where
  | discover (peripheral : Peripheral) (now : Nat)
  /-- A request is answered, with the body if the status is 200. -/
  | response (fetch : ParserFetch) (body : Option String) (now : Nat)
  | advertisementDone (call : Nat) (advObj localObj : Option Data)
  | connected (call : Nat) (failed : Bool)
  | servicesDone (call : Nat) (dataObj : Option Data)
  | disconnected (call : Nat) (failed : Bool)

/-- `FILENAME_PARSE`. -/
def filenameParse : String := "parse.js"

variable {Parser Data : Type}

/-- `_get_base_url`, `lab11-ble-handler.js:342–357`. -/
def ParserLibrary.getBaseUrl (lib : ParserLibrary Parser Data) (fullUrl : String) : String :=
  let cleanUrl := lib.clean fullUrl
  if cleanUrl.endsWith "/" then cleanUrl
  else
    let urlChunks := split '/' cleanUrl
    -- an `index.html` or similar at the end
    let urlChunks :=
      if urlChunks.getLast?.any fun chunk ↦ '.' ∈ chunk.toList then urlChunks.dropLast
      else urlChunks
    String.intercalate "/" urlChunks ++ "/"

/-- The body of the loop over the parsers read from the file, `lab11-ble-handler.js:136–139`. -/
def ParserLibrary.loadParser (lib : ParserLibrary Parser Data) (entry : String × String)
    (cachedParsers : JsObject (CachedParser Parser)) :
    Outcome String (JsObject (CachedParser Parser)) :=
  match lib.requireFromString entry.2 entry.1 with
  | .ok parser => .done (cachedParsers.set entry.1 ⟨entry.2, some parser⟩)
  | .error error => .throw cachedParsers error

/-- The loop. -/
def ParserLibrary.loadParsers (lib : ParserLibrary Parser Data) (file : JsObject String) :
    Outcome String (JsObject (CachedParser Parser)) :=
  Outcome.forEach lib.loadParser file.ownEntries (file.mapValues fun source ↦ ⟨source, none⟩)

namespace ParserHandler

/-- The constructor, with the file of an earlier process. -/
def initial (file : Option (JsObject String)) : ParserHandler Parser Data :=
  ⟨⟨.empty, .empty, .empty, 0⟩, .empty, .empty, file, [], [], [], []⟩

/-- `_handlePeripheral`, `lab11-ble-handler.js:191–332`, up to the calls of the parser. -/
def handlePeripheral (lib : ParserLibrary Parser Data) (s : ParserHandler Parser Data)
    (peripheral : Peripheral) : ParserHandler Parser Data :=
  match s.deviceToData.get? peripheral.id with
  | none => s
  | some device =>
    match s.cachedParsers.get? device.requestUrl with
    | some ⟨_, some parser⟩ =>
      { s with
        calls := s.calls ++
          (if lib.hasParseAdvertisement parser then [.advertisement parser peripheral] else []) ++
          (if lib.hasParseServices parser then [.connect parser peripheral] else []) }
    | _ => s

/-- `got_expanded_url`, `lab11-ble-handler.js:76–171`. -/
def gotExpandedUrl (lib : ParserLibrary Parser Data) (s : ParserHandler Parser Data)
    (id shortUrl fullUrl : String) : ParserHandler Parser Data :=
  let baseUrl := lib.getBaseUrl fullUrl
  let requestUrl := baseUrl ++ filenameParse
  let s := { s with
    cachedUrls := s.cachedUrls.set shortUrl fullUrl
    deviceToData := s.deviceToData.set id ⟨baseUrl, requestUrl⟩ }
  if s.cachedParsers.hasOwn requestUrl then
    { s with deviceIdAges := s.deviceIdAges.set id s.now }
  else
    { s with
      requested := s.requested ++ [requestUrl]
      fetches := s.fetches ++ [⟨id, requestUrl⟩] }

/-- `_handleBeacon`, `lab11-ble-handler.js:46–189`. -/
def handleBeacon (lib : ParserLibrary Parser Data) (s : ParserHandler Parser Data)
    (peripheral : Peripheral) (beacon : Beacon) : Except String (ParserHandler Parser Data) :=
  if s.isRecent peripheral.id then .ok (s.handlePeripheral lib peripheral)
  else
    match beacon.type, beacon.url with
    | .url, some url => do
      let urlPath ← lib.pathname url
      let shortUrl := shorten url urlPath
      match s.cachedUrls.get? shortUrl with
      | some fullUrl => return s.gotExpandedUrl lib peripheral.id shortUrl fullUrl
      | none =>
        let expanded ← getExpandedUrl lib.toUrlLibrary shortUrl
        return expanded.elim s (s.gotExpandedUrl lib peripheral.id shortUrl)
    | .url, none => .error undefinedError
    | _, _ => .ok s

/-- The callback of `getEddystonePeripherals`, with the parser of beacons. -/
def discover (lib : ParserLibrary Parser Data) (s : ParserHandler Parser Data)
    (peripheral : Peripheral) : Except String (ParserHandler Parser Data) := do
  match ← s.parse lib.toUrlLibrary peripheral with
  | none => return s
  | some beacon =>
    handleBeacon lib { s with discovered := s.discovered.set peripheral.id beacon } peripheral beacon

/-- `got_parse_js`, `lab11-ble-handler.js:100–149`. -/
def gotParseJs (lib : ParserLibrary Parser Data) (s : ParserHandler Parser Data)
    (fetch : ParserFetch) (body : Option String) : ParserHandler Parser Data :=
  match body with
  | some body =>
    let cachedParsers := s.cachedParsers.set fetch.requestUrl ⟨body, none⟩
    let s := { s with
      cachedParsers := cachedParsers
      parsersFile := some (cachedParsers.mapValues CachedParser.source) }
    match lib.requireFromString body fetch.requestUrl with
    | .ok parser =>
      { s with
        cachedParsers := cachedParsers.set fetch.requestUrl ⟨body, some parser⟩
        deviceIdAges := s.deviceIdAges.set fetch.id s.now }
    | .error _ => s
  | none =>
    match s.parsersFile with
    | none => s
    | some file =>
      let loaded := lib.loadParsers file
      let s := { s with cachedParsers := loaded.state }
      match loaded.error with
      | none => { s with deviceIdAges := s.deviceIdAges.set fetch.id s.now }
      | some _ => s

/-- `platformCallback.deliver`, if there is an object. -/
def deliver (lib : ParserLibrary Parser Data) (s : ParserHandler Parser Data) (parser : Parser)
    (peripheral : Peripheral) (data : Option Data) : ParserHandler Parser Data :=
  { s with
    delivered := s.delivered ++
      (data.map fun data ↦ ⟨peripheral.id, lib.device data, data, parser⟩).toList }

/-- One event; none when it cannot happen or an exception ends the process. -/
def step (lib : ParserLibrary Parser Data) (s : ParserHandler Parser Data) :
    ParserEvent Data → Option (ParserHandler Parser Data)
  | .discover peripheral now => (discover lib { s with now := now } peripheral).toOption
  | .response fetch body now =>
    if fetch ∈ s.fetches then
      some (gotParseJs lib { s with now := now, fetches := s.fetches.erase fetch } fetch body)
    else none
  | .advertisementDone call advObj localObj =>
    match s.calls[call]? with
    | some (.advertisement parser peripheral) =>
      some ((s.deliver lib parser peripheral advObj).deliver lib parser peripheral localObj)
    | _ => none
  | .connected call failed =>
    match s.calls[call]? with
    | some (.connect parser peripheral) =>
      let calls := s.calls.eraseIdx call
      some { s with calls := if failed then calls else calls ++ [.services parser peripheral] }
    | _ => none
  | .servicesDone call dataObj =>
    match s.calls[call]? with
    | some (.services parser peripheral) =>
      some { s with
        calls := s.calls ++ (dataObj.map fun data ↦
          .disconnect parser peripheral (lib.withId peripheral.id data)).toList }
    | _ => none
  | .disconnected call failed =>
    match s.calls[call]? with
    | some (.disconnect parser peripheral data) =>
      let s := { s with calls := s.calls.eraseIdx call }
      some (if failed then s else s.deliver lib parser peripheral (some data))
    | _ => none

/-! ### What an event does -/

variable {lib : ParserLibrary Parser Data} {s t : ParserHandler Parser Data}

/-- Functions are passed on only for a device whose page has a parser in the cache. -/
theorem handlePeripheral_cases (lib : ParserLibrary Parser Data) (s : ParserHandler Parser Data)
    (peripheral : Peripheral) :
    s.handlePeripheral lib peripheral = s ∨
      ∃ device source parser calls, s.deviceToData.get? peripheral.id = some device ∧
        s.cachedParsers.get? device.requestUrl = some ⟨source, some parser⟩ ∧
        (∀ call ∈ calls, call = .advertisement parser peripheral ∨
          call = .connect parser peripheral) ∧
        s.handlePeripheral lib peripheral = { s with calls := s.calls ++ calls } := by
  unfold handlePeripheral
  split
  · exact Or.inl rfl
  · next device hdevice =>
    split
    · next source parser hcached =>
      refine Or.inr ⟨device, source, parser, _, hdevice, hcached, ?_,
        congrArg (fun calls ↦ { s with calls := calls }) (List.append_assoc _ _ _)⟩
      intro call hcall
      rcases List.mem_append.mp hcall with hcall | hcall
      · split at hcall
        · exact Or.inl (List.mem_singleton.mp hcall)
        · cases hcall
      · split at hcall
        · exact Or.inr (List.mem_singleton.mp hcall)
        · cases hcall
    · exact Or.inl rfl

/-- A beacon is ignored, handed to its parser, or its page is looked up. -/
theorem handleBeacon_cases {peripheral : Peripheral} {beacon : Beacon}
    (h : s.handleBeacon lib peripheral beacon = .ok t) :
    t = s ∨ t = s.handlePeripheral lib peripheral ∨
      ∃ url urlPath fullUrl, beacon.url = some url ∧ lib.pathname url = .ok urlPath ∧
        (s.cachedUrls.get? (shorten url urlPath) = some fullUrl ∨
          getExpandedUrl lib.toUrlLibrary (shorten url urlPath) = .ok (some fullUrl)) ∧
        t = s.gotExpandedUrl lib peripheral.id (shorten url urlPath) fullUrl := by
  unfold handleBeacon at h
  split at h
  · exact Or.inr (Or.inl (Except.ok.inj h).symm)
  split at h
  · next url _ hurl =>
    obtain ⟨urlPath, hpath, h⟩ := (bind_eq_ok_iff _ _ _).mp h
    dsimp only at h
    split at h
    · next fullUrl hcached =>
      exact Or.inr (Or.inr ⟨url, urlPath, fullUrl, hurl, hpath, Or.inl hcached,
        (Except.ok.inj h).symm⟩)
    · obtain ⟨expanded, hexpanded, h⟩ := (bind_eq_ok_iff _ _ _).mp h
      cases expanded with
      | none => exact Or.inl (Except.ok.inj h).symm
      | some fullUrl =>
        exact Or.inr (Or.inr ⟨url, urlPath, fullUrl, hurl, hpath, Or.inr hexpanded,
          (Except.ok.inj h).symm⟩)
  · cases h
  · exact Or.inl (Except.ok.inj h).symm

/-- A peripheral that is no beacon changes nothing; a beacon is remembered and handled. -/
theorem discover_cases {peripheral : Peripheral} (h : s.discover lib peripheral = .ok t) :
    t = s ∨ ∃ beacon, s.parse lib.toUrlLibrary peripheral = .ok (some beacon) ∧
      handleBeacon lib { s with discovered := s.discovered.set peripheral.id beacon }
        peripheral beacon = .ok t := by
  obtain ⟨parsed, hparsed, h⟩ := (bind_eq_ok_iff _ _ _).mp h
  cases parsed with
  | none => exact Or.inl (Except.ok.inj h).symm
  | some beacon => exact Or.inr ⟨beacon, hparsed, h⟩

/-- The handler survives a peripheral exactly if it is safe. -/
theorem returns_discover (peripheral : Peripheral) :
    Returns (s.discover lib peripheral) ↔ s.Safe lib.toUrlLibrary peripheral := by
  rw [← Lab11BleHandler.returns_onPeripheral]
  unfold discover Lab11BleHandler.onPeripheral
  simp only [returns_bind]
  refine exists_congr fun parsed ↦ and_congr_right fun _ ↦ ?_
  cases parsed with
  | none => exact iff_of_true (returns_pure _) (returns_pure _)
  | some beacon =>
    dsimp only
    unfold handleBeacon Lab11BleHandler.handleBeacon Lab11BleHandler.fullUrl
    have hrecent : ({ s with discovered := s.discovered.set peripheral.id beacon } :
        ParserHandler Parser Data).isRecent peripheral.id = s.isRecent peripheral.id := rfl
    rw [hrecent]
    split
    · exact iff_of_true (returns_ok _) (returns_ok _)
    cases beacon.type with
    | url =>
      cases beacon.url with
      | none => exact iff_of_false (not_returns_error _) (not_returns_error _)
      | some url =>
        simp only [returns_bind]
        refine exists_congr fun urlPath ↦ and_congr_right fun _ ↦ ?_
        cases s.cachedUrls.get? (shorten url urlPath) with
        | some fullUrl => exact iff_of_true (returns_pure _) (returns_pure _)
        | none => exact returns_bind_pure _ _
    | uid => exact iff_of_true (returns_ok _) (returns_ok _)
    | tlm => exact iff_of_true (returns_ok _) (returns_ok _)
    | unknown => exact iff_of_true (returns_ok _) (returns_ok _)

/-- Loading the parsers of a file changes no source, and what is loaded is made of it. -/
theorem get?_loadParsers (file : JsObject String) (requestUrl : String)
    {cached : CachedParser Parser}
    (h : (lib.loadParsers file).state.get? requestUrl = some cached) :
    file.get? requestUrl = some cached.source ∧
      ∀ parser, cached.parser = some parser →
        lib.requireFromString cached.source requestUrl = .ok parser := by
  have hloop := @Outcome.forEach_relates _ _ _ lib.loadParser
    (fun c d ↦ (∀ url entry, c.get? url = some entry → file.get? url = some entry.source ∧
        ∀ parser, entry.parser = some parser →
          lib.requireFromString entry.source url = .ok parser) →
      ∀ url entry, d.get? url = some entry → file.get? url = some entry.source ∧
        ∀ parser, entry.parser = some parser →
          lib.requireFromString entry.source url = .ok parser)
    (fun _ h ↦ h) (fun _ _ _ hcd hde h ↦ hde (hcd h)) (l := file.ownEntries) ?_
    (file.mapValues fun source ↦ ⟨source, none⟩)
  · refine hloop (fun url entry hentry ↦ ?_) requestUrl cached h
    rw [JsObject.get?_mapValues] at hentry
    obtain ⟨source, hsource, rfl⟩ := Option.map_eq_some_iff.mp hentry
    exact ⟨hsource, fun _ hparser ↦ nomatch hparser⟩
  · rintro ⟨url, source⟩ hmem cachedParsers hcached url' entry hentry
    unfold ParserLibrary.loadParser at hentry
    split at hentry
    · next parser hparser =>
      rw [Outcome.state_done, JsObject.get?_set] at hentry
      split at hentry
      · next heq =>
        subst heq
        obtain rfl := Option.some.inj hentry
        exact ⟨(JsObject.mem_ownEntries_iff _ _ _).mp hmem,
          fun _ hsome ↦ Option.some.inj hsome ▸ hparser⟩
      · exact hcached url' entry hentry
    · exact hcached url' entry hentry

/-! ### Parsers that are cached -/

/-- What an event does to the parsers, the file and the requests. -/
inductive ParsersStep (lib : ParserLibrary Parser Data) (s t : ParserHandler Parser Data) :
    Prop where
  | same (cachedParsers : t.cachedParsers = s.cachedParsers)
      (parsersFile : t.parsersFile = s.parsersFile) (requested : t.requested = s.requested)
      (fetches : t.fetches = s.fetches)
  | request (id requestUrl : String) (unknown : s.cachedParsers.hasOwn requestUrl = false)
      (cachedParsers : t.cachedParsers = s.cachedParsers)
      (parsersFile : t.parsersFile = s.parsersFile)
      (requested : t.requested = s.requested ++ [requestUrl])
      (fetches : t.fetches = s.fetches ++ [⟨id, requestUrl⟩])
  | fetched (fetch : ParserFetch) (source : String) (parser : Option Parser)
      (sources : JsObject String) (pending : fetch ∈ s.fetches)
      (cachedParsers : ∀ url, t.cachedParsers.get? url =
        if url = fetch.requestUrl then some ⟨source, parser⟩ else s.cachedParsers.get? url)
      (parsersFile : t.parsersFile = some sources)
      (saved : ∀ url, sources.get? url = (t.cachedParsers.get? url).map CachedParser.source)
      (requested : t.requested = s.requested) (fetches : t.fetches = s.fetches.erase fetch)
  | failed (fetch : ParserFetch) (parsersFile : t.parsersFile = s.parsersFile)
      (cachedParsers : t.cachedParsers = s.cachedParsers ∨
        ∃ sources, s.parsersFile = some sources ∧
          t.cachedParsers = (lib.loadParsers sources).state)
      (requested : t.requested = s.requested) (fetches : t.fetches = s.fetches.erase fetch)

/-- The rest of the state does not matter. -/
theorem ParsersStep.congr {u : ParserHandler Parser Data} (h : ParsersStep lib u t)
    (hcachedParsers : u.cachedParsers = s.cachedParsers) (hfile : u.parsersFile = s.parsersFile)
    (hrequested : u.requested = s.requested) (hfetches : u.fetches = s.fetches) :
    ParsersStep lib s t := by
  cases h with
  | same hc hf hr hp =>
    exact .same (hc.trans hcachedParsers) (hf.trans hfile) (hr.trans hrequested) (hp.trans hfetches)
  | request id requestUrl hunknown hc hf hr hp =>
    rw [hcachedParsers] at hunknown hc
    rw [hrequested] at hr
    rw [hfetches] at hp
    exact .request id requestUrl hunknown hc (hf.trans hfile) hr hp
  | fetched fetch source parser sources hpending hc hf hsaved hr hp =>
    rw [hfetches] at hpending hp
    rw [hcachedParsers] at hc
    exact .fetched fetch source parser sources hpending hc hf hsaved (hr.trans hrequested) hp
  | failed fetch hf hc hr hp =>
    rw [hcachedParsers, hfile] at hc
    rw [hfetches] at hp
    exact .failed fetch (hf.trans hfile) hc (hr.trans hrequested) hp

private theorem parsersStep_handlePeripheral (peripheral : Peripheral) :
    ParsersStep lib s (s.handlePeripheral lib peripheral) := by
  rcases handlePeripheral_cases lib s peripheral with
    heq | ⟨_, _, _, _, _, _, _, heq⟩
  · rw [heq]
    exact .same rfl rfl rfl rfl
  · rw [heq]
    exact .same rfl rfl rfl rfl

private theorem parsersStep_gotExpandedUrl (id shortUrl fullUrl : String) :
    ParsersStep lib s (s.gotExpandedUrl lib id shortUrl fullUrl) := by
  unfold gotExpandedUrl
  dsimp only
  split
  · exact .same rfl rfl rfl rfl
  · next hunknown =>
    exact .request id _ (Bool.eq_false_of_not_eq_true hunknown) rfl rfl rfl rfl

private theorem parsersStep_gotParseJs {fetch : ParserFetch} (hfetch : fetch ∈ s.fetches)
    (now : Nat) (body : Option String) : ParsersStep lib s
      (gotParseJs lib { s with now := now, fetches := s.fetches.erase fetch } fetch body) := by
  unfold gotParseJs
  cases body with
  | some source =>
    dsimp only
    split
    · next parser _ =>
      refine .fetched fetch source (some parser) _ hfetch (fun url ↦ ?_) rfl (fun url ↦ ?_) rfl rfl
      · rw [JsObject.get?_set, JsObject.get?_set]
        split <;> rfl
      · rw [JsObject.get?_mapValues, JsObject.get?_set, JsObject.get?_set, JsObject.get?_set]
        split <;> rfl
    · refine .fetched fetch source none _ hfetch (fun url ↦ ?_) rfl (fun url ↦ ?_) rfl rfl
      · exact JsObject.get?_set _ _ _ _
      · exact JsObject.get?_mapValues _ _ _
  | none =>
    dsimp only
    split
    · exact .failed fetch rfl (Or.inl rfl) rfl rfl
    · next sources hsources =>
      split
      · exact .failed fetch rfl (Or.inr ⟨sources, hsources, rfl⟩) rfl rfl
      · exact .failed fetch rfl (Or.inr ⟨sources, hsources, rfl⟩) rfl rfl

/-- Every event does one of these. -/
theorem parsersStep {e : ParserEvent Data} (ht : s.step lib e = some t) : ParsersStep lib s t := by
  unfold step at ht
  cases e with
  | discover peripheral now =>
    rcases discover_cases ((toOption_eq_some_iff _ _).mp ht) with rfl | ⟨beacon, _, hhandled⟩
    · exact .same rfl rfl rfl rfl
    · rcases handleBeacon_cases hhandled with rfl | rfl | ⟨_, _, _, _, _, _, rfl⟩
      · exact .same rfl rfl rfl rfl
      · exact (parsersStep_handlePeripheral peripheral).congr rfl rfl rfl rfl
      · exact (parsersStep_gotExpandedUrl _ _ _).congr rfl rfl rfl rfl
  | response fetch body now =>
    dsimp only at ht
    split at ht
    · next hfetch =>
      obtain rfl := Option.some.inj ht
      exact parsersStep_gotParseJs hfetch now body
    · cases ht
  | advertisementDone call advObj localObj =>
    dsimp only at ht
    split at ht
    · obtain rfl := Option.some.inj ht
      exact .same rfl rfl rfl rfl
    · cases ht
  | connected call failed =>
    dsimp only at ht
    split at ht
    · obtain rfl := Option.some.inj ht
      exact .same rfl rfl rfl rfl
    · cases ht
  | servicesDone call dataObj =>
    dsimp only at ht
    split at ht
    · obtain rfl := Option.some.inj ht
      exact .same rfl rfl rfl rfl
    · cases ht
  | disconnected call failed =>
    dsimp only at ht
    split at ht
    · obtain rfl := Option.some.inj ht
      cases failed with
      | true => exact .same rfl rfl rfl rfl
      | false => exact .same rfl rfl rfl rfl
    · cases ht

/-- Loading the parsers of a file keeps all its names. -/
theorem exists_get?_loadParsers (lib : ParserLibrary Parser Data) {file : JsObject String}
    {requestUrl source : String} (h : file.get? requestUrl = some source) :
    ∃ parser, (lib.loadParsers file).state.get? requestUrl = some ⟨source, parser⟩ := by
  have hloop := @Outcome.forEach_relates _ _ _ lib.loadParser
    (fun c d ↦ (∃ entry, c.get? requestUrl = some entry) →
      ∃ entry, d.get? requestUrl = some entry)
    (fun _ h ↦ h) (fun _ _ _ hcd hde h ↦ hde (hcd h)) file.ownEntries ?_
    (file.mapValues fun source ↦ ⟨source, none⟩)
  · obtain ⟨⟨source', parser⟩, hentry⟩ := hloop ⟨⟨source, none⟩, by
      rw [JsObject.get?_mapValues, h, Option.map_some]⟩
    have hsource := (get?_loadParsers file requestUrl hentry).1
    rw [h] at hsource
    obtain rfl := Option.some.inj hsource
    exact ⟨parser, hentry⟩
  · rintro entry _ cachedParsers ⟨cached, hcached⟩
    unfold ParserLibrary.loadParser
    split
    · rw [Outcome.state_done, JsObject.get?_set]
      split
      · exact ⟨_, rfl⟩
      · exact ⟨cached, hcached⟩
    · exact ⟨cached, hcached⟩

/-- The file has what is cached. -/
def Saved (s : ParserHandler Parser Data) : Prop :=
  ∀ url cached, s.cachedParsers.get? url = some cached →
    ∃ sources, s.parsersFile = some sources ∧ sources.get? url = some cached.source

/-- At first there is nothing to save. -/
theorem Saved.initial : (initial file : ParserHandler Parser Data).Saved :=
  fun _ _ hget ↦ nomatch hget

/-- No event leaves anything unsaved. -/
theorem Saved.step (h : s.Saved) {e : ParserEvent Data} (ht : s.step lib e = some t) :
    t.Saved := by
  intro url cached hget
  cases parsersStep ht with
  | same hc hf _ _ =>
    rw [hc] at hget
    rw [hf]
    exact h url cached hget
  | request _ _ _ hc hf _ _ =>
    rw [hc] at hget
    rw [hf]
    exact h url cached hget
  | fetched _ _ _ sources _ _ hf hsaved _ _ =>
    refine ⟨sources, hf, ?_⟩
    rw [hsaved, hget, Option.map_some]
  | failed _ hf hc _ _ =>
    rw [hf]
    rcases hc with hc | ⟨sources, hsources, hc⟩
    · rw [hc] at hget
      exact h url cached hget
    · rw [hc] at hget
      exact ⟨sources, hsources, (get?_loadParsers sources url hget).1⟩

/-- A cached parser stays cached, with the same source unless a request of it was under way. -/
theorem cached_step (h : s.Saved) {e : ParserEvent Data} (ht : s.step lib e = some t)
    {requestUrl : String} {cached : CachedParser Parser}
    (hcached : s.cachedParsers.get? requestUrl = some cached) :
    ∃ cached', t.cachedParsers.get? requestUrl = some cached' ∧
      ((∀ fetch ∈ s.fetches, fetch.requestUrl ≠ requestUrl) → cached'.source = cached.source) := by
  cases parsersStep ht with
  | same hc _ _ _ => exact ⟨cached, hc ▸ hcached, fun _ ↦ rfl⟩
  | request _ _ _ hc _ _ _ => exact ⟨cached, hc ▸ hcached, fun _ ↦ rfl⟩
  | fetched fetch source parser _ hpending hc _ _ _ _ =>
    rw [hc]
    split
    · next heq => exact ⟨_, rfl, fun hnone ↦ (hnone fetch hpending heq.symm).elim⟩
    · exact ⟨cached, hcached, fun _ ↦ rfl⟩
  | failed _ _ hc _ _ =>
    rcases hc with hc | ⟨sources, hsources, hc⟩
    · exact ⟨cached, hc ▸ hcached, fun _ ↦ rfl⟩
    · obtain ⟨sources', hsources', hget⟩ := h requestUrl cached hcached
      rw [hsources] at hsources'
      obtain rfl := Option.some.inj hsources'
      obtain ⟨parser, hparser⟩ := exists_get?_loadParsers lib hget
      exact ⟨⟨cached.source, parser⟩, hc ▸ hparser, fun _ ↦ rfl⟩

/-- It is not requested again. -/
theorem requested_step {e : ParserEvent Data} (ht : s.step lib e = some t) {requestUrl : String}
    {cached : CachedParser Parser} (hcached : s.cachedParsers.get? requestUrl = some cached) :
    t.requested.count requestUrl = s.requested.count requestUrl ∧
      ((∀ fetch ∈ s.fetches, fetch.requestUrl ≠ requestUrl) →
        ∀ fetch ∈ t.fetches, fetch.requestUrl ≠ requestUrl) := by
  cases parsersStep ht with
  | same _ _ hr hp =>
    rw [hr, hp]
    exact ⟨rfl, id⟩
  | request id requestUrl' hunknown _ _ hr hp =>
    have hne : requestUrl' ≠ requestUrl := by
      rintro rfl
      rw [JsObject.hasOwn, hcached] at hunknown
      cases hunknown
    rw [hr, hp, List.count_append, List.count_singleton, if_neg (by simpa using hne)]
    refine ⟨rfl, fun hnone fetch hmem ↦ ?_⟩
    rcases List.mem_append.mp hmem with hmem | hmem
    · exact hnone fetch hmem
    · rw [List.mem_singleton.mp hmem]
      exact hne
  | fetched _ _ _ _ _ _ _ _ hr hp =>
    rw [hr, hp]
    exact ⟨rfl, fun hnone fetch hmem ↦ hnone fetch (List.mem_of_mem_erase hmem)⟩
  | failed _ _ _ hr hp =>
    rw [hr, hp]
    exact ⟨rfl, fun hnone fetch hmem ↦ hnone fetch (List.mem_of_mem_erase hmem)⟩

/-- Once a parser is cached, no later event requests it again; if no request of it is under way
either, it stays the same forever, although its age is renewed every few minutes. -/
theorem parser_kept {before after : List (ParserEvent Data)}
    (hs : run (step lib) (initial file) before = some s) (ht : run (step lib) s after = some t)
    {requestUrl : String} {cached : CachedParser Parser}
    (hcached : s.cachedParsers.get? requestUrl = some cached) :
    t.requested.count requestUrl = s.requested.count requestUrl ∧
      ∃ cached', t.cachedParsers.get? requestUrl = some cached' ∧
        ((∀ fetch ∈ s.fetches, fetch.requestUrl ≠ requestUrl) →
          cached'.source = cached.source) := by
  have hsaved : s.Saved :=
    run_invariant (step lib) (fun _ _ _ h ht ↦ h.step ht) before Saved.initial hs
  clear hs
  induction after generalizing s cached with
  | nil =>
    obtain rfl := Option.some.inj ht
    exact ⟨rfl, cached, hcached, fun _ ↦ rfl⟩
  | cons e after ih =>
    obtain ⟨u, hu, ht⟩ := Option.bind_eq_some_iff.mp ht
    obtain ⟨cached', hcached', hsource⟩ := cached_step hsaved hu hcached
    obtain ⟨hcount, hpending⟩ := requested_step hu hcached
    obtain ⟨hrest, cached'', hcached'', hsource'⟩ := ih ht hcached' (hsaved.step hu)
    exact ⟨hrest.trans hcount, cached'', hcached'',
      fun hnone ↦ (hsource' (hpending hnone)).trans (hsource hnone)⟩

/-- Libraries on one URL; a module exports what it is made of. -/
def sampleLibrary : ParserLibrary String String where
  urlDecode _ := .ok "https://j2x.us/herald"
  pathname url := .ok ((split '/' url).getLast?.map ("/" ++ ·))
  clean := id
  requireFromString source _ := .ok source
  hasParseAdvertisement _ := true
  hasParseServices _ := false
  device _ := some "herald"
  withId _ data := data

/-- A beacon with this URL. -/
def sampleBeacon : Peripheral :=
  ⟨"c0", none, none, some [⟨"feaa", [0x10, 0x00, 0x03, 0x6a]⟩], none⟩

/-- Where its parser is. -/
def sampleRequestUrl : String :=
  "http://rawgit.com/uva-linklab/herald/master/summon/herald/parse.js"

/-- The parser is fetched. -/
def sampleFetched : List (ParserEvent String) :=
  [.discover sampleBeacon 0, .response ⟨"c0", sampleRequestUrl⟩ (some "v1") 1000]

/-- After ten minutes the beacon is looked up again, and its parser is not. -/
theorem parser_kept_herald :
    ∃ s t, run (step sampleLibrary) (initial none) sampleFetched = some s ∧
      run (step sampleLibrary) s [.discover sampleBeacon 600000] = some t ∧
      s.requested = [sampleRequestUrl] ∧ t.requested.count sampleRequestUrl = 1 ∧
      ∃ parser, t.cachedParsers.get? sampleRequestUrl = some ⟨"v1", parser⟩ := by
  have hs : (run (step sampleLibrary) (initial none) sampleFetched).map (fun s ↦
      (s.requested, (s.cachedParsers.get? sampleRequestUrl).map CachedParser.source, s.fetches)) =
        some ([sampleRequestUrl], some "v1", []) := by decide +kernel
  obtain ⟨s, hs, hstate⟩ := Option.map_eq_some_iff.mp hs
  have ht : ((run (step sampleLibrary) (initial none) sampleFetched).bind fun s ↦
      run (step sampleLibrary) s [.discover sampleBeacon 600000]).isSome = true := by decide +kernel
  rw [hs, Option.bind_some] at ht
  obtain ⟨t, ht⟩ := Option.isSome_iff_exists.mp ht
  obtain ⟨hrequested, hstate⟩ := Prod.mk.inj hstate
  obtain ⟨hcached, hfetches⟩ := Prod.mk.inj hstate
  obtain ⟨cached, hcached, hsource⟩ := Option.map_eq_some_iff.mp hcached
  obtain ⟨hcount, ⟨source, parser⟩, hcached', hsource'⟩ := parser_kept hs ht hcached
  have hnone : ∀ fetch ∈ s.fetches, fetch.requestUrl ≠ sampleRequestUrl := by
    rw [hfetches]
    exact fun _ h ↦ absurd h List.not_mem_nil
  obtain rfl : source = "v1" := (hsource' hnone).trans hsource
  refine ⟨s, t, hs, ht, hrequested, ?_, parser, hcached'⟩
  rw [hcount, hrequested, List.count_singleton_self]

end ParserHandler
end NexusEdge.Devices
