import NexusEdge.Base.JsObject
import NexusEdge.Devices.Advertisements

/-!
# Eddystone beacons

Library `Devices`. The parser `edystone-beacon-parser.js` and the handler of its beacons,
`lab11-ble-handler.js:46–189` with `url-converter.js`, up to the URL from which a parser is fetched.
A telemetry frame takes the type and URL of the beacon parsed before it. Decoding a URL and taking
it apart are functions of libraries; the caches of the handler can be written.
-/

namespace NexusEdge.Devices
open NexusEdge.Base

/-- The libraries that handle URLs. -/
structure UrlLibrary where
  /-- `decode` of `eddystone-url-encoding`. -/
  urlDecode : Buffer → Except String String
  /-- `url.parse(url).pathname`. -/
  pathname : String → Except String (Option String)

/-! ### The parser -/

/-- `beacon.type`. -/
inductive BeaconType where
  | uid
  | url
  | tlm
  | unknown
  deriving DecidableEq

/-- Telemetry before scaling. -/
structure Tlm where
  version : Nat
  vbatt : Nat
  temp : Int
  advCnt : Nat
  secCnt : Nat

/-- A beacon. -/
structure Beacon where
  type : BeaconType
  txPower : Option Int
  namespaceId : Option Buffer
  instanceId : Option Buffer
  url : Option String
  tlm : Option Tlm

/-- `SERVICE_UUID`. -/
def eddystoneServiceUuid : String := "feaa"

/-- `UID_FRAME_TYPE`. -/
def uidFrameType : Nat := 0x00

/-- `URL_FRAME_TYPE`. -/
def urlFrameType : Nat := 0x10

/-- `TLM_FRAME_TYPE`. -/
def tlmFrameType : Nat := 0x20

/-- `_isBeacon`, `edystone-beacon-parser.js:65–74`, with the data that is parsed. -/
def beaconData (peripheral : Peripheral) : Option Buffer :=
  match peripheral.advertisement.serviceData with
  | some (first :: _) =>
    if first.uuid = eddystoneServiceUuid ∧ 2 < first.data.length then some first.data else none
  | _ => none

/-- `_parseUidData`. -/
def parseUidData (data : Buffer) : Except String Beacon := do
  let txPower ← data.readInt8 1
  return ⟨.uid, some txPower, some (data.slice 2 12), some (data.slice 12 18), none, none⟩

/-- `_parseUrlData`. -/
def parseUrlData (lib : UrlLibrary) (data : Buffer) : Except String Beacon := do
  let txPower ← data.readInt8 1
  let url ← lib.urlDecode (data.drop 2)
  return ⟨.url, some txPower, none, none, some url, none⟩

/-- `_parseTlmData`. -/
def parseTlmData (data : Buffer) : Except String Beacon := do
  let version ← data.readUInt8 1
  let vbatt ← data.readUInt16BE 2
  let temp ← data.readInt16BE 4
  let advCnt ← data.readUInt32BE 6
  let secCnt ← data.readUInt32BE 10
  return ⟨.tlm, none, none, none, none, some ⟨version, vbatt, temp, advCnt, secCnt⟩⟩

/-- `_parseBeacon`, `edystone-beacon-parser.js:76–114`. -/
def parseBeacon (lib : UrlLibrary) (data : Buffer) : Except String Beacon := do
  let frameType ← data.readUInt8 0
  if frameType = uidFrameType then parseUidData data
  else if frameType = urlFrameType then parseUrlData lib data
  else if frameType = tlmFrameType then parseTlmData data
  else return ⟨.unknown, none, none, none, none, none⟩

/-- Properties of the old beacon that the new one takes over. -/
def Beacon.takeOver (beacon oldBeacon : Beacon) : Beacon :=
  match beacon.type with
  | .tlm =>
    { beacon with
      type := oldBeacon.type
      url := oldBeacon.url.or beacon.url
      namespaceId := oldBeacon.namespaceId.or beacon.namespaceId
      instanceId := oldBeacon.instanceId.or beacon.instanceId }
  | _ => { beacon with tlm := oldBeacon.tlm.or beacon.tlm }

/-! ### The handler -/

/-- The caches of the handler and of the parser it uses, and the time. -/
structure Lab11BleHandler where
  /-- `_discovered` of the parser. -/
  discovered : JsObject Beacon
  /-- `_device_id_ages`. -/
  deviceIdAges : JsObject Nat
  /-- `_cached_urls`. -/
  cachedUrls : JsObject String
  /-- `Date.now()`. -/
  now : Nat

/-- `PARSE_JS_CACHE_TIME_IN_MS`. -/
def parseJsCacheTimeInMs : Nat := 5 * 60 * 1000

/-- Paths of URLs that are replaced by those of another shortener. -/
def needFixing : List String :=
  ["/6EKY8W", "/WRzp2g", "/qtn9V9", "/WRKqIy", "/2W2FTt", "/BA1zPM", "/8685Uw", "/hWTo8W",
    "/nCQV8C", "/sbMMHT", "/9aD6Wi", "/2ImXWJ", "/dbhGnF", "/3YACnH", "/449K5X", "/jEKPu9",
    "/xWppj1", "/Edukt0"]
/-- `mapping` of `url-converter.js`. -/
def mapping : List (String × String) :=
  [("ppts16", "https://www.dropbox.com/s/aucms2q4x9hgebi/anchor_configuration.json?dl=1"),
   ("ligeir", "https://rawgit.com/lab11/monjolo/master/summon/ligeiro/index.html"),
   ("edimax", "https://rawgit.com/lab11/edimax-lab11/master/summon/index.html"),
   ("hue", "https://rawgit.com/lab11/edimax-lab11/master/summon-hue/index.html"),
   ("Edukt0", "https://rawgit.com/lab11/polypoint/master/phone/tritag-summon/index.html"),
   ("bgauge", "https://rawgit.com/lab11/signpost/master/summon/bgauge/index.html"),
   ("6EKY8W",
     "https://cdn.rawgit.com/lab11/powerblade/" ++
       "030626a2aa748c0b0d7c3a69d9fd005d6d769667/software/summon/index.html"),
   ("WRzp2g",
     "https://cdn.rawgit.com/lab11/powerblade/" ++
       "030626a2aa748c0b0d7c3a69d9fd005d6d769667/software/summon/index.html"),
   ("qtn9V9",
     "https://cdn.rawgit.com/lab11/signpost/b0d85f00cf5dd5dbba3c834755a80388e116056d/" ++
       "solar_panel_test/summon/solar-test/index.html"),
   ("WRKqIy",
     "https://cdn.rawgit.com/lab11/signpost/b0d85f00cf5dd5dbba3c834755a80388e116056d/" ++
       "solar_panel_test/summon/solar-test/index.html"),
   ("2W2FTt",
     "https://cdn.rawgit.com/lab11/signpost/b0d85f00cf5dd5dbba3c834755a80388e116056d/" ++
       "solar_panel_test/summon/solar-test/index.html"),
   ("BA1zPM",
     "https://cdn.rawgit.com/lab11/signpost/b0d85f00cf5dd5dbba3c834755a80388e116056d/" ++
       "solar_panel_test/summon/solar-test/index.html"),
   ("8685Uw",
     "https://rawgit.com/helena-project/storm-ble/master/summon/firestorm-sensing/index.html"),
   ("hWTo8W", "https://rawgit.com/lab11/summon/master/examples/cordova-apps/os-agnostic/index.html"),
   ("nCQV8C",
     "https://rawgit.com/lab11/monoxalyze/master/software/summon/monoxalyze-collect/index.html"),
   ("sbMMHT",
     "https://cdn.rawgit.com/lab11/blees/1ba78e5c51afe7c10b885d2c5243229f6b4d093c/" ++
       "summon/squall-pir/index.html"),
   ("9aD6Wi",
     "https://cdn.rawgit.com/lab11/powerblade/" ++
       "030626a2aa748c0b0d7c3a69d9fd005d6d769667/software/summon/index.html"),
   ("2ImXWJ",
     "https://cdn.rawgit.com/lab11/blees/1ba78e5c51afe7c10b885d2c5243229f6b4d093c/" ++
       "summon/blees-demo/index.html"),
   ("dbhGnF",
     "https://cdn.rawgit.com/lab11/blees/1ba78e5c51afe7c10b885d2c5243229f6b4d093c/" ++
       "summon/blees-demo/index.html"),
   ("3YACnH", "https://raw.githubusercontent.com/lab11/gateway/master/devices/test/"),
   ("449K5X", "https://cdn.rawgit.com/lab11/torch/master/summon/torch/index.html"),
   ("jEKPu9",
     "https://cdn.rawgit.com/lab11/powerblade/" ++
       "030626a2aa748c0b0d7c3a69d9fd005d6d769667/software/summon/index.html"),
   ("xWppj1",
     "https://cdn.rawgit.com/lab11/blees/1ba78e5c51afe7c10b885d2c5243229f6b4d093c/" ++
       "summon/blees-demo/index.html"),
   ("signp", "http://rawgit.com/lab11/signpost/master/summon/demo/index.html"),
   ("signpost", "http://rawgit.com/lab11/signpost/master/summon/demo/index.html"),
   ("signpost_gateway", "141.212.11.245"),
   ("github", "https://github.com"),
   ("imix", "http://rawgit.com/helena-project/sensys16-demo/master/summon/demo/index.html"),
   ("herald", "http://rawgit.com/uva-linklab/herald/master/summon/herald/index.html"),
   ("LPCSB", "https://cdn.jsdelivr.net/gh/uva-linklab/LPCSB@master/summon/LPCSB/index.html"),
   ("lab11", "http://lab11.eecs.umich.edu"),
   ("tock", "https://github.com/tock/tock/blob/tutorial-sensys-2018/doc/courses/sensys/README.md"),
   ("tock1",
     "https://github.com/tock/tock/blob/tutorial-sensys-2018/doc/courses/sensys/environment.md"),
   ("tock2",
     "https://github.com/tock/tock/blob/tutorial-sensys-2018/doc/courses/sensys/application.md"),
   ("tock4", "https://github.com/tock/tock/blob/tutorial-sensys-2018/doc/courses/sensys/client.md"),
   ("tock5",
     "https://github.com/tock/tock/blob/tutorial-sensys-2018/doc/courses/sensys/freeform.md"),
   ("tock3", "https://github.com/helena-project/tock/blob/master/doc/courses/sensys/capsule.md"),
   ("perm", "https://lab11.github.io/permamote/gateway/"),
   ("golf", "https://www.youtube.com/watch?v=XSCavIY9KSI"),
   ("judo", "https://www.youtube.com/watch?v=DQKiy0FXQao"),
   ("data19",
     "https://docs.google.com/presentation/d/1PEXqc3ClfQABbHtcajOSzdmDjAC1p3RuNispjRmaVuY/edit"),
   ("heart", "https://nealsjackson.com/heartworm/summon/index.html")]

/-- `getExpandedUrl`, `url-converter.js:53–60`. -/
def getExpandedUrl (lib : UrlLibrary) (shortUrl : String) : Except String (Option String) := do
  let pathname ← lib.pathname shortUrl
  match pathname with
  | some pathname => return mapping.lookup (pathname.drop 1).toString
  | none => throw undefinedError

/-- A URL whose path needs fixing is rewritten. -/
def shorten (url : String) (urlPath : Option String) : String :=
  match urlPath with
  | some urlPath => if urlPath ∈ needFixing then "https://j2x.us" ++ urlPath else url
  | none => url

namespace Lab11BleHandler

/-- `parse`, `edystone-beacon-parser.js:31–63`. -/
def parse (lib : UrlLibrary) (s : Lab11BleHandler) (peripheral : Peripheral) :
    Except String (Option Beacon) :=
  match beaconData peripheral with
  | none => .ok none
  | some data => do
    let beacon ← parseBeacon lib data
    return some ((s.discovered.get? peripheral.id).elim beacon beacon.takeOver)

/-- A parser for the device was found not long ago. -/
def isRecent (s : Lab11BleHandler) (id : String) : Bool :=
  (s.deviceIdAges.get? id).any fun age ↦ s.now - age < parseJsCacheTimeInMs

/-- The URL of a beacon in full, if it is known. -/
def fullUrl (lib : UrlLibrary) (s : Lab11BleHandler) (url : String) :
    Except String (Option String) := do
  let urlPath ← lib.pathname url
  match s.cachedUrls.get? (shorten url urlPath) with
  | some fullUrl => return some fullUrl
  | none => getExpandedUrl lib (shorten url urlPath)

/-- `_handleBeacon`, `lab11-ble-handler.js:46–189`, with the full URL it goes on with. -/
def handleBeacon (lib : UrlLibrary) (s : Lab11BleHandler) (id : String) (beacon : Beacon) :
    Except String (Option String) :=
  if s.isRecent id then .ok none
  else
    match beacon.type, beacon.url with
    | .url, some url => s.fullUrl lib url
    | .url, none => .error undefinedError
    | _, _ => .ok none

/-- The callback of `getEddystonePeripherals`, `ble-controller.js:205–212`. -/
def onPeripheral (lib : UrlLibrary) (s : Lab11BleHandler) (peripheral : Peripheral) :
    Except String (Option String) := do
  let beacon ← s.parse lib peripheral
  match beacon with
  | some beacon => s.handleBeacon lib peripheral.id beacon
  | none => return none

/-! ### What is handled -/

/-- The URL can be taken apart, and so can the one it is shortened to, which has a path, unless its
expansion is cached. -/
def UrlExpands (lib : UrlLibrary) (s : Lab11BleHandler) (url : String) : Prop :=
  ∃ urlPath, lib.pathname url = .ok urlPath ∧
    (s.cachedUrls.get? (shorten url urlPath) = none →
      ∃ path, lib.pathname (shorten url urlPath) = .ok (some path))

/-- A beacon with the URL of this device is handled. -/
def UrlHandled (lib : UrlLibrary) (s : Lab11BleHandler) (id : String) (url : Option String) :
    Prop :=
  s.isRecent id = false → ∃ u, url = some u ∧ s.UrlExpands lib u

/-- URL frames have a URL that is handled, and telemetry frames all their fields; the beacon whose
type they take over is handled too. -/
def Safe (lib : UrlLibrary) (s : Lab11BleHandler) (peripheral : Peripheral) : Prop :=
  ∀ data, beaconData peripheral = some data →
    if byteAt data 0 = urlFrameType then
      ∃ url, lib.urlDecode (data.drop 2) = .ok url ∧ s.UrlHandled lib peripheral.id (some url)
    else if byteAt data 0 = tlmFrameType then
      14 ≤ data.length ∧ ∀ oldBeacon, s.discovered.get? peripheral.id = some oldBeacon →
        oldBeacon.type = .url → s.UrlHandled lib peripheral.id oldBeacon.url
    else True

variable {lib : UrlLibrary} {s : Lab11BleHandler}

/-- Data of a beacon has at least three bytes. -/
theorem lt_length_of_beaconData {peripheral : Peripheral} {data : Buffer}
    (h : beaconData peripheral = some data) : 2 < data.length := by
  unfold beaconData at h
  split at h
  · split at h
    · next hdata => exact Option.some.inj h ▸ hdata.2
    · cases h
  · cases h

/-- The expansion of a short URL is looked up by its path. -/
theorem returns_getExpandedUrl (shortUrl : String) : Returns (getExpandedUrl lib shortUrl) ↔
    ∃ path, lib.pathname shortUrl = .ok (some path) := by
  unfold getExpandedUrl
  rw [returns_bind]
  constructor
  · rintro ⟨pathname, hpathname, hreturns⟩
    cases pathname with
    | none => cases not_returns_error _ hreturns
    | some path => exact ⟨path, hpathname⟩
  · rintro ⟨path, hpath⟩
    exact ⟨some path, hpath, returns_pure _⟩

/-- The full URL is found. -/
theorem returns_fullUrl (url : String) : Returns (s.fullUrl lib url) ↔ s.UrlExpands lib url := by
  unfold fullUrl
  rw [returns_bind]
  refine exists_congr fun urlPath ↦ and_congr_right fun _ ↦ ?_
  cases s.cachedUrls.get? (shorten url urlPath) with
  | some fullUrl => exact iff_of_true (returns_pure _) nofun
  | none => exact (returns_getExpandedUrl _).trans ⟨fun h _ ↦ h, fun h ↦ h rfl⟩

/-- Beacons other than those with URLs are handled anyway. -/
theorem returns_handleBeacon (id : String) (beacon : Beacon) :
    Returns (s.handleBeacon lib id beacon) ↔
      (beacon.type = .url → s.UrlHandled lib id beacon.url) := by
  unfold handleBeacon UrlHandled
  split
  · next hrecent =>
    refine iff_of_true (returns_ok _) fun _ hold ↦ ?_
    rw [hrecent] at hold
    cases hold
  · next hrecent =>
    have hold := Bool.eq_false_of_not_eq_true hrecent
    split
    · next url htype hurl =>
      rw [returns_fullUrl, forall_prop_of_true htype, forall_prop_of_true hold, hurl]
      exact ⟨fun h ↦ ⟨url, rfl, h⟩, fun ⟨u, hu, h⟩ ↦ Option.some.inj hu ▸ h⟩
    · next htype hurl =>
      rw [forall_prop_of_true htype, forall_prop_of_true hold, hurl]
      exact iff_of_false (not_returns_error _) fun ⟨u, hu, _⟩ ↦ nomatch hu
    · next hsome hnone =>
      refine iff_of_true (returns_ok _) fun htype ↦ ?_
      cases hurl : beacon.url with
      | some url => exact (hsome url htype hurl).elim
      | none => exact (hnone htype hurl).elim

/-- Only telemetry takes over a type and a URL. -/
theorem takeOver_of_ne {beacon : Beacon} (htype : beacon.type ≠ .tlm) (old : Option Beacon) :
    (old.elim beacon beacon.takeOver).type = beacon.type ∧
      (old.elim beacon beacon.takeOver).url = beacon.url := by
  cases old with
  | none => exact ⟨rfl, rfl⟩
  | some oldBeacon =>
    simp only [Option.elim_some, Beacon.takeOver]
    cases hbeacon : beacon.type with
    | tlm => exact (htype hbeacon).elim
    | uid => exact ⟨trivial, trivial⟩
    | url => exact ⟨trivial, trivial⟩
    | unknown => exact ⟨trivial, trivial⟩

/-- Frames without a URL are handled. -/
theorem returns_handleBeacon_other (id : String) {beacon : Beacon}
    (h : beacon.type = .uid ∨ beacon.type = .unknown) (old : Option Beacon) :
    Returns (s.handleBeacon lib id (old.elim beacon beacon.takeOver)) := by
  have htlm : beacon.type ≠ .tlm := by rcases h with h | h <;> rw [h] <;> decide
  have hurl : beacon.type ≠ .url := by rcases h with h | h <;> rw [h] <;> decide
  rw [returns_handleBeacon, (takeOver_of_ne htlm old).1]
  exact fun htype ↦ (hurl htype).elim

/-- A URL frame is handled as its URL is. -/
theorem returns_handleBeacon_url (id : String) {beacon : Beacon} (h : beacon.type = .url)
    (old : Option Beacon) : Returns (s.handleBeacon lib id (old.elim beacon beacon.takeOver)) ↔
      s.UrlHandled lib id beacon.url := by
  have htlm : beacon.type ≠ .tlm := by rw [h]; decide
  obtain ⟨htype, hurl⟩ := takeOver_of_ne htlm old
  rw [returns_handleBeacon, htype, hurl, forall_prop_of_true h]

/-- Telemetry is handled as the beacon before it. -/
theorem returns_handleBeacon_tlm (id : String) {beacon : Beacon} (h : beacon.type = .tlm)
    (hurl : beacon.url = none) (old : Option Beacon) :
    Returns (s.handleBeacon lib id (old.elim beacon beacon.takeOver)) ↔
      ∀ oldBeacon, old = some oldBeacon → oldBeacon.type = .url →
        s.UrlHandled lib id oldBeacon.url := by
  rw [returns_handleBeacon]
  cases old with
  | none =>
    refine iff_of_true (fun htype ↦ ?_) nofun
    rw [Option.elim_none, h] at htype
    cases htype
  | some oldBeacon =>
    simp only [Option.elim_some, Beacon.takeOver, h, hurl, Option.or_none, Option.some.injEq,
      forall_eq']

/-- The callback returns exactly on the beacons that are safe. -/
theorem returns_onPeripheral (peripheral : Peripheral) :
    Returns (s.onPeripheral lib peripheral) ↔ s.Safe lib peripheral := by
  unfold onPeripheral parse Safe
  cases hdata : beaconData peripheral with
  | none => exact iff_of_true (returns_pure _) nofun
  | some data =>
    have hlength := lt_length_of_beaconData hdata
    have hbyte : Buffer.littleEndian (data.bytesAt 0 1) = byteAt data 0 := rfl
    simp only [Option.some.injEq, forall_eq', parseBeacon, bind_assoc, pure_bind,
      Buffer.returns_read_bind]
    rw [hbyte, and_iff_right (by omega)]
    by_cases huid : byteAt data 0 = uidFrameType
    · simp only [huid, if_true, parseUidData, bind_assoc, pure_bind, Buffer.returns_read_bind,
        if_neg (show ¬ uidFrameType = urlFrameType by decide),
        if_neg (show ¬ uidFrameType = tlmFrameType by decide)]
      exact iff_of_true ⟨by omega, returns_handleBeacon_other _ (Or.inl rfl) _⟩ trivial
    by_cases hurl : byteAt data 0 = urlFrameType
    · simp only [hurl, if_true, parseUrlData, bind_assoc, pure_bind, Buffer.returns_read_bind,
        if_neg (show ¬ urlFrameType = uidFrameType by decide)]
      rw [and_iff_right (by omega), returns_bind]
      exact exists_congr fun url ↦ and_congr_right fun _ ↦ returns_handleBeacon_url _ rfl _
    by_cases htlm : byteAt data 0 = tlmFrameType
    · simp only [htlm, if_true, parseTlmData, bind_assoc, pure_bind, Buffer.returns_read_bind,
        if_neg (show ¬ tlmFrameType = uidFrameType by decide),
        if_neg (show ¬ tlmFrameType = urlFrameType by decide)]
      rw [returns_handleBeacon_tlm _ rfl rfl]
      constructor
      · rintro ⟨_, _, _, _, hend, hold⟩
        exact ⟨hend, hold⟩
      · rintro ⟨hend, hold⟩
        exact ⟨by omega, by omega, by omega, by omega, hend, hold⟩
    · simp only [huid, hurl, htlm, if_false, pure_bind]
      exact iff_of_true (returns_handleBeacon_other _ (Or.inr rfl) _) trivial

end Lab11BleHandler
end NexusEdge.Devices
