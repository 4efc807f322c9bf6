import NexusEdge.Devices.ParserCache

/-!
# Where parsers come from

Library `Devices`. A parser is code from the web, which the handler of `lab11-ble-handler.js` runs
on what devices advertise. In every run a device is handed to the parser of the page that the device
itself has named, and what this parser makes is delivered for this device.
-/

namespace NexusEdge.Devices
open NexusEdge.Base

variable {Parser Data : Type}

namespace ParserHandler

/-- The peripheral advertises the URL. -/
def Announces (lib : UrlLibrary) (peripheral : Peripheral) (url : String) : Prop :=
  ∃ data, beaconData peripheral = some data ∧ byteAt data 0 = urlFrameType ∧
    lib.urlDecode (data.drop 2) = .ok url

variable {lib : ParserLibrary Parser Data} {s t : ParserHandler Parser Data}

private theorem url_of_parseBeacon {lib : UrlLibrary} {data : Buffer} {beacon : Beacon}
    (h : parseBeacon lib data = .ok beacon) {url : String} (hurl : beacon.url = some url) :
    byteAt data 0 = urlFrameType ∧ lib.urlDecode (data.drop 2) = .ok url := by
  obtain ⟨frameType, hframe, h⟩ := (bind_eq_ok_iff _ _ _).mp h
  have hbyte : frameType = byteAt data 0 := by
    unfold Buffer.readUInt8 Buffer.read at hframe
    split at hframe
    · exact (Except.ok.inj hframe).symm
    · cases hframe
  subst hbyte
  split at h
  · obtain ⟨txPower, _, h⟩ := (bind_eq_ok_iff _ _ _).mp h
    obtain rfl := Except.ok.inj h
    cases hurl
  split at h
  · next htype =>
    obtain ⟨txPower, _, h⟩ := (bind_eq_ok_iff _ _ _).mp h
    obtain ⟨decoded, hdecoded, h⟩ := (bind_eq_ok_iff _ _ _).mp h
    obtain rfl := Except.ok.inj h
    obtain rfl := Option.some.inj hurl
    exact ⟨htype, hdecoded⟩
  split at h
  · simp only [parseTlmData, bind_eq_ok_iff] at h
    obtain ⟨_, _, _, _, _, _, _, _, _, _, h⟩ := h
    obtain rfl := Except.ok.inj h
    cases hurl
  · obtain rfl := Except.ok.inj h
    cases hurl

/-- The URL of a beacon has been advertised, or is that of the beacon parsed before. -/
theorem url_of_parse {lib : UrlLibrary} {s : Lab11BleHandler} {peripheral : Peripheral}
    {beacon : Beacon} (h : s.parse lib peripheral = .ok (some beacon)) {url : String}
    (hurl : beacon.url = some url) : Announces lib peripheral url ∨
      ∃ old, s.discovered.get? peripheral.id = some old ∧ old.url = some url := by
  unfold Lab11BleHandler.parse at h
  split at h
  · cases h
  · next data hdata =>
    obtain ⟨parsed, hparsed, h⟩ := (bind_eq_ok_iff _ _ _).mp h
    obtain rfl := Option.some.inj (Except.ok.inj h)
    cases hold : s.discovered.get? peripheral.id with
    | none =>
      rw [hold] at hurl
      exact Or.inl ⟨data, hdata, url_of_parseBeacon hparsed hurl⟩
    | some old =>
      rw [hold] at hurl
      by_cases htype : parsed.type = .tlm
      · cases holdUrl : old.url with
        | some oldUrl =>
          simp only [Option.elim_some, Beacon.takeOver, htype, holdUrl, Option.some_or] at hurl
          exact Or.inr ⟨old, rfl, holdUrl.trans hurl⟩
        | none =>
          simp only [Option.elim_some, Beacon.takeOver, htype, holdUrl, Option.none_or] at hurl
          exact Or.inl ⟨data, hdata, url_of_parseBeacon hparsed hurl⟩
      · rw [(Lab11BleHandler.takeOver_of_ne htype (some old)).2] at hurl
        exact Or.inl ⟨data, hdata, url_of_parseBeacon hparsed hurl⟩

/-! ### Origins -/

section Origin

variable (lib) (file : Option (JsObject String)) (es : List (ParserEvent Data))

/-- The device has advertised the URL. -/
def Advertised (id url : String) : Prop :=
  ∃ peripheral now, ParserEvent.discover peripheral now ∈ es ∧ peripheral.id = id ∧
    Announces lib.toUrlLibrary peripheral url

/-- The device has advertised the URL of a page with this parser. -/
def Named (id requestUrl : String) : Prop :=
  ∃ url urlPath fullUrl, Advertised lib es id url ∧ lib.pathname url = .ok urlPath ∧
    getExpandedUrl lib.toUrlLibrary (shorten url urlPath) = .ok (some fullUrl) ∧
    requestUrl = lib.getBaseUrl fullUrl ++ filenameParse

/-- The source was fetched from there, or an earlier process had left it in the file. -/
def Obtained (requestUrl source : String) : Prop :=
  (∃ id now, ParserEvent.response ⟨id, requestUrl⟩ (some source) now ∈ es) ∨
    ∃ sources, file = some sources ∧ sources.get? requestUrl = some source

/-- The parser is made of what the device has named. -/
def OwnParser (id : String) (parser : Parser) : Prop :=
  ∃ requestUrl source, Named lib es id requestUrl ∧ Obtained file es requestUrl source ∧
    lib.requireFromString source requestUrl = .ok parser

/-- Cached parsers are made of what was obtained from where they are kept. -/
def Loaded (cachedParsers : JsObject (CachedParser Parser)) : Prop :=
  ∀ requestUrl cached, cachedParsers.get? requestUrl = some cached →
    Obtained file es requestUrl cached.source ∧
      ∀ parser, cached.parser = some parser →
        lib.requireFromString cached.source requestUrl = .ok parser

/-- Everything in the caches, in the file, passed on and delivered has its origin in the events. -/
structure Traced (s : ParserHandler Parser Data) : Prop where
  discovered : ∀ id beacon url, s.discovered.get? id = some beacon → beacon.url = some url →
    Advertised lib es id url
  cachedUrls : ∀ shortUrl fullUrl, s.cachedUrls.get? shortUrl = some fullUrl →
    getExpandedUrl lib.toUrlLibrary shortUrl = .ok (some fullUrl)
  deviceToData : ∀ id device, s.deviceToData.get? id = some device →
    Named lib es id device.requestUrl
  parsersFile : ∀ sources requestUrl source, s.parsersFile = some sources →
    sources.get? requestUrl = some source → Obtained file es requestUrl source
  cachedParsers : Loaded lib file es s.cachedParsers
  calls : ∀ call ∈ s.calls, OwnParser lib file es call.peripheral.id call.parser
  delivered : ∀ d ∈ s.delivered, OwnParser lib file es d.deviceId d.parser

end Origin

variable {file : Option (JsObject String)} {es : List (ParserEvent Data)}

/-- What has been advertised stays advertised. -/
theorem Advertised.append {id url : String} (h : Advertised lib es id url) (e : ParserEvent Data) :
    Advertised lib (es ++ [e]) id url := by
  obtain ⟨peripheral, now, hmem, hrest⟩ := h
  exact ⟨peripheral, now, List.mem_append_left _ hmem, hrest⟩

/-- So does what has been named. -/
theorem Named.append {id requestUrl : String} (h : Named lib es id requestUrl)
    (e : ParserEvent Data) : Named lib (es ++ [e]) id requestUrl := by
  obtain ⟨url, urlPath, fullUrl, hadvertised, hrest⟩ := h
  exact ⟨url, urlPath, fullUrl, hadvertised.append e, hrest⟩

/-- So does what has been obtained. -/
theorem Obtained.append {requestUrl source : String} (h : Obtained file es requestUrl source)
    (e : ParserEvent Data) : Obtained file (es ++ [e]) requestUrl source := by
  rcases h with ⟨id, now, hmem⟩ | hfile
  · exact Or.inl ⟨id, now, List.mem_append_left _ hmem⟩
  · exact Or.inr hfile

/-- So does a device's parser. -/
theorem OwnParser.append {id : String} {parser : Parser} (h : OwnParser lib file es id parser)
    (e : ParserEvent Data) : OwnParser lib file (es ++ [e]) id parser := by
  obtain ⟨requestUrl, source, hnamed, hobtained, hload⟩ := h
  exact ⟨requestUrl, source, hnamed.append e, hobtained.append e, hload⟩

/-- Another parser is kept. -/
theorem Loaded.set {cachedParsers : JsObject (CachedParser Parser)}
    (h : Loaded lib file es cachedParsers) {requestUrl source : String} {parser : Option Parser}
    (hobtained : Obtained file es requestUrl source)
    (hparser : ∀ p, parser = some p → lib.requireFromString source requestUrl = .ok p) :
    Loaded lib file es (cachedParsers.set requestUrl ⟨source, parser⟩) := by
  intro requestUrl' cached hget
  rw [JsObject.get?_set] at hget
  split at hget
  · next heq =>
    subst heq
    obtain rfl := Option.some.inj hget
    exact ⟨hobtained, hparser⟩
  · exact h requestUrl' cached hget

namespace Traced

/-- One more event takes no origin away. -/
theorem append (h : Traced lib file es s) (e : ParserEvent Data) :
    Traced lib file (es ++ [e]) s where
  discovered id beacon url hget hurl := (h.discovered id beacon url hget hurl).append e
  cachedUrls := h.cachedUrls
  deviceToData id device hget := (h.deviceToData id device hget).append e
  parsersFile sources requestUrl source hfile hget :=
    (h.parsersFile sources requestUrl source hfile hget).append e
  cachedParsers requestUrl cached hget :=
    ⟨(h.cachedParsers requestUrl cached hget).1.append e,
      (h.cachedParsers requestUrl cached hget).2⟩
  calls call hcall := (h.calls call hcall).append e
  delivered d hd := (h.delivered d hd).append e

/-- The constructor. -/
theorem initial : Traced lib file [] (initial file : ParserHandler Parser Data) where
  discovered _ _ _ hget := nomatch hget
  cachedUrls _ _ hget := nomatch hget
  deviceToData _ _ hget := nomatch hget
  parsersFile sources _ _ hfile hget := Or.inr ⟨sources, hfile, hget⟩
  cachedParsers _ _ hget := nomatch hget
  calls _ hcall := absurd hcall List.not_mem_nil
  delivered _ hd := absurd hd List.not_mem_nil

/-- Another beacon is remembered. -/
theorem setDiscovered (h : Traced lib file es s) {id : String} {beacon : Beacon}
    (hbeacon : ∀ url, beacon.url = some url → Advertised lib es id url) :
    Traced lib file es { s with discovered := s.discovered.set id beacon } := by
  refine ⟨fun id' beacon' url hget hurl ↦ ?_, h.cachedUrls, h.deviceToData, h.parsersFile,
    h.cachedParsers, h.calls, h.delivered⟩
  rw [JsObject.get?_set] at hget
  split at hget
  · next heq =>
    subst heq
    obtain rfl := Option.some.inj hget
    exact hbeacon url hurl
  · exact h.discovered id' beacon' url hget hurl

/-- Other functions are passed on. -/
theorem appendCalls (h : Traced lib file es s) {calls : List (ParserCall Parser Data)}
    (hcalls : ∀ call ∈ calls, OwnParser lib file es call.peripheral.id call.parser) :
    Traced lib file es { s with calls := s.calls ++ calls } :=
  ⟨h.discovered, h.cachedUrls, h.deviceToData, h.parsersFile, h.cachedParsers,
    List.forall_mem_append.mpr ⟨h.calls, hcalls⟩, h.delivered⟩

/-- A function has been called. -/
theorem eraseCall (h : Traced lib file es s) (call : Nat) :
    Traced lib file es { s with calls := s.calls.eraseIdx call } :=
  ⟨h.discovered, h.cachedUrls, h.deviceToData, h.parsersFile, h.cachedParsers,
    fun c hc ↦ h.calls c (List.mem_of_mem_eraseIdx hc), h.delivered⟩

/-- A device is handed to its own parser. -/
theorem handlePeripheral (h : Traced lib file es s) (peripheral : Peripheral) :
    Traced lib file es (s.handlePeripheral lib peripheral) := by
  rcases handlePeripheral_cases lib s peripheral with
    heq | ⟨device, source, parser, calls, hdevice, hcached, hcalls, heq⟩
  · rw [heq]
    exact h
  · rw [heq]
    obtain ⟨hobtained, hload⟩ := h.cachedParsers _ _ hcached
    have hown : OwnParser lib file es peripheral.id parser :=
      ⟨device.requestUrl, source, h.deviceToData _ _ hdevice, hobtained, hload parser rfl⟩
    apply h.appendCalls
    intro call hcall
    rcases hcalls call hcall with rfl | rfl
    · exact hown
    · exact hown

/-- A page is looked up. -/
theorem gotExpandedUrl (h : Traced lib file es s) {id shortUrl fullUrl : String}
    (hfull : getExpandedUrl lib.toUrlLibrary shortUrl = .ok (some fullUrl))
    (hnamed : Named lib es id (lib.getBaseUrl fullUrl ++ filenameParse)) :
    Traced lib file es (s.gotExpandedUrl lib id shortUrl fullUrl) := by
  have hurls (shortUrl' fullUrl' : String)
      (hget : (s.cachedUrls.set shortUrl fullUrl).get? shortUrl' = some fullUrl') :
      getExpandedUrl lib.toUrlLibrary shortUrl' = .ok (some fullUrl') := by
    rw [JsObject.get?_set] at hget
    split at hget
    · next heq =>
      subst heq
      obtain rfl := Option.some.inj hget
      exact hfull
    · exact h.cachedUrls shortUrl' fullUrl' hget
  have hdevices (id' : String) (device : DeviceData)
      (hget : (s.deviceToData.set id ⟨lib.getBaseUrl fullUrl,
        lib.getBaseUrl fullUrl ++ filenameParse⟩).get? id' = some device) :
      Named lib es id' device.requestUrl := by
    rw [JsObject.get?_set] at hget
    split at hget
    · next heq =>
      subst heq
      obtain rfl := Option.some.inj hget
      exact hnamed
    · exact h.deviceToData id' device hget
  unfold ParserHandler.gotExpandedUrl
  dsimp only
  split
  · exact ⟨h.discovered, hurls, hdevices, h.parsersFile, h.cachedParsers, h.calls, h.delivered⟩
  · exact ⟨h.discovered, hurls, hdevices, h.parsersFile, h.cachedParsers, h.calls, h.delivered⟩

/-- A beacon is handled whose URL the device has advertised. -/
theorem handleBeacon (h : Traced lib file es s) {peripheral : Peripheral} {beacon : Beacon}
    (hbeacon : ∀ url, beacon.url = some url → Advertised lib es peripheral.id url)
    (ht : s.handleBeacon lib peripheral beacon = .ok t) : Traced lib file es t := by
  rcases handleBeacon_cases ht with
    rfl | rfl | ⟨url, urlPath, fullUrl, hurl, hpath, hfull, rfl⟩
  · exact h
  · exact h.handlePeripheral peripheral
  · have hexpanded : getExpandedUrl lib.toUrlLibrary (shorten url urlPath) = .ok (some fullUrl) :=
      hfull.elim (h.cachedUrls _ _) id
    exact h.gotExpandedUrl hexpanded
      ⟨url, urlPath, fullUrl, hbeacon url hurl, hpath, hexpanded, rfl⟩

/-- A request is answered. -/
theorem gotParseJs (h : Traced lib file es s) (fetch : ParserFetch) (body : Option String)
    (hbody : ∀ source, body = some source → Obtained file es fetch.requestUrl source) :
    Traced lib file es (s.gotParseJs lib fetch body) := by
  cases body with
  | some source =>
    have hloaded : Loaded lib file es (s.cachedParsers.set fetch.requestUrl ⟨source, none⟩) :=
      h.cachedParsers.set (hbody source rfl) fun _ hnone ↦ nomatch hnone
    have hfile (sources : JsObject String) (requestUrl source' : String)
        (hsources : some ((s.cachedParsers.set fetch.requestUrl ⟨source, none⟩).mapValues
          CachedParser.source) = some sources) (hget : sources.get? requestUrl = some source') :
        Obtained file es requestUrl source' := by
      obtain rfl := Option.some.inj hsources
      rw [JsObject.get?_mapValues] at hget
      obtain ⟨cached, hcached, rfl⟩ := Option.map_eq_some_iff.mp hget
      exact (hloaded requestUrl cached hcached).1
    unfold ParserHandler.gotParseJs
    dsimp only
    split
    · next parser hparser =>
      exact ⟨h.discovered, h.cachedUrls, h.deviceToData, hfile,
        hloaded.set (hbody source rfl) fun p hp ↦ Option.some.inj hp ▸ hparser, h.calls,
        h.delivered⟩
    · exact ⟨h.discovered, h.cachedUrls, h.deviceToData, hfile, hloaded, h.calls, h.delivered⟩
  | none =>
    unfold ParserHandler.gotParseJs
    dsimp only
    split
    · exact h
    · next sources hsources =>
      have hloaded : Loaded lib file es (lib.loadParsers sources).state := by
        intro requestUrl cached hget
        obtain ⟨hsource, hload⟩ := get?_loadParsers sources requestUrl hget
        exact ⟨h.parsersFile sources requestUrl _ hsources hsource, hload⟩
      split
      · exact ⟨h.discovered, h.cachedUrls, h.deviceToData, h.parsersFile, hloaded, h.calls,
          h.delivered⟩
      · exact ⟨h.discovered, h.cachedUrls, h.deviceToData, h.parsersFile, hloaded, h.calls,
          h.delivered⟩

/-- A parser of the device delivers. -/
theorem deliver (h : Traced lib file es s) {parser : Parser} {peripheral : Peripheral}
    (hown : OwnParser lib file es peripheral.id parser) (data : Option Data) :
    Traced lib file es (s.deliver lib parser peripheral data) := by
  refine ⟨h.discovered, h.cachedUrls, h.deviceToData, h.parsersFile, h.cachedParsers, h.calls,
    List.forall_mem_append.mpr ⟨h.delivered, fun d hd ↦ ?_⟩⟩
  cases data with
  | none => cases hd
  | some data =>
    obtain rfl := List.mem_singleton.mp hd
    exact hown

/-- Every event keeps the origins. -/
theorem step (h : Traced lib file es s) {e : ParserEvent Data} (ht : s.step lib e = some t) :
    Traced lib file (es ++ [e]) t := by
  have h := h.append e
  unfold ParserHandler.step at ht
  cases e with
  | discover peripheral now =>
    have hnow : Traced lib file (es ++ [.discover peripheral now]) { s with now := now } :=
      ⟨h.discovered, h.cachedUrls, h.deviceToData, h.parsersFile, h.cachedParsers, h.calls,
        h.delivered⟩
    rcases discover_cases ((toOption_eq_some_iff _ _).mp ht) with rfl | ⟨beacon, hparsed, ht⟩
    · exact hnow
    · have hbeacon (url : String) (hurl : beacon.url = some url) :
          Advertised lib (es ++ [.discover peripheral now]) peripheral.id url := by
        rcases url_of_parse hparsed hurl with hannounces | ⟨old, hold, holdUrl⟩
        · exact ⟨peripheral, now, by simp, rfl, hannounces⟩
        · exact h.discovered peripheral.id old url hold holdUrl
      exact (hnow.setDiscovered hbeacon).handleBeacon hbeacon ht
  | response fetch body now =>
    dsimp only at ht
    split at ht
    · obtain rfl := Option.some.inj ht
      apply Traced.gotParseJs
      · exact ⟨h.discovered, h.cachedUrls, h.deviceToData, h.parsersFile, h.cachedParsers, h.calls,
          h.delivered⟩
      · rintro source rfl
        exact Or.inl ⟨fetch.id, now, by simp⟩
    · cases ht
  | advertisementDone call advObj localObj =>
    dsimp only at ht
    split at ht
    · next parser peripheral hcall =>
      obtain rfl := Option.some.inj ht
      have hown := h.calls _ (List.mem_of_getElem? hcall)
      exact (h.deliver hown advObj).deliver hown localObj
    · cases ht
  | connected call failed =>
    dsimp only at ht
    split at ht
    · next parser peripheral hcall =>
      obtain rfl := Option.some.inj ht
      have hown := h.calls _ (List.mem_of_getElem? hcall)
      cases failed with
      | true => exact h.eraseCall call
      | false =>
        exact (h.eraseCall call).appendCalls fun c hc ↦ by
          rw [List.mem_singleton.mp hc]
          exact hown
    · cases ht
  | servicesDone call dataObj =>
    dsimp only at ht
    split at ht
    · next parser peripheral hcall =>
      obtain rfl := Option.some.inj ht
      have hown := h.calls _ (List.mem_of_getElem? hcall)
      refine h.appendCalls fun c hc ↦ ?_
      obtain ⟨data, _, rfl⟩ := Option.map_eq_some_iff.mp (Option.mem_toList.mp hc)
      exact hown
    · cases ht
  | disconnected call failed =>
    dsimp only at ht
    split at ht
    · next parser peripheral data hcall =>
      obtain rfl := Option.some.inj ht
      have hown := h.calls _ (List.mem_of_getElem? hcall)
      cases failed with
      | true => exact h.eraseCall call
      | false => exact (h.eraseCall call).deliver hown (some data)
    · cases ht

end Traced

/-- Every run keeps the origins. -/
theorem traced_run (hs : run (step lib) (initial file) es = some s) : Traced lib file es s :=
  run_history (step lib) (P := Traced lib file) (fun _ _ _ _ h ht ↦ h.step ht) es []
    Traced.initial hs

/-- Whatever is delivered for a device was made by the parser of the page whose URL the device
itself has advertised, and the code of this parser was fetched from that page, or an earlier process
had fetched it from there. -/
theorem delivered_origin (hs : run (step lib) (initial file) es = some s)
    {d : ParserDelivery Parser Data} (hd : d ∈ s.delivered) :
    ∃ requestUrl source, Named lib es d.deviceId requestUrl ∧
      Obtained file es requestUrl source ∧
      lib.requireFromString source requestUrl = .ok d.parser :=
  (traced_run hs).delivered d hd

/-- The beacon is discovered again, and its parser makes something. -/
def sampleDelivered : List (ParserEvent String) :=
  sampleFetched ++ [.discover sampleBeacon 2000, .advertisementDone 0 (some "reading") none]

/-- It was fetched from the page that the beacon names. -/
theorem delivered_origin_herald :
    ∃ s, run (step sampleLibrary) (initial none) sampleDelivered = some s ∧
      s.delivered.map (fun d ↦ (d.deviceId, d.data)) = [("c0", "reading")] ∧
      ∀ d ∈ s.delivered, ∃ requestUrl source,
        Named sampleLibrary sampleDelivered d.deviceId requestUrl ∧
        Obtained none sampleDelivered requestUrl source ∧
        sampleLibrary.requireFromString source requestUrl = .ok d.parser := by
  have hrun : (run (step sampleLibrary) (initial none) sampleDelivered).map (fun s ↦
      s.delivered.map (fun d ↦ (d.deviceId, d.data))) = some [("c0", "reading")] := by
    decide +kernel
  obtain ⟨s, hs, hdelivered⟩ := Option.map_eq_some_iff.mp hrun
  exact ⟨s, hs, hdelivered, fun d hd ↦ delivered_origin hs hd⟩

end ParserHandler
end NexusEdge.Devices
