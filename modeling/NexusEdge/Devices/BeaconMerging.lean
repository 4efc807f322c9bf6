import NexusEdge.Devices.ParserCache

/-!
# Beacons made of frames

Library `Devices`. The parser `edystone-beacon-parser.js:31–63` makes one beacon of all the frames
of a device: a telemetry frame takes over what the others have told, and the others take over the
telemetry. In every run of the handler a beacon is what the last telemetry frame and the last other
frame of the device tell, however the frames of all devices and everything else are interleaved.
-/

namespace NexusEdge.Devices
open NexusEdge.Base

/-! ### Frames -/

/-- A beacon as one frame tells it: telemetry and nothing else, or no telemetry. -/
structure Beacon.IsFrame (beacon : Beacon) : Prop where
  tlm : beacon.type = .tlm → beacon.txPower = none ∧ beacon.namespaceId = none ∧
    beacon.instanceId = none ∧ beacon.url = none ∧ beacon.tlm.isSome = true
  other : beacon.type ≠ .tlm → beacon.tlm = none

/-- Data of a beacon makes such a frame. -/
theorem isFrame_of_parseBeacon {lib : UrlLibrary} {data : Buffer} {beacon : Beacon}
    (h : parseBeacon lib data = .ok beacon) : beacon.IsFrame := by
  obtain ⟨frameType, _, h⟩ := (bind_eq_ok_iff _ _ _).mp h
  split at h
  · obtain ⟨txPower, _, h⟩ := (bind_eq_ok_iff _ _ _).mp h
    obtain rfl := Except.ok.inj h
    exact ⟨fun htlm ↦ (by cases htlm), fun _ ↦ rfl⟩
  · split at h
    · simp only [parseUrlData, bind_eq_ok_iff] at h
      obtain ⟨_, _, _, _, h⟩ := h
      obtain rfl := Except.ok.inj h
      exact ⟨fun htlm ↦ (by cases htlm), fun _ ↦ rfl⟩
    · split at h
      · simp only [parseTlmData, bind_eq_ok_iff] at h
        obtain ⟨_, _, _, _, _, _, _, _, _, _, h⟩ := h
        obtain rfl := Except.ok.inj h
        exact ⟨fun _ ↦ ⟨rfl, rfl, rfl, rfl, rfl⟩, fun hother ↦ absurd rfl hother⟩
      · obtain rfl := Except.ok.inj h
        exact ⟨fun htlm ↦ (by cases htlm), fun _ ↦ rfl⟩

/-- The last frame with telemetry. -/
def lastTelemetry (frames : List Beacon) : Option Beacon :=
  (frames.filter fun frame ↦ frame.type = .tlm).getLast?

/-- The last frame without. -/
def lastOther (frames : List Beacon) : Option Beacon :=
  (frames.filter fun frame ↦ frame.type ≠ .tlm).getLast?

/-- What frames tell: only the power is that of the very last one. -/
def merged (frames : List Beacon) : Option Beacon :=
  frames.getLast?.map fun last ↦
    { type := (lastOther frames).elim .tlm Beacon.type
      txPower := last.txPower
      namespaceId := (lastOther frames).bind Beacon.namespaceId
      instanceId := (lastOther frames).bind Beacon.instanceId
      url := (lastOther frames).bind Beacon.url
      tlm := (lastTelemetry frames).bind Beacon.tlm }

private theorem getLast?_filter_append (p : Beacon → Bool) (frames : List Beacon)
    (beacon : Beacon) :
    ((frames ++ [beacon]).filter p).getLast? =
      if p beacon then some beacon else (frames.filter p).getLast? := by
  rw [List.filter_append]
  by_cases hp : p beacon = true
  · rw [List.filter_cons_of_pos hp, List.filter_nil, List.getLast?_concat, if_pos hp]
  · rw [List.filter_cons_of_neg hp, List.filter_nil, List.append_nil, if_neg hp]

/-- The last frame may be one with telemetry. -/
theorem lastTelemetry_append (frames : List Beacon) (beacon : Beacon) :
    lastTelemetry (frames ++ [beacon]) =
      if beacon.type = .tlm then some beacon else lastTelemetry frames := by
  simp only [lastTelemetry, getLast?_filter_append, decide_eq_true_eq]

/-- Or one without. -/
theorem lastOther_append (frames : List Beacon) (beacon : Beacon) :
    lastOther (frames ++ [beacon]) =
      if beacon.type ≠ .tlm then some beacon else lastOther frames := by
  simp only [lastOther, getLast?_filter_append, decide_eq_true_eq]

private theorem lastTelemetry_nil : lastTelemetry [] = none := rfl

/-- The next frame takes over what the frames before tell. -/
theorem merged_append (frames : List Beacon) {beacon : Beacon} (hframe : beacon.IsFrame) :
    merged (frames ++ [beacon]) = some ((merged frames).elim beacon beacon.takeOver) := by
  obtain ⟨type, txPower, namespaceId, instanceId, url, tlm⟩ := beacon
  rw [merged, List.getLast?_concat, Option.map_some, lastTelemetry_append, lastOther_append]
  by_cases htype : type = .tlm
  · subst htype
    obtain ⟨htxPower, hnamespaceId, hinstanceId, hurl, htlm⟩ := hframe.tlm rfl
    dsimp only at htxPower hnamespaceId hinstanceId hurl
    subst htxPower hnamespaceId hinstanceId hurl
    cases hlast : frames.getLast? with
    | none =>
      obtain rfl := List.getLast?_eq_none_iff.mp hlast
      rfl
    | some last => simp [merged, hlast, Beacon.takeOver]
  · have hnone := hframe.other htype
    dsimp only at hnone
    subst hnone
    cases hlast : frames.getLast? with
    | none =>
      obtain rfl := List.getLast?_eq_none_iff.mp hlast
      simp [merged, htype, lastTelemetry_nil]
    | some last =>
      cases type with
      | tlm => exact absurd rfl htype
      | _ => simp [merged, hlast, Beacon.takeOver]

namespace ParserHandler

variable {Parser Data : Type} {lib : ParserLibrary Parser Data} {s t : ParserHandler Parser Data}

/-- The frame that a peripheral advertises. -/
def frame? (lib : UrlLibrary) (peripheral : Peripheral) : Option Beacon :=
  (beaconData peripheral).bind fun data ↦ (parseBeacon lib data).toOption

/-- The frames of a device, in order. -/
def framesOf (lib : UrlLibrary) (id : String) (es : List (ParserEvent Data)) : List Beacon :=
  es.filterMap fun
    | .discover peripheral _ => if peripheral.id = id then frame? lib peripheral else none
    | _ => none

/-- A peripheral may add a frame of its device. -/
theorem framesOf_discover (lib : UrlLibrary) (id : String) (before : List (ParserEvent Data))
    (peripheral : Peripheral) (now : Nat) :
    framesOf lib id (before ++ [.discover peripheral now]) =
      framesOf lib id before ++
        if peripheral.id = id then (frame? lib peripheral).toList else [] := by
  rw [framesOf, List.filterMap_append, ← framesOf, List.append_cancel_left_eq]
  by_cases hid : peripheral.id = id
  · cases hframe : frame? lib peripheral with
    | none => simp [hid, hframe]
    | some frame => simp [hid, hframe]
  · simp [hid]

/-- No other event adds one. -/
theorem framesOf_other (lib : UrlLibrary) (id : String) (before : List (ParserEvent Data))
    {e : ParserEvent Data} (he : ∀ peripheral now, e ≠ .discover peripheral now) :
    framesOf lib id (before ++ [e]) = framesOf lib id before := by
  rw [framesOf, List.filterMap_append, ← framesOf]
  cases e with
  | discover peripheral now => exact absurd rfl (he peripheral now)
  | _ => exact List.append_nil _

/-- What happens after the beacon is remembered leaves it alone. -/
theorem discovered_handleBeacon {peripheral : Peripheral} {beacon : Beacon}
    (h : s.handleBeacon lib peripheral beacon = .ok t) : t.discovered = s.discovered := by
  rcases handleBeacon_cases h with rfl | rfl | ⟨url, urlPath, fullUrl, _, _, _, rfl⟩
  · rfl
  · rcases handlePeripheral_cases lib s peripheral with heq | ⟨_, _, _, _, _, _, _, heq⟩
    · rw [heq]
    · rw [heq]
  · simp only [gotExpandedUrl]
    split <;> rfl

/-- A peripheral without beacon changes nothing, one with a beacon is merged. -/
theorem discovered_discover {peripheral : Peripheral} (h : s.discover lib peripheral = .ok t) :
    match frame? lib.toUrlLibrary peripheral with
    | none => t.discovered = s.discovered
    | some frame => frame.IsFrame ∧ t.discovered = s.discovered.set peripheral.id
        ((s.discovered.get? peripheral.id).elim frame frame.takeOver) := by
  obtain ⟨parsed, hparsed, h⟩ := (bind_eq_ok_iff _ _ _).mp h
  unfold Lab11BleHandler.parse at hparsed
  unfold frame?
  cases hdata : beaconData peripheral with
  | none =>
    rw [hdata] at hparsed
    obtain rfl := Except.ok.inj hparsed
    obtain rfl := Except.ok.inj h
    rfl
  | some data =>
    rw [hdata] at hparsed
    obtain ⟨frame, hframe, hparsed⟩ := (bind_eq_ok_iff _ _ _).mp hparsed
    obtain rfl := Except.ok.inj hparsed
    rw [Option.bind_some, hframe]
    exact ⟨isFrame_of_parseBeacon hframe, discovered_handleBeacon h⟩

/-- No other event changes the beacons. -/
theorem discovered_step {e : ParserEvent Data} (ht : s.step lib e = some t)
    (he : ∀ peripheral now, e ≠ .discover peripheral now) : t.discovered = s.discovered := by
  unfold step at ht
  cases e with
  | discover peripheral now => exact absurd rfl (he peripheral now)
  | response fetch body now =>
    dsimp only at ht
    split at ht
    · obtain rfl := Option.some.inj ht
      unfold gotParseJs
      split
      · dsimp only
        split <;> rfl
      · split
        · rfl
        · dsimp only
          split <;> rfl
    · cases ht
  | advertisementDone call advObj localObj =>
    dsimp only at ht
    split at ht
    · obtain rfl := Option.some.inj ht
      rfl
    · cases ht
  | connected call failed =>
    dsimp only at ht
    split at ht
    · obtain rfl := Option.some.inj ht
      rfl
    · cases ht
  | servicesDone call dataObj =>
    dsimp only at ht
    split at ht
    · obtain rfl := Option.some.inj ht
      rfl
    · cases ht
  | disconnected call failed =>
    dsimp only at ht
    split at ht
    · obtain rfl := Option.some.inj ht
      cases failed <;> rfl
    · cases ht

/-- Each event keeps the beacons merged. -/
theorem merged_step {before : List (ParserEvent Data)} {e : ParserEvent Data}
    (h : ∀ id, s.discovered.get? id = merged (framesOf lib.toUrlLibrary id before))
    (ht : s.step lib e = some t) (id : String) :
    t.discovered.get? id = merged (framesOf lib.toUrlLibrary id (before ++ [e])) := by
  by_cases he : ∃ peripheral now, e = .discover peripheral now
  · obtain ⟨peripheral, now, rfl⟩ := he
    have hdiscover := discovered_discover ((toOption_eq_some_iff _ _).mp ht)
    rw [framesOf_discover]
    cases hframe : frame? lib.toUrlLibrary peripheral with
    | none =>
      rw [hframe] at hdiscover
      rw [Option.toList_none, ite_self, List.append_nil, ← h id]
      exact congrArg (JsObject.get? · id) hdiscover
    | some frame =>
      rw [hframe] at hdiscover
      obtain ⟨hisFrame, hdiscovered⟩ := hdiscover
      rw [hdiscovered, JsObject.get?_set, Option.toList_some]
      by_cases hid : id = peripheral.id
      · subst hid
        rw [if_pos rfl, if_pos rfl, merged_append _ hisFrame, ← h peripheral.id]
      · rw [if_neg hid, if_neg (Ne.symm hid), List.append_nil]
        exact h id
  · have hother (peripheral : Peripheral) (now : Nat) : e ≠ .discover peripheral now :=
      fun heq ↦ he ⟨peripheral, now, heq⟩
    rw [discovered_step ht hother, framesOf_other _ _ _ hother]
    exact h id

/-- In every run the beacon of a device is what its last telemetry frame and its last other frame
tell, in whatever order they came and whatever happened in between. -/
theorem beacon_merged {file : Option (JsObject String)} {es : List (ParserEvent Data)}
    (hs : run (step lib) (initial file) es = some s) (id : String) :
    s.discovered.get? id = merged (framesOf lib.toUrlLibrary id es) :=
  run_history (step lib)
    (P := fun before s ↦ ∀ id, s.discovered.get? id = merged (framesOf lib.toUrlLibrary id before))
    (fun _ _ _ _ h ht ↦ merged_step h ht) es [] (fun _ ↦ rfl) hs id

/-- Telemetry before and after the URL of the device, and of another one. -/
def sampleTelemetry : List (ParserEvent String) :=
  let tlm (id : String) (vbatt : UInt8) : Peripheral :=
    ⟨id, none, none, some [⟨"feaa", [0x20, 0, 11, vbatt, 25, 0, 0, 0, 0, 1, 0, 0, 0, 2]⟩], none⟩
  [.discover (tlm "c0" 1) 0, .discover sampleBeacon 1000, .discover (tlm "c1" 2) 1500,
    .discover (tlm "c0" 3) 2000]

/-- The URL stays, and the telemetry is the last one of the device. -/
theorem beacon_merged_telemetry :
    ∃ s beacon, run (step sampleLibrary) (initial none) sampleTelemetry = some s ∧
      s.discovered.get? "c0" = some beacon ∧ beacon.type = .url ∧
      beacon.tlm.map Tlm.vbatt = some 2819 := by
  have hrun : (run (step sampleLibrary) (initial none) sampleTelemetry).isSome = true := by
    decide +kernel
  obtain ⟨s, hs⟩ := Option.isSome_iff_exists.mp hrun
  have hmerged : (merged (framesOf sampleLibrary.toUrlLibrary "c0" sampleTelemetry)).map
      (fun beacon ↦ (beacon.type, beacon.tlm.map Tlm.vbatt)) = some (.url, some 2819) := by
    decide +kernel
  rw [← beacon_merged hs "c0"] at hmerged
  obtain ⟨beacon, hbeacon, heq⟩ := Option.map_eq_some_iff.mp hmerged
  exact ⟨s, beacon, hs, hbeacon, congrArg Prod.fst heq, congrArg Prod.snd heq⟩

end ParserHandler
end NexusEdge.Devices
