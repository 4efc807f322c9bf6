import NexusEdge.Devices.Connections

/-!
# The scan during connections

Library `Devices`. `connectToPeripheralAsync` stops the scan of noble before it connects and starts
it after the last disconnection. Two modules start it as well without asking for connections: the
listener of the radio's state, `ble-controller.js:64–90`, and the end of a write on the
characteristic of the gateway, `gateway-scanner.js:32–35`.
-/

namespace NexusEdge.Devices
open NexusEdge.Base

/-- `onWriteRequestFinished` is called for what does not parse, and for values with `"_meta"`. -/
def WrittenData.finishes : WrittenData → Bool
  | .syntaxError => true
  | .null => false
  | .value header _ => header.isSome

/-- It is called for nothing else. -/
theorem finishes_onWriteRequest (data : WrittenData) : (onWriteRequest data).2 = data.finishes := by
  cases data with
  | syntaxError => rfl
  | null => rfl
  | value header payload => cases header <;> rfl

namespace Radio

/-- noble does not scan from the call of `connect` on until its peripheral disconnects. -/
def Quiet (s : Radio) : Prop := s.controller.disconnectListeners ≠ [] → s.scanning = false

/-- No write ends, and the radio is not switched on, while a disconnection is waited for. -/
def Undisturbed (s : Radio) : RadioEvent → Prop
  | .stateChange .poweredOn => s.controller.disconnectListeners = []
  | .write data => data.finishes = true → s.controller.disconnectListeners = []
  | _ => True

variable {s t : Radio} {e : RadioEvent}

/-- The end of a write keeps the radio quiet exactly if no disconnection is waited for. -/
theorem quiet_write_iff (hs : s.Quiet) (data : WrittenData) :
    (s.write data).Quiet ↔ s.Undisturbed (.write data) := by
  simp only [Quiet, Radio.write, Undisturbed, finishes_onWriteRequest, Bool.or_eq_false_iff]
  constructor
  · intro h hfinishes
    by_contra hlisteners
    rw [(h hlisteners).2] at hfinishes
    cases hfinishes
  · intro h hlisteners
    refine ⟨hs hlisteners, ?_⟩
    by_contra hfinishes
    rw [Bool.not_eq_false] at hfinishes
    exact hlisteners (h hfinishes)

/-- So does a change of the state of the radio. -/
theorem quiet_onStateChange_iff (hs : s.Quiet) (state : AdapterState) :
    (s.onStateChange state).Quiet ↔ s.Undisturbed (.stateChange state) := by
  cases state with
  | poweredOn =>
    constructor
    · intro h
      by_contra hlisteners
      cases h hlisteners
    · exact fun h hlisteners ↦ absurd h hlisteners
  | poweredOff => exact iff_of_true (fun _ ↦ rfl) trivial
  | other => exact iff_of_true hs trivial

/-- Connections themselves keep the radio quiet. -/
theorem quiet_step_iff {link : Link} (hlink : s.HasLink link) (hs : s.Quiet)
    (ht : s.step e = some t) : t.Quiet ↔ s.Undisturbed e := by
  obtain ⟨link', htakes, _⟩ := takes_step hlink ht
  cases htakes with
  | start => exact iff_of_true (fun _ ↦ rfl) trivial
  | wait => exact iff_of_true hs trivial
  | answer => exact iff_of_true hs trivial
  | release => exact iff_of_true (fun h ↦ absurd rfl h) trivial
  | next => exact iff_of_true (fun _ ↦ rfl) trivial
  | stateChange _ state => exact quiet_onStateChange_iff hs state
  | write _ data => exact quiet_write_iff hs data

/-- In a run noble never scans between a `connect` and the disconnection exactly if no write on
the characteristic of the gateway ends in between, and the radio is not switched on. -/
theorem quiet_run (es : List RadioEvent) :
    Always Radio.step Quiet initial es ↔ EachStep Radio.step Undisturbed initial es :=
  always_iff_eachStep Radio.step (I := Wf) (fun _ _ _ hs ht ↦ hs.step ht)
    (fun _ _ _ hwf hs ht ↦ quiet_step_iff hwf.link.choose_spec hs ht) es wf_initial
    fun h ↦ absurd rfl h

/-- A neighbour writes a message for the device manager while a light is connected. -/
def writeDuringConnection : List RadioEvent :=
  [.connectToPeripheralAsync "light", .connected 0 none,
    .write (.value (some ⟨some "device-manager", some "send-to-device"⟩) (some "payload"))]

/-- noble scans, and the light is still connected. -/
theorem scans_during_connection : ¬ ∀ es, Always Radio.step Quiet initial es := by
  intro h
  have hfacts : (run Radio.step initial writeDuringConnection).map (fun t ↦
      (t.controller.disconnectListeners, t.connected, t.scanning)) =
        some (["light"], ["light"], true) := by
    decide
  obtain ⟨t, ht, hfacts⟩ := Option.map_eq_some_iff.mp hfacts
  obtain ⟨hlisteners, hrest⟩ := Prod.mk.inj hfacts
  obtain ⟨_, hscanning⟩ := Prod.mk.inj hrest
  have hquiet := (h writeDuringConnection).last Radio.step ht (by rw [hlisteners]; exact nofun)
  rw [hscanning] at hquiet
  cases hquiet

end Radio
end NexusEdge.Devices
