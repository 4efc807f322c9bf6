import NexusEdge.Base.Nested
import NexusEdge.Policy.Schedule

/-!
# Privacy policies

Library `Policy`. The submitted policy in the format of
`sensor-stream-manager/README.md:51–79`, its meaning at an instant, and its compilation by
`PrivacyPolicy.update`, `policy.js:226–295`, which keeps every entry and attaches a
schedule to it.
-/

namespace NexusEdge.Policy
open NexusEdge.Base

/-- One entry: `{"block": block, "schedule": schedule}`. -/
structure TimeBasedPolicy (σ : Type) where
  block : Bool
  schedule : σ
  deriving DecidableEq

/-- Entries by name, below the given number of keys. -/
abbrev Entries (σ : Type) (n : Nat) := Nested (JsObject (TimeBasedPolicy σ)) n

/-- The submitted policy; each of the three parts may be missing. -/
structure PolicyFormat where
  /-- `"sensor-specific"`: sensor id → entry. -/
  sensorSpecific : Option (Entries String 0)
  /-- `"app-specific"`: gateway ip → topic → entry. -/
  appSpecific : Option (Entries String 1)
  /-- `"app-sensor"`: sensor id → gateway ip → topic → entry. -/
  appSensor : Option (Entries String 2)

/-- The keys of a single level. -/
abbrev key₁ (key : String) : Keys 1 := key ::ᵥ List.Vector.nil

/-- The keys of two levels. -/
abbrev key₂ (key restKey : String) : Keys 2 := key ::ᵥ restKey ::ᵥ List.Vector.nil

/-! ### Meaning of a policy -/

/-- The entry blocks at the instant: in its schedule if it blocks, outside if it allows. -/
def TimeBasedPolicy.BlocksAt (C : CronParser) (tz : String) (t : Int)
    (entry : TimeBasedPolicy String) : Prop :=
  (C.InSchedule entry.schedule tz t ∧ entry.block = true) ∨
    (¬ C.InSchedule entry.schedule tz t ∧ entry.block = false)

/-- The whole minute of the entry's change time, seen from `now`, is reached by the instant. -/
def TimeBasedPolicy.ChangeDue (C : CronParser) (tz : String) (now t : Int)
    (entry : TimeBasedPolicy String) : Prop :=
  ∃ c, C.nextChange? entry.schedule tz now = some c ∧ wholeMinute c ≤ t

namespace PolicyFormat

/-- The entries of one part, below its keys. -/
def part {n : Nat} (entries : Option (Entries String n)) (keys : Keys n) (name : String) :
    Option (TimeBasedPolicy String) :=
  entries.bind fun entries ↦ entries.find keys name

/-- The sensor-specific entry of a sensor. -/
def sensorEntry (p : PolicyFormat) (sensor : String) : Option (TimeBasedPolicy String) :=
  part p.sensorSpecific List.Vector.nil sensor

/-- The app-specific entry of a topic at a gateway. -/
def appEntry (p : PolicyFormat) (ip topic : String) : Option (TimeBasedPolicy String) :=
  part p.appSpecific (key₁ ip) topic

/-- The app-sensor entry of a sensor and a topic at a gateway. -/
def appSensorEntry (p : PolicyFormat) (sensor ip topic : String) :
    Option (TimeBasedPolicy String) :=
  part p.appSensor (key₂ sensor ip) topic

section Meaning

variable (C : CronParser) (p : PolicyFormat) (tz : String) (t : Int)

/-- The sensor-specific entry of the sensor exists and blocks at the instant. -/
def SensorBlocks (sensor : String) : Prop :=
  ∃ entry, p.sensorEntry sensor = some entry ∧ entry.BlocksAt C tz t

/-- The app-specific entry of the topic exists and blocks at the instant. -/
def AppBlocks (ip topic : String) : Prop :=
  ∃ entry, p.appEntry ip topic = some entry ∧ entry.BlocksAt C tz t

/-- The app-sensor entry of the sensor and the topic exists and blocks at the instant. -/
def AppSensorBlocks (sensor ip topic : String) : Prop :=
  ∃ entry, p.appSensorEntry sensor ip topic = some entry ∧ entry.BlocksAt C tz t

/-- One of the three entries for (sensor, ip, topic) exists and blocks at the instant. -/
def Blocks (sensor ip topic : String) : Prop :=
  p.SensorBlocks C tz t sensor ∨ p.AppBlocks C tz t ip topic ∨
    p.AppSensorBlocks C tz t sensor ip topic

/-- The entry is not an app-sensor entry that a blocked sensor or application masks. -/
def Effective (entry : TimeBasedPolicy String) : Prop :=
  (∃ sensor, p.sensorEntry sensor = some entry) ∨
    (∃ ip topic, p.appEntry ip topic = some entry) ∨
    ∃ sensor ip topic, p.appSensorEntry sensor ip topic = some entry ∧
      ¬ p.SensorBlocks C tz t sensor ∧ ¬ p.AppBlocks C tz t ip topic

end Meaning

/-- The policy holds the entry somewhere. -/
def Holds (p : PolicyFormat) (entry : TimeBasedPolicy String) : Prop :=
  (∃ sensor, p.sensorEntry sensor = some entry) ∨
    (∃ ip topic, p.appEntry ip topic = some entry) ∨
    ∃ sensor ip topic, p.appSensorEntry sensor ip topic = some entry

/-- No entry stands below an empty key. -/
def KeysNonempty (p : PolicyFormat) : Prop :=
  (∀ ip topic entry, p.appEntry ip topic = some entry → ip ≠ "") ∧
    ∀ sensor ip topic entry, p.appSensorEntry sensor ip topic = some entry →
      sensor ≠ "" ∧ ip ≠ ""

/-- Every schedule of the policy parses at the instant. -/
def Parses (C : CronParser) (p : PolicyFormat) (tz : String) (t : Int) : Prop :=
  ∀ entry, p.Holds entry → C.Parses entry.schedule tz t

end PolicyFormat

/-! ### Compilation -/

/-- `PrivacyPolicy`, `policy.js:226–231`: every entry with its schedule object. -/
structure PrivacyPolicy (C : CronParser) where
  timeZone : String
  sensorSpecific : Entries (Schedule C) 0
  appSpecific : Entries (Schedule C) 1
  appSensor : Entries (Schedule C) 2

namespace PrivacyPolicy

variable {C : CronParser}

/-- The constructor, `policy.js:227–231`. -/
def initial (tz : String) : PrivacyPolicy C :=
  ⟨tz, JsObject.empty, JsObject.empty, JsObject.empty⟩

/-- `_updateSingleTimeBasedPolicy`, `policy.js:272–277`. -/
def updateSingleTimeBasedPolicy (sensorPolicy : TimeBasedPolicy String) :
    TimeBasedPolicy (Schedule C) :=
  ⟨sensorPolicy.block, ⟨sensorPolicy.schedule, none⟩⟩

/-- The first loop, `policy.js:239–241`. -/
def compileSensorSpecific (policy : Entries String 0) : Entries (Schedule C) 0 :=
  (JsObject.ownEntries policy).foldl (fun compiled entry ↦
    compiled.assignAt List.Vector.nil entry.1 (updateSingleTimeBasedPolicy entry.2)) JsObject.empty

/-- The second loop with `_isKeyExisted`, `policy.js:244–250,283–294`. -/
def compileAppSpecific (policy : Entries String 1) : Entries (Schedule C) 1 :=
  (JsObject.ownEntries policy).foldl (fun compiled gateway ↦
    (JsObject.ownEntries gateway.2).foldl (fun compiled entry ↦
      compiled.assignAt (key₁ gateway.1) entry.1 (updateSingleTimeBasedPolicy entry.2))
      compiled) JsObject.empty

/-- The third loop with `_isKeyExisted`, `policy.js:253–262,283–294`. -/
def compileAppSensor (policy : Entries String 2) : Entries (Schedule C) 2 :=
  (JsObject.ownEntries policy).foldl (fun compiled sensor ↦
    (JsObject.ownEntries sensor.2).foldl (fun compiled gateway ↦
      (JsObject.ownEntries gateway.2).foldl (fun compiled entry ↦
        compiled.assignAt (key₂ sensor.1 gateway.1) entry.1 (updateSingleTimeBasedPolicy entry.2))
        compiled) compiled) JsObject.empty

/-- `PrivacyPolicy.update`, `policy.js:236–266`. -/
def update (this : PrivacyPolicy C) (policy : PolicyFormat) : PrivacyPolicy C :=
  { this with
    sensorSpecific := (policy.sensorSpecific.map compileSensorSpecific).getD JsObject.empty
    appSpecific := (policy.appSpecific.map compileAppSpecific).getD JsObject.empty
    appSensor := (policy.appSensor.map compileAppSensor).getD JsObject.empty }

/-- The entry without the parser's state. -/
def source (entry : TimeBasedPolicy (Schedule C)) : TimeBasedPolicy String :=
  ⟨entry.block, entry.schedule.timeBasedPolicy⟩

/-- The stored policy holds exactly the entries of the submitted one. -/
structure Represents (this : PrivacyPolicy C) (p : PolicyFormat) : Prop where
  sensorSpecific : ∀ keys name,
    (this.sensorSpecific.find keys name).map source = PolicyFormat.part p.sensorSpecific keys name
  appSpecific : ∀ keys name,
    (this.appSpecific.find keys name).map source = PolicyFormat.part p.appSpecific keys name
  appSensor : ∀ keys name,
    (this.appSensor.find keys name).map source = PolicyFormat.part p.appSensor keys name

private theorem map_source_compiled (entry : Option (TimeBasedPolicy String)) :
    (entry.map (updateSingleTimeBasedPolicy (C := C))).map source = entry := by
  cases entry <;> rfl

private theorem compileSensorSpecific_eq (policy : Entries String 0) :
    compileSensorSpecific (C := C) policy = policy.paths.foldl
      (fun o p ↦ Nested.assignAt p.1.1 p.1.2 (updateSingleTimeBasedPolicy p.2) o)
      JsObject.empty := by
  rw [compileSensorSpecific, Nested.paths, List.foldl_map]

private theorem compileAppSpecific_eq (policy : Entries String 1) :
    compileAppSpecific (C := C) policy = policy.paths.foldl
      (fun o p ↦ Nested.assignAt p.1.1 p.1.2 (updateSingleTimeBasedPolicy p.2) o)
      JsObject.empty := by
  simp only [compileAppSpecific, Nested.paths, List.foldl_flatMap, List.foldl_map]

private theorem compileAppSensor_eq (policy : Entries String 2) :
    compileAppSensor (C := C) policy = policy.paths.foldl
      (fun o p ↦ Nested.assignAt p.1.1 p.1.2 (updateSingleTimeBasedPolicy p.2) o)
      JsObject.empty := by
  simp only [compileAppSensor, Nested.paths, List.foldl_flatMap, List.foldl_map]

private theorem represents_part {n : Nat} (entries : Option (Entries String n))
    {compile : Entries String n → Entries (Schedule C) n} {empty : Entries (Schedule C) n}
    (hempty : ∀ keys name, empty.find keys name = none)
    (hcompile : ∀ policy, compile policy = policy.paths.foldl
      (fun o p ↦ Nested.assignAt p.1.1 p.1.2 (updateSingleTimeBasedPolicy p.2) o) empty)
    (keys : Keys n) (name : String) :
    (((entries.map compile).getD empty).find keys name).map source =
      PolicyFormat.part entries keys name := by
  cases entries with
  | none => rw [Option.map_none, Option.getD_none, hempty]; rfl
  | some policy =>
    rw [Option.map_some, Option.getD_some, hcompile, Nested.find_copy _ _ hempty,
      map_source_compiled]
    rfl

/-- An update stores the submitted policy, whatever was stored before. -/
theorem represents_update (this : PrivacyPolicy C) (p : PolicyFormat) :
    (this.update p).Represents p :=
  ⟨represents_part _ (fun _ _ ↦ rfl) compileSensorSpecific_eq,
    represents_part _ (fun _ _ ↦ rfl) compileAppSpecific_eq,
    represents_part _ (fun _ _ ↦ rfl) compileAppSensor_eq⟩

end PrivacyPolicy
end NexusEdge.Policy
