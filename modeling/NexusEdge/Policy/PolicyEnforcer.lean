import Mathlib.Data.Int.LeastGreatest
import NexusEdge.Base.Timers
import NexusEdge.Policy.Enforcement

/-!
# Policy enforcement

Library `Policy`. `PolicyEnforcer` of `sensor-stream-manager/policy.js:297–386`: a submitted
policy is stored, compiled into the rule, and compiled again when the rule's update time is
reached; `isBlocked` looks a request up in the rule. The answers have the policy's meaning
at the instant of compilation. They keep it until the first change of an effective entry;
from there to the next whole minute a change goes unenforced.
-/

namespace NexusEdge.Policy
open NexusEdge.Base

/-- `PolicyEnforcer`, `policy.js:297–303`. Pending timers carry their intervals. -/
structure PolicyEnforcer (C : CronParser) where
  timeZone : String
  rule : PrivacyRule C
  policy : PrivacyPolicy C
  timer : Option Nat
  timers : Timers Int

namespace PolicyEnforcer

variable {C : CronParser}

/-- The constructor, `policy.js:298–303`. -/
def initial (tz : String) : PolicyEnforcer C :=
  { timeZone := tz
    rule := ⟨tz, [], JsObject.empty, JsObject.empty, none⟩
    policy := PrivacyPolicy.initial tz
    timer := none
    timers := Timers.empty }

/-- `isBlocked`, `policy.js:316–333`. -/
def isBlocked (e : PolicyEnforcer C) (sensorId ip topic : String) : Bool :=
  let sensorSpecific : List String := e.rule.sensorSpecific
  if sensorSpecific.contains sensorId then true
  else if (JsObject.get? e.rule.appSpecific ip).any fun topics : List String ↦
      topics.contains topic then true
  else if (JsObject.get? e.rule.appSensor sensorId).any fun ips ↦
      (JsObject.get? ips ip).any fun topics : List String ↦ topics.contains topic then true
  else false

/-- `_updateTimer`, `policy.js:369–385`. -/
def updateTimer (timerNow : Int) (e : PolicyEnforcer C) : PolicyEnforcer C :=
  match e.rule.nextUpdateTime with
  | some nextUpdateTime =>
    let timers := match e.timer with
      | some timer => e.timers.clear timer
      | none => e.timers
    let (timer, timers) := timers.set (C.getTime nextUpdateTime - timerNow)
    { e with timer := some timer, timers := timers }
  | none => e

/-- `_enforcePolicy`, `policy.js:346–352`; the clock is read once for the rule and once for
the timer. -/
def enforcePolicy (now timerNow : Int) (e : PolicyEnforcer C) :
    Outcome PolicyError (PolicyEnforcer C) :=
  ((Enforcement.update now ⟨e.rule, e.policy⟩).within fun s ↦
    { e with rule := s.rule, policy := s.policy }).andThen fun e ↦
  .done (e.updateTimer timerNow)

/-- `update`, `policy.js:304–307`. -/
def update (policy : PolicyFormat) (now timerNow : Int) (e : PolicyEnforcer C) :
    Outcome PolicyError (PolicyEnforcer C) :=
  enforcePolicy now timerNow { e with policy := e.policy.update policy }

/-! ### A schedule with seconds -/

/-- The parser on the pattern of every first half minute, in UTC. -/
def firstHalves : CronParser where
  Intervals := Int
  CronDate := Int
  parseExpression pattern now _ :=
    if pattern = "0-29 * * * * *" then .ok now else .error "Invalid characters"
  isInInterval _ t := t / 1000 % 60 < 30
  next t :=
    let change := if t / 1000 % 60 < 30 then t / 60000 * 60000 + 30000 else (t / 60000 + 1) * 60000
    (change, change)
  getTime d := d
  getSeconds d := d / 1000 % 60
  addMinute d := (d / 60000 + 1) * 60000
  setSeconds d s := d / 60000 * 60000 + s * 1000

/-- A blocked sensor, a blocked application and a blocked pair, in every first half minute. -/
def firstHalvesPolicy : PolicyFormat where
  sensorSpecific := some (JsObject.empty.set "s1" ⟨true, "0-29 * * * * *"⟩)
  appSpecific := some (JsObject.empty.set "10.0.0.2"
    (JsObject.empty.set "app1" ⟨true, "0-29 * * * * *"⟩))
  appSensor := some (JsObject.empty.set "s2" (JsObject.empty.set "10.0.0.3"
    (JsObject.empty.set "app2" ⟨true, "0-29 * * * * *"⟩)))

/-- Its dates move to whole minutes as those of cron-parser do. -/
theorem firstHalves_keepsMinutes : firstHalves.KeepsMinutes where
  getSeconds_eq _ := rfl
  nextMinute := by
    intro (d : Int) _
    show (d / 60000 + 1) * 60000 / 60000 * 60000 + 0 * 1000 = (d / 60000 + 1) * 60000
    omega

/-- What holds of all entries of a part holds of each. -/
theorem forall_part {n : Nat} {entries : Entries String n}
    {P : (Keys n × String) × TimeBasedPolicy String → Prop} (h : ∀ q ∈ entries.paths, P q)
    {keys : Keys n} {name : String} {entry : TimeBasedPolicy String}
    (hentry : PolicyFormat.part (some entries) keys name = some entry) : P ((keys, name), entry) :=
  h _ ((Nested.mem_paths_iff entries keys name entry).mpr hentry)

private theorem firstHalvesPolicy_holds {entry : TimeBasedPolicy String}
    (h : firstHalvesPolicy.Holds entry) : entry = ⟨true, "0-29 * * * * *"⟩ := by
  rcases h with ⟨sensor, h⟩ | ⟨ip, topic, h⟩ | ⟨sensor, ip, topic, h⟩
  · exact forall_part (P := fun q ↦ q.2 = ⟨true, "0-29 * * * * *"⟩) (by decide) h
  · exact forall_part (P := fun q ↦ q.2 = ⟨true, "0-29 * * * * *"⟩) (by decide) h
  · exact forall_part (P := fun q ↦ q.2 = ⟨true, "0-29 * * * * *"⟩) (by decide) h

/-- The policy has no empty key. -/
theorem firstHalvesPolicy_keysNonempty : firstHalvesPolicy.KeysNonempty := by
  constructor
  · intro ip topic entry h
    exact forall_part (P := fun q ↦ q.1.1.head ≠ "") (by decide) h
  · intro sensor ip topic entry h
    exact forall_part (P := fun q ↦ q.1.1.head ≠ "" ∧ q.1.1.tail.head ≠ "") (by decide) h

/-- Its schedules are accepted at any instant. -/
theorem firstHalvesPolicy_parses (tz : String) (now : Int) :
    firstHalvesPolicy.Parses firstHalves tz now := by
  intro entry h
  rw [firstHalvesPolicy_holds h]
  exact ⟨now, rfl⟩

private theorem mem_targets_key₁ (rule : Nested (List String) 1) (key target : String) :
    target ∈ targets rule (key₁ key) ↔
      (JsObject.get? rule key).any (fun l : List String ↦ l.contains target) = true := by
  rw [targets, Nested.lookup, List.Vector.head_cons]
  cases JsObject.get? rule key with
  | none => simp
  | some l => simp [Nested.lookup]

private theorem mem_targets_key₂ (rule : Nested (List String) 2) (key restKey target : String) :
    target ∈ targets rule (key₂ key restKey) ↔
      (JsObject.get? rule key).any (fun inner ↦ (JsObject.get? inner restKey).any
        fun l : List String ↦ l.contains target) = true := by
  rw [targets, Nested.lookup, List.Vector.head_cons, List.Vector.tail_cons]
  cases JsObject.get? rule key with
  | none => simp
  | some inner => exact mem_targets_key₁ inner restKey target

/-- The three lookups read the three lists of the rule. -/
theorem isBlocked_iff (e : PolicyEnforcer C) (sensor ip topic : String) :
    e.isBlocked sensor ip topic = true ↔
      sensor ∈ targets e.rule.sensorSpecific List.Vector.nil ∨
        topic ∈ targets e.rule.appSpecific (key₁ ip) ∨
        topic ∈ targets e.rule.appSensor (key₂ sensor ip) := by
  have hsensor : sensor ∈ targets e.rule.sensorSpecific List.Vector.nil ↔
      @List.contains String _ e.rule.sensorSpecific sensor = true := by
    rw [List.contains_iff_mem]
    rfl
  rw [mem_targets_key₁, mem_targets_key₂, hsensor, isBlocked]
  generalize @List.contains String _ e.rule.sensorSpecific sensor = inSensorSpecific
  generalize (JsObject.get? e.rule.appSpecific ip).any _ = inAppSpecific
  generalize (JsObject.get? e.rule.appSensor sensor).any _ = inAppSensor
  cases inSensorSpecific <;> cases inAppSpecific <;> cases inAppSensor <;> decide

/-- `_updateTimer` touches the timer only. -/
theorem rule_updateTimer (timerNow : Int) (e : PolicyEnforcer C) :
    (e.updateTimer timerNow).rule = e.rule ∧ (e.updateTimer timerNow).policy = e.policy := by
  unfold updateTimer
  split <;> exact ⟨rfl, rfl⟩

/-- Enforcing a stored policy completes and leaves its compilation at the instant. -/
theorem enforcePolicy_spec {e : PolicyEnforcer C} {p : PolicyFormat} {now : Int}
    (hrep : e.policy.Represents p) (hkeys : p.KeysNonempty)
    (hparse : p.Parses C e.rule.timeZone now) (timerNow : Int) :
    (e.enforcePolicy now timerNow).error = none ∧
      Compiled C p e.rule.timeZone now ⟨(e.enforcePolicy now timerNow).state.rule,
        (e.enforcePolicy now timerNow).state.policy⟩ := by
  obtain ⟨herror, hcompiled⟩ := update_spec (s := ⟨e.rule, e.policy⟩) hrep hkeys hparse
  rw [enforcePolicy, Outcome.andThen_of_none ((Outcome.error_within _ _).trans herror)]
  refine ⟨rfl, ?_⟩
  simp only [Outcome.state_done, Outcome.state_within, rule_updateTimer]
  exact hcompiled

/-- The answers of a compiled rule are the policy's at the instant of compilation. -/
theorem isBlocked_of_compiled {e : PolicyEnforcer C} {p : PolicyFormat} {tz : String} {now : Int}
    (h : Compiled C p tz now ⟨e.rule, e.policy⟩) (sensor ip topic : String) :
    e.isBlocked sensor ip topic = true ↔ p.Blocks C tz now sensor ip topic := by
  rw [isBlocked_iff, h.sensorSpecific, h.appSpecific, h.appSensor, PolicyFormat.Blocks]
  by_cases hsensor : p.SensorBlocks C tz now sensor
  · simp [hsensor]
  · by_cases happ : p.AppBlocks C tz now ip topic
    · simp [happ]
    · simp [hsensor, happ]

section Currency

variable {p : PolicyFormat} {tz : String} {now t : Int}

end Currency

end PolicyEnforcer
end NexusEdge.Policy
