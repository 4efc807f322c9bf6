import NexusEdge.Policy.RejectedUpdate

/-!
# Retrieving a policy and submitting it again

Library `Policy`. `getPolicy` of `sensor-stream-manager/policy.js:335–344` returns the stored
policy, whose schedules are `Schedule` objects; a submitted policy has patterns in their place,
`policy.js:272–277`. cron-parser splits the text of its argument into fields, and the text of an
object is no pattern.
-/

namespace NexusEdge.Policy
open NexusEdge.Base

/-- A JSON value under `"schedule"`. -/
inductive ScheduleValue (C : CronParser) where
  /-- A string. -/
  | pattern (cronPattern : String)
  /-- An object with the properties of a `Schedule`. -/
  | object (schedule : Schedule C)

/-- The text of an object. -/
def objectText : String := "[object Object]"

/-- What `parseExpression` makes of its argument: the text of the value. -/
def ScheduleValue.toText {C : CronParser} : ScheduleValue C → String
  | .pattern cronPattern => cronPattern
  | .object _ => objectText

/-- Objects are not accepted as patterns. -/
def CronParser.RejectsObjects (C : CronParser) : Prop := ∀ tz t, ¬ C.Parses objectText tz t

/-- What `getPolicy` returns. -/
structure RetrievedPolicy (C : CronParser) where
  sensorSpecific : Entries (Schedule C) 0
  appSpecific : Entries (Schedule C) 1
  appSensor : Entries (Schedule C) 2

/-- A stored entry after the round trip through JSON, as the parser sees its schedule. -/
def jsonEntry {C : CronParser} (entry : TimeBasedPolicy (Schedule C)) : TimeBasedPolicy String :=
  ⟨entry.block, (ScheduleValue.object entry.schedule).toText⟩

/-- The policy read back from the JSON text of a retrieved one. -/
def RetrievedPolicy.serialized {C : CronParser} (retrieved : RetrievedPolicy C) : PolicyFormat where
  sensorSpecific := some (Nested.jsonCopy jsonEntry retrieved.sensorSpecific)
  appSpecific := some (Nested.jsonCopy jsonEntry retrieved.appSpecific)
  appSensor := some (Nested.jsonCopy jsonEntry retrieved.appSensor)

/-- `getPolicy`, `policy.js:335–344`. -/
def PolicyEnforcer.getPolicy {C : CronParser} (e : PolicyEnforcer C) : RetrievedPolicy C :=
  ⟨e.policy.sensorSpecific, e.policy.appSpecific, e.policy.appSensor⟩

/-! ### Entries of the retrieved policy -/

section Entries

variable {C : CronParser}

private theorem part_jsonCopy {n : Nat} (entries : Entries (Schedule C) n) (keys : Keys n)
    (name : String) : PolicyFormat.part (some (Nested.jsonCopy jsonEntry entries)) keys name =
      (entries.find keys name).map jsonEntry := by
  rw [PolicyFormat.part, Option.bind_some, Nested.find_jsonCopy]

private theorem schedule_of_part {n : Nat} {entries : Entries (Schedule C) n} {keys : Keys n}
    {name : String} {entry : TimeBasedPolicy String}
    (h : PolicyFormat.part (some (Nested.jsonCopy jsonEntry entries)) keys name = some entry) :
    entry.schedule = objectText := by
  rw [part_jsonCopy] at h
  obtain ⟨stored, _, rfl⟩ := Option.map_eq_some_iff.mp h
  rfl

/-- Every schedule of the retrieved policy is an object. -/
theorem schedule_of_holds_serialized {retrieved : RetrievedPolicy C}
    {entry : TimeBasedPolicy String} (h : retrieved.serialized.Holds entry) :
    entry.schedule = objectText := by
  rcases h with ⟨_, h⟩ | ⟨_, _, h⟩ | ⟨_, _, _, h⟩
  · exact schedule_of_part h
  · exact schedule_of_part h
  · exact schedule_of_part h

-- An entry is stored where it was submitted, and retrieved where it is stored.
private theorem exists_part_iff {n : Nat} {entries : Entries (Schedule C) n}
    {submitted : Option (Entries String n)} {keys : Keys n} {name : String}
    (hrep : (entries.find keys name).map PrivacyPolicy.source =
      PolicyFormat.part submitted keys name) :
    (∃ entry, PolicyFormat.part (some (Nested.jsonCopy jsonEntry entries)) keys name = some entry) ↔
      ∃ entry, PolicyFormat.part submitted keys name = some entry := by
  rw [part_jsonCopy, ← hrep]
  cases entries.find keys name with
  | none => simp
  | some stored => simp

private theorem exists_holds_iff (p : PolicyFormat) : (∃ entry, p.Holds entry) ↔
    (∃ sensor entry, p.sensorEntry sensor = some entry) ∨
      (∃ ip topic entry, p.appEntry ip topic = some entry) ∨
      ∃ sensor ip topic entry, p.appSensorEntry sensor ip topic = some entry := by
  constructor
  · rintro ⟨entry, ⟨sensor, h⟩ | ⟨ip, topic, h⟩ | ⟨sensor, ip, topic, h⟩⟩
    · exact Or.inl ⟨sensor, entry, h⟩
    · exact Or.inr (Or.inl ⟨ip, topic, entry, h⟩)
    · exact Or.inr (Or.inr ⟨sensor, ip, topic, entry, h⟩)
  · rintro (⟨sensor, entry, h⟩ | ⟨ip, topic, entry, h⟩ | ⟨sensor, ip, topic, entry, h⟩)
    · exact ⟨entry, Or.inl ⟨sensor, h⟩⟩
    · exact ⟨entry, Or.inr (Or.inl ⟨ip, topic, h⟩)⟩
    · exact ⟨entry, Or.inr (Or.inr ⟨sensor, ip, topic, h⟩)⟩

/-- The retrieved policy has an entry exactly if the submitted one had. -/
theorem exists_holds_serialized_iff {e : PolicyEnforcer C} {p : PolicyFormat}
    (hrep : e.policy.Represents p) :
    (∃ entry, e.getPolicy.serialized.Holds entry) ↔ ∃ entry, p.Holds entry := by
  rw [exists_holds_iff, exists_holds_iff]
  refine or_congr ?_ (or_congr ?_ ?_)
  · exact exists_congr fun sensor ↦ exists_part_iff (hrep.sensorSpecific _ sensor)
  · exact exists_congr fun ip ↦ exists_congr fun topic ↦
      exists_part_iff (hrep.appSpecific (key₁ ip) topic)
  · exact exists_congr fun sensor ↦ exists_congr fun ip ↦ exists_congr fun topic ↦
      exists_part_iff (hrep.appSensor (key₂ sensor ip) topic)

end Entries

/-! ### The round trip -/

namespace PolicyEnforcer

variable {C : CronParser}

private theorem error_update_iff (e : PolicyEnforcer C) (p : PolicyFormat) (now timerNow : Int) :
    (e.update p now timerNow).error = none ↔
      (Enforcement.update now ⟨e.rule, e.policy.update p⟩).error = none := by
  rw [update, enforcePolicy, Outcome.andThen_error_eq_none, Outcome.error_within]
  exact and_iff_left rfl

/-- An update stores the submitted policy, whether it throws or not. -/
theorem represents_after_update (e : PolicyEnforcer C) (p : PolicyFormat) (now timerNow : Int) :
    (e.update p now timerNow).state.policy.Represents p := by
  by_cases hdone : (e.update p now timerNow).error = none
  · rw [error_update_iff] at hdone
    have hrep := represents_of_update_done (e.policy.represents_update p) hdone
    rw [update, enforcePolicy, Outcome.andThen_of_none ((Outcome.error_within _ _).trans hdone)]
    simp only [Outcome.state_done, Outcome.state_within, rule_updateTimer]
    exact hrep
  · rw [error_update_iff] at hdone
    have hrep := (update_throws (e.policy.represents_update p) hdone).1
    rw [update, enforcePolicy, Outcome.andThen_of_ne_none]
    · exact hrep
    · rw [Outcome.error_within]
      exact hdone

/-- An update that is accepted has parsed a schedule, if the policy has an entry. -/
theorem parses_of_update_done (e : PolicyEnforcer C) {p : PolicyFormat} {now timerNow : Int}
    (hdone : (e.update p now timerNow).error = none) (hentry : ∃ entry, p.Holds entry) :
    ∃ entry, p.Holds entry ∧ C.Parses entry.schedule e.rule.timeZone now := by
  rw [error_update_iff] at hdone
  exact (update_visits (e.policy.represents_update p) hdone hentry).2

/-- An update with a policy without entries is accepted and blocks nothing. -/
theorem update_of_no_entry (e : PolicyEnforcer C) {p : PolicyFormat}
    (hp : ¬ ∃ entry, p.Holds entry) (now timerNow : Int) :
    (e.update p now timerNow).error = none ∧ ∀ sensor ip topic,
      (e.update p now timerNow).state.isBlocked sensor ip topic = false := by
  have hkeys : p.KeysNonempty :=
    ⟨fun ip topic entry h ↦ absurd ⟨entry, Or.inr (Or.inl ⟨ip, topic, h⟩)⟩ hp,
      fun sensor ip topic entry h ↦ absurd ⟨entry, Or.inr (Or.inr ⟨sensor, ip, topic, h⟩)⟩ hp⟩
  have hparse : p.Parses C e.rule.timeZone now := fun entry h ↦ absurd ⟨entry, h⟩ hp
  obtain ⟨herror, hcompiled⟩ := enforcePolicy_spec
    (e := { e with policy := e.policy.update p }) (e.policy.represents_update p) hkeys hparse
    timerNow
  refine ⟨herror, fun sensor ip topic ↦ ?_⟩
  rw [← Bool.not_eq_true, update, isBlocked_of_compiled hcompiled]
  rintro (⟨entry, h, _⟩ | ⟨entry, h, _⟩ | ⟨entry, h, _⟩)
  · exact hp ⟨entry, Or.inl ⟨sensor, h⟩⟩
  · exact hp ⟨entry, Or.inr (Or.inl ⟨ip, topic, h⟩)⟩
  · exact hp ⟨entry, Or.inr (Or.inr ⟨sensor, ip, topic, h⟩)⟩

/-- A policy that is retrieved and submitted again, at any later instants, is accepted without a
change of an answer exactly if it has no entry. -/
theorem resubmission_iff (hC : C.RejectsObjects) (e : PolicyEnforcer C) (p : PolicyFormat)
    (now timerNow now' timerNow' : Int) :
    let stored := (e.update p now timerNow).state
    let resubmitted := stored.update stored.getPolicy.serialized now' timerNow'
    (resubmitted.error = none ∧ ∀ sensor ip topic,
        resubmitted.state.isBlocked sensor ip topic = stored.isBlocked sensor ip topic) ↔
      ¬ ∃ entry, p.Holds entry := by
  intro stored resubmitted
  have hsame : (∃ entry, stored.getPolicy.serialized.Holds entry) ↔ ∃ entry, p.Holds entry :=
    exists_holds_serialized_iff (e.represents_after_update p now timerNow)
  constructor
  · rintro ⟨hdone, _⟩ hentry
    obtain ⟨entry, hholds, hparse⟩ := stored.parses_of_update_done hdone (hsame.mpr hentry)
    rw [schedule_of_holds_serialized hholds] at hparse
    exact hC _ _ hparse
  · intro hnone
    have hblocked := (e.update_of_no_entry hnone now timerNow).2
    obtain ⟨hdone, hblocked'⟩ := stored.update_of_no_entry (mt hsame.mp hnone) now' timerNow'
    refine ⟨hdone, fun sensor ip topic ↦ ?_⟩
    rw [hblocked', hblocked]

private theorem firstHalves_rejectsObjects : firstHalves.RejectsObjects := by
  rintro tz t ⟨intervals, hparse⟩
  cases hparse

/-- A policy without entries comes back as it was. -/
theorem resubmission_noEntry :
    (((initial "UTC" : PolicyEnforcer firstHalves).update ⟨none, some JsObject.empty, none⟩ 10000
      10005).state.update ((initial "UTC" : PolicyEnforcer firstHalves).update
        ⟨none, some JsObject.empty, none⟩ 10000 10005).state.getPolicy.serialized 20000
          20005).error = none := by
  refine ((resubmission_iff firstHalves_rejectsObjects (initial "UTC")
    ⟨none, some JsObject.empty, none⟩ 10000 10005 20000 20005).mpr ?_).1
  rintro ⟨entry, ⟨_, h⟩ | ⟨_, _, h⟩ | ⟨_, _, _, h⟩⟩ <;> cases h

/-- A policy with entries is not accepted when it comes back. -/
theorem resubmission_rejected : ¬ ∀ (C : CronParser) (e : PolicyEnforcer C) (p : PolicyFormat)
    (now timerNow timerNow' : Int), C.RejectsObjects → p.KeysNonempty →
      p.Parses C e.rule.timeZone now →
      let stored := (e.update p now timerNow).state
      let resubmitted := stored.update stored.getPolicy.serialized now timerNow'
      resubmitted.error = none ∧ ∀ sensor ip topic,
        resubmitted.state.isBlocked sensor ip topic = stored.isBlocked sensor ip topic := by
  intro h
  have haccepted := (h firstHalves (initial "UTC") firstHalvesPolicy 10000 10005 10010
    firstHalves_rejectsObjects firstHalvesPolicy_keysNonempty
    (firstHalvesPolicy_parses "UTC" 10000)).1
  exact absurd haccepted (by decide)

end PolicyEnforcer
end NexusEdge.Policy
