import NexusEdge.Base.Loop
import NexusEdge.Policy.PrivacyPolicy

/-!
# Compilation of the privacy rule

Library `Policy`. `PrivacyRule` of `sensor-stream-manager/policy.js:62–224` compiles the
stored policy at an instant into lists of blocked sensors and applications, and keeps the
earliest time at which to compile again. Each of its three loops works on one level: a
part of the rule, the update time and the schedules of one part of the policy. What a
loop blocks and which update times it notes is described by the entries it visits, so
descriptions of loops are unions of descriptions of their iterations.
-/

namespace NexusEdge.Policy
open NexusEdge.Base

/-- `PrivacyRule`, `policy.js:62–66`: blocked sensors and applications. -/
structure PrivacyRule (C : CronParser) where
  timeZone : String
  sensorSpecific : Nested (List String) 0
  appSpecific : Nested (List String) 1
  appSensor : Nested (List String) 2
  nextUpdateTime : Option C.CronDate

/-- The targets listed at the end of a path of the rule. -/
def targets {n : Nat} (rule : Nested (List String) n) (keys : Keys n) : List String :=
  (rule.lookup keys).getD []

/-- `rule[key1].includes(blockTarget)` or else `push`, `policy.js:181–185`. -/
def pushNew (blockTarget : String) (targets : List String) : List String :=
  if blockTarget ∈ targets then targets else targets ++ [blockTarget]

/-- `_updateRule`, `policy.js:167–187`. -/
def updateRule (blockTarget : String) :
    {n : Nat} → Keys n → Nested (List String) n → Outcome PolicyError (Nested (List String) n)
  | 0, _, rule => .done (rule ++ [blockTarget])
  | 1, keys, rule =>
    -- An empty first key is falsy, so `push` is called on an object.
    if keys.head = "" then .throw rule .typeError
    else .done ((Nested.ensureKey [] keys.head rule).modify keys.head (pushNew blockTarget))
  | n + 2, keys, rule =>
    if keys.head = "" then .throw rule .typeError
    else
      let rule : JsObject (Nested (List String) (n + 1)) := Nested.ensureKey [] keys.head rule
      match rule.get? keys.head with
      | some inner => (updateRule blockTarget keys.tail inner).within fun inner ↦
          rule.set keys.head inner
      | none => .done rule

/-- `_updateRuleProcedure`, `policy.js:198–208`. -/
def updateRuleProcedure {n : Nat} (isInInterval block : Bool) (blockTarget : String)
    (keys : Keys n) (rule : Nested (List String) n) :
    Outcome PolicyError (Nested (List String) n) :=
  if isInInterval then
    if block then updateRule blockTarget keys rule else .done rule
  else
    if !block then updateRule blockTarget keys rule else .done rule

/-- `_updateNextTime`, `policy.js:214–223`, on the stored time. -/
def updateNextTime {C : CronParser} (tempNextUpdateTime : Option C.CronDate)
    (nextUpdateTime : Option C.CronDate) : Outcome PolicyError (Option C.CronDate) :=
  match tempNextUpdateTime with
  | none => .throw nextUpdateTime .typeError
  | some temp =>
    if nextUpdateTime.all fun next ↦ C.getTime temp < C.getTime next then
      .done (some (if C.getSeconds temp ≠ 0 then C.setSeconds (C.addMinute temp) 0 else temp))
    else .done nextUpdateTime

/-- What one of the loops works on. -/
structure Level (C : CronParser) (n : Nat) where
  rule : Nested (List String) n
  nextUpdateTime : Option C.CronDate
  policy : Entries (Schedule C) n

/-- Body shared by the loops: evaluate the schedule, block, note the change time,
`policy.js:101–104,117–120,144–154`. -/
def Level.enforce {C : CronParser} {n : Nat} (now : Int) (tz : String) (keys : Keys n)
    (blockTarget : String) (sensorPolicy : TimeBasedPolicy (Schedule C)) (s : Level C n) :
    Outcome PolicyError (Level C n) :=
  match sensorPolicy.schedule.isInSchedule now tz with
  | .error message => .throw s (.cronParser message)
  | .ok (isInSchedule, schedule) =>
    let (updateTime, schedule) := schedule.getNextScheduleChangeTime
    let s := { s with
      policy := s.policy.modifyAt keys fun entries ↦
        entries.set blockTarget { sensorPolicy with schedule := schedule } }
    ((updateRuleProcedure isInSchedule sensorPolicy.block blockTarget keys s.rule).within
      fun rule ↦ { s with rule := rule }).andThen fun s ↦
    (updateNextTime updateTime s.nextUpdateTime).within fun nextUpdateTime ↦
      { s with nextUpdateTime := nextUpdateTime }

/-- A rule and the stored policy whose schedules it evaluates. -/
structure Enforcement (C : CronParser) where
  rule : PrivacyRule C
  policy : PrivacyPolicy C

namespace Enforcement

variable {C : CronParser}

/-- `_reset` and the cleared update time, `policy.js:78–80,88–91`. -/
def reset (s : Enforcement C) : Enforcement C :=
  { s with
    rule := { s.rule with
      sensorSpecific := []
      appSpecific := JsObject.empty
      appSensor := JsObject.empty
      nextUpdateTime := none } }

/-- The sensor-specific part. -/
def sensorLevel (s : Enforcement C) : Level C 0 :=
  ⟨s.rule.sensorSpecific, s.rule.nextUpdateTime, s.policy.sensorSpecific⟩

/-- The app-specific part. -/
def appLevel (s : Enforcement C) : Level C 1 :=
  ⟨s.rule.appSpecific, s.rule.nextUpdateTime, s.policy.appSpecific⟩

/-- The app-sensor part. -/
def appSensorLevel (s : Enforcement C) : Level C 2 :=
  ⟨s.rule.appSensor, s.rule.nextUpdateTime, s.policy.appSensor⟩

/-- The loop of `_updateSensorSpecific`, `policy.js:99–105`. -/
def sensorSpecificLoop (now : Int) (s : Enforcement C) : Outcome PolicyError (Level C 0) :=
  Outcome.forEach
    (fun entry : String × TimeBasedPolicy (Schedule C) ↦
      Level.enforce now s.rule.timeZone List.Vector.nil entry.1 entry.2)
    (JsObject.ownEntries s.policy.sensorSpecific) s.sensorLevel

/-- The loops of `_updateAppSpecific`, `policy.js:113–122`. -/
def appSpecificLoop (now : Int) (s : Enforcement C) : Outcome PolicyError (Level C 1) :=
  Outcome.forEach
    (fun gateway : String × JsObject (TimeBasedPolicy (Schedule C)) ↦
      Outcome.forEach
        (fun entry ↦ Level.enforce now s.rule.timeZone (key₁ gateway.1) entry.1 entry.2)
        gateway.2.ownEntries)
    (JsObject.ownEntries s.policy.appSpecific) s.appLevel

/-- The loops of `_updateAppSensor`, `policy.js:130–157`: entries of blocked sensors and of
blocked applications are skipped. -/
def appSensorLoop (now : Int) (s : Enforcement C) : Outcome PolicyError (Level C 2) :=
  Outcome.forEach
    (fun sensor : String × Entries (Schedule C) 1 ↦
      if sensor.1 ∈ targets s.rule.sensorSpecific List.Vector.nil then .done
      else
        Outcome.forEach
          (fun gateway : String × JsObject (TimeBasedPolicy (Schedule C)) ↦
            Outcome.forEach
              (fun entry ↦
                if entry.1 ∈ targets s.rule.appSpecific (key₁ gateway.1) then .done
                else Level.enforce now s.rule.timeZone (key₂ sensor.1 gateway.1) entry.1 entry.2)
              gateway.2.ownEntries)
          (JsObject.ownEntries sensor.2))
    (JsObject.ownEntries s.policy.appSensor) s.appSensorLevel

/-- `_updateSensorSpecific`, `policy.js:98–106`. -/
def updateSensorSpecific (now : Int) (s : Enforcement C) :
    Outcome PolicyError (Enforcement C) :=
  (s.sensorSpecificLoop now).within fun level ↦
    { rule := { s.rule with
        sensorSpecific := level.rule
        nextUpdateTime := level.nextUpdateTime }
      policy := { s.policy with sensorSpecific := level.policy } }

/-- `_updateAppSpecific`, `policy.js:112–123`. -/
def updateAppSpecific (now : Int) (s : Enforcement C) : Outcome PolicyError (Enforcement C) :=
  (s.appSpecificLoop now).within fun level ↦
    { rule := { s.rule with
        appSpecific := level.rule
        nextUpdateTime := level.nextUpdateTime }
      policy := { s.policy with appSpecific := level.policy } }

/-- `_updateAppSensor`, `policy.js:129–158`. -/
def updateAppSensor (now : Int) (s : Enforcement C) : Outcome PolicyError (Enforcement C) :=
  (s.appSensorLoop now).within fun level ↦
    { rule := { s.rule with
        appSensor := level.rule
        nextUpdateTime := level.nextUpdateTime }
      policy := { s.policy with appSensor := level.policy } }

/-- `PrivacyRule.update`, `policy.js:77–86`, on the schedules of the stored policy. -/
def update (now : Int) (s : Enforcement C) : Outcome PolicyError (Enforcement C) :=
  ((updateSensorSpecific now s.reset).andThen (updateAppSpecific now)).andThen
    (updateAppSensor now)

end Enforcement

/-! ### Insertion into the rule -/

private theorem targets_succ {n : Nat} (rule : Nested (List String) (n + 1)) (keys : Keys (n + 1)) :
    targets rule keys =
      ((JsObject.get? rule keys.head).map fun inner ↦ targets inner keys.tail).getD [] := by
  rw [targets, Nested.lookup]
  cases JsObject.get? rule keys.head <;> rfl

-- Below an ensured key stands the old value, or a new one without targets.
private theorem targets_ensured {n : Nat} (rule : Nested (List String) (n + 1))
    {keys keys' : Keys (n + 1)} (h : keys'.head = keys.head) :
    targets ((JsObject.get? rule keys.head).getD (Nested.fresh [] n)) keys'.tail =
      targets rule keys' := by
  rw [targets_succ, h]
  cases JsObject.get? rule keys.head with
  | some inner => rfl
  | none => cases n <;> rfl

private theorem targets_replaced {n : Nat} (rule : Nested (List String) (n + 1)) (key : String)
    (inner : Nested (List String) n) (keys' : Keys (n + 1)) :
    targets (n := n + 1) ((Nested.ensureKey [] key rule).set key inner) keys' =
      if keys'.head = key then targets inner keys'.tail else targets rule keys' := by
  rw [targets_succ, JsObject.get?_set, targets_succ]
  split
  · rfl
  · next h => rw [Nested.get?_ensureKey, if_neg h]

private theorem mem_pushNew (blockTarget target : String) (l : List String) :
    target ∈ pushNew blockTarget l ↔ target ∈ l ∨ target = blockTarget := by
  unfold pushNew
  split
  · next h =>
    constructor
    · exact Or.inl
    · rintro (hm | rfl)
      · exact hm
      · exact h
  · rw [List.mem_append, List.mem_singleton]

private theorem keys_eq_iff {n : Nat} {keys keys' : Keys (n + 1)} (h : keys'.head = keys.head) :
    keys' = keys ↔ keys'.tail = keys.tail := by
  constructor
  · exact congrArg List.Vector.tail
  · intro ht
    rw [← keys'.cons_head_tail, ← keys.cons_head_tail, h, ht]

-- Replacing the value below the first key by one with the target inserted below the others.
private theorem mem_targets_replaced {n : Nat} (rule : Nested (List String) (n + 1))
    (keys : Keys (n + 1)) (blockTarget : String) {inner : Nested (List String) n}
    (hinner : ∀ keys' target, target ∈ targets inner keys' ↔
      target ∈ targets ((JsObject.get? rule keys.head).getD (Nested.fresh [] n)) keys' ∨
        (keys' = keys.tail ∧ target = blockTarget)) (keys' : Keys (n + 1)) (target : String) :
    target ∈ targets (n := n + 1) ((Nested.ensureKey [] keys.head rule).set keys.head inner) keys' ↔
      target ∈ targets rule keys' ∨ (keys' = keys ∧ target = blockTarget) := by
  rw [targets_replaced]
  split
  · next h => rw [hinner, targets_ensured rule h, keys_eq_iff h]
  · next h =>
    have hne : keys' ≠ keys := fun he ↦ h (congrArg List.Vector.head he)
    simp only [hne, false_and, or_false]

-- The cases of `updateRule` below an ensured key.
private theorem updateRule_empty {n : Nat} {keys : Keys (n + 1)} (hhead : keys.head = "")
    (blockTarget : String) (rule : Nested (List String) (n + 1)) :
    updateRule blockTarget keys rule = .throw rule .typeError := by
  cases n <;> rw [updateRule, if_pos hhead]

private theorem updateRule_one {keys : Keys 1} (hhead : keys.head ≠ "") (blockTarget : String)
    (rule : Nested (List String) 1) :
    updateRule blockTarget keys rule =
      .done ((Nested.ensureKey [] keys.head rule).set keys.head
        (pushNew blockTarget ((JsObject.get? rule keys.head).getD (Nested.fresh [] 0)))) := by
  have hensured : (Nested.ensureKey [] keys.head rule).get? keys.head =
      some ((JsObject.get? rule keys.head).getD (Nested.fresh [] 0)) := by
    rw [Nested.get?_ensureKey, if_pos rfl]
  simp only [updateRule, if_neg hhead, JsObject.modify, hensured]

private theorem updateRule_succ {n : Nat} {keys : Keys (n + 2)} (hhead : keys.head ≠ "")
    (blockTarget : String) (rule : Nested (List String) (n + 2)) :
    updateRule blockTarget keys rule =
      (updateRule blockTarget keys.tail
        ((JsObject.get? rule keys.head).getD (Nested.fresh [] (n + 1)))).within fun inner ↦
          (Nested.ensureKey [] keys.head rule).set keys.head inner := by
  have hensured : (Nested.ensureKey [] keys.head rule).get? keys.head =
      some ((JsObject.get? rule keys.head).getD (Nested.fresh [] (n + 1))) := by
    rw [Nested.get?_ensureKey, if_pos rfl]
  simp only [updateRule, if_neg hhead, hensured]

/-- With non-empty keys a target is inserted at the end of its path and nowhere else. -/
theorem updateRule_spec (blockTarget : String) {n : Nat} (keys : Keys n)
    (hkeys : ∀ key ∈ keys.toList, key ≠ "") (rule : Nested (List String) n) :
    (updateRule blockTarget keys rule).error = none ∧
      ∀ keys' target, target ∈ targets (updateRule blockTarget keys rule).state keys' ↔
        target ∈ targets rule keys' ∨ (keys' = keys ∧ target = blockTarget) := by
  induction n with
  | zero =>
    refine ⟨rfl, fun keys' target ↦ ?_⟩
    rw [Subsingleton.elim keys' keys]
    simp [updateRule, targets, Nested.lookup]
  | succ n ih =>
    have hhead : keys.head ≠ "" := hkeys _ (List.Vector.head_mem keys)
    have htail : ∀ key ∈ keys.tail.toList, key ≠ "" := by
      intro key hkey
      exact hkeys key (List.Vector.mem_of_mem_tail key keys hkey)
    cases n with
    | zero =>
      rw [updateRule_one hhead]
      refine ⟨rfl, mem_targets_replaced rule keys blockTarget fun keys' target ↦ ?_⟩
      rw [Subsingleton.elim keys' keys.tail]
      simp only [true_and]
      exact mem_pushNew blockTarget target _
    | succ n =>
      obtain ⟨herror, hstate⟩ := ih keys.tail htail
        ((JsObject.get? rule keys.head).getD (Nested.fresh [] (n + 1)))
      rw [updateRule_succ hhead]
      exact ⟨herror, mem_targets_replaced rule keys blockTarget hstate⟩

/-- An insertion that completes found no empty key. -/
theorem nonempty_of_updateRule {blockTarget : String} {n : Nat} {keys : Keys n}
    {rule : Nested (List String) n} (h : (updateRule blockTarget keys rule).error = none) :
    ∀ key ∈ keys.toList, key ≠ "" := by
  induction n with
  | zero =>
    rw [Subsingleton.elim keys List.Vector.nil]
    exact List.forall_mem_nil _
  | succ n ih =>
    have hhead : keys.head ≠ "" := by
      intro hhead
      rw [updateRule_empty hhead] at h
      cases h
    rw [← keys.cons_head_tail, List.Vector.toList_cons, List.forall_mem_cons]
    refine ⟨hhead, ?_⟩
    cases n with
    | zero =>
      have htail : keys.tail.toList = [] := List.length_eq_zero_iff.mp keys.tail.toList_length
      rw [htail]
      exact List.forall_mem_nil _
    | succ n =>
      rw [updateRule_succ hhead] at h
      exact ih h

/-- An insertion that throws found an empty key, and lists nothing new. -/
theorem updateRule_throws {blockTarget : String} {n : Nat} {keys : Keys n}
    {rule : Nested (List String) n} (h : (updateRule blockTarget keys rule).error ≠ none) :
    "" ∈ keys.toList ∧
      ∀ keys', targets (updateRule blockTarget keys rule).state keys' = targets rule keys' := by
  constructor
  · by_contra hkeys
    exact h (updateRule_spec blockTarget keys (fun key hkey he ↦ hkeys (he ▸ hkey)) rule).1
  · induction n with
    | zero => exact absurd rfl h
    | succ n ih =>
      by_cases hhead : keys.head = ""
      · rw [updateRule_empty hhead]
        exact fun _ ↦ rfl
      · cases n with
        | zero =>
          rw [updateRule_one hhead] at h
          exact absurd rfl h
        | succ n =>
          rw [updateRule_succ hhead] at h ⊢
          intro keys'
          rw [Outcome.state_within, targets_replaced]
          split
          · next hkeys' => rw [ih h, targets_ensured rule hkeys']
          · rfl

/-- The target is inserted if membership in the schedule agrees with `block`. -/
theorem updateRuleProcedure_eq (isInInterval block : Bool) (blockTarget : String) {n : Nat}
    (keys : Keys n) (rule : Nested (List String) n) :
    updateRuleProcedure isInInterval block blockTarget keys rule =
      if isInInterval = block then updateRule blockTarget keys rule else .done rule := by
  cases isInInterval <;> cases block <;> rfl

/-- Where it completes, a target is inserted exactly if membership in the schedule agrees
with `block`. -/
theorem updateRuleProcedure_spec {isInInterval block : Bool} {blockTarget : String} {n : Nat}
    {keys : Keys n} {rule : Nested (List String) n}
    (h : (updateRuleProcedure isInInterval block blockTarget keys rule).error = none)
    (keys' : Keys n) (target : String) :
    target ∈ targets (updateRuleProcedure isInInterval block blockTarget keys rule).state keys' ↔
      target ∈ targets rule keys' ∨
        (keys' = keys ∧ target = blockTarget ∧ isInInterval = block) := by
  rw [updateRuleProcedure_eq] at h ⊢
  split at h
  · next hblock =>
    have hkeys : ∀ key ∈ keys.toList, key ≠ "" := nonempty_of_updateRule h
    rw [if_pos hblock, (updateRule_spec blockTarget keys hkeys rule).2]
    simp only [hblock, and_true]
  · next hblock =>
    rw [if_neg hblock]
    simp only [hblock, and_false, or_false]
    rfl

/-! ### The update time -/

section UpdateTime

variable {C : CronParser}

/-- The update time, if any, is reached by the instant. -/
def Due (nextUpdateTime : Option C.CronDate) (t : Int) : Prop :=
  ∃ date, nextUpdateTime = some date ∧ C.getTime date ≤ t

/-- The update time, if any, has zero seconds. -/
def OnMinute (nextUpdateTime : Option C.CronDate) : Prop :=
  ∀ date, nextUpdateTime = some date → wholeMinute (C.getTime date) = C.getTime date

private theorem due_some (date : C.CronDate) (t : Int) :
    Due (some date) t ↔ C.getTime date ≤ t := by
  simp only [Due, Option.some.injEq, exists_eq_left']

private theorem getTime_rounded (hC : C.KeepsMinutes) (temp : C.CronDate) :
    C.getTime (if C.getSeconds temp ≠ 0 then C.setSeconds (C.addMinute temp) 0 else temp) =
      wholeMinute (C.getTime temp) := by
  rw [wholeMinute_apply, ← hC.getSeconds_eq]
  split
  · next h => exact hC.nextMinute temp h
  · rfl

/-- A change time leaves an update time. -/
theorem updateNextTime_isSome (temp : C.CronDate) (nextUpdateTime : Option C.CronDate) :
    (updateNextTime (some temp) nextUpdateTime).state.isSome := by
  cases nextUpdateTime with
  | none => rfl
  | some next =>
    simp only [updateNextTime]
    split <;> rfl

/-- A change time brings the update forward to its whole minute if that is earlier. -/
theorem updateNextTime_spec (temp : C.CronDate) (nextUpdateTime : Option C.CronDate) :
    (updateNextTime (some temp) nextUpdateTime).error = none ∧
      (C.KeepsMinutes → OnMinute nextUpdateTime →
        OnMinute (updateNextTime (some temp) nextUpdateTime).state ∧
          ∀ t, Due (updateNextTime (some temp) nextUpdateTime).state t ↔
            Due nextUpdateTime t ∨ wholeMinute (C.getTime temp) ≤ t) := by
  cases nextUpdateTime with
  | none =>
    refine ⟨rfl, fun hC _ ↦ ⟨?_, fun t ↦ ?_⟩⟩
    · rintro date hdate
      obtain rfl := Option.some.inj hdate
      rw [getTime_rounded hC, wholeMinute.idempotent]
    · have hdue := due_some (if C.getSeconds temp ≠ 0 then C.setSeconds (C.addMinute temp) 0
        else temp) t
      rw [getTime_rounded hC] at hdue
      have hnone : ¬ Due (none : Option C.CronDate) t := by simp [Due]
      rw [or_iff_right hnone]
      exact hdue
  | some next =>
    simp only [updateNextTime, Option.all_some, decide_eq_true_eq]
    split
    · next h =>
      refine ⟨rfl, fun hC hnext ↦ ⟨?_, fun t ↦ ?_⟩⟩
      · rintro date hdate
        obtain rfl := Option.some.inj hdate
        rw [getTime_rounded hC, wholeMinute.idempotent]
      · have hmin := closure_lt_or_le wholeMinute (a := C.getTime temp) (t := t) (hnext next rfl)
        rw [if_pos h] at hmin
        rw [Outcome.state_done, due_some, due_some, getTime_rounded hC]
        exact hmin
    · next h =>
      refine ⟨rfl, fun hC hnext ↦ ⟨hnext, fun t ↦ ?_⟩⟩
      have hmin := closure_lt_or_le wholeMinute (a := C.getTime temp) (t := t) (hnext next rfl)
      rw [if_neg h] at hmin
      rw [Outcome.state_done, due_some]
      exact hmin

end UpdateTime

end NexusEdge.Policy
