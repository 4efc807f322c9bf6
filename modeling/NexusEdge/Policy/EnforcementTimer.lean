import NexusEdge.Base.Transition
import NexusEdge.Policy.PolicyEnforcer

/-!
# The timer of the enforcer

Library `Policy`. Updates of the policy and expiries of the timer, in any order,
`sensor-stream-manager/policy.js:297–307,346–385`. Every enforcement compiles the stored policy
and replaces the pending timer if the compilation notes an update time. A policy without entries
notes none and leaves the earlier timer in place; its expiry enforces the stored policy, so it
never brings back an earlier one.
-/

namespace NexusEdge.Policy
open NexusEdge.Base

/-- The enforcer and what has been asked of it. -/
structure EnforcerProcess (C : CronParser) where
  enforcer : PolicyEnforcer C
  /-- The most recently submitted policy and the instant it was enforced last. -/
  lastEnforced : Option (PolicyFormat × Int)
  /-- When the last timer was set. -/
  setAt : Int

/-- Calls of `update` and expiries of timers, with the two readings of the clock. -/
inductive EnforcerEvent where
  | update (policy : PolicyFormat) (now timerNow : Int)
  | expire (handle : Nat) (now timerNow : Int)

namespace PolicyEnforcer

variable {C : CronParser}

/-- The callback of the timer, `policy.js:381–383`; a timer that has expired is not pending. -/
def expire (handle : Nat) (now timerNow : Int) (e : PolicyEnforcer C) :
    Outcome PolicyError (PolicyEnforcer C) :=
  enforcePolicy now timerNow { e with timers := e.timers.clear handle }

/-- A pending timer is the one the enforcer holds. -/
structure HoldsTimer (e : PolicyEnforcer C) : Prop where
  single : e.timers.pending.length ≤ 1
  held : ∀ q ∈ e.timers.pending, e.timer = some q.1

/-- One timer is pending, set at the given instant to expire at the update time of the rule. -/
def Armed (setAt : Int) (e : PolicyEnforcer C) : Prop :=
  ∃ handle interval date, e.timers.pending = [(handle, interval)] ∧
    e.rule.nextUpdateTime = some date ∧ setAt + interval = C.getTime date

end PolicyEnforcer

namespace EnforcerProcess

variable {C : CronParser}

/-- A new enforcer. -/
def initial (tz : String) : EnforcerProcess C := ⟨PolicyEnforcer.initial tz, none, 0⟩

/-- The enforcer has enforced its policy. -/
def enforced (lastEnforced : Option (PolicyFormat × Int)) (timerNow : Int) (e : PolicyEnforcer C)
    (s : EnforcerProcess C) : EnforcerProcess C where
  enforcer := e
  lastEnforced := lastEnforced
  setAt := if e.timers.next = s.enforcer.timers.next then s.setAt else timerNow

/-- One event; only a pending timer expires. -/
def step (s : EnforcerProcess C) : EnforcerEvent → Option (EnforcerProcess C)
  | .update policy now timerNow =>
    some (s.enforced (some (policy, now)) timerNow (s.enforcer.update policy now timerNow).state)
  | .expire handle now timerNow =>
    if handle ∈ s.enforcer.timers.pending.map Prod.fst then
      some (s.enforced (s.lastEnforced.map fun last ↦ (last.1, now)) timerNow
        (s.enforcer.expire handle now timerNow).state)
    else none

/-- At most one timer is pending, the one the enforcer holds; the rule is the compilation of the
most recently submitted policy at the instant of its last enforcement; and with an entry in that
policy a timer is pending for the update time. -/
structure Scheduled (tz : String) (s : EnforcerProcess C) : Prop where
  holdsTimer : s.enforcer.HoldsTimer
  compiled : ∀ policy now, s.lastEnforced = some (policy, now) →
    Compiled C policy tz now ⟨s.enforcer.rule, s.enforcer.policy⟩
  armed : ∀ policy now, s.lastEnforced = some (policy, now) → (∃ entry, policy.Holds entry) →
    s.enforcer.Armed s.setAt

end EnforcerProcess

/-- The policy is in the documented format: no entry below an empty key, and its schedules
parse. -/
def PolicyFormat.WellFormed (C : CronParser) (tz : String) (policy : PolicyFormat) : Prop :=
  policy.KeysNonempty ∧ ∀ t, policy.Parses C tz t

/-! ### One enforcement -/

namespace PolicyEnforcer

variable {C : CronParser} {e : PolicyEnforcer C}

/-- A new enforcer holds no timer. -/
theorem holdsTimer_initial (tz : String) : (initial tz : PolicyEnforcer C).HoldsTimer where
  single := Nat.zero_le 1
  held _ hq := absurd hq List.not_mem_nil

/-- Without its timer nothing is pending. -/
theorem HoldsTimer.cleared (he : e.HoldsTimer) {timer : Nat} (htimer : e.timer = some timer) :
    (e.timers.clear timer).pending = [] := by
  apply List.filter_eq_nil_iff.mpr
  intro q hq
  have hheld := he.held q hq
  rw [htimer] at hheld
  simp [Option.some.inj hheld]

/-- Without a timer nothing is pending. -/
theorem HoldsTimer.pending_of_none (he : e.HoldsTimer) (htimer : e.timer = none) :
    e.timers.pending = [] := by
  apply List.eq_nil_iff_forall_not_mem.mpr
  intro q hq
  have hheld := he.held q hq
  rw [htimer] at hheld
  cases hheld

/-- An expired timer is not pending. -/
theorem HoldsTimer.expired (he : e.HoldsTimer) (handle : Nat) :
    HoldsTimer { e with timers := e.timers.clear handle } where
  single := (List.length_filter_le _ _).trans he.single
  held q hq := he.held q (List.mem_of_mem_filter hq)

/-- `_updateTimer` replaces the pending timer, or does nothing. -/
theorem HoldsTimer.updateTimer (he : e.HoldsTimer) (timerNow : Int) :
    (∃ date, e.rule.nextUpdateTime = some date ∧
      (e.updateTimer timerNow).timer = some e.timers.next ∧
      (e.updateTimer timerNow).timers =
        ⟨e.timers.next + 1, [(e.timers.next, C.getTime date - timerNow)]⟩) ∨
    (e.rule.nextUpdateTime = none ∧ e.updateTimer timerNow = e) := by
  unfold PolicyEnforcer.updateTimer
  cases hdate : e.rule.nextUpdateTime with
  | none => exact Or.inr ⟨rfl, rfl⟩
  | some date =>
    refine Or.inl ⟨date, rfl, ?_⟩
    cases htimer : e.timer with
    | some timer =>
      simp only [Timers.set, he.cleared htimer, List.nil_append]
      exact ⟨rfl, rfl⟩
    | none =>
      simp only [Timers.set, he.pending_of_none htimer, List.nil_append, and_self]

/-- An enforcement of a well-formed policy leaves its compilation and at most one timer; with an
entry in the policy it sets the timer for the new update time. -/
theorem enforcePolicy_timer {p : PolicyFormat} {tz : String} (he : e.HoldsTimer)
    (hrep : e.policy.Represents p) (hzone : e.rule.timeZone = tz) (hp : p.WellFormed C tz)
    (now timerNow : Int) :
    let after := (e.enforcePolicy now timerNow).state
    after.HoldsTimer ∧ Compiled C p tz now ⟨after.rule, after.policy⟩ ∧
      ((∃ entry, p.Holds entry) →
        after.timers.next ≠ e.timers.next ∧ after.Armed timerNow) := by
  subst hzone
  obtain ⟨herror, hcompiled⟩ := enforcePolicy_spec hrep hp.1 (hp.2 now) timerNow
  obtain ⟨hdone, _⟩ := Outcome.andThen_error_eq_none.mp herror
  have hnoted := update_visits (s := ⟨e.rule, e.policy⟩) hrep hdone
  rw [enforcePolicy, Outcome.andThen_of_none hdone] at hcompiled ⊢
  simp only [Outcome.state_done, Outcome.state_within] at hcompiled ⊢
  generalize (Enforcement.update now ⟨e.rule, e.policy⟩).state = compiled at *
  have he' : HoldsTimer { e with rule := compiled.rule, policy := compiled.policy } :=
    ⟨he.single, he.held⟩
  refine ⟨?_, hcompiled, fun hentry ↦ ?_⟩
  · rcases he'.updateTimer timerNow with ⟨date, _, htimer, htimers⟩ | ⟨_, heq⟩
    · constructor
      · rw [htimers]
        exact le_refl _
      · intro q hq
        rw [htimers] at hq
        rw [htimer, List.mem_singleton.mp hq]
    · rw [heq]
      exact he'
  · obtain ⟨date, hdate⟩ := Option.isSome_iff_exists.mp (hnoted hentry).1
    rcases he'.updateTimer timerNow with ⟨date', hdate', _, htimers⟩ | ⟨hnone, _⟩
    · rw [htimers]
      refine ⟨Nat.succ_ne_self _, _, _, date', congrArg Timers.pending htimers, ?_, by omega⟩
      rw [(rule_updateTimer timerNow _).1]
      exact hdate'
    · cases hdate.symm.trans hnone

end PolicyEnforcer

/-! ### Runs -/

namespace EnforcerProcess

variable {C : CronParser} {tz : String} {s t : EnforcerProcess C}

/-- Before the first update nothing is pending. -/
structure Consistent (tz : String) (s : EnforcerProcess C) : Prop where
  scheduled : s.Scheduled tz
  timeZone : s.enforcer.rule.timeZone = tz
  wellFormed : ∀ policy now, s.lastEnforced = some (policy, now) → policy.WellFormed C tz
  idle : s.lastEnforced = none → s.enforcer.timers.pending = []

private theorem consistent_enforced {e : PolicyEnforcer C} {policy : PolicyFormat}
    (he : e.HoldsTimer) (hnext : e.timers.next = s.enforcer.timers.next)
    (hrep : e.policy.Represents policy) (hzone : e.rule.timeZone = tz)
    (hpolicy : policy.WellFormed C tz) (now timerNow : Int) :
    (s.enforced (some (policy, now)) timerNow (e.enforcePolicy now timerNow).state).Consistent
      tz := by
  obtain ⟨hholds, hcompiled, harmed⟩ :=
    PolicyEnforcer.enforcePolicy_timer he hrep hzone hpolicy now timerNow
  refine ⟨⟨hholds, ?_, ?_⟩, hcompiled.timeZone, ?_, nofun⟩
  · rintro policy' now' ⟨⟩
    exact hcompiled
  · rintro policy' now' ⟨⟩ hentry
    obtain ⟨hset, harmed⟩ := harmed hentry
    rw [enforced, if_neg (hnext ▸ hset)]
    exact harmed
  · rintro policy' now' ⟨⟩
    exact hpolicy

/-- The submitted policy is well formed. -/
def Submits (C : CronParser) (tz : String) : EnforcerEvent → Prop
  | .update policy _ _ => policy.WellFormed C tz
  | .expire _ _ _ => True

/-- An update with a well-formed policy and an expiry keep the invariant. -/
theorem consistent_step {e : EnforcerEvent} (hs : s.Consistent tz) (he : Submits C tz e)
    (ht : step s e = some t) : t.Consistent tz := by
  cases e with
  | update policy now timerNow =>
    obtain rfl := Option.some.inj ht
    exact consistent_enforced (e := { s.enforcer with policy := s.enforcer.policy.update policy })
      ⟨hs.scheduled.holdsTimer.single, hs.scheduled.holdsTimer.held⟩ rfl
      (s.enforcer.policy.represents_update policy) hs.timeZone he now timerNow
  | expire handle now timerNow =>
    rw [step] at ht
    split at ht
    · next hpending =>
      obtain rfl := Option.some.inj ht
      cases hlast : s.lastEnforced with
      | none =>
        rw [hs.idle hlast] at hpending
        cases hpending
      | some last =>
        have hcompiled := hs.scheduled.compiled last.1 last.2 hlast
        exact consistent_enforced (hs.scheduled.holdsTimer.expired handle) rfl
          hcompiled.valid.represents hs.timeZone (hs.wellFormed last.1 last.2 hlast) now timerNow
    · cases ht

private theorem consistent_initial (tz : String) :
    (initial tz : EnforcerProcess C).Consistent tz where
  scheduled := ⟨PolicyEnforcer.holdsTimer_initial tz, nofun, nofun⟩
  timeZone := rfl
  wellFormed := nofun
  idle _ := rfl

/-- Whatever well-formed policies are submitted and whenever timers expire, at most one timer is
pending, the one the enforcer holds; the rule is the compilation of the policy submitted last;
and a policy with an entry has its timer set for the update time. -/
theorem scheduled_run (C : CronParser) (tz : String) (es : List EnforcerEvent)
    (hes : ∀ policy now timerNow, .update policy now timerNow ∈ es → policy.WellFormed C tz) :
    Always step (Scheduled tz) (initial tz : EnforcerProcess C) es := by
  have hsubmits : ∀ e ∈ es, ∀ s : EnforcerProcess C, Submits C tz e := by
    intro e he _
    cases e with
    | update policy now timerNow => exact hes policy now timerNow he
    | expire handle now timerNow => trivial
  apply Always.imp step fun s (hs : s.Consistent tz) ↦ hs.scheduled
  exact always_of_eachStep step (fun _ _ _ hs he ht ↦ consistent_step hs he ht) es
    (consistent_initial tz) (eachStep_of_forall step hsubmits _)

/-- Two policies, the second one without entries, and two expiries. -/
def firstHalvesRun : List EnforcerEvent :=
  [.update PolicyEnforcer.firstHalvesPolicy 10000 10005, .expire 0 60000 60005,
    .update ⟨none, none, none⟩ 70000 70005, .expire 1 90000 90005]

private theorem wellFormed_empty : PolicyFormat.WellFormed C tz ⟨none, none, none⟩ := by
  have hnone : ∀ entry, ¬ PolicyFormat.Holds ⟨none, none, none⟩ entry := by
    rintro entry (⟨_, h⟩ | ⟨_, _, h⟩ | ⟨_, _, _, h⟩) <;> cases h
  refine ⟨⟨fun _ _ _ h ↦ ?_, fun _ _ _ _ h ↦ ?_⟩, fun t entry h ↦ absurd h (hnone entry)⟩
  · cases h
  · cases h

/-- The timer of the first policy expires under the second one. -/
theorem scheduled_firstHalves :
    Always step (Scheduled "UTC") (initial "UTC" : EnforcerProcess PolicyEnforcer.firstHalves)
      firstHalvesRun := by
  apply scheduled_run
  intro policy now timerNow h
  simp only [firstHalvesRun, List.mem_cons, EnforcerEvent.update.injEq, reduceCtorEq,
    List.not_mem_nil, or_false, false_or] at h
  rcases h with ⟨rfl, _, _⟩ | ⟨rfl, _, _⟩
  · exact ⟨PolicyEnforcer.firstHalvesPolicy_keysNonempty,
      PolicyEnforcer.firstHalvesPolicy_parses "UTC"⟩
  · exact wellFormed_empty

/-- An application is blocked at a gateway without address. -/
def namelessPolicy : PolicyFormat where
  sensorSpecific := none
  appSpecific := some (JsObject.empty.set "" (JsObject.empty.set "app1" ⟨true, "0-29 * * * * *"⟩))
  appSensor := none

/-- An entry below an empty key makes the update throw, and no timer is set. -/
theorem nameless_not_scheduled : ¬ ∀ (C : CronParser) (tz : String) (es : List EnforcerEvent),
    (∀ policy now timerNow, .update policy now timerNow ∈ es → ∀ t, policy.Parses C tz t) →
      Always step (Scheduled tz) (initial tz : EnforcerProcess C) es := by
  intro h
  have hparses : ∀ t, namelessPolicy.Parses PolicyEnforcer.firstHalves "UTC" t := by
    rintro t entry (⟨_, hentry⟩ | ⟨ip, topic, hentry⟩ | ⟨_, _, _, hentry⟩)
    · cases hentry
    · have hschedule : entry.schedule = "0-29 * * * * *" :=
        PolicyEnforcer.forall_part (P := fun q ↦ q.2.schedule = "0-29 * * * * *") (by decide) hentry
      rw [hschedule]
      exact ⟨t, rfl⟩
    · cases hentry
  have hrun := h PolicyEnforcer.firstHalves "UTC" [.update namelessPolicy 10000 10005] (by
    intro policy now timerNow hmem
    obtain ⟨rfl, _, _⟩ := EnforcerEvent.update.inj (List.mem_singleton.mp hmem)
    exact hparses)
  have hscheduled := Always.last step hrun rfl
  obtain ⟨handle, interval, date, hpending, _⟩ :=
    hscheduled.armed namelessPolicy 10000 rfl ⟨_, Or.inr (Or.inl ⟨"", "app1", rfl⟩)⟩
  cases hpending

end EnforcerProcess
end NexusEdge.Policy
