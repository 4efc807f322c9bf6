import Mathlib.Data.Set.Lattice
import NexusEdge.Policy.PrivacyRule

/-!
# What a compilation blocks and notes

Library `Policy`. The loops of `PrivacyRule.update`, `sensor-stream-manager/policy.js:98–158`,
described by the set of entries they visit: the targets of the visited entries that block
are added to the rule, the change times of the visited entries bring the update time
forward. Visiting nothing, one entry, or the entries of successive iterations composes by
unions, whatever the nesting of the loops.
-/

namespace NexusEdge.Policy
open NexusEdge.Base

section Loops

variable {C : CronParser} {n : Nat} (now : Int) (tz : String)
  (F : Keys n → String → Option (TimeBasedPolicy String))

/-- The stored entries are those of `F`, and the update time has zero seconds. -/
structure Level.Valid (s : Level C n) : Prop where
  policy : ∀ keys name, (s.policy.find keys name).map PrivacyPolicy.source = F keys name
  onMinute : C.KeepsMinutes → OnMinute s.nextUpdateTime

/-- The statement visits exactly the entries at the given places: it completes, adds the
targets that block, and notes the change times. -/
structure Enforces (S : Set (Keys n × String)) (s : Level C n)
    (o : Outcome PolicyError (Level C n)) : Prop where
  error : o.error = none
  valid : o.state.Valid F
  blocked : ∀ keys name, name ∈ targets o.state.rule keys ↔ name ∈ targets s.rule keys ∨
    ((keys, name) ∈ S ∧ ∃ entry, F keys name = some entry ∧ entry.BlocksAt C tz now)
  due : C.KeepsMinutes → ∀ t, Due o.state.nextUpdateTime t ↔ Due s.nextUpdateTime t ∨
    ∃ p ∈ S, ∃ entry, F p.1 p.2 = some entry ∧ entry.ChangeDue C tz now t

variable {now tz F}

/-- A skipped iteration visits nothing. -/
theorem enforces_done {s : Level C n} (hs : s.Valid F) :
    Enforces now tz F ∅ s (.done s) :=
  ⟨rfl, hs, by simp, by simp⟩

/-- What one statement visits and what the next one visits. -/
theorem Enforces.trans {S T : Set (Keys n × String)} {s : Level C n}
    {o o' : Outcome PolicyError (Level C n)} (h : Enforces now tz F S s o)
    (h' : Enforces now tz F T o.state o') : Enforces now tz F (S ∪ T) s o' := by
  refine ⟨h'.error, h'.valid, fun keys name ↦ ?_, fun hC t ↦ ?_⟩
  · rw [h'.blocked, h.blocked, or_assoc, Set.mem_union, or_and_right]
  · rw [h'.due hC, h.due hC, or_assoc]
    apply or_congr_right
    simp only [Set.mem_union, or_and_right, exists_or]

/-- Successive iterations that complete visit the entries of each. -/
theorem enforces_forEach {α : Type*} {body : α → Level C n → Outcome PolicyError (Level C n)}
    {S : α → Set (Keys n × String)} {l : List α}
    (h : ∀ a ∈ l, ∀ s : Level C n, s.Valid F → (body a s).error = none →
      Enforces now tz F (S a) s (body a s))
    {s : Level C n} (hs : s.Valid F) (hdone : (Outcome.forEach body l s).error = none) :
    Enforces now tz F (⋃ a ∈ l, S a) s (Outcome.forEach body l s) := by
  induction l generalizing s with
  | nil =>
    simp only [List.not_mem_nil, Set.iUnion_of_empty, Set.iUnion_empty]
    exact enforces_done hs
  | cons a l ih =>
    rw [Outcome.forEach] at hdone ⊢
    by_cases ha : (body a s).error = none
    · rw [Outcome.andThen_of_none ha] at hdone ⊢
      have hfirst := h a List.mem_cons_self s hs ha
      have hrest := ih (fun b hb ↦ h b (List.mem_cons_of_mem a hb)) hfirst.valid hdone
      simp only [List.mem_cons, Set.iUnion_iUnion_eq_or_left]
      exact hfirst.trans hrest
    · rw [Outcome.andThen_of_ne_none ha] at hdone
      exact absurd hdone ha

/-- Only places that hold an entry matter. -/
theorem Enforces.congr {S T : Set (Keys n × String)} {s : Level C n}
    {o : Outcome PolicyError (Level C n)} (h : Enforces now tz F S s o)
    (hST : ∀ p, (F p.1 p.2).isSome → (p ∈ S ↔ p ∈ T)) : Enforces now tz F T s o := by
  refine ⟨h.error, h.valid, fun keys name ↦ ?_, fun hC t ↦ ?_⟩
  · rw [h.blocked]
    apply or_congr_right
    constructor
    · rintro ⟨hS, entry, hF, hblocks⟩
      exact ⟨(hST (keys, name) (Option.isSome_of_eq_some hF)).mp hS, entry, hF, hblocks⟩
    · rintro ⟨hT, entry, hF, hblocks⟩
      exact ⟨(hST (keys, name) (Option.isSome_of_eq_some hF)).mpr hT, entry, hF, hblocks⟩
  · rw [h.due hC]
    apply or_congr_right
    constructor
    · rintro ⟨p, hS, entry, hF, hc⟩
      exact ⟨p, (hST p (Option.isSome_of_eq_some hF)).mp hS, entry, hF, hc⟩
    · rintro ⟨p, hT, entry, hF, hc⟩
      exact ⟨p, (hST p (Option.isSome_of_eq_some hF)).mpr hT, entry, hF, hc⟩

private theorem blocksAt_iff (entry : TimeBasedPolicy String) {intervals : C.Intervals}
    (h : C.parseExpression entry.schedule now tz = .ok intervals) :
    entry.BlocksAt C tz now ↔ C.isInInterval intervals now = entry.block := by
  have hin : C.InSchedule entry.schedule tz now ↔ C.isInInterval intervals now = true := by
    simp only [CronParser.InSchedule, h, Except.ok.injEq, exists_eq_left']
  rw [TimeBasedPolicy.BlocksAt, hin]
  cases C.isInInterval intervals now <;> cases entry.block <;> simp

-- Only the parser's state of one entry changes, so the entries stay those of `F`.
private theorem map_source_set {keys : Keys n} {name : String}
    {sensorPolicy : TimeBasedPolicy (Schedule C)}
    (hF : F keys name = some (PrivacyPolicy.source sensorPolicy)) {policy : Entries (Schedule C) n}
    (hpolicy : ∀ keys name, (policy.find keys name).map PrivacyPolicy.source = F keys name)
    (intervals : Option C.Intervals) (keys' : Keys n) (name' : String) :
    (Nested.find (Nested.modifyAt keys (fun entries ↦ entries.set name
      { sensorPolicy with
        schedule := { sensorPolicy.schedule with intervals := intervals } }) policy)
      keys' name').map PrivacyPolicy.source = F keys' name' := by
  obtain ⟨stored, hstored, _⟩ := Option.map_eq_some_iff.mp ((hpolicy keys name).trans hF)
  rw [Nested.find_modifyAt_set hstored]
  split
  · next h =>
    obtain ⟨rfl, rfl⟩ := h
    rw [hF]
    rfl
  · exact hpolicy keys' name'

/-- The entry cannot be enforced: its schedule is rejected, or it blocks below an empty key. -/
def TimeBasedPolicy.Rejected (C : CronParser) (tz : String) (now : Int) (keys : List String)
    (entry : TimeBasedPolicy String) : Prop :=
  ¬ C.Parses entry.schedule tz now ∨ ("" ∈ keys ∧ entry.BlocksAt C tz now)

private theorem nextChange?_of_parse {pattern : String} {intervals : C.Intervals}
    (h : C.parseExpression pattern now tz = .ok intervals) :
    C.nextChange? pattern tz now = some (C.getTime (C.next intervals).1) := by
  simp only [CronParser.nextChange?, h]

/-- The body of the loops, where it completes, visits its own entry. -/
theorem enforces_enforce {keys : Keys n} {name : String}
    {sensorPolicy : TimeBasedPolicy (Schedule C)}
    (hF : F keys name = some (PrivacyPolicy.source sensorPolicy)) {s : Level C n}
    (hs : s.Valid F) (hdone : (s.enforce now tz keys name sensorPolicy).error = none) :
    Enforces now tz F {(keys, name)} s (s.enforce now tz keys name sensorPolicy) := by
  cases hintervals : C.parseExpression sensorPolicy.schedule.timeBasedPolicy now tz with
  | error message =>
    simp only [Level.enforce, Schedule.isInSchedule, hintervals] at hdone
    cases hdone
  | ok intervals =>
    have hblocks := blocksAt_iff (PrivacyPolicy.source sensorPolicy) hintervals
    have hchange : C.nextChange? (PrivacyPolicy.source sensorPolicy).schedule tz now =
        some (C.getTime (C.next intervals).1) := nextChange?_of_parse hintervals
    simp only [Level.enforce, Schedule.isInSchedule, hintervals,
      Schedule.getNextScheduleChangeTime] at hdone ⊢
    by_cases hrule : (updateRuleProcedure (C.isInInterval intervals now) sensorPolicy.block name
        keys s.rule).error = none
    · have htargets := updateRuleProcedure_spec hrule
      obtain ⟨htime, hdue⟩ := updateNextTime_spec (C.next intervals).1 s.nextUpdateTime
      rw [Outcome.andThen_of_none ((Outcome.error_within _ _).trans hrule)]
      refine ⟨htime, ⟨map_source_set hF hs.policy _, fun hC ↦ (hdue hC (hs.onMinute hC)).1⟩,
        ?_, ?_⟩
      · intro keys' name'
        simp only [Outcome.state_within, htargets, Set.mem_singleton_iff, Prod.mk.injEq]
        apply or_congr_right
        constructor
        · rintro ⟨rfl, rfl, hblock⟩
          exact ⟨⟨rfl, rfl⟩, _, hF, hblocks.mpr hblock⟩
        · rintro ⟨⟨rfl, rfl⟩, entry, hentry, hblock⟩
          obtain rfl := Option.some.inj (hF.symm.trans hentry)
          exact ⟨rfl, rfl, hblocks.mp hblock⟩
      · intro hC t
        simp only [Outcome.state_within, (hdue hC (hs.onMinute hC)).2, Set.mem_singleton_iff,
          exists_eq_left, hF, TimeBasedPolicy.ChangeDue, hchange, Option.some.injEq,
          exists_eq_left']
    · rw [Outcome.andThen_of_ne_none (by rwa [Outcome.error_within])] at hdone
      exact absurd hdone hrule

/-- Where the body throws, its entry is rejected; nothing is listed and the entries stay. -/
theorem enforce_throws {keys : Keys n} {name : String}
    {sensorPolicy : TimeBasedPolicy (Schedule C)}
    (hF : F keys name = some (PrivacyPolicy.source sensorPolicy)) {s : Level C n}
    (hs : s.Valid F) (hthrow : (s.enforce now tz keys name sensorPolicy).error ≠ none) :
    (PrivacyPolicy.source sensorPolicy).Rejected C tz now keys.toList ∧
      (∀ keys' name', ((s.enforce now tz keys name sensorPolicy).state.policy.find keys' name').map
        PrivacyPolicy.source = F keys' name') ∧
      ∀ keys', targets (s.enforce now tz keys name sensorPolicy).state.rule keys' =
        targets s.rule keys' := by
  cases hintervals : C.parseExpression sensorPolicy.schedule.timeBasedPolicy now tz with
  | error message =>
    simp only [Level.enforce, Schedule.isInSchedule, hintervals]
    refine ⟨Or.inl ?_, hs.policy, fun _ ↦ rfl⟩
    rintro ⟨intervals, hparse⟩
    cases hintervals.symm.trans hparse
  | ok intervals =>
    have hblocks := blocksAt_iff (PrivacyPolicy.source sensorPolicy) hintervals
    simp only [Level.enforce, Schedule.isInSchedule, hintervals,
      Schedule.getNextScheduleChangeTime] at hthrow ⊢
    by_cases hrule : (updateRuleProcedure (C.isInInterval intervals now) sensorPolicy.block name
        keys s.rule).error = none
    · rw [Outcome.andThen_of_none ((Outcome.error_within _ _).trans hrule)] at hthrow
      exact absurd (updateNextTime_spec (C.next intervals).1 s.nextUpdateTime).1 hthrow
    · rw [Outcome.andThen_of_ne_none (by rwa [Outcome.error_within])]
      rw [updateRuleProcedure_eq] at hrule ⊢
      split at hrule
      · next hblock =>
        obtain ⟨hempty, htargets⟩ := updateRule_throws hrule
        rw [if_pos hblock]
        exact ⟨Or.inr ⟨hempty, hblocks.mpr hblock⟩, map_source_set hF hs.policy _, htargets⟩
      · exact absurd rfl hrule

/-! ### The loops as one loop -/

/-- An iteration of the loops: an entry is skipped or enforced. -/
def visit (now : Int) (tz : String) (skip : Keys n × String → Prop) [DecidablePred skip]
    (entry : (Keys n × String) × TimeBasedPolicy (Schedule C)) :
    Level C n → Outcome PolicyError (Level C n) :=
  if skip entry.1 then .done else Level.enforce now tz entry.1.1 entry.1.2 entry.2

variable {skip : Keys n × String → Prop} [DecidablePred skip]
  {l : List ((Keys n × String) × TimeBasedPolicy (Schedule C))}

/-- A loop that completes visits the entries that are not skipped. -/
theorem enforces_visit (hl : ∀ q ∈ l, F q.1.1 q.1.2 = some (PrivacyPolicy.source q.2))
    {s : Level C n} (hs : s.Valid F)
    (hdone : (Outcome.forEach (visit now tz skip) l s).error = none) :
    Enforces now tz F {q | q ∈ l.map Prod.fst ∧ ¬ skip q} s
      (Outcome.forEach (visit now tz skip) l s) := by
  refine (enforces_forEach (S := fun q ↦ {p | p = q.1 ∧ ¬ skip p}) ?_ hs hdone).congr ?_
  · intro q hq s hs hdone
    unfold visit at hdone ⊢
    split at hdone
    · next hskip =>
      rw [if_pos hskip]
      refine (enforces_done hs).congr fun p _ ↦ ?_
      simp only [Set.mem_empty_iff_false, Set.mem_ofPred, false_iff, not_and, not_not]
      rintro rfl
      exact hskip
    · next hskip =>
      rw [if_neg hskip]
      refine (enforces_enforce (hl q hq) hs hdone).congr fun p _ ↦ ?_
      simp only [Set.mem_singleton_iff, Set.mem_ofPred]
      constructor
      · rintro rfl
        exact ⟨rfl, hskip⟩
      · exact And.left
  · intro p _
    simp only [Set.mem_iUnion, exists_prop, Set.mem_ofPred, List.mem_map]
    constructor
    · rintro ⟨q, hq, rfl, hskip⟩
      exact ⟨⟨q, hq, rfl⟩, hskip⟩
    · rintro ⟨⟨q, hq, rfl⟩, hskip⟩
      exact ⟨q, hq, rfl, hskip⟩

/-- A loop that throws has visited the entries before one that is rejected, and lists no
more than these. -/
theorem visit_throws (hl : ∀ q ∈ l, F q.1.1 q.1.2 = some (PrivacyPolicy.source q.2))
    {s : Level C n} (hs : s.Valid F)
    (hthrow : (Outcome.forEach (visit now tz skip) l s).error ≠ none) :
    ∃ before q after, l = before ++ q :: after ∧ ¬ skip q.1 ∧
      (PrivacyPolicy.source q.2).Rejected C tz now q.1.1.toList ∧
      (∀ keys name, ((Outcome.forEach (visit now tz skip) l s).state.policy.find keys name).map
        PrivacyPolicy.source = F keys name) ∧
      ∀ keys name, name ∈ targets (Outcome.forEach (visit now tz skip) l s).state.rule keys ↔
        name ∈ targets s.rule keys ∨
          (((keys, name) ∈ before.map Prod.fst ∧ ¬ skip (keys, name)) ∧
            ∃ entry, F keys name = some entry ∧ entry.BlocksAt C tz now) := by
  obtain ⟨before, q, after, rfl, hdone, hlast⟩ := Outcome.forEach_throws hthrow
  have hbefore : Enforces now tz F {p | p ∈ before.map Prod.fst ∧ ¬ skip p} s
      (Outcome.forEach (visit now tz skip) before s) :=
    enforces_visit (fun p hp ↦ hl p (List.mem_append_left _ hp)) hs hdone
  have hq : F q.1.1 q.1.2 = some (PrivacyPolicy.source q.2) := hl q (by simp)
  rw [hlast] at hthrow
  by_cases hskip : skip q.1
  · rw [visit, if_pos hskip] at hthrow
    exact absurd rfl hthrow
  · rw [visit, if_neg hskip] at hthrow
    obtain ⟨hrejected, hpolicy, htargets⟩ := enforce_throws hq hbefore.valid hthrow
    refine ⟨before, q, after, rfl, hskip, hrejected, ?_, ?_⟩
    · rw [hlast, visit, if_neg hskip]
      exact hpolicy
    · intro keys name
      rw [hlast, visit, if_neg hskip, htargets, hbefore.blocked]
      rfl

/-- The body of the loops, where it completes, had an entry that is not rejected, and has noted a
time. -/
theorem enforce_done {keys : Keys n} {name : String} {sensorPolicy : TimeBasedPolicy (Schedule C)}
    {s : Level C n} (hdone : (s.enforce now tz keys name sensorPolicy).error = none) :
    ¬ (PrivacyPolicy.source sensorPolicy).Rejected C tz now keys.toList ∧
      (s.enforce now tz keys name sensorPolicy).state.nextUpdateTime.isSome := by
  cases hintervals : C.parseExpression sensorPolicy.schedule.timeBasedPolicy now tz with
  | error message =>
    simp only [Level.enforce, Schedule.isInSchedule, hintervals] at hdone
    cases hdone
  | ok intervals =>
    have hblocks := blocksAt_iff (PrivacyPolicy.source sensorPolicy) hintervals
    simp only [Level.enforce, Schedule.isInSchedule, hintervals,
      Schedule.getNextScheduleChangeTime] at hdone ⊢
    have hrule := (Outcome.andThen_error_eq_none.mp hdone).1
    rw [Outcome.andThen_of_none hrule]
    refine ⟨?_, updateNextTime_isSome _ _⟩
    rintro (hparse | ⟨hempty, hblocksNow⟩)
    · exact hparse ⟨intervals, hintervals⟩
    · have hblock : C.isInInterval intervals now = sensorPolicy.block := hblocks.mp hblocksNow
      rw [Outcome.error_within, updateRuleProcedure_eq, if_pos hblock] at hrule
      exact nonempty_of_updateRule hrule "" hempty rfl

/-- A loop that completes has visited no rejected entry; an update time stays noted, and one visit
notes one. -/
theorem visit_done {s : Level C n}
    (hdone : (Outcome.forEach (visit now tz skip) l s).error = none) :
    (∀ q ∈ l, ¬ skip q.1 → ¬ (PrivacyPolicy.source q.2).Rejected C tz now q.1.1.toList) ∧
      ((s.nextUpdateTime.isSome ∨ ∃ q ∈ l, ¬ skip q.1) →
        (Outcome.forEach (visit now tz skip) l s).state.nextUpdateTime.isSome) := by
  induction l generalizing s with
  | nil =>
    refine ⟨fun q hq ↦ absurd hq List.not_mem_nil, ?_⟩
    rintro (hsome | ⟨q, hq, _⟩)
    · exact hsome
    · exact absurd hq List.not_mem_nil
  | cons q l ih =>
    rw [Outcome.forEach] at hdone ⊢
    obtain ⟨hfirst, hrest⟩ := Outcome.andThen_error_eq_none.mp hdone
    rw [Outcome.andThen_of_none hfirst]
    obtain ⟨haccepts, hsome⟩ := ih hrest
    by_cases hskip : skip q.1
    · rw [visit, if_pos hskip] at hsome ⊢
      refine ⟨List.forall_mem_cons.mpr ⟨fun hnot ↦ absurd hskip hnot, haccepts⟩, fun h ↦ hsome ?_⟩
      refine h.imp_right ?_
      rintro ⟨q', hq', hnot⟩
      rcases List.mem_cons.mp hq' with rfl | hq'
      · exact absurd hskip hnot
      · exact ⟨q', hq', hnot⟩
    · rw [visit, if_neg hskip] at hfirst hsome ⊢
      obtain ⟨haccept, hnoted⟩ := enforce_done hfirst
      exact ⟨List.forall_mem_cons.mpr ⟨fun _ ↦ haccept, haccepts⟩, fun _ ↦ hsome (Or.inl hnoted)⟩

end Loops

/-! ### The three loops -/

/-- Keys of a single level. -/
theorem key₁_eta (keys : Keys 1) : keys = key₁ keys.head := by
  rw [← keys.cons_head_tail]
  have htail : Subsingleton (List.Vector String (1 - 1)) := inferInstanceAs (Subsingleton (Keys 0))
  exact congrArg (keys.head ::ᵥ ·) (Subsingleton.elim _ _)

/-- Keys of two levels. -/
theorem key₂_eta (keys : Keys 2) : keys = key₂ keys.head keys.tail.head := by
  rw [← keys.cons_head_tail]
  exact congrArg (keys.head ::ᵥ ·) (key₁_eta keys.tail)

section Update

variable {C : CronParser} {now : Int} {p : PolicyFormat} {s : Enforcement C}

/-- What holds before and after each of the loops. -/
structure Enforcement.Valid (p : PolicyFormat) (s : Enforcement C) : Prop where
  represents : s.policy.Represents p
  onMinute : C.KeepsMinutes → OnMinute s.rule.nextUpdateTime

/-- The app-sensor entries that are skipped: the sensor or the application is blocked. -/
abbrev Enforcement.Skips (s : Enforcement C) (q : Keys 2 × String) : Prop :=
  q.1.head ∈ targets s.rule.sensorSpecific List.Vector.nil ∨
    q.2 ∈ targets s.rule.appSpecific q.1.tail

/-- The first loop, over the places of the entries. -/
theorem Enforcement.sensorSpecificLoop_eq (now : Int) (s : Enforcement C) :
    s.sensorSpecificLoop now =
      Outcome.forEach (visit now s.rule.timeZone fun _ ↦ False) s.policy.sensorSpecific.paths
        s.sensorLevel := by
  rw [Nested.paths, Outcome.forEach_map]
  rfl

/-- The second loop, over the places of the entries. -/
theorem Enforcement.appSpecificLoop_eq (now : Int) (s : Enforcement C) :
    s.appSpecificLoop now =
      Outcome.forEach (visit now s.rule.timeZone fun _ ↦ False) s.policy.appSpecific.paths
        s.appLevel := by
  simp only [Nested.paths, Outcome.forEach_flatMap, Outcome.forEach_map]
  rfl

/-- The third loop, over the places of the entries. -/
theorem Enforcement.appSensorLoop_eq (now : Int) (s : Enforcement C) :
    s.appSensorLoop now =
      Outcome.forEach (visit now s.rule.timeZone s.Skips) s.policy.appSensor.paths
        s.appSensorLevel := by
  simp only [Nested.paths, Outcome.forEach_flatMap, Outcome.forEach_map]
  refine congrArg (fun body ↦ Outcome.forEach body _ s.appSensorLevel) (funext fun sensor ↦ ?_)
  by_cases hblocked : sensor.1 ∈ targets s.rule.sensorSpecific List.Vector.nil
  · have hskips : ∀ ip name, s.Skips (key₂ sensor.1 ip, name) := fun _ _ ↦ Or.inl hblocked
    simp [visit, hblocked, hskips, Outcome.forEach_done]
  · have hskips : ∀ ip name, s.Skips (key₂ sensor.1 ip, name) ↔
        name ∈ targets s.rule.appSpecific (key₁ ip) := fun _ _ ↦ or_iff_right hblocked
    simp [visit, hblocked, hskips]

/-- Every stored entry is one of the represented part. -/
theorem forall_paths {n : Nat} {policy : Entries (Schedule C) n}
    {F : Keys n → String → Option (TimeBasedPolicy String)}
    (hF : ∀ keys name, (policy.find keys name).map PrivacyPolicy.source = F keys name) :
    ∀ q ∈ policy.paths, F q.1.1 q.1.2 = some (PrivacyPolicy.source q.2) := by
  intro q hq
  rw [← hF, (Nested.mem_paths_iff policy q.1.1 q.1.2 q.2).mp hq, Option.map_some]

/-- Every entry of the represented part is stored. -/
theorem mem_map_paths {n : Nat} {policy : Entries (Schedule C) n}
    {F : Keys n → String → Option (TimeBasedPolicy String)}
    (hF : ∀ keys name, (policy.find keys name).map PrivacyPolicy.source = F keys name)
    {q : Keys n × String} (hq : (F q.1 q.2).isSome) : q ∈ policy.paths.map Prod.fst := by
  rw [← hF, Option.isSome_map] at hq
  obtain ⟨entry, hentry⟩ := Option.isSome_iff_exists.mp hq
  exact List.mem_map.mpr ⟨(q, entry), (Nested.mem_paths_iff policy q.1 q.2 entry).mpr hentry, rfl⟩

-- A loop over a whole policy that completes visits what is not skipped.
private theorem enforces_policy {n : Nat} {policy : Entries (Schedule C) n} {tz : String}
    {F : Keys n → String → Option (TimeBasedPolicy String)} {skip : Keys n × String → Prop}
    [DecidablePred skip]
    (hF : ∀ keys name, (policy.find keys name).map PrivacyPolicy.source = F keys name)
    {level : Level C n} (hlevel : level.Valid F)
    (hdone : (Outcome.forEach (visit now tz skip) policy.paths level).error = none) :
    Enforces now tz F {q | ¬ skip q} level (Outcome.forEach (visit now tz skip) policy.paths level) := by
  refine (enforces_visit (forall_paths hF) hlevel hdone).congr fun q hq ↦ ?_
  simp only [Set.mem_ofPred, and_iff_right_iff_imp]
  exact fun _ ↦ mem_map_paths hF hq

/-- The first loop, where it completes, visits every sensor-specific entry. -/
theorem enforces_sensorSpecificLoop (hs : s.Valid p)
    (hdone : (s.sensorSpecificLoop now).error = none) :
    Enforces now s.rule.timeZone (PolicyFormat.part p.sensorSpecific) Set.univ s.sensorLevel
      (s.sensorSpecificLoop now) := by
  rw [Enforcement.sensorSpecificLoop_eq] at hdone ⊢
  exact (enforces_policy hs.represents.sensorSpecific
    ⟨hs.represents.sensorSpecific, hs.onMinute⟩ hdone).congr fun _ _ ↦ by simp

/-- The second loop, where it completes, visits every app-specific entry. -/
theorem enforces_appSpecificLoop (hs : s.Valid p)
    (hdone : (s.appSpecificLoop now).error = none) :
    Enforces now s.rule.timeZone (PolicyFormat.part p.appSpecific) Set.univ s.appLevel
      (s.appSpecificLoop now) := by
  rw [Enforcement.appSpecificLoop_eq] at hdone ⊢
  exact (enforces_policy hs.represents.appSpecific
    ⟨hs.represents.appSpecific, hs.onMinute⟩ hdone).congr fun _ _ ↦ by simp

/-- The third loop, where it completes, visits the app-sensor entries of unblocked sensors and
applications. -/
theorem enforces_appSensorLoop (hs : s.Valid p) (hdone : (s.appSensorLoop now).error = none) :
    Enforces now s.rule.timeZone (PolicyFormat.part p.appSensor)
      {q | q.1.head ∉ targets s.rule.sensorSpecific List.Vector.nil ∧
        q.2 ∉ targets s.rule.appSpecific q.1.tail}
      s.appSensorLevel (s.appSensorLoop now) := by
  rw [Enforcement.appSensorLoop_eq] at hdone ⊢
  exact (enforces_policy hs.represents.appSensor
    ⟨hs.represents.appSensor, hs.onMinute⟩ hdone).congr fun _ _ ↦ not_or

/-! ### Completion -/

-- A loop over a whole policy completes exactly if no entry that it visits is rejected.
private theorem policy_completes_iff {n : Nat} {policy : Entries (Schedule C) n} {tz : String}
    {F : Keys n → String → Option (TimeBasedPolicy String)} {skip : Keys n × String → Prop}
    [DecidablePred skip]
    (hF : ∀ keys name, (policy.find keys name).map PrivacyPolicy.source = F keys name)
    {level : Level C n} (hlevel : level.Valid F) :
    (Outcome.forEach (visit now tz skip) policy.paths level).error = none ↔
      ∀ keys name entry, F keys name = some entry → ¬ skip (keys, name) →
        ¬ entry.Rejected C tz now keys.toList := by
  constructor
  · intro hdone keys name entry hentry hskip
    obtain ⟨q, hq, hkeys⟩ := List.mem_map.mp
      (mem_map_paths (q := (keys, name)) hF (Option.isSome_of_eq_some hentry))
    have hsource : F q.1.1 q.1.2 = some (PrivacyPolicy.source q.2) := forall_paths hF q hq
    rw [hkeys] at hsource
    obtain rfl := Option.some.inj (hentry.symm.trans hsource)
    have hvisited : ¬ skip q.1 := by rwa [hkeys]
    have haccepted := (visit_done hdone).1 q hq hvisited
    rwa [hkeys] at haccepted
  · intro haccept
    by_contra hthrow
    obtain ⟨before, q, after, hsplit, hskip, hrejected, _⟩ :=
      visit_throws (forall_paths hF) hlevel hthrow
    have hq : q ∈ policy.paths := by
      rw [hsplit]
      exact List.mem_append_right before List.mem_cons_self
    exact haccept _ _ _ (forall_paths hF q hq) hskip hrejected

/-- The rule blocks the sensor or the application already. -/
def PrivacyRule.Masks (rule : PrivacyRule C) (sensor ip topic : String) : Prop :=
  sensor ∈ targets rule.sensorSpecific List.Vector.nil ∨ topic ∈ targets rule.appSpecific (key₁ ip)

/-- The first step completes exactly if no sensor-specific entry is rejected. -/
theorem updateSensorSpecific_completes_iff (hs : s.Valid p) :
    (s.updateSensorSpecific now).error = none ↔ ∀ sensor entry, p.sensorEntry sensor = some entry →
      ¬ entry.Rejected C s.rule.timeZone now [] := by
  change (s.sensorSpecificLoop now).error = none ↔ _
  rw [Enforcement.sensorSpecificLoop_eq, policy_completes_iff hs.represents.sensorSpecific
    ⟨hs.represents.sensorSpecific, hs.onMinute⟩]
  constructor
  · exact fun h sensor entry hentry ↦ h List.Vector.nil sensor entry hentry not_false
  · intro h keys name entry hentry _
    rw [Subsingleton.elim keys List.Vector.nil] at hentry ⊢
    exact h name entry hentry

/-- The second step completes exactly if no app-specific entry is rejected. -/
theorem updateAppSpecific_completes_iff (hs : s.Valid p) :
    (s.updateAppSpecific now).error = none ↔ ∀ ip topic entry, p.appEntry ip topic = some entry →
      ¬ entry.Rejected C s.rule.timeZone now [ip] := by
  change (s.appSpecificLoop now).error = none ↔ _
  rw [Enforcement.appSpecificLoop_eq, policy_completes_iff hs.represents.appSpecific
    ⟨hs.represents.appSpecific, hs.onMinute⟩]
  constructor
  · exact fun h ip topic entry hentry ↦ h (key₁ ip) topic entry hentry not_false
  · intro h keys name entry hentry _
    rw [key₁_eta keys] at hentry ⊢
    exact h _ name entry hentry

/-- The third step completes exactly if no app-sensor entry of an unblocked sensor and application
is rejected. -/
theorem updateAppSensor_completes_iff (hs : s.Valid p) :
    (s.updateAppSensor now).error = none ↔ ∀ sensor ip topic entry,
      p.appSensorEntry sensor ip topic = some entry → ¬ s.rule.Masks sensor ip topic →
        ¬ entry.Rejected C s.rule.timeZone now [sensor, ip] := by
  change (s.appSensorLoop now).error = none ↔ _
  rw [Enforcement.appSensorLoop_eq, policy_completes_iff hs.represents.appSensor
    ⟨hs.represents.appSensor, hs.onMinute⟩]
  constructor
  · exact fun h sensor ip topic entry hentry ↦ h (key₂ sensor ip) topic entry hentry
  · intro h keys name entry hentry hskip
    rw [key₂_eta keys] at hentry hskip ⊢
    exact h _ _ name entry hentry hskip

/-- No entry is rejected but app-sensor entries that a blocked sensor or application masks. -/
structure PolicyFormat.Enforceable (C : CronParser) (p : PolicyFormat) (tz : String) (now : Int) :
    Prop where
  sensors : ∀ sensor entry, p.sensorEntry sensor = some entry → ¬ entry.Rejected C tz now []
  apps : ∀ ip topic entry, p.appEntry ip topic = some entry → ¬ entry.Rejected C tz now [ip]
  appSensors : ∀ sensor ip topic entry, p.appSensorEntry sensor ip topic = some entry →
    ¬ (p.SensorBlocks C tz now sensor ∨ p.AppBlocks C tz now ip topic) →
      ¬ entry.Rejected C tz now [sensor, ip]

private theorem not_rejected {tz : String} {keys : List String} {entry : TimeBasedPolicy String}
    (hparse : C.Parses entry.schedule tz now) (hkeys : ∀ key ∈ keys, key ≠ "") :
    ¬ entry.Rejected C tz now keys := by
  rintro (hrejected | ⟨hempty, _⟩)
  · exact hrejected hparse
  · exact hkeys "" hempty rfl

/-- With every schedule accepted and no empty key no entry is rejected. -/
theorem PolicyFormat.enforceable_of_parses {tz : String} (hkeys : p.KeysNonempty)
    (hparse : p.Parses C tz now) : p.Enforceable C tz now where
  sensors sensor entry h := not_rejected (hparse entry (Or.inl ⟨sensor, h⟩)) (List.forall_mem_nil _)
  apps ip topic entry h := by
    refine not_rejected (hparse entry (Or.inr (Or.inl ⟨ip, topic, h⟩))) ?_
    exact List.forall_mem_singleton.mpr (hkeys.1 ip topic entry h)
  appSensors sensor ip topic entry h _ := by
    refine not_rejected (hparse entry (Or.inr (Or.inr ⟨sensor, ip, topic, h⟩))) ?_
    obtain ⟨hsensor, hip⟩ := hkeys.2 sensor ip topic entry h
    exact List.forall_mem_cons.mpr ⟨hsensor, List.forall_mem_singleton.mpr hip⟩

/-! ### The three steps -/

/-- The sensor-specific step adds the sensors whose entries block. -/
theorem updateSensorSpecific_spec (hs : s.Valid p)
    (hdone : (s.updateSensorSpecific now).error = none) :
    let o := s.updateSensorSpecific now
    o.state.Valid p ∧ o.state.rule.timeZone = s.rule.timeZone ∧
      o.state.rule.appSpecific = s.rule.appSpecific ∧ o.state.rule.appSensor = s.rule.appSensor ∧
      (∀ sensor, sensor ∈ targets o.state.rule.sensorSpecific List.Vector.nil ↔
        sensor ∈ targets s.rule.sensorSpecific List.Vector.nil ∨
          p.SensorBlocks C s.rule.timeZone now sensor) ∧
      (C.KeepsMinutes → ∀ t, Due o.state.rule.nextUpdateTime t ↔ Due s.rule.nextUpdateTime t ∨
        ∃ entry, (∃ sensor, p.sensorEntry sensor = some entry) ∧
          entry.ChangeDue C s.rule.timeZone now t) := by
  have e := enforces_sensorSpecificLoop hs hdone
  refine ⟨⟨⟨e.valid.policy, hs.represents.appSpecific, hs.represents.appSensor⟩,
    e.valid.onMinute⟩, rfl, rfl, rfl, fun sensor ↦ ?_, fun hC t ↦ ?_⟩
  · refine (e.blocked List.Vector.nil sensor).trans (or_congr_right ?_)
    simp only [Set.mem_univ, true_and]
    rfl
  · refine (e.due hC t).trans (or_congr_right ?_)
    constructor
    · rintro ⟨q, _, entry, hF, hdue⟩
      rw [Subsingleton.elim (q.1 : Keys 0) List.Vector.nil] at hF
      exact ⟨entry, ⟨q.2, hF⟩, hdue⟩
    · rintro ⟨entry, ⟨sensor, hF⟩, hdue⟩
      exact ⟨(List.Vector.nil, sensor), Set.mem_univ _, entry, hF, hdue⟩

/-- The app-specific step adds the applications whose entries block. -/
theorem updateAppSpecific_spec (hs : s.Valid p)
    (hdone : (s.updateAppSpecific now).error = none) :
    let o := s.updateAppSpecific now
    o.state.Valid p ∧ o.state.rule.timeZone = s.rule.timeZone ∧
      o.state.rule.sensorSpecific = s.rule.sensorSpecific ∧
      o.state.rule.appSensor = s.rule.appSensor ∧
      (∀ ip topic, topic ∈ targets o.state.rule.appSpecific (key₁ ip) ↔
        topic ∈ targets s.rule.appSpecific (key₁ ip) ∨
          p.AppBlocks C s.rule.timeZone now ip topic) ∧
      (C.KeepsMinutes → ∀ t, Due o.state.rule.nextUpdateTime t ↔ Due s.rule.nextUpdateTime t ∨
        ∃ entry, (∃ ip topic, p.appEntry ip topic = some entry) ∧
          entry.ChangeDue C s.rule.timeZone now t) := by
  have e := enforces_appSpecificLoop hs hdone
  refine ⟨⟨⟨hs.represents.sensorSpecific, e.valid.policy, hs.represents.appSensor⟩,
    e.valid.onMinute⟩, rfl, rfl, rfl, fun ip topic ↦ ?_, fun hC t ↦ ?_⟩
  · refine (e.blocked (key₁ ip) topic).trans (or_congr_right ?_)
    simp only [Set.mem_univ, true_and]
    rfl
  · refine (e.due hC t).trans (or_congr_right ?_)
    constructor
    · rintro ⟨q, _, entry, hF, hdue⟩
      rw [key₁_eta q.1] at hF
      exact ⟨entry, ⟨q.1.head, q.2, hF⟩, hdue⟩
    · rintro ⟨entry, ⟨ip, topic, hF⟩, hdue⟩
      exact ⟨(key₁ ip, topic), Set.mem_univ _, entry, hF, hdue⟩

/-- The app-sensor step adds the pairs whose entries block, unless the sensor or the
application is blocked already. -/
theorem updateAppSensor_spec (hs : s.Valid p)
    (hdone : (s.updateAppSensor now).error = none) :
    let o := s.updateAppSensor now
    o.state.Valid p ∧ o.state.rule.timeZone = s.rule.timeZone ∧
      o.state.rule.sensorSpecific = s.rule.sensorSpecific ∧
      o.state.rule.appSpecific = s.rule.appSpecific ∧
      (∀ sensor ip topic, topic ∈ targets o.state.rule.appSensor (key₂ sensor ip) ↔
        topic ∈ targets s.rule.appSensor (key₂ sensor ip) ∨
          (¬ s.rule.Masks sensor ip topic ∧ p.AppSensorBlocks C s.rule.timeZone now sensor ip topic)) ∧
      (C.KeepsMinutes → ∀ t, Due o.state.rule.nextUpdateTime t ↔ Due s.rule.nextUpdateTime t ∨
        ∃ entry, (∃ sensor ip topic, p.appSensorEntry sensor ip topic = some entry ∧
          ¬ s.rule.Masks sensor ip topic) ∧ entry.ChangeDue C s.rule.timeZone now t) := by
  have e := enforces_appSensorLoop hs hdone
  refine ⟨⟨⟨hs.represents.sensorSpecific, hs.represents.appSpecific, e.valid.policy⟩,
    e.valid.onMinute⟩, rfl, rfl, rfl, fun sensor ip topic ↦ ?_, fun hC t ↦ ?_⟩
  · refine (e.blocked (key₂ sensor ip) topic).trans (or_congr_right ?_)
    rw [PrivacyRule.Masks, not_or]
    rfl
  · refine (e.due hC t).trans (or_congr_right ?_)
    simp only [PrivacyRule.Masks, not_or]
    constructor
    · rintro ⟨q, ⟨hsensor, happ⟩, entry, hF, hdue⟩
      rw [key₂_eta q.1] at hF
      rw [key₁_eta q.1.tail] at happ
      exact ⟨entry, ⟨q.1.head, q.1.tail.head, q.2, hF, hsensor, happ⟩, hdue⟩
    · rintro ⟨entry, ⟨sensor, ip, topic, hF, hsensor, happ⟩, hdue⟩
      exact ⟨(key₂ sensor ip, topic), ⟨hsensor, happ⟩, entry, hF, hdue⟩

/-! ### The compiled rule -/

/-- The rule is the compilation of the policy at the instant: it lists what blocks, leaving
out app-sensor entries whose sensor or application is blocked anyway, and is due again when
the whole minute of some effective entry's change time is reached. -/
structure Compiled (C : CronParser) (p : PolicyFormat) (tz : String) (now : Int)
    (s : Enforcement C) : Prop where
  valid : s.Valid p
  timeZone : s.rule.timeZone = tz
  sensorSpecific : ∀ sensor, sensor ∈ targets s.rule.sensorSpecific List.Vector.nil ↔
    p.SensorBlocks C tz now sensor
  appSpecific : ∀ ip topic, topic ∈ targets s.rule.appSpecific (key₁ ip) ↔
    p.AppBlocks C tz now ip topic
  appSensor : ∀ sensor ip topic, topic ∈ targets s.rule.appSensor (key₂ sensor ip) ↔
    ¬ (p.SensorBlocks C tz now sensor ∨ p.AppBlocks C tz now ip topic) ∧
      p.AppSensorBlocks C tz now sensor ip topic
  due : C.KeepsMinutes → ∀ t, Due s.rule.nextUpdateTime t ↔
    ∃ entry, p.Effective C tz now entry ∧ entry.ChangeDue C tz now t

/-- The first two lists are complete, the third is empty, and the rule is due at the change times
noted so far. -/
structure HalfCompiled (C : CronParser) (p : PolicyFormat) (tz : String) (now : Int)
    (s : Enforcement C) : Prop where
  valid : s.Valid p
  timeZone : s.rule.timeZone = tz
  sensorSpecific : ∀ sensor, sensor ∈ targets s.rule.sensorSpecific List.Vector.nil ↔
    p.SensorBlocks C tz now sensor
  appSpecific : ∀ ip topic, topic ∈ targets s.rule.appSpecific (key₁ ip) ↔
    p.AppBlocks C tz now ip topic
  appSensor : s.rule.appSensor = JsObject.empty
  due : C.KeepsMinutes → ∀ t, Due s.rule.nextUpdateTime t ↔ ∃ entry,
    ((∃ sensor, p.sensorEntry sensor = some entry) ∨
      ∃ ip topic, p.appEntry ip topic = some entry) ∧ entry.ChangeDue C tz now t

/-- What the first two lists mask is blocked. -/
theorem HalfCompiled.masks_iff {tz : String} (h : HalfCompiled C p tz now s)
    (sensor ip topic : String) : s.rule.Masks sensor ip topic ↔
      p.SensorBlocks C tz now sensor ∨ p.AppBlocks C tz now ip topic := by
  rw [PrivacyRule.Masks, h.sensorSpecific, h.appSpecific]

/-- The first two steps, from a rule that has been reset, complete the first two lists. -/
theorem halfCompiled_of_done (hrep : s.policy.Represents p)
    (hsensors : (s.reset.updateSensorSpecific now).error = none)
    (happs : ((s.reset.updateSensorSpecific now).state.updateAppSpecific now).error = none) :
    HalfCompiled C p s.rule.timeZone now
      ((s.reset.updateSensorSpecific now).state.updateAppSpecific now).state := by
  have h₀ : s.reset.Valid p := ⟨hrep, fun _ _ hdate ↦ by cases hdate⟩
  obtain ⟨h₁, tz₁, app₁, pair₁, sensors, due₁⟩ := updateSensorSpecific_spec h₀ hsensors
  generalize (s.reset.updateSensorSpecific now).state = s₁ at *
  change s₁.rule.timeZone = s.rule.timeZone at tz₁
  obtain ⟨h₂, tz₂, sensor₂, pair₂, apps, due₂⟩ := updateAppSpecific_spec h₁ happs
  refine ⟨h₂, tz₂.trans tz₁, ?_, ?_, ?_, ?_⟩
  · intro sensor
    rw [sensor₂, sensors]
    exact or_iff_right List.not_mem_nil
  · intro ip topic
    rw [apps, app₁, tz₁]
    exact or_iff_right List.not_mem_nil
  · rw [pair₂, pair₁]
    rfl
  · intro hC t
    rw [due₂ hC, due₁ hC, tz₁]
    have hnone : ¬ Due s.reset.rule.nextUpdateTime t := by
      rintro ⟨date, hdate, _⟩
      cases hdate
    rw [or_iff_right hnone]
    constructor
    · rintro (⟨entry, hentry, hchange⟩ | ⟨entry, hentry, hchange⟩)
      · exact ⟨entry, Or.inl hentry, hchange⟩
      · exact ⟨entry, Or.inr hentry, hchange⟩
    · rintro ⟨entry, hsens | happs, hchange⟩
      · exact Or.inl ⟨entry, hsens, hchange⟩
      · exact Or.inr ⟨entry, happs, hchange⟩

/-- The third step completes the compilation. -/
theorem HalfCompiled.updateAppSensor {tz : String} (h : HalfCompiled C p tz now s)
    (hdone : (s.updateAppSensor now).error = none) :
    Compiled C p tz now (s.updateAppSensor now).state := by
  obtain ⟨hvalid, htz, hsensor, happ, hpairs, hdue⟩ := updateAppSensor_spec h.valid hdone
  rw [h.timeZone] at htz hpairs hdue
  refine ⟨hvalid, htz, ?_, ?_, fun sensor ip topic ↦ ?_, fun hC t ↦ ?_⟩
  · intro sensor
    rw [hsensor, h.sensorSpecific]
  · intro ip topic
    rw [happ, h.appSpecific]
  · have hnone : topic ∉ targets s.rule.appSensor (key₂ sensor ip) := by
      rw [h.appSensor]
      exact List.not_mem_nil
    rw [hpairs, or_iff_right hnone, h.masks_iff]
  · rw [hdue hC, h.due hC]
    simp only [h.masks_iff, PolicyFormat.Effective, not_or]
    constructor
    · rintro (⟨entry, hentry, hchange⟩ | ⟨entry, hentry, hchange⟩)
      · exact ⟨entry, hentry.imp_right Or.inl, hchange⟩
      · exact ⟨entry, Or.inr (Or.inr hentry), hchange⟩
    · rintro ⟨entry, hsens | happs | hpair, hchange⟩
      · exact Or.inl ⟨entry, Or.inl hsens, hchange⟩
      · exact Or.inl ⟨entry, Or.inr happs, hchange⟩
      · exact Or.inr ⟨entry, hpair, hchange⟩

/-! ### Updates that complete -/

-- An update that completes has completed its three steps.
private theorem update_steps (hdone : (Enforcement.update now s).error = none) :
    let s₁ := (s.reset.updateSensorSpecific now).state
    let s₂ := (s₁.updateAppSpecific now).state
    (s.reset.updateSensorSpecific now).error = none ∧ (s₁.updateAppSpecific now).error = none ∧
      (s₂.updateAppSensor now).error = none ∧
      (Enforcement.update now s).state = (s₂.updateAppSensor now).state := by
  obtain ⟨h₁₂, err₃⟩ := Outcome.andThen_error_eq_none.mp hdone
  obtain ⟨err₁, err₂⟩ := Outcome.andThen_error_eq_none.mp h₁₂
  rw [Outcome.andThen_of_none err₁] at err₃
  refine ⟨err₁, err₂, err₃, ?_⟩
  rw [Enforcement.update, Outcome.andThen_of_none h₁₂, Outcome.andThen_of_none err₁]

/-- An update that completes leaves the compilation of the policy. -/
theorem compiled_of_update_done (hrep : s.policy.Represents p)
    (hdone : (Enforcement.update now s).error = none) :
    Compiled C p s.rule.timeZone now (Enforcement.update now s).state := by
  obtain ⟨err₁, err₂, err₃, hstate⟩ := update_steps hdone
  rw [hstate]
  exact (halfCompiled_of_done hrep err₁ err₂).updateAppSensor err₃

/-- An update completes exactly if the policy can be enforced, whatever the order of its entries
and the rule before. -/
theorem update_completes_iff (hrep : s.policy.Represents p) :
    (Enforcement.update now s).error = none ↔ p.Enforceable C s.rule.timeZone now := by
  have h₀ : s.reset.Valid p := ⟨hrep, fun _ _ hdate ↦ by cases hdate⟩
  have hsensors : (s.reset.updateSensorSpecific now).error = none ↔ _ :=
    updateSensorSpecific_completes_iff h₀
  constructor
  · intro hdone
    obtain ⟨err₁, err₂, err₃, _⟩ := update_steps hdone
    obtain ⟨h₁, tz₁, _⟩ := updateSensorSpecific_spec h₀ err₁
    have h₂ := halfCompiled_of_done hrep err₁ err₂
    refine ⟨hsensors.mp err₁, ?_, ?_⟩
    · rw [updateAppSpecific_completes_iff h₁, tz₁] at err₂
      exact err₂
    · intro sensor ip topic entry hentry hmask
      rw [updateAppSensor_completes_iff h₂.valid, h₂.timeZone] at err₃
      exact err₃ sensor ip topic entry hentry ((h₂.masks_iff sensor ip topic).not.mpr hmask)
  · intro h
    have err₁ := hsensors.mpr h.sensors
    obtain ⟨h₁, tz₁, _⟩ := updateSensorSpecific_spec h₀ err₁
    have err₂ : ((s.reset.updateSensorSpecific now).state.updateAppSpecific now).error = none := by
      rw [updateAppSpecific_completes_iff h₁, tz₁]
      exact h.apps
    have h₂ := halfCompiled_of_done hrep err₁ err₂
    rw [Enforcement.update, Outcome.andThen_of_none err₁, Outcome.andThen_of_none err₂,
      updateAppSensor_completes_iff h₂.valid, h₂.timeZone]
    intro sensor ip topic entry hentry hmask
    exact h.appSensors sensor ip topic entry hentry ((h₂.masks_iff sensor ip topic).not.mp hmask)

/-- With every schedule of the stored policy accepted, the update completes and leaves the
compilation of the policy, whatever the rule was before. -/
theorem update_spec (hrep : s.policy.Represents p) (hkeys : p.KeysNonempty)
    (hparse : p.Parses C s.rule.timeZone now) :
    (Enforcement.update now s).error = none ∧
      Compiled C p s.rule.timeZone now (Enforcement.update now s).state := by
  have hdone : (Enforcement.update now s).error = none :=
    (update_completes_iff hrep).mpr (PolicyFormat.enforceable_of_parses hkeys hparse)
  exact ⟨hdone, compiled_of_update_done hrep hdone⟩

/-- An update that completes keeps the entries of the stored policy. -/
theorem represents_of_update_done (hrep : s.policy.Represents p)
    (hdone : (Enforcement.update now s).error = none) :
    (Enforcement.update now s).state.policy.Represents p :=
  (compiled_of_update_done hrep hdone).valid.represents

-- A loop over a whole policy that completes keeps an update time, and notes one for what is not
-- skipped.
private theorem noted_policy {n : Nat} {policy : Entries (Schedule C) n} {tz : String}
    {F : Keys n → String → Option (TimeBasedPolicy String)} {skip : Keys n × String → Prop}
    [DecidablePred skip]
    (hF : ∀ keys name, (policy.find keys name).map PrivacyPolicy.source = F keys name)
    {level : Level C n}
    (hdone : (Outcome.forEach (visit now tz skip) policy.paths level).error = none)
    (h : level.nextUpdateTime.isSome ∨
      ∃ keys name, (F keys name).isSome ∧ ¬ skip (keys, name)) :
    (Outcome.forEach (visit now tz skip) policy.paths level).state.nextUpdateTime.isSome := by
  refine (visit_done hdone).2 (h.imp_right ?_)
  rintro ⟨keys, name, hentry, hskip⟩
  obtain ⟨q, hq, hkeys⟩ := List.mem_map.mp (mem_map_paths (q := (keys, name)) hF hentry)
  exact ⟨q, hq, by rwa [hkeys]⟩

private theorem noted_sensors (hs : s.Valid p) (hdone : (s.updateSensorSpecific now).error = none)
    (h : ∃ sensor entry, p.sensorEntry sensor = some entry) :
    (s.updateSensorSpecific now).state.rule.nextUpdateTime.isSome := by
  change (s.sensorSpecificLoop now).error = none at hdone
  change (s.sensorSpecificLoop now).state.nextUpdateTime.isSome
  rw [Enforcement.sensorSpecificLoop_eq] at hdone ⊢
  obtain ⟨sensor, entry, hentry⟩ := h
  exact noted_policy hs.represents.sensorSpecific hdone
    (Or.inr ⟨List.Vector.nil, sensor, Option.isSome_of_eq_some hentry, not_false⟩)

private theorem noted_apps (hs : s.Valid p) (hdone : (s.updateAppSpecific now).error = none)
    (h : s.rule.nextUpdateTime.isSome ∨ ∃ ip topic entry, p.appEntry ip topic = some entry) :
    (s.updateAppSpecific now).state.rule.nextUpdateTime.isSome := by
  change (s.appSpecificLoop now).error = none at hdone
  change (s.appSpecificLoop now).state.nextUpdateTime.isSome
  rw [Enforcement.appSpecificLoop_eq] at hdone ⊢
  refine noted_policy hs.represents.appSpecific hdone (h.imp_right ?_)
  rintro ⟨ip, topic, entry, hentry⟩
  exact ⟨key₁ ip, topic, Option.isSome_of_eq_some hentry, not_false⟩

private theorem noted_appSensors (hs : s.Valid p) (hdone : (s.updateAppSensor now).error = none)
    (h : s.rule.nextUpdateTime.isSome ∨ ∃ sensor ip topic entry,
      p.appSensorEntry sensor ip topic = some entry ∧ ¬ s.rule.Masks sensor ip topic) :
    (s.updateAppSensor now).state.rule.nextUpdateTime.isSome := by
  change (s.appSensorLoop now).error = none at hdone
  change (s.appSensorLoop now).state.nextUpdateTime.isSome
  rw [Enforcement.appSensorLoop_eq] at hdone ⊢
  refine noted_policy hs.represents.appSensor hdone (h.imp_right ?_)
  rintro ⟨sensor, ip, topic, entry, hentry, hmask⟩
  exact ⟨key₂ sensor ip, topic, Option.isSome_of_eq_some hentry, hmask⟩

/-- An update that completes on a policy with an entry has parsed a schedule of it and noted an
update time: entries are skipped only where others were visited. -/
theorem update_visits (hrep : s.policy.Represents p)
    (hdone : (Enforcement.update now s).error = none) (hentry : ∃ entry, p.Holds entry) :
    (Enforcement.update now s).state.rule.nextUpdateTime.isSome ∧
      ∃ entry, p.Holds entry ∧ C.Parses entry.schedule s.rule.timeZone now := by
  have h₀ : s.reset.Valid p := ⟨hrep, fun _ _ hdate ↦ by cases hdate⟩
  have henforceable := (update_completes_iff hrep).mp hdone
  have hparses : ∀ {keys : List String} {entry : TimeBasedPolicy String},
      ¬ entry.Rejected C s.rule.timeZone now keys → C.Parses entry.schedule s.rule.timeZone now :=
    fun h ↦ not_not.mp (not_or.mp h).1
  obtain ⟨err₁, err₂, err₃, hstate⟩ := update_steps hdone
  have h₁ := (updateSensorSpecific_spec h₀ err₁).1
  have h₂ := halfCompiled_of_done hrep err₁ err₂
  rw [hstate]
  by_cases hsensor : ∃ sensor entry, p.sensorEntry sensor = some entry
  · have hnoted := noted_sensors h₀ err₁ hsensor
    obtain ⟨sensor, entry, h⟩ := hsensor
    exact ⟨noted_appSensors h₂.valid err₃ (Or.inl (noted_apps h₁ err₂ (Or.inl hnoted))), entry,
      Or.inl ⟨sensor, h⟩, hparses (henforceable.sensors sensor entry h)⟩
  by_cases happ : ∃ ip topic entry, p.appEntry ip topic = some entry
  · have hnoted := noted_apps h₁ err₂ (Or.inr happ)
    obtain ⟨ip, topic, entry, h⟩ := happ
    exact ⟨noted_appSensors h₂.valid err₃ (Or.inl hnoted), entry, Or.inr (Or.inl ⟨ip, topic, h⟩),
      hparses (henforceable.apps ip topic entry h)⟩
  -- without entries of the other parts nothing is masked
  obtain ⟨entry, ⟨sensor, h⟩ | ⟨ip, topic, h⟩ | ⟨sensor, ip, topic, h⟩⟩ := hentry
  · exact absurd ⟨sensor, entry, h⟩ hsensor
  · exact absurd ⟨ip, topic, entry, h⟩ happ
  · have hmask : ¬ (p.SensorBlocks C s.rule.timeZone now sensor ∨
        p.AppBlocks C s.rule.timeZone now ip topic) := by
      rintro (⟨entry', h', _⟩ | ⟨entry', h', _⟩)
      · exact hsensor ⟨sensor, entry', h'⟩
      · exact happ ⟨ip, topic, entry', h'⟩
    have hnoted := noted_appSensors h₂.valid err₃
      (Or.inr ⟨sensor, ip, topic, entry, h, (h₂.masks_iff sensor ip topic).not.mpr hmask⟩)
    exact ⟨hnoted, entry, Or.inr (Or.inr ⟨sensor, ip, topic, h⟩),
      hparses (henforceable.appSensors sensor ip topic entry h hmask)⟩

end Update

end NexusEdge.Policy
