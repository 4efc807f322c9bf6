import Mathlib.Data.Set.Finite.Lemmas
import NexusEdge.Policy.PolicyEnforcer

/-!
# The next update time

Library `Policy`. `_updateNextTime` of `sensor-stream-manager/policy.js:209–223` on a sequence of
change times. A stored time is already rounded to a whole minute when an unrounded one is compared
with it; since rounding is a closure, the earliest time wins all the same, and the order in which
the policy is enumerated does not show.
-/

namespace NexusEdge.Policy
open NexusEdge.Base

/-- Rounded up to a whole minute. -/
def minuteCeil (t : Int) : Int := -(-t / 60000) * 60000

/-- The first whole minute that is not before the time. -/
theorem isLeast_minuteCeil (t : Int) : IsLeast {m | 60000 ∣ m ∧ t ≤ m} (minuteCeil t) := by
  constructor
  · refine ⟨Int.dvd_mul_left _ _, ?_⟩
    unfold minuteCeil
    omega
  · rintro m ⟨⟨k, rfl⟩, ht⟩
    unfold minuteCeil
    omega

/-- On whole seconds times with seconds move to the start of the next minute. -/
theorem wholeMinute_eq_minuteCeil {t : Int} (h : t % 1000 = 0) : wholeMinute t = minuteCeil t := by
  rw [wholeMinute_apply, minuteCeil]
  split <;> omega

section Sequences

variable {C : CronParser}

/-- `_updateNextTime` on one change time after the other, after `policy.js:80`. -/
def updateNextTimes (dates : List C.CronDate) : Outcome PolicyError (Option C.CronDate) :=
  Outcome.forEach (fun date ↦ updateNextTime (some date)) dates none

/-- The loop notes the whole minute of every change time, from any update time on. -/
theorem forEach_updateNextTime_spec (hC : C.KeepsMinutes) (dates : List C.CronDate)
    {nextUpdateTime : Option C.CronDate} (hnext : OnMinute nextUpdateTime) :
    let o := Outcome.forEach (fun date ↦ updateNextTime (C := C) (some date)) dates nextUpdateTime
    o.error = none ∧ ∀ t, Due o.state t ↔
      Due nextUpdateTime t ∨ ∃ date ∈ dates, wholeMinute (C.getTime date) ≤ t := by
  induction dates generalizing nextUpdateTime with
  | nil => exact ⟨rfl, fun t ↦ by simp [Outcome.forEach]⟩
  | cons date dates ih =>
    obtain ⟨herror, hspec⟩ := updateNextTime_spec date nextUpdateTime
    obtain ⟨hminute, hdue⟩ := hspec hC hnext
    obtain ⟨hrest, hrestDue⟩ := ih hminute
    rw [Outcome.forEach, Outcome.andThen_of_none herror]
    refine ⟨hrest, fun t ↦ ?_⟩
    rw [hrestDue, hdue, or_assoc]
    simp only [List.mem_cons, exists_eq_or_imp]

/-- After a sequence the update is due when the whole minute of one of its times is reached. -/
theorem due_updateNextTimes (hC : C.KeepsMinutes) (dates : List C.CronDate) (t : Int) :
    Due (updateNextTimes dates).state t ↔ ∃ date ∈ dates, wholeMinute (C.getTime date) ≤ t := by
  have hnone : OnMinute (none : Option C.CronDate) := fun _ hdate ↦ by cases hdate
  rw [updateNextTimes, (forEach_updateNextTime_spec hC dates hnone).2]
  apply or_iff_right
  rintro ⟨date, hdate, _⟩
  cases hdate

/-- Update times that are due at the same instants are the same. -/
theorem getTime_eq_of_due {next next' : Option C.CronDate} (h : ∀ t, Due next t ↔ Due next' t) :
    next.map C.getTime = next'.map C.getTime := by
  cases next with
  | none =>
    cases next' with
    | none => rfl
    | some date' =>
      obtain ⟨date, hdate, _⟩ := (h (C.getTime date')).mpr ⟨date', rfl, le_rfl⟩
      cases hdate
  | some date =>
    obtain ⟨date', rfl, hle⟩ := (h (C.getTime date)).mp ⟨date, rfl, le_rfl⟩
    obtain ⟨_, hdate, hge⟩ := (h (C.getTime date')).mpr ⟨date', rfl, le_rfl⟩
    obtain rfl := Option.some.inj hdate
    exact congrArg some (le_antisymm hge hle)

/-- The next update is at the earliest of the change times, rounded up to a whole minute. -/
theorem updateNextTimes_of_isLeast (hC : C.KeepsMinutes) {dates : List C.CronDate}
    (hseconds : ∀ date ∈ dates, C.getTime date % 1000 = 0) {earliest : Int}
    (hearliest : IsLeast {t | ∃ date ∈ dates, C.getTime date = t} earliest) :
    (updateNextTimes dates).state.map C.getTime = some (minuteCeil earliest) := by
  obtain ⟨⟨first, hfirst, rfl⟩, hleast⟩ := hearliest
  have hdue : ∀ t, Due (updateNextTimes dates).state t ↔ wholeMinute (C.getTime first) ≤ t := by
    intro t
    rw [due_updateNextTimes hC]
    constructor
    · rintro ⟨date, hdate, hle⟩
      exact (wholeMinute.monotone (hleast ⟨date, hdate, rfl⟩)).trans hle
    · exact fun hle ↦ ⟨first, hfirst, hle⟩
  obtain ⟨next, hnext, hle⟩ := (hdue _).mpr le_rfl
  have hge : wholeMinute (C.getTime first) ≤ C.getTime next := (hdue _).mp ⟨next, hnext, le_rfl⟩
  rw [hnext, Option.map_some, le_antisymm hle hge, wholeMinute_eq_minuteCeil (hseconds first hfirst)]

/-- Some change time of a sequence is the earliest. -/
theorem exists_isLeast_getTime {dates : List C.CronDate} (h : dates ≠ []) :
    ∃ earliest, IsLeast {t | ∃ date ∈ dates, C.getTime date = t} earliest := by
  obtain ⟨first, hfirst, hleast⟩ := Set.exists_min_image {date | date ∈ dates} C.getTime
    (List.finite_toSet dates) (List.exists_mem_of_ne_nil dates h)
  refine ⟨C.getTime first, ⟨first, hfirst, rfl⟩, ?_⟩
  rintro _ ⟨date, hdate, rfl⟩
  exact hleast date hdate

/-- After a reset, any change times in whole seconds lead to an update at the earliest of them,
rounded up to a whole minute, in whatever order they come. Hence policies that hold the same entries
are enforced alike, however these are enumerated: both updates complete or neither does, and then
the next one is at the same time. -/
theorem nextUpdateTime_spec (hC : C.KeepsMinutes) :
    (∀ dates : List C.CronDate, dates ≠ [] → (∀ date ∈ dates, C.getTime date % 1000 = 0) →
      ∃ earliest, IsLeast {t | ∃ date ∈ dates, C.getTime date = t} earliest ∧
        ∀ order, order.Perm dates → (updateNextTimes order).error = none ∧
          (updateNextTimes order).state.map C.getTime = some (minuteCeil earliest)) ∧
    ∀ (p : PolicyFormat) (now : Int) (s s' : Enforcement C), s.policy.Represents p →
      s'.policy.Represents p → s'.rule.timeZone = s.rule.timeZone →
      ((Enforcement.update now s).error = none ↔ (Enforcement.update now s').error = none) ∧
        ((Enforcement.update now s).error = none →
          (Enforcement.update now s).state.rule.nextUpdateTime.map C.getTime =
            (Enforcement.update now s').state.rule.nextUpdateTime.map C.getTime) := by
  constructor
  · intro dates hne hseconds
    obtain ⟨earliest, hearliest⟩ := exists_isLeast_getTime hne
    refine ⟨earliest, hearliest, fun order horder ↦ ⟨?_, ?_⟩⟩
    · exact (forEach_updateNextTime_spec hC order fun _ hdate ↦ by cases hdate).1
    · apply updateNextTimes_of_isLeast hC
      · exact fun date hdate ↦ hseconds date (horder.mem_iff.mp hdate)
      · simpa only [horder.mem_iff] using hearliest
  · intro p now s s' hrep hrep' htz
    have hcompletes : (Enforcement.update now s).error = none ↔
        (Enforcement.update now s').error = none := by
      rw [update_completes_iff hrep, update_completes_iff hrep', htz]
    refine ⟨hcompletes, fun hdone ↦ getTime_eq_of_due fun t ↦ ?_⟩
    rw [(compiled_of_update_done hrep hdone).due hC,
      (compiled_of_update_done hrep' (hcompletes.mp hdone)).due hC, htz]

end Sequences

open PolicyEnforcer in
/-- Of the change times at a minute and a half and at half a minute, the earlier one counts. -/
theorem nextUpdateTime_firstHalves :
    (updateNextTimes ([90000, 30000] : List Int)).state.map firstHalves.getTime =
      some (minuteCeil 30000) := by
  have hseconds : ∀ date ∈ ([90000, 30000] : List Int), date % 1000 = 0 := by decide
  have hfirst : ∀ date ∈ ([90000, 30000] : List Int), 30000 ≤ date := by decide
  obtain ⟨earliest, hearliest, htimes⟩ := (nextUpdateTime_spec firstHalves_keepsMinutes).1
    ([90000, 30000] : List Int) (List.cons_ne_nil _ _) hseconds
  have hleast : IsLeast {t | ∃ date ∈ ([90000, 30000] : List Int), firstHalves.getTime date = t}
      30000 := by
    constructor
    · exact ⟨30000, by decide, rfl⟩
    · rintro t ⟨date, hdate, rfl⟩
      exact hfirst date hdate
  rw [(htimes _ (List.Perm.refl _)).2, hearliest.unique hleast]

end NexusEdge.Policy
