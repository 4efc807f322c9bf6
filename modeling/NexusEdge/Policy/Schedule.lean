import Mathlib.Data.Int.ConditionallyCompleteOrder
import Mathlib.Data.Int.SuccPred
import Mathlib.Order.Closure

/-!
# Cron schedules

Library `Policy`. `Schedule` of `sensor-stream-manager/policy.js:4–31` over the operations
of cron-parser that it calls, and the rounding of change times to whole minutes,
`policy.js:214–223`. Instants are milliseconds since the epoch.
-/

namespace NexusEdge.Policy

/-- The operations of cron-parser in use: parsed intervals and the dates they yield. -/
structure CronParser where
  Intervals : Type
  CronDate : Type
  /-- `parseExpression(pattern, {currentDate, tz})`. -/
  parseExpression : String → Int → String → Except String Intervals
  isInInterval : Intervals → Int → Bool
  /-- The next date, and the intervals advanced to it. -/
  next : Intervals → CronDate × Intervals
  getTime : CronDate → Int
  getSeconds : CronDate → Int
  addMinute : CronDate → CronDate
  setSeconds : CronDate → Int → CronDate

/-- What an update of the policy can throw. -/
inductive PolicyError where
  /-- The parser rejects a pattern. -/
  | cronParser (message : String)
  /-- A property of `null` is read, or `push` is called on an object. -/
  | typeError
  deriving DecidableEq

/-- `Schedule`, `policy.js:4–8`. -/
structure Schedule (C : CronParser) where
  timeBasedPolicy : String
  intervals : Option C.Intervals

namespace Schedule

variable {C : CronParser}

/-- `isInSchedule`, `policy.js:14–21`. -/
def isInSchedule (s : Schedule C) (now : Int) (tz : String) :
    Except String (Bool × Schedule C) :=
  match C.parseExpression s.timeBasedPolicy now tz with
  | .error message => .error message
  | .ok intervals => .ok (C.isInInterval intervals now, { s with intervals := some intervals })

/-- `getNextScheduleChangeTime`, `policy.js:26–31`. -/
def getNextScheduleChangeTime (s : Schedule C) : Option C.CronDate × Schedule C :=
  match s.intervals with
  | some intervals =>
    (some (C.next intervals).1, { s with intervals := some (C.next intervals).2 })
  | none => (none, s)

end Schedule

namespace CronParser

variable (C : CronParser)

/-- The pattern is accepted at the instant. -/
def Parses (pattern tz : String) (t : Int) : Prop :=
  ∃ intervals, C.parseExpression pattern t tz = .ok intervals

/-- The instant is in the schedule of the pattern. -/
def InSchedule (pattern tz : String) (t : Int) : Prop :=
  ∃ intervals, C.parseExpression pattern t tz = .ok intervals ∧ C.isInInterval intervals t = true

/-- The change time reported for a pattern evaluated at `now`. -/
def nextChange? (pattern tz : String) (now : Int) : Option Int :=
  match C.parseExpression pattern now tz with
  | .ok intervals => some (C.getTime (C.next intervals).1)
  | .error _ => none

/-- Dates count seconds within the minute, and `addMinute` with `setSeconds(0)` moves a date
inside a minute to the start of the next one. -/
structure KeepsMinutes : Prop where
  getSeconds_eq : ∀ d, C.getSeconds d = C.getTime d / 1000 % 60
  nextMinute : ∀ d, C.getSeconds d ≠ 0 →
    C.getTime (C.setSeconds (C.addMinute d) 0) = (C.getTime d / 60000 + 1) * 60000

end CronParser

/-! ### Rounding to whole minutes -/

/-- Instants with zero seconds stay, others move to the start of the next minute. -/
def wholeMinute : ClosureOperator Int where
  toFun t := if t / 1000 % 60 ≠ 0 then (t / 60000 + 1) * 60000 else t
  monotone' := by
    intro a b hab
    simp only
    split <;> split <;> omega
  le_closure' := by
    intro a
    show a ≤ if a / 1000 % 60 ≠ 0 then (a / 60000 + 1) * 60000 else a
    split <;> omega
  idempotent' := by
    intro a
    by_cases h : a / 1000 % 60 ≠ 0
    · have hnext : ((a / 60000 + 1) * 60000) / 1000 % 60 = 0 := by omega
      simp only [if_pos h, hnext, ne_eq, not_true_eq_false, if_false]
    · simp only [if_neg h]

/-- Rounding by cases. -/
theorem wholeMinute_apply (t : Int) :
    wholeMinute t = if t / 1000 % 60 ≠ 0 then (t / 60000 + 1) * 60000 else t := rfl

/-- Keeping the earlier of two times, the new one rounded only when it is earlier, is
keeping the earlier of their closures. -/
theorem closure_lt_or_le {α : Type*} [LinearOrder α] (c : ClosureOperator α) {m a t : α}
    (hm : c m = m) : (if a < m then c a else m) ≤ t ↔ m ≤ t ∨ c a ≤ t := by
  split
  · next h =>
    constructor
    · exact Or.inr
    · rintro (hmt | hat)
      · exact (hm ▸ c.monotone h.le).trans hmt
      · exact hat
  · next h =>
    constructor
    · exact Or.inl
    · rintro (hmt | hat)
      · exact hmt
      · exact (not_lt.mp h).trans ((c.le_closure a).trans hat)

end NexusEdge.Policy
