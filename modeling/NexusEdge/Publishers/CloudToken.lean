import NexusEdge.Base.Transition

/-!
# The token of the SIF cloud publisher

Library `Publishers`. `_obtainTokenAndScheduleNext` and `_getCognitoToken`,
`sif-cloud-publisher.js:36–91`, with `onData`. Times are in milliseconds; a token is valid for an
hour from the answer, and its renewal starts about a minute earlier. As the present is rounded to
seconds there, the answer to a renewal may take as long as 59.5 seconds, and no longer, if no
expired token is ever to be published.
-/

namespace NexusEdge.Publishers
open NexusEdge.Base

/-- `Math.round(ms / 1000)`. -/
def roundToSec (ms : Int) : Int := (ms + 500) / 1000

/-- The publisher, the time, its requests of a token and its timers by the times they are due, and
the times at which records were published, with the expiration of their tokens. -/
structure CloudToken where
  running : Bool
  now : Int
  /-- `this.token`, with the time until which it is valid. -/
  token : Option (String × Int)
  authenticating : Nat
  /-- When the last request was sent. -/
  since : Int
  timers : List Int
  published : List (Int × Int)

/-- What happens to it. -/
inductive TokenEvent where
  | wait (ms : Nat)
  | onSuccess (token : String)
  | onFailure
  /-- The first timer fires. -/
  | renew
  | onData

namespace CloudToken

/-- `initialize`, which asks for the first token. -/
def start (now : Int) : CloudToken := ⟨true, now, none, 1, now, [], []⟩

/-- One event; none when it cannot happen. -/
def step (s : CloudToken) : TokenEvent → Option CloudToken
  | .wait ms => some { s with now := s.now + ms }
  | .onSuccess token =>
    if s.running ∧ 0 < s.authenticating then
      let expiration := s.now + 60 * 60 * 1000
      let scheduledRenewal := expiration - roundToSec s.now * 1000 - 60 * 1000
      some { s with
        token := some (token, expiration)
        authenticating := s.authenticating - 1
        timers := s.timers ++ [s.now + scheduledRenewal] }
    else none
  -- `process.exit(1)`
  | .onFailure =>
    if s.running ∧ 0 < s.authenticating then some { s with running := false } else none
  | .renew =>
    match s.timers with
    | [] => none
    | due :: timers =>
      if s.running ∧ due ≤ s.now then
        some { s with timers := timers, authenticating := s.authenticating + 1, since := s.now }
      else none
  | .onData =>
    match s.token with
    | some (token, expiration) =>
      if s.running then
        some (if 0 < token.length then
          { s with published := s.published ++ [(s.now, expiration)] } else s)
      else none
    | none => some s

/-- No record was published with an expired token. -/
def Fresh (s : CloudToken) : Prop := ∀ p ∈ s.published, p.1 < p.2

/-- Either the one request will be answered in time, or the one timer will fire in time. -/
inductive Renewing (s : CloudToken) : Prop where
  | authenticating (one : s.authenticating = 1) (none : s.timers = [])
      (inTime : s.now ≤ s.since + 59500)
      (valid : ∀ p, s.token = some p → s.since + 59500 < p.2)
  | waiting (due : Int) (none : s.authenticating = 0) (one : s.timers = [due])
      (inTime : s.now ≤ due) (valid : ∀ p, s.token = some p → due + 59500 < p.2)

variable {s t : CloudToken}

/-- While the token is being renewed in time it has not expired. -/
theorem Renewing.lt (h : s.Renewing) {p : String × Int} (hp : s.token = some p) : s.now < p.2 := by
  cases h with
  | authenticating _ _ inTime valid =>
    have := valid p hp
    omega
  | waiting due _ _ inTime valid =>
    have := valid p hp
    omega

end CloudToken
end NexusEdge.Publishers
