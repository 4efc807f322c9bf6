import Mathlib.Algebra.BigOperators.Group.Finset.Basic
import Mathlib.Algebra.Order.BigOperators.Group.Finset
import Mathlib.Data.Fintype.Basic
import NexusEdge.Base.JsValue
import NexusEdge.Base.Transition

/-!
# Supervision of the services

Library `Platform`. The processes that `platform-manager.js:8–34,97–161` forks and watches: a report
of an error or an exit makes the platform manager kill all of them and exit. Messages, exits and
signals come in any order. The platform runs as a whole or not at all unless a signal ends the
platform manager alone. The signals it listens to do nothing, as `options` in `exitHandler` is the
name of the event.
-/

namespace NexusEdge.Platform
open NexusEdge.Base

/-- `services`. -/
inductive Service where
  | appManager
  | apiServer
  | sensorStreamManager
  | deviceManager
  | dataPublishManager
  deriving DecidableEq

instance : Fintype Service :=
  ⟨{.appManager, .apiServer, .sensorStreamManager, .deviceManager, .dataPublishManager},
    fun service ↦ by cases service <;> decide⟩

/-- The process of a service and what the platform manager has yet to receive from it. -/
structure ServiceProcess where
  running : Bool
  /-- `process.killed`: a signal has been sent. -/
  killed : Bool
  /-- `SIGTERM` has been sent, on which every service exits. -/
  signalled : Bool
  messages : List String
  /-- The event `exit` has not been emitted yet. -/
  exitPending : Bool
  deriving DecidableEq

/-- `service.process.kill()`, unless it has been killed, `platform-manager.js:137–144`. -/
def ServiceProcess.kill (p : ServiceProcess) : ServiceProcess :=
  if p.killed then p
  else if p.running then { p with killed := true, signalled := true }
  else p

/-- The process ends; its messages may be lost. -/
def ServiceProcess.exit (p : ServiceProcess) (lost : Bool) : ServiceProcess :=
  { p with
    running := false
    messages := if lost then [] else p.messages
    exitPending := true }

/-- The platform manager and the services. -/
structure Processes where
  managing : Bool
  services : Service → ServiceProcess

/-- Signals that end a process without a listener; those that are not named here are as `sighup`. -/
inductive Signal where
  | sigint
  | sigusr1
  | sigusr2
  | sigterm
  | sighup
  | sigquit
  | sigkill
  deriving DecidableEq

/-- Those with a listener, `platform-manager.js:160–162`. -/
def Signal.listened : Signal → Bool
  | .sigint | .sigusr1 | .sigusr2 | .sigterm => true
  | .sighup | .sigquit | .sigkill => false

/-- What happens to them. -/
inductive ProcessEvent where
  /-- `process.send` in a service. -/
  | send (service : Service) (text : String)
  | exit (service : Service) (lost : Bool)
  /-- The listeners of `platform-manager.js:119–134`. -/
  | message (service : Service)
  | exited (service : Service)
  /-- A signal to the platform manager. -/
  | signal (received : Signal)
  /-- An exception that the platform manager does not catch. -/
  | uncaughtException
  deriving DecidableEq

variable {N : Type}

/-- The condition of the listener of messages; on other messages it may throw, which is caught. -/
def reportsError (J : JsonText N) (text : String) : Bool :=
  match J.parse text with
  | .ok message =>
    match message.hasOwnProperty "error", message.hasOwnProperty "service" with
    | .ok error, .ok service => error && service
    | _, _ => false
  | .error _ => false

/-- A service exits by itself or reports an error. -/
def ProcessEvent.Fails (J : JsonText N) : ProcessEvent → Prop
  | .send _ text => reportsError J text = true
  | .exit _ _ => True
  | _ => False

/-- It does not end the platform manager alone. -/
def ProcessEvent.Spares : ProcessEvent → Prop
  | .signal received => received.listened = true
  | _ => True

/-- A service ends, or the platform manager notices something of it. -/
def ProcessEvent.isProgress : ProcessEvent → Bool
  | .exit _ _ | .message _ | .exited _ => true
  | _ => false

/-- A service sends something to the platform manager. -/
def ProcessEvent.isSend : ProcessEvent → Bool
  | .send _ _ => true
  | _ => false

/-- The service has ended, or has reported an error. -/
def ServiceProcess.Faulty (J : JsonText N) (p : ServiceProcess) : Prop :=
  p.running = false ∨ ∃ text ∈ p.messages, reportsError J text = true

namespace Processes

/-- All services are forked. -/
def start : Processes := ⟨true, fun _ ↦ ⟨true, false, false, [], false⟩⟩

/-- A change of one process. -/
def update (s : Processes) (service : Service) (p : ServiceProcess) : Processes :=
  { s with services := Function.update s.services service p }

/-- `quit`, `platform-manager.js:146–151`. -/
def quit (s : Processes) : Processes := ⟨false, fun service ↦ (s.services service).kill⟩

/-- One event; none when it cannot happen. -/
def step (J : JsonText N) (s : Processes) : ProcessEvent → Option Processes
  | .send service text =>
    let p := s.services service
    if p.running then some (s.update service { p with messages := p.messages ++ [text] }) else none
  | .exit service lost =>
    let p := s.services service
    if p.running then some (s.update service (p.exit lost)) else none
  | .message service =>
    let p := s.services service
    if s.managing then
      match p.messages with
      | [] => none
      | text :: messages =>
        let s := s.update service { p with messages := messages }
        some (if reportsError J text then s.quit else s)
    else none
  | .exited service =>
    let p := s.services service
    if s.managing && p.exitPending then
      some (s.update service { p with exitPending := false }).quit
    else none
  | .signal received =>
    if s.managing then
      some (if received.listened then s else { s with managing := false })
    else none
  | .uncaughtException => if s.managing then some s else none

/-- Everything runs. -/
def AllRunning (s : Processes) : Prop :=
  s.managing = true ∧ ∀ service, (s.services service).running = true

/-- Nothing runs. -/
def AllStopped (s : Processes) : Prop :=
  s.managing = false ∧ ∀ service, (s.services service).running = false

/-- No process has anything left to do about the others. -/
def Quiescent (s : Processes) : Prop :=
  ∀ service, ((s.services service).running = true → (s.services service).signalled = false) ∧
    (s.managing = true →
      (s.services service).messages = [] ∧ (s.services service).exitPending = false)

instance (s : Processes) : Decidable s.Quiescent := inferInstanceAs (Decidable (∀ _, _ ∧ _))

/-- Something has ended, or is about to be reported. -/
def Failing (J : JsonText N) (s : Processes) : Prop :=
  s.managing = false ∨ ∃ service, (s.services service).Faulty J

/-! ### Failures -/

/-- Nothing has been sent to the process, and its exit is to be noticed. -/
def Watched (p : ServiceProcess) : Prop :=
  p.killed = false ∧ (p.running = false ↔ p.exitPending = true)

/-- The process has ended or is about to. -/
def Doomed (p : ServiceProcess) : Prop := p.running = true → p.signalled = true

/-- The platform manager watches all services while it runs, and none outlives it for long. -/
structure Supervised (s : Processes) : Prop where
  managing : s.managing = true → ∀ service, Watched (s.services service)
  ended : s.managing = false → ∀ service, Doomed (s.services service)

variable {J : JsonText N} {s t : Processes}

/-- The process that has changed. -/
@[simp] theorem services_update_self (s : Processes) (service : Service) (p : ServiceProcess) :
    (s.update service p).services service = p := Function.update_self _ _ _

/-- The others. -/
theorem services_update_of_ne (s : Processes) {service other : Service} (h : other ≠ service)
    (p : ServiceProcess) : (s.update service p).services other = s.services other :=
  Function.update_of_ne h _ _

/-- A property of all processes after one has changed. -/
theorem forall_services_update {P : ServiceProcess → Prop} (service : Service)
    {p : ServiceProcess} (hp : P p) (h : ∀ other, P (s.services other)) (other : Service) :
    P ((s.update service p).services other) := by
  by_cases heq : other = service
  · subst heq
    rw [services_update_self]
    exact hp
  · rw [services_update_of_ne s heq]
    exact h other

/-- A property of some process after one has changed. -/
theorem exists_services_update {P : ServiceProcess → Prop} {Q : Prop} {service : Service}
    {p : ServiceProcess} (hp : P p ↔ P (s.services service) ∨ Q) :
    (∃ other, P ((s.update service p).services other)) ↔
      (∃ other, P (s.services other)) ∨ Q := by
  constructor
  · rintro ⟨other, hother⟩
    by_cases heq : other = service
    · subst heq
      rw [services_update_self] at hother
      exact (hp.mp hother).imp_left fun h ↦ ⟨other, h⟩
    · rw [services_update_of_ne s heq] at hother
      exact Or.inl ⟨other, hother⟩
  · rintro (⟨other, hother⟩ | hQ)
    · by_cases heq : other = service
      · subst heq
        exact ⟨other, by rw [services_update_self]; exact hp.mpr (Or.inl hother)⟩
      · exact ⟨other, by rw [services_update_of_ne s heq]; exact hother⟩
    · exact ⟨service, by rw [services_update_self]; exact hp.mpr (Or.inr hQ)⟩

/-- What an event does to the processes. -/
theorem step_cases {e : ProcessEvent} (ht : s.step J e = some t) :
    match e with
    | .send service text => (s.services service).running = true ∧
        t = s.update service { s.services service with
          messages := (s.services service).messages ++ [text] }
    | .exit service lost => (s.services service).running = true ∧
        t = s.update service ((s.services service).exit lost)
    | .message service => s.managing = true ∧ ∃ text messages,
        (s.services service).messages = text :: messages ∧
          let received := s.update service { s.services service with messages := messages }
          t = if reportsError J text then received.quit else received
    | .exited service => s.managing = true ∧ (s.services service).exitPending = true ∧
        t = (s.update service { s.services service with exitPending := false }).quit
    | .signal received => s.managing = true ∧
        t = if received.listened then s else { s with managing := false }
    | .uncaughtException => s.managing = true ∧ t = s := by
  cases e with
  | message service =>
    simp only [step] at ht
    split at ht
    · next hm =>
      split at ht
      · cases ht
      · next text messages hmessages =>
        exact ⟨hm, text, messages, hmessages, (Option.some.inj ht).symm⟩
    · cases ht
  | exited service =>
    obtain ⟨hcond, ht⟩ := Option.ite_none_right_eq_some.mp ht
    obtain ⟨hm, hpending⟩ := Bool.and_eq_true_iff.mp hcond
    exact ⟨hm, hpending, (Option.some.inj ht).symm⟩
  | send | exit | signal | uncaughtException =>
    obtain ⟨hcond, ht⟩ := Option.ite_none_right_eq_some.mp ht
    exact ⟨hcond, (Option.some.inj ht).symm⟩

/-- Everything that runs is killed. -/
theorem supervised_quit (h : ∀ service, (s.services service).killed = false) :
    s.quit.Supervised := by
  refine ⟨nofun, fun _ service hrunning ↦ ?_⟩
  simp only [quit, ServiceProcess.kill, h service, Bool.false_eq_true, if_false] at hrunning ⊢
  split
  · rfl
  · next hstopped =>
    rw [if_neg hstopped] at hrunning
    exact absurd hrunning hstopped

/-- Every event that spares the platform manager keeps the platform supervised. -/
theorem supervised_step (h : s.Supervised) {e : ProcessEvent} (he : e.Spares)
    (ht : s.step J e = some t) : t.Supervised := by
  cases e with
  | send service text =>
    obtain ⟨_, rfl⟩ := step_cases ht
    exact ⟨fun hm ↦
        forall_services_update (P := Watched) service (h.managing hm service) (h.managing hm),
      fun hm ↦ forall_services_update (P := Doomed) service (h.ended hm service) (h.ended hm)⟩
  | exit service lost =>
    obtain ⟨_, rfl⟩ := step_cases ht
    exact ⟨fun hm ↦ forall_services_update (P := Watched) service
        ⟨(h.managing hm service).1, iff_of_true rfl rfl⟩ (h.managing hm),
      fun hm ↦ forall_services_update (P := Doomed) service (fun hrunning ↦ nomatch hrunning)
        (h.ended hm)⟩
  | message service =>
    obtain ⟨hm, text, messages, _, rfl⟩ := step_cases ht
    have hwatched := forall_services_update (P := Watched)
      (p := { s.services service with messages := messages }) service
      (h.managing hm service) (h.managing hm)
    split
    · exact supervised_quit fun other ↦ (hwatched other).1
    · exact ⟨fun _ ↦ hwatched, fun hended ↦ absurd (hm.symm.trans hended) nofun⟩
  | exited service =>
    obtain ⟨hm, _, rfl⟩ := step_cases ht
    exact supervised_quit (forall_services_update (P := fun p ↦ p.killed = false) service
      (h.managing hm service).1 fun other ↦ (h.managing hm other).1)
  | signal received =>
    obtain ⟨_, rfl⟩ := step_cases ht
    have hlistened : received.listened = true := he
    rw [if_pos hlistened]
    exact h
  | uncaughtException =>
    obtain ⟨_, rfl⟩ := step_cases ht
    exact h

/-- Something is failing after an event if it was before or the event fails. -/
theorem failing_step (h : s.Supervised) {e : ProcessEvent} (he : e.Spares)
    (ht : s.step J e = some t) : t.Failing J ↔ s.Failing J ∨ e.Fails J := by
  cases e with
  | send service text =>
    obtain ⟨_, rfl⟩ := step_cases ht
    unfold Failing
    rw [or_assoc]
    apply or_congr_right
    apply exists_services_update (P := ServiceProcess.Faulty J)
    simp only [ServiceProcess.Faulty, List.mem_append, List.mem_singleton, or_and_right,
      exists_or, exists_eq_left, or_assoc, ProcessEvent.Fails]
  | exit service lost =>
    obtain ⟨_, rfl⟩ := step_cases ht
    refine iff_of_true (Or.inr ⟨service, Or.inl ?_⟩) (Or.inr trivial)
    rw [services_update_self]
    rfl
  | message service =>
    obtain ⟨hm, text, messages, hmessages, rfl⟩ := step_cases ht
    split
    · next hreport =>
      refine iff_of_true (Or.inl rfl) (Or.inl (Or.inr ⟨service, Or.inr ⟨text, ?_, hreport⟩⟩))
      rw [hmessages]
      exact List.mem_cons_self
    · next hreport =>
      unfold Failing
      rw [or_assoc]
      apply or_congr_right
      apply exists_services_update (P := ServiceProcess.Faulty J)
      simp [ServiceProcess.Faulty, hmessages, hreport, ProcessEvent.Fails]
  | exited service =>
    obtain ⟨hm, hpending, rfl⟩ := step_cases ht
    exact iff_of_true (Or.inl rfl)
      (Or.inl (Or.inr ⟨service, Or.inl ((h.managing hm service).2.mpr hpending)⟩))
  | signal received =>
    obtain ⟨_, rfl⟩ := step_cases ht
    have hlistened : received.listened = true := he
    rw [if_pos hlistened]
    exact (or_iff_left id).symm
  | uncaughtException =>
    obtain ⟨_, rfl⟩ := step_cases ht
    exact (or_iff_left id).symm

/-- All services are forked, and watched. -/
theorem supervised_start : start.Supervised :=
  ⟨fun _ _ ↦ ⟨rfl, iff_of_false nofun nofun⟩, nofun⟩

/-- In a run something is failing exactly if an event has failed. -/
theorem failing_run {es : List ProcessEvent} (hes : ∀ e ∈ es, e.Spares)
    (hs : run (step J) start es = some s) :
    s.Supervised ∧ (s.Failing J ↔ ∃ e ∈ es, e.Fails J) := by
  have hstart : ¬ start.Failing J := by
    rintro (hended | ⟨service, hstopped | ⟨text, hmem, _⟩⟩)
    · cases hended
    · cases hstopped
    · cases hmem
  refine run_history_of_eachStep (step J)
    (P := fun before s ↦ s.Supervised ∧ (s.Failing J ↔ ∃ e ∈ before, e.Fails J)) ?_ es []
    ⟨supervised_start, iff_of_false hstart nofun⟩
    (eachStep_of_forall (step J) (fun e he _ ↦ hes e he) start) hs
  rintro before s e t ⟨hsupervised, hfailing⟩ he ht
  refine ⟨supervised_step hsupervised he ht, ?_⟩
  rw [failing_step hsupervised he ht, hfailing]
  simp only [List.mem_append, List.mem_singleton, or_and_right, exists_or, exists_eq_left]

/-- When nothing is left to do, a failure has stopped everything, and without one everything
runs, whatever signals the platform manager has got that it listens to. -/
theorem stops_together {es : List ProcessEvent} (hes : ∀ e ∈ es, e.Spares)
    (hs : run (step J) start es = some s) (hquiescent : s.Quiescent) :
    ((∃ e ∈ es, e.Fails J) → s.AllStopped) ∧ ((¬ ∃ e ∈ es, e.Fails J) → s.AllRunning) := by
  obtain ⟨hsupervised, hfailing⟩ := failing_run hes hs
  rw [← hfailing]
  constructor
  · intro hfailing
    cases hm : s.managing with
    | false =>
      refine ⟨hm, fun service ↦ Bool.eq_false_of_not_eq_true fun hrunning ↦ ?_⟩
      have hsignalled := hsupervised.ended hm service hrunning
      rw [(hquiescent service).1 hrunning] at hsignalled
      cases hsignalled
    | true =>
      rcases hfailing with hended | ⟨service, hstopped | ⟨text, hmem, _⟩⟩
      · cases hm.symm.trans hended
      · have hpending := (hsupervised.managing hm service).2.mp hstopped
        rw [((hquiescent service).2 hm).2] at hpending
        cases hpending
      · rw [((hquiescent service).2 hm).1] at hmem
        cases hmem
  · intro hnone
    have hm : s.managing = true := Bool.eq_true_of_not_eq_false fun hended ↦ hnone (Or.inl hended)
    exact ⟨hm, fun service ↦ Bool.eq_true_of_not_eq_false fun hstopped ↦
      hnone (Or.inr ⟨service, Or.inl hstopped⟩)⟩

/-! ### Settling -/

/-- What a process may still do, and what may still be received from it. -/
def weight (managing : Bool) (p : ServiceProcess) : Nat :=
  (if p.running then 2 else 0) +
    if managing then p.messages.length + if p.exitPending then 1 else 0 else 0

/-- A bound on what may still happen. -/
def remaining (s : Processes) : Nat :=
  (if s.managing then 1 else 0) + ∑ service, weight s.managing (s.services service)

private theorem remaining_update_le (service : Service) {p : ServiceProcess} {m n : Nat}
    (h : weight s.managing p + m ≤ weight s.managing (s.services service) + n) :
    (s.update service p).remaining + m ≤ s.remaining + n := by
  have hothers : ∑ other ∈ Finset.univ.erase service,
        weight s.managing ((s.update service p).services other) =
      ∑ other ∈ Finset.univ.erase service, weight s.managing (s.services other) :=
    Finset.sum_congr rfl fun other hother ↦ by
      rw [services_update_of_ne s (Finset.ne_of_mem_erase hother)]
  have hbefore := Finset.add_sum_erase Finset.univ (fun other ↦
    weight s.managing (s.services other)) (Finset.mem_univ service)
  have hafter := Finset.add_sum_erase Finset.univ (fun other ↦
    weight s.managing ((s.update service p).services other)) (Finset.mem_univ service)
  simp only [hothers, services_update_self] at hbefore hafter
  have hremaining : (s.update service p).remaining = (if s.managing then 1 else 0) +
    ∑ other, weight s.managing ((s.update service p).services other) := rfl
  rw [hremaining, remaining, ← hbefore, ← hafter]
  omega

private theorem weight_exit_lt (managing : Bool) {p : ServiceProcess} (h : p.running = true)
    (lost : Bool) : weight managing (p.exit lost) < weight managing p := by
  have hlength : (if lost then [] else p.messages).length ≤ p.messages.length := by
    split <;> simp
  cases managing with
  | false => simp [weight, ServiceProcess.exit, h]
  | true =>
    simp only [weight, ServiceProcess.exit, h, if_true, Bool.false_eq_true, if_false]
    omega

/-- Killing adds nothing to what may happen, and what was to be received no longer is. -/
theorem remaining_quit_lt (hm : s.managing = true) : s.quit.remaining < s.remaining := by
  have hle : ∑ service, weight false (s.quit.services service) ≤
      ∑ service, weight true (s.services service) := by
    apply Finset.sum_le_sum
    intro service _
    simp only [quit, ServiceProcess.kill, weight]
    split
    · simp
    · split <;> simp
  have hquit : s.quit.remaining = 0 + ∑ service, weight false (s.quit.services service) := rfl
  rw [hquit, remaining, hm, if_pos rfl]
  omega

/-- An end of the platform manager alone leaves less to be received. -/
theorem remaining_ended_le (s : Processes) :
    ({ s with managing := false } : Processes).remaining ≤ s.remaining := by
  have hle : ∑ service, weight false (s.services service) ≤
      ∑ service, weight s.managing (s.services service) := by
    apply Finset.sum_le_sum
    intro service _
    rw [weight, weight, if_neg Bool.false_ne_true]
    exact Nat.add_le_add_left (Nat.zero_le _) _
  rw [remaining, remaining, if_neg Bool.false_ne_true]
  exact Nat.add_le_add (Nat.zero_le _) hle

/-- What a service sends may have to be received, and other events leave no more to happen; those
that are progress leave less. -/
theorem remaining_step {e : ProcessEvent} (ht : s.step J e = some t) :
    t.remaining + (if e.isProgress then 1 else 0) ≤ s.remaining + if e.isSend then 1 else 0 := by
  cases e with
  | send service text =>
    obtain ⟨_, rfl⟩ := step_cases ht
    refine remaining_update_le service ?_
    simp only [weight, List.length_append, List.length_singleton, ProcessEvent.isProgress,
      ProcessEvent.isSend, if_true, Bool.false_eq_true, if_false]
    split
    · split <;> omega
    · split <;> omega
  | exit service lost =>
    obtain ⟨hrunning, rfl⟩ := step_cases ht
    exact remaining_update_le service (weight_exit_lt s.managing hrunning lost)
  | message service =>
    obtain ⟨hm, text, messages, hmessages, rfl⟩ := step_cases ht
    have hle : (s.update service
        { s.services service with messages := messages }).remaining + 1 ≤ s.remaining + 0 :=
      remaining_update_le service (by
        simp only [weight, hmessages, hm, if_true, List.length_cons]
        omega)
    split
    · exact (Nat.succ_le_succ (remaining_quit_lt (s := s.update service _) hm).le).trans hle
    · exact hle
  | exited service =>
    obtain ⟨hm, hpending, rfl⟩ := step_cases ht
    have hle : (s.update service
        { s.services service with exitPending := false }).remaining + 1 ≤ s.remaining + 0 :=
      remaining_update_le service (by
        simp only [weight, hm, hpending, if_true, Bool.false_eq_true, if_false]
        omega)
    exact (Nat.succ_le_succ (remaining_quit_lt (s := s.update service _) hm).le).trans hle
  | signal received =>
    obtain ⟨_, rfl⟩ := step_cases ht
    split
    · exact le_rfl
    · exact remaining_ended_le s
  | uncaughtException =>
    obtain ⟨_, rfl⟩ := step_cases ht
    exact le_rfl

/-- Some progress is possible as long as a process has something left to do. -/
theorem quiescent_or_progress (J : JsonText N) (s : Processes) :
    s.Quiescent ∨ ∃ e, e.isProgress = true ∧ (step J s e).isSome = true := by
  by_contra hnone
  obtain ⟨hquiescent, hnone⟩ := not_or.mp hnone
  apply hquiescent
  intro service
  refine ⟨fun hrunning ↦ ?_, fun hm ↦ ⟨?_, ?_⟩⟩
  · exact absurd ⟨.exit service false, rfl, by simp [step, hrunning]⟩ hnone
  · cases hmessages : (s.services service).messages with
    | nil => rfl
    | cons text messages =>
      exact absurd ⟨.message service, rfl, by simp [step, hm, hmessages]⟩ hnone
  · refine Bool.eq_false_of_not_eq_true fun hpending ↦ ?_
    exact absurd ⟨.exited service, rfl, by simp [step, hm, hpending]⟩ hnone

/-- Whatever has happened, the processes settle: beside one for each message that is still sent, so
many exits and deliveries at most are left, in any order, and as long as the processes are not
quiescent there is one. -/
theorem settles {after : List ProcessEvent} (ht : run (step J) s after = some t) :
    after.countP ProcessEvent.isProgress ≤ s.remaining + after.countP ProcessEvent.isSend ∧
      (t.Quiescent ∨ ∃ e, e.isProgress = true ∧ (step J t e).isSome = true) := by
  refine ⟨?_, quiescent_or_progress J t⟩
  induction after generalizing s with
  | nil => exact Nat.zero_le _
  | cons e after ih =>
    obtain ⟨u, hu, ht⟩ := Option.bind_eq_some_iff.mp ht
    have hstep := remaining_step hu
    have hrest := ih ht
    rw [List.countP_cons, List.countP_cons]
    omega

/-- The text of one report. -/
def sampleReport : JsonText Nat where
  stringify _ := "report"
  parse text :=
    if text = "report" then
      .ok (.object [("service", .string "device-manager"), ("error", .string "no handlers")])
    else .error "SyntaxError"

/-- The device manager reports an error and exits, after signals to the platform manager. -/
def sampleFailure : List ProcessEvent :=
  [.signal .sigint, .signal .sigterm, .send .deviceManager "report", .exit .deviceManager false]

/-- The report is received, and the others end. -/
def sampleShutdown : List ProcessEvent :=
  [.message .deviceManager, .exit .apiServer false, .exit .appManager false,
    .exit .sensorStreamManager false, .exit .dataPublishManager false]

/-- Then nothing runs. -/
theorem stops_together_deviceManager :
    ∃ s, run (step sampleReport) start (sampleFailure ++ sampleShutdown) = some s ∧
      s.AllStopped := by
  have hrun : (run (step sampleReport) start (sampleFailure ++ sampleShutdown)).any (fun s ↦
      decide s.Quiescent) = true := by decide +kernel
  obtain ⟨s, hs, hquiescent⟩ := (Option.any_eq_true _ _).mp hrun
  have hfails : ∃ e ∈ sampleFailure ++ sampleShutdown, e.Fails sampleReport :=
    ⟨.exit .deviceManager false, by decide, trivial⟩
  have hspares : ∀ e ∈ sampleFailure ++ sampleShutdown, e.Spares := by
    simp [sampleFailure, sampleShutdown, ProcessEvent.Spares, Signal.listened]
  exact ⟨s, hs, (stops_together hspares hs (of_decide_eq_true hquiescent)).1 hfails⟩

/-- Five more events are within the bound. -/
theorem settles_deviceManager :
    ∃ s, run (step sampleReport) start sampleFailure = some s ∧
      sampleShutdown.countP ProcessEvent.isProgress ≤
        s.remaining + sampleShutdown.countP ProcessEvent.isSend := by
  have hrun : ((run (step sampleReport) start sampleFailure).bind fun s ↦
      run (step sampleReport) s sampleShutdown).isSome = true := by decide +kernel
  obtain ⟨t, ht⟩ := Option.isSome_iff_exists.mp hrun
  obtain ⟨s, hs, ht⟩ := Option.bind_eq_some_iff.mp ht
  exact ⟨s, hs, (settles ht).1⟩

end Processes
end NexusEdge.Platform
