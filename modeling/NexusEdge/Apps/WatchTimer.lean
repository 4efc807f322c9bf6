import NexusEdge.Apps.Watcher

/-!
# The interval of the watcher

Library `Apps`. `watchTimer` of `app-manager/watcher.js:19–101`. `watch` starts an interval when
none is running, and the continuation of `deleteApp` clears it when no application is left to
watch. Indices recorded for deletions may be stale by then; the interval does not depend on which
entry they remove.
-/

namespace NexusEdge.Apps
open NexusEdge.Base NexusEdge.Platform

namespace Watcher

/-- The interval runs exactly while applications are watched, and no other interval is live. -/
structure Timed (s : Watcher) : Prop where
  running : s.watchTimer ≠ none ↔ s.watchingApps ≠ []
  live : s.timers.pending.map Prod.fst = s.watchTimer.toList

/-- The list and the interval are as before. -/
structure KeepsTimer (s t : Watcher) : Prop where
  watchingApps : t.watchingApps = s.watchingApps
  watchTimer : t.watchTimer = s.watchTimer
  timers : t.timers = s.timers

/-- Nothing happened. -/
theorem KeepsTimer.refl (s : Watcher) : KeepsTimer s s := ⟨rfl, rfl, rfl⟩

/-- Two changes in a row. -/
theorem KeepsTimer.trans {s t u : Watcher} (h : KeepsTimer s t) (h' : KeepsTimer t u) :
    KeepsTimer s u where
  watchingApps := h'.watchingApps.trans h.watchingApps
  watchTimer := h'.watchTimer.trans h.watchTimer
  timers := h'.timers.trans h.timers

/-- The interval is a matter of the list and the interval. -/
theorem KeepsTimer.timed {s t : Watcher} (h : KeepsTimer s t) (hs : s.Timed) : t.Timed := by
  refine ⟨?_, ?_⟩
  · rw [h.watchTimer, h.watchingApps]
    exact hs.running
  · rw [h.timers, h.watchTimer]
    exact hs.live

/-- Stopping only starts a deletion. -/
theorem stopWatchingApp_keepsTimer (s : Watcher) (appId : String) :
    KeepsTimer s (s.stopWatchingApp appId) := by
  simp only [stopWatchingApp]
  split
  · exact ⟨rfl, rfl, rfl⟩
  · exact KeepsTimer.refl s

/-- The check of all entries starts deletions and requests at most. -/
theorem foldl_checkApp_keepsTimer (linkGraph : LinkGraph) (l : List App) (s : Watcher) :
    KeepsTimer s (l.foldl (checkApp linkGraph) s) := by
  apply foldl_invariant (P := KeepsTimer s) l _ s (KeepsTimer.refl s)
  intro watchingApp _ t ht
  apply ht.trans
  unfold checkApp
  split
  · exact ⟨rfl, rfl, rfl⟩
  · split
    · exact stopWatchingApp_keepsTimer t watchingApp.id
    · exact KeepsTimer.refl t

/-- Only `watch` and a completing deletion touch the list or the interval. -/
theorem step_keepsTimer {dirname : Path} {s t : Watcher} {e : WatcherEvent}
    (h : step dirname s e = some t) :
    KeepsTimer s t ∨
      (∃ appId executorGatewayId tempAppPath tempMetadataPath now,
        t = (s.watch dirname appId executorGatewayId tempAppPath tempMetadataPath now).state) ∨
      ∃ k deletion, t = s.finishDeletion k deletion := by
  cases e with
  | upload p content =>
    cases h
    exact Or.inl ⟨rfl, rfl, rfl⟩
  | watch appId executorGatewayId tempAppPath tempMetadataPath now =>
    cases h
    exact Or.inr (Or.inl ⟨_, _, _, _, _, rfl⟩)
  | timer handle =>
    simp only [step] at h
    split at h
    · cases h
      exact Or.inl ⟨rfl, rfl, rfl⟩
    · cases h
  | linkGraph answer =>
    simp only [step] at h
    split at h
    · cases h
    · cases answer with
      | ok linkGraph =>
        cases h
        apply Or.inl
        apply KeepsTimer.trans _ (foldl_checkApp_keepsTimer linkGraph _ _)
        exact ⟨rfl, rfl, rfl⟩
      | error _ =>
        cases h
        exact Or.inl ⟨rfl, rfl, rfl⟩
  | scheduled k answer =>
    simp only [step] at h
    split at h
    · cases h
    · next watchingApp _ =>
      cases answer with
      | ok _ =>
        cases h
        apply Or.inl
        apply KeepsTimer.trans _ (stopWatchingApp_keepsTimer _ watchingApp.id)
        exact ⟨rfl, rfl, rfl⟩
      | error _ =>
        cases h
        exact Or.inl ⟨rfl, rfl, rfl⟩
  | stopWatchingApp appId =>
    cases h
    exact Or.inl (stopWatchingApp_keepsTimer s appId)
  | deletionDone k =>
    obtain ⟨deletion, _, rfl⟩ := Option.map_eq_some_iff.mp h
    exact Or.inr (Or.inr ⟨k, deletion, rfl⟩)

/-- `watch` starts the interval with the first application; it leaves everything as it is when
the application cannot be stored. -/
theorem timed_watch {s : Watcher} (hs : s.Timed) (dirname : Path) (appId executorGatewayId : String)
    (tempAppPath tempMetadataPath : Path) (now : Nat) :
    (s.watch dirname appId executorGatewayId tempAppPath tempMetadataPath now).state.Timed := by
  have hlive := hs.live
  simp only [watch]
  split
  · exact ⟨hs.running, hlive⟩
  · split
    · next handle htimer =>
      refine ⟨iff_of_true ?_ ?_, hlive⟩
      · rw [htimer]
        exact Option.some_ne_none handle
      · exact List.append_ne_nil_of_right_ne_nil _ (List.cons_ne_nil _ _)
    · next hnone =>
      refine ⟨iff_of_true (Option.some_ne_none _) ?_, ?_⟩
      · exact List.append_ne_nil_of_right_ne_nil _ (List.cons_ne_nil _ _)
      · rw [hnone, Option.toList_none, List.map_eq_nil_iff] at hlive
        simp only [Timers.set, hlive, List.nil_append]
        rfl

/-- Clearing the interval leaves none. -/
theorem clear_live {s : Watcher} (hs : s.Timed) :
    (s.watchTimer.elim s.timers s.timers.clear).pending.map Prod.fst = [] := by
  have hlive := hs.live
  cases htimer : s.watchTimer with
  | none =>
    rw [htimer] at hlive
    exact hlive
  | some handle =>
    rw [htimer, Option.toList_some] at hlive
    rw [Option.elim_some, Timers.clear, List.map_eq_nil_iff, List.filter_eq_nil_iff]
    intro p hp
    have hmem : p.1 ∈ s.timers.pending.map Prod.fst := List.mem_map_of_mem hp
    rw [hlive, List.mem_singleton] at hmem
    simp [hmem]

/-- A completing deletion clears the interval with the last entry, whichever that is. -/
theorem timed_finishDeletion {s : Watcher} (hs : s.Timed) (k : Nat) (deletion : Deletion) :
    (s.finishDeletion k deletion).Timed := by
  simp only [finishDeletion]
  split
  · next hempty =>
    refine ⟨iff_of_false (fun h ↦ h rfl) fun h ↦ h (List.length_eq_zero_iff.mp hempty), ?_⟩
    exact clear_live hs
  · next hleft =>
    have happs : s.watchingApps ≠ [] := by
      intro hnil
      rw [hnil] at hleft
      exact hleft rfl
    refine ⟨iff_of_true (hs.running.mpr happs) fun hnil ↦ hleft ?_, hs.live⟩
    exact List.length_eq_zero_iff.mpr hnil

/-- Every step keeps the interval in step with the list. -/
theorem timed_step {dirname : Path} {s t : Watcher} {e : WatcherEvent} (hs : s.Timed)
    (h : step dirname s e = some t) : t.Timed := by
  rcases step_keepsTimer h with hkeep | ⟨_, _, _, _, _, rfl⟩ | ⟨k, deletion, rfl⟩
  · exact hkeep.timed hs
  · exact timed_watch hs dirname _ _ _ _ _
  · exact timed_finishDeletion hs k deletion

/-- The loaded module has no interval. -/
theorem timed_initial (files : FileSystem) : (initial files).Timed :=
  ⟨⟨fun h ↦ (h rfl).elim, fun h ↦ (h rfl).elim⟩, rfl⟩

/-- In every run `watchTimer` is set exactly while applications are watched, and the interval it
holds, if any, is the only one live. -/
theorem timed_run (dirname : Path) (files : FileSystem) (es : List WatcherEvent) :
    Always (step dirname) Timed (initial files) es :=
  always_of_invariant (step dirname) (fun _ _ _ hs h ↦ timed_step hs h) es (timed_initial files)

end Watcher
end NexusEdge.Apps
