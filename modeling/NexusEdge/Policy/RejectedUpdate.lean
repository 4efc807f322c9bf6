import NexusEdge.Policy.PolicyEnforcer

/-!
# Updates that throw

Library `Policy`. `PolicyEnforcer.update`, `sensor-stream-manager/policy.js:304–307`, stores
the submitted policy before it compiles it, and the rule is rebuilt in place: an entry that
cannot be enforced abandons the compilation, and nothing is restored. What is left is the
compilation of the entries before that one.
-/

namespace NexusEdge.Policy
open NexusEdge.Base

/-- The place of an entry in a policy. -/
inductive Place where
  | sensor (sensorId : String)
  | app (ip topic : String)
  | appSensor (sensorId ip topic : String)
  deriving DecidableEq

namespace Place

/-- The keys above the name of the entry. -/
def keys : Place → List String
  | sensor _ => []
  | app ip _ => [ip]
  | appSensor sensorId ip _ => [sensorId, ip]

/-- The entry is about the request. -/
def Covers : Place → String → String → String → Prop
  | sensor s, sensorId, _, _ => s = sensorId
  | app i t, _, ip, topic => i = ip ∧ t = topic
  | appSensor s i t, sensorId, ip, topic => s = sensorId ∧ i = ip ∧ t = topic

/-- The place of a sensor-specific entry. -/
def ofSensor (q : Keys 0 × String) : Place := sensor q.2

/-- The place of an app-specific entry. -/
def ofApp (q : Keys 1 × String) : Place := app q.1.head q.2

/-- The place of an app-sensor entry. -/
def ofAppSensor (q : Keys 2 × String) : Place := appSensor q.1.head q.1.tail.head q.2

end Place

/-- The entry at a place. -/
def PolicyFormat.entryAt (p : PolicyFormat) : Place → Option (TimeBasedPolicy String)
  | .sensor sensorId => p.sensorEntry sensorId
  | .app ip topic => p.appEntry ip topic
  | .appSensor sensorId ip topic => p.appSensorEntry sensorId ip topic

/-- Among the places is one whose entry is about the request and blocks at the instant. -/
def PolicyFormat.BlocksAmong (C : CronParser) (p : PolicyFormat) (tz : String) (t : Int)
    (places : List Place) (sensorId ip topic : String) : Prop :=
  ∃ place ∈ places, place.Covers sensorId ip topic ∧
    ∃ entry, p.entryAt place = some entry ∧ entry.BlocksAt C tz t

/-- The entry at the place exists and cannot be enforced. -/
def PolicyFormat.RejectedAt (C : CronParser) (p : PolicyFormat) (tz : String) (t : Int)
    (place : Place) : Prop :=
  ∃ entry, p.entryAt place = some entry ∧ entry.Rejected C tz t place.keys

/-- The places of the stored entries, in the order in which a compilation visits them. -/
def PrivacyPolicy.places {C : CronParser} (this : PrivacyPolicy C) : List Place :=
  this.sensorSpecific.paths.map (fun q ↦ Place.ofSensor q.1) ++
    (this.appSpecific.paths.map (fun q ↦ Place.ofApp q.1) ++
      this.appSensor.paths.map (fun q ↦ Place.ofAppSensor q.1))

section Places

variable {C : CronParser} {p : PolicyFormat} {tz : String} {now : Int}
  {sensorId ip topic : String}

/-- Blocking among two groups of places. -/
theorem PolicyFormat.blocksAmong_append (places places' : List Place) :
    p.BlocksAmong C tz now (places ++ places') sensorId ip topic ↔
      p.BlocksAmong C tz now places sensorId ip topic ∨
        p.BlocksAmong C tz now places' sensorId ip topic := by
  simp only [PolicyFormat.BlocksAmong, List.mem_append, or_and_right, exists_or]

-- Of the places of one part only one is about the request.
private theorem blocksAmong_map {n : Nat} {place : Keys n × String → Place} {q₀ : Keys n × String}
    (hcovers : ∀ q, (place q).Covers sensorId ip topic ↔ q = q₀)
    (l : List ((Keys n × String) × TimeBasedPolicy (Schedule C))) :
    p.BlocksAmong C tz now (l.map fun q ↦ place q.1) sensorId ip topic ↔
      q₀ ∈ l.map Prod.fst ∧
        ∃ entry, p.entryAt (place q₀) = some entry ∧ entry.BlocksAt C tz now := by
  simp only [PolicyFormat.BlocksAmong, List.mem_map]
  constructor
  · rintro ⟨_, ⟨q, hq, rfl⟩, hc, hentry⟩
    obtain rfl := (hcovers q.1).mp hc
    exact ⟨⟨q, hq, rfl⟩, hentry⟩
  · rintro ⟨⟨q, hq, rfl⟩, hentry⟩
    exact ⟨_, ⟨q, hq, rfl⟩, (hcovers q.1).mpr rfl, hentry⟩

private theorem blocksAmong_sensors
    (l : List ((Keys 0 × String) × TimeBasedPolicy (Schedule C))) :
    p.BlocksAmong C tz now (l.map fun q ↦ Place.ofSensor q.1) sensorId ip topic ↔
      (List.Vector.nil, sensorId) ∈ l.map Prod.fst ∧ p.SensorBlocks C tz now sensorId := by
  refine blocksAmong_map (fun q ↦ ?_) l
  rw [← Prod.mk.eta (p := q), Prod.mk.injEq, Subsingleton.elim (q.1 : Keys 0) List.Vector.nil]
  simp only [true_and]
  rfl

private theorem blocksAmong_apps (l : List ((Keys 1 × String) × TimeBasedPolicy (Schedule C))) :
    p.BlocksAmong C tz now (l.map fun q ↦ Place.ofApp q.1) sensorId ip topic ↔
      (key₁ ip, topic) ∈ l.map Prod.fst ∧ p.AppBlocks C tz now ip topic := by
  refine blocksAmong_map (fun q ↦ ?_) l
  constructor
  · rintro ⟨rfl, rfl⟩
    rw [← key₁_eta]
  · rintro rfl
    exact ⟨rfl, rfl⟩

private theorem blocksAmong_appSensors
    (l : List ((Keys 2 × String) × TimeBasedPolicy (Schedule C))) :
    p.BlocksAmong C tz now (l.map fun q ↦ Place.ofAppSensor q.1) sensorId ip topic ↔
      (key₂ sensorId ip, topic) ∈ l.map Prod.fst ∧
        p.AppSensorBlocks C tz now sensorId ip topic := by
  refine blocksAmong_map (fun q ↦ ?_) l
  constructor
  · rintro ⟨rfl, rfl, rfl⟩
    rw [← key₂_eta]
  · rintro rfl
    exact ⟨rfl, rfl, rfl⟩

private theorem blocksAmong_allSensors {policy : PrivacyPolicy C} (hrep : policy.Represents p) :
    p.BlocksAmong C tz now (policy.sensorSpecific.paths.map fun q ↦ Place.ofSensor q.1)
      sensorId ip topic ↔ p.SensorBlocks C tz now sensorId := by
  rw [blocksAmong_sensors, and_iff_right_iff_imp]
  rintro ⟨entry, hentry, _⟩
  exact mem_map_paths hrep.sensorSpecific (Option.isSome_of_eq_some hentry)

private theorem blocksAmong_allApps {policy : PrivacyPolicy C} (hrep : policy.Represents p) :
    p.BlocksAmong C tz now (policy.appSpecific.paths.map fun q ↦ Place.ofApp q.1)
      sensorId ip topic ↔ p.AppBlocks C tz now ip topic := by
  rw [blocksAmong_apps, and_iff_right_iff_imp]
  rintro ⟨entry, hentry, _⟩
  exact mem_map_paths hrep.appSpecific (Option.isSome_of_eq_some hentry)

/-- The rule lists what blocks the request. -/
def PrivacyRule.Lists (rule : PrivacyRule C) (sensorId ip topic : String) : Prop :=
  sensorId ∈ targets rule.sensorSpecific List.Vector.nil ∨
    topic ∈ targets rule.appSpecific (key₁ ip) ∨
    topic ∈ targets rule.appSensor (key₂ sensorId ip)

/-- The compilation stopped at one of the places, whose entry cannot be enforced; the rule
lists exactly what the entries before it block. -/
def PrivacyRule.Abandoned (p : PolicyFormat) (tz : String) (now : Int) (places : List Place)
    (rule : PrivacyRule C) : Prop :=
  ∃ before place after, places = before ++ place :: after ∧ p.RejectedAt C tz now place ∧
    ∀ sensorId ip topic, rule.Lists sensorId ip topic ↔
      p.BlocksAmong C tz now before sensorId ip topic

variable {policy : PrivacyPolicy C} {rule : PrivacyRule C}

private theorem abandoned_sensor {before after : List ((Keys 0 × String) × TimeBasedPolicy (Schedule C))}
    {q : (Keys 0 × String) × TimeBasedPolicy (Schedule C)}
    (hsplit : policy.sensorSpecific.paths = before ++ q :: after)
    (hrejected : p.RejectedAt C tz now (Place.ofSensor q.1))
    (hlists : ∀ sensorId ip topic, rule.Lists sensorId ip topic ↔
      (List.Vector.nil, sensorId) ∈ before.map Prod.fst ∧ p.SensorBlocks C tz now sensorId) :
    rule.Abandoned p tz now policy.places := by
  refine ⟨before.map fun q ↦ Place.ofSensor q.1, Place.ofSensor q.1,
    after.map (fun q ↦ Place.ofSensor q.1) ++
      (policy.appSpecific.paths.map (fun q ↦ Place.ofApp q.1) ++
        policy.appSensor.paths.map (fun q ↦ Place.ofAppSensor q.1)), ?_, hrejected, ?_⟩
  · rw [PrivacyPolicy.places, hsplit, List.map_append, List.map_cons, List.append_assoc,
      List.cons_append]
  · intro sensorId ip topic
    rw [hlists, blocksAmong_sensors]

private theorem abandoned_app (hrep : policy.Represents p)
    {before after : List ((Keys 1 × String) × TimeBasedPolicy (Schedule C))}
    {q : (Keys 1 × String) × TimeBasedPolicy (Schedule C)}
    (hsplit : policy.appSpecific.paths = before ++ q :: after)
    (hrejected : p.RejectedAt C tz now (Place.ofApp q.1))
    (hlists : ∀ sensorId ip topic, rule.Lists sensorId ip topic ↔ p.SensorBlocks C tz now sensorId ∨
      ((key₁ ip, topic) ∈ before.map Prod.fst ∧ p.AppBlocks C tz now ip topic)) :
    rule.Abandoned p tz now policy.places := by
  refine ⟨policy.sensorSpecific.paths.map (fun q ↦ Place.ofSensor q.1) ++
      before.map fun q ↦ Place.ofApp q.1, Place.ofApp q.1,
    after.map (fun q ↦ Place.ofApp q.1) ++
      policy.appSensor.paths.map (fun q ↦ Place.ofAppSensor q.1), ?_, hrejected, ?_⟩
  · rw [PrivacyPolicy.places, hsplit, List.map_append, List.map_cons, List.append_assoc,
      List.append_assoc, List.cons_append]
  · intro sensorId ip topic
    rw [hlists, PolicyFormat.blocksAmong_append, blocksAmong_allSensors hrep, blocksAmong_apps]

private theorem abandoned_appSensor (hrep : policy.Represents p)
    {before after : List ((Keys 2 × String) × TimeBasedPolicy (Schedule C))}
    {q : (Keys 2 × String) × TimeBasedPolicy (Schedule C)}
    (hsplit : policy.appSensor.paths = before ++ q :: after)
    (hrejected : p.RejectedAt C tz now (Place.ofAppSensor q.1))
    (hlists : ∀ sensorId ip topic, rule.Lists sensorId ip topic ↔ p.SensorBlocks C tz now sensorId ∨
      p.AppBlocks C tz now ip topic ∨ ((key₂ sensorId ip, topic) ∈ before.map Prod.fst ∧
        p.AppSensorBlocks C tz now sensorId ip topic)) :
    rule.Abandoned p tz now policy.places := by
  refine ⟨policy.sensorSpecific.paths.map (fun q ↦ Place.ofSensor q.1) ++
      (policy.appSpecific.paths.map (fun q ↦ Place.ofApp q.1) ++
        before.map fun q ↦ Place.ofAppSensor q.1), Place.ofAppSensor q.1,
    after.map fun q ↦ Place.ofAppSensor q.1, ?_, hrejected, ?_⟩
  · rw [PrivacyPolicy.places, hsplit, List.map_append, List.map_cons, List.append_assoc,
      List.append_assoc]
  · intro sensorId ip topic
    rw [hlists, PolicyFormat.blocksAmong_append, PolicyFormat.blocksAmong_append,
      blocksAmong_allSensors hrep, blocksAmong_allApps hrep, blocksAmong_appSensors]

end Places

/-! ### An abandoned compilation -/

section Update

variable {C : CronParser} {now : Int} {p : PolicyFormat} {s : Enforcement C}

private theorem updateSensorSpecific_throws (hs : s.Valid p)
    (hthrow : (s.updateSensorSpecific now).error ≠ none) :
    ∃ before q after, s.policy.sensorSpecific.paths = before ++ q :: after ∧
      p.RejectedAt C s.rule.timeZone now (Place.ofSensor q.1) ∧
      (s.updateSensorSpecific now).state.policy.Represents p ∧
      ∀ sensorId,
        sensorId ∈ targets (s.updateSensorSpecific now).state.rule.sensorSpecific List.Vector.nil ↔
          sensorId ∈ targets s.rule.sensorSpecific List.Vector.nil ∨
            ((List.Vector.nil, sensorId) ∈ before.map Prod.fst ∧
              p.SensorBlocks C s.rule.timeZone now sensorId) := by
  have hpaths := forall_paths hs.represents.sensorSpecific
  change (s.sensorSpecificLoop now).error ≠ none at hthrow
  rw [Enforcement.sensorSpecificLoop_eq] at hthrow
  obtain ⟨before, q, after, hsplit, _, hrejected, hpolicy, hlisted⟩ :=
    visit_throws hpaths ⟨hs.represents.sensorSpecific, hs.onMinute⟩ hthrow
  rw [← Enforcement.sensorSpecificLoop_eq] at hpolicy hlisted
  refine ⟨before, q, after, hsplit, ⟨PrivacyPolicy.source q.2, ?_, ?_⟩,
    ⟨hpolicy, hs.represents.appSpecific, hs.represents.appSensor⟩, fun sensorId ↦ ?_⟩
  · have hentry := hpaths q (by rw [hsplit]; simp)
    rw [Subsingleton.elim (q.1.1 : Keys 0) List.Vector.nil] at hentry
    exact hentry
  · rw [Subsingleton.elim (q.1.1 : Keys 0) List.Vector.nil] at hrejected
    exact hrejected
  · refine (hlisted List.Vector.nil sensorId).trans (or_congr_right ?_)
    simp only [not_false_eq_true, and_true]
    rfl

private theorem updateAppSpecific_throws (hs : s.Valid p)
    (hthrow : (s.updateAppSpecific now).error ≠ none) :
    ∃ before q after, s.policy.appSpecific.paths = before ++ q :: after ∧
      p.RejectedAt C s.rule.timeZone now (Place.ofApp q.1) ∧
      (s.updateAppSpecific now).state.policy.Represents p ∧
      ∀ ip topic, topic ∈ targets (s.updateAppSpecific now).state.rule.appSpecific (key₁ ip) ↔
        topic ∈ targets s.rule.appSpecific (key₁ ip) ∨
          ((key₁ ip, topic) ∈ before.map Prod.fst ∧ p.AppBlocks C s.rule.timeZone now ip topic) := by
  have hpaths := forall_paths hs.represents.appSpecific
  change (s.appSpecificLoop now).error ≠ none at hthrow
  rw [Enforcement.appSpecificLoop_eq] at hthrow
  obtain ⟨before, q, after, hsplit, _, hrejected, hpolicy, hlisted⟩ :=
    visit_throws hpaths ⟨hs.represents.appSpecific, hs.onMinute⟩ hthrow
  rw [← Enforcement.appSpecificLoop_eq] at hpolicy hlisted
  refine ⟨before, q, after, hsplit, ⟨PrivacyPolicy.source q.2, ?_, ?_⟩,
    ⟨hs.represents.sensorSpecific, hpolicy, hs.represents.appSensor⟩, fun ip topic ↦ ?_⟩
  · have hentry := hpaths q (by rw [hsplit]; simp)
    rw [key₁_eta q.1.1] at hentry
    exact hentry
  · rw [key₁_eta q.1.1] at hrejected
    exact hrejected
  · refine (hlisted (key₁ ip) topic).trans (or_congr_right ?_)
    simp only [not_false_eq_true, and_true]
    rfl

private theorem updateAppSensor_throws (hs : s.Valid p)
    (hthrow : (s.updateAppSensor now).error ≠ none) :
    ∃ before q after, s.policy.appSensor.paths = before ++ q :: after ∧
      p.RejectedAt C s.rule.timeZone now (Place.ofAppSensor q.1) ∧
      (s.updateAppSensor now).state.policy.Represents p ∧
      ∀ sensorId ip topic,
        topic ∈ targets (s.updateAppSensor now).state.rule.appSensor (key₂ sensorId ip) ↔
          topic ∈ targets s.rule.appSensor (key₂ sensorId ip) ∨
            (((key₂ sensorId ip, topic) ∈ before.map Prod.fst ∧
                ¬ s.rule.Masks sensorId ip topic) ∧
              p.AppSensorBlocks C s.rule.timeZone now sensorId ip topic) := by
  have hpaths := forall_paths hs.represents.appSensor
  change (s.appSensorLoop now).error ≠ none at hthrow
  rw [Enforcement.appSensorLoop_eq] at hthrow
  obtain ⟨before, q, after, hsplit, _, hrejected, hpolicy, hlisted⟩ :=
    visit_throws hpaths ⟨hs.represents.appSensor, hs.onMinute⟩ hthrow
  rw [← Enforcement.appSensorLoop_eq] at hpolicy hlisted
  refine ⟨before, q, after, hsplit, ⟨PrivacyPolicy.source q.2, ?_, ?_⟩,
    ⟨hs.represents.sensorSpecific, hs.represents.appSpecific, hpolicy⟩,
    fun sensorId ip topic ↦ hlisted (key₂ sensorId ip) topic⟩
  · have hentry := hpaths q (by rw [hsplit]; simp)
    rw [key₂_eta q.1.1] at hentry
    exact hentry
  · rw [key₂_eta q.1.1] at hrejected
    exact hrejected

private theorem not_mem_targets_empty {n : Nat} (keys : Keys (n + 1)) (target : String) :
    target ∉ targets (n := n + 1) JsObject.empty keys := List.not_mem_nil

-- The first step throws: nothing is listed by the others.
private theorem updateSensorSpecific_abandoned (hs : s.Valid p)
    (hsensors : s.rule.sensorSpecific = []) (happs : s.rule.appSpecific = JsObject.empty)
    (hpairs : s.rule.appSensor = JsObject.empty)
    (hthrow : (s.updateSensorSpecific now).error ≠ none) :
    (s.updateSensorSpecific now).state.policy.Represents p ∧
      (s.updateSensorSpecific now).state.rule.Abandoned p s.rule.timeZone now s.policy.places := by
  obtain ⟨before, q, after, hsplit, hrejected, hpolicy, hlisted⟩ :=
    updateSensorSpecific_throws hs hthrow
  refine ⟨hpolicy, abandoned_sensor hsplit hrejected fun sensorId ip topic ↦ ?_⟩
  have hsensor : sensorId ∉ targets s.rule.sensorSpecific List.Vector.nil := by
    rw [hsensors]
    exact List.not_mem_nil
  have happ : (s.updateSensorSpecific now).state.rule.appSpecific = JsObject.empty := happs
  have hpair : (s.updateSensorSpecific now).state.rule.appSensor = JsObject.empty := hpairs
  rw [PrivacyRule.Lists, hlisted, happ, hpair, or_iff_right hsensor]
  exact or_iff_left (not_or.mpr ⟨not_mem_targets_empty _ _, not_mem_targets_empty _ _⟩)

-- The second step throws: the first one is complete.
private theorem updateAppSpecific_abandoned {policy : PrivacyPolicy C} {tz : String}
    (hrep : policy.Represents p) (hs : s.Valid p) (htz : s.rule.timeZone = tz)
    (hpolicy : s.policy.appSpecific = policy.appSpecific)
    (hsensors : ∀ sensorId, sensorId ∈ targets s.rule.sensorSpecific List.Vector.nil ↔
      p.SensorBlocks C tz now sensorId)
    (happs : s.rule.appSpecific = JsObject.empty) (hpairs : s.rule.appSensor = JsObject.empty)
    (hthrow : (s.updateAppSpecific now).error ≠ none) :
    (s.updateAppSpecific now).state.policy.Represents p ∧
      (s.updateAppSpecific now).state.rule.Abandoned p tz now policy.places := by
  subst htz
  obtain ⟨before, q, after, hsplit, hrejected, hstored, hlisted⟩ :=
    updateAppSpecific_throws hs hthrow
  rw [hpolicy] at hsplit
  refine ⟨hstored, abandoned_app hrep hsplit hrejected fun sensorId ip topic ↦ ?_⟩
  have hsensor : (s.updateAppSpecific now).state.rule.sensorSpecific = s.rule.sensorSpecific := rfl
  have hpair : (s.updateAppSpecific now).state.rule.appSensor = JsObject.empty := hpairs
  rw [PrivacyRule.Lists, hlisted, hsensor, hsensors, hpair, happs,
    or_iff_right (not_mem_targets_empty _ _), or_iff_left (not_mem_targets_empty _ _)]

-- The third step throws: the first two are complete.
private theorem updateAppSensor_abandoned {policy : PrivacyPolicy C} {tz : String}
    (hrep : policy.Represents p) (hs : s.Valid p) (htz : s.rule.timeZone = tz)
    (hpolicy : s.policy.appSensor = policy.appSensor)
    (hsensors : ∀ sensorId, sensorId ∈ targets s.rule.sensorSpecific List.Vector.nil ↔
      p.SensorBlocks C tz now sensorId)
    (happs : ∀ ip topic, topic ∈ targets s.rule.appSpecific (key₁ ip) ↔
      p.AppBlocks C tz now ip topic)
    (hpairs : s.rule.appSensor = JsObject.empty)
    (hthrow : (s.updateAppSensor now).error ≠ none) :
    (s.updateAppSensor now).state.policy.Represents p ∧
      (s.updateAppSensor now).state.rule.Abandoned p tz now policy.places := by
  subst htz
  obtain ⟨before, q, after, hsplit, hrejected, hstored, hlisted⟩ :=
    updateAppSensor_throws hs hthrow
  rw [hpolicy] at hsplit
  refine ⟨hstored, abandoned_appSensor hrep hsplit hrejected fun sensorId ip topic ↦ ?_⟩
  have hsensor : (s.updateAppSensor now).state.rule.sensorSpecific = s.rule.sensorSpecific := rfl
  have happ : (s.updateAppSensor now).state.rule.appSpecific = s.rule.appSpecific := rfl
  rw [PrivacyRule.Lists, hlisted, hsensor, hsensors, happ, happs, hpairs,
    or_iff_right (not_mem_targets_empty _ _), PrivacyRule.Masks, hsensors, happs]
  -- A masked request is blocked by what masks it.
  tauto

/-- A compilation that throws has met an entry that cannot be enforced, and lists exactly what
the entries before it block. -/
theorem update_throws (hrep : s.policy.Represents p)
    (hthrow : (Enforcement.update now s).error ≠ none) :
    (Enforcement.update now s).state.policy.Represents p ∧
      (Enforcement.update now s).state.rule.Abandoned p s.rule.timeZone now s.policy.places := by
  have h₀ : s.reset.Valid p := ⟨hrep, fun _ _ hdate ↦ by cases hdate⟩
  unfold Enforcement.update at hthrow ⊢
  by_cases err₁ : (s.reset.updateSensorSpecific now).error = none
  · obtain ⟨h₁, tz₁, app₁, pair₁, sensors, _⟩ := updateSensorSpecific_spec h₀ err₁
    have policy₁ : (s.reset.updateSensorSpecific now).state.policy.appSpecific =
      s.policy.appSpecific := rfl
    have policy₂ : (s.reset.updateSensorSpecific now).state.policy.appSensor =
      s.policy.appSensor := rfl
    rw [Outcome.andThen_of_none err₁] at hthrow ⊢
    generalize (s.reset.updateSensorSpecific now).state = s₁ at *
    have sensors₁ : ∀ sensorId, sensorId ∈ targets s₁.rule.sensorSpecific List.Vector.nil ↔
        p.SensorBlocks C s.rule.timeZone now sensorId := by
      intro sensorId
      rw [sensors]
      exact or_iff_right List.not_mem_nil
    by_cases err₂ : (s₁.updateAppSpecific now).error = none
    · obtain ⟨h₂, tz₂, sensor₂, pair₂, apps, _⟩ := updateAppSpecific_spec h₁ err₂
      have policy₃ : (s₁.updateAppSpecific now).state.policy.appSensor = s.policy.appSensor :=
        policy₂
      rw [Outcome.andThen_of_none err₂] at hthrow ⊢
      generalize (s₁.updateAppSpecific now).state = s₂ at *
      refine updateAppSensor_abandoned hrep h₂ (tz₂.trans tz₁) policy₃ ?_ ?_ (pair₂.trans pair₁)
        hthrow
      · intro sensorId
        rw [sensor₂, sensors₁]
      · intro ip topic
        rw [apps, app₁, tz₁]
        exact or_iff_right List.not_mem_nil
    · rw [Outcome.andThen_of_ne_none err₂] at hthrow ⊢
      exact updateAppSpecific_abandoned hrep h₁ tz₁ policy₁ sensors₁ app₁ pair₁ err₂
  · rw [Outcome.andThen_of_ne_none err₁, Outcome.andThen_of_ne_none err₁]
    exact updateSensorSpecific_abandoned h₀ rfl rfl rfl err₁

end Update

namespace PolicyEnforcer

variable {C : CronParser}

/-- An enforcer after earlier updates, all of which succeeded. -/
inductive Reached : PolicyEnforcer C → Prop where
  | initial (tz : String) : Reached (initial tz)
  | update {e : PolicyEnforcer C} (policy : PolicyFormat) (now timerNow : Int) (he : Reached e)
      (hdone : (e.update policy now timerNow).error = none) :
      Reached (e.update policy now timerNow).state

end PolicyEnforcer
end NexusEdge.Policy
