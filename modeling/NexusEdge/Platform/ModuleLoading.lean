import NexusEdge.Base.JsValue
import NexusEdge.Base.Loop
import NexusEdge.Base.Promise

/-!
# Loading of handlers and publishers

Library `Platform`. `src/platform/device-manager/handlers/handler-utils.js:16–70,185–205` and
`src/platform/data-publish-manager/publishers/publisher-utils.js:10–79`. The loaders differ where
`Promise.all` is awaited: only the handlers' rejection is caught. Neither settles the promise of a
module that throws for another reason than a missing dependency. Instances are no promises
themselves, and only the property `code` of what is thrown matters.
-/

namespace NexusEdge.Platform
open NexusEdge.Base

universe u

/-- What `catch` gets. A code that is no string is `none`. -/
inductive Thrown where
  | null
  | undefined
  | value (code : Option String) (message : String)
  deriving DecidableEq

/-- A configuration file as `pathExists` and `readJson` find it. -/
inductive ConfigFile (N : Type u) where
  | missing
  | unreadable
  | malformed
  | content (json : Json N)

/-- Modules on disk. Requirements are numbered: a module that is required again may behave in a
different way. A class is given the arguments of `new`. -/
structure Modules (Instance : Type) where
  dirname : String
  join : List String → String
  require : Nat → String → Except Thrown (List String → Except Thrown Instance)

/-- Lines that are printed, and the promise that is returned. -/
structure Loading (α : Type) where
  printed : List String
  outcome : PromiseState Thrown α

variable {N : Type u} {Instance : Type}

/-! ### Configuration -/

/-- `getHandlers`, lines 185–205, and `getPublishersDetails`, lines 39–58, with their messages.
What is not caught as a syntax error leaves `undefined`. -/
def getDetails (invalid malformed : String) : ConfigFile N → List String × Option (Json N)
  | .missing => ([invalid], some .null)
  | .unreadable => ([], none)
  | .malformed => ([malformed], some .null)
  | .content json => ([], some json)

/-- `getHandlers`. -/
def getHandlers : ConfigFile N → List String × Option (Json N) :=
  getDetails "Please ensure that the handlers directory contains a valid handlers.json config file."
    "Handlers.json is not well-formed."

/-- `getPublishersDetails`. -/
def getPublishersDetails : ConfigFile N → List String × Option (Json N) :=
  getDetails
    "Please ensure that the publishers directory contains a valid publishers.json config file."
    "publishers.json is not well-formed."

/-- `path.join(__dirname, entry[0], entry[1]['main'])`. -/
def scriptPath (env : Modules Instance) (entry : String × Json N) : Except Thrown String :=
  match entry.2.get? "main" with
  | .error message => .error (.value none message)
  | .ok (some (.string main)) => .ok (env.join [env.dirname, entry.1, main])
  | .ok _ => .error (.value (some "ERR_INVALID_ARG_TYPE")
      "The \"path\" argument must be of type string.")

/-- `mainScriptPaths`. -/
def mainScriptPaths (env : Modules Instance) (json : Json N) : Except Thrown (List String) :=
  json.ownEntries.mapM (scriptPath env)

/-! ### Modules -/

/-- Executor of the promises of lines 57–69 and 67–79: reading the code of `null` or `undefined`
throws again, which rejects the promise. -/
def getModule (hint : String) : Except Thrown Instance → List String × PromiseState Thrown Instance
  | .ok module => ([], .fulfilled module)
  | .error .null =>
    ([], .rejected (.value none "TypeError: Cannot read property 'code' of null"))
  | .error .undefined =>
    ([], .rejected (.value none "TypeError: Cannot read property 'code' of undefined"))
  | .error (.value code message) =>
    if code = some "MODULE_NOT_FOUND" then
      ([hint, message], .rejected (.value code message))
    else ([], .pending)

/-- `require(scriptPath)`, then `new`. -/
def construct (env : Modules Instance) (index : Nat) (scriptPath : String)
    (arguments : List String) : Except Thrown Instance := do
  let Class ← env.require index scriptPath
  Class arguments

/-- Printed by `getHandlerModule`. -/
def handlersHint : String :=
  "Dependencies for some of the handlers not installed. " ++
    "Please run device-manager/handlers/install-handlers.js before starting the platform. "

/-- `getHandlerModule`: a handler is given its name. -/
def getHandlerModule (env : Modules Instance) (index : Nat)
    (handlerName handlerScriptPath : String) : List String × PromiseState Thrown Instance :=
  getModule handlersHint (construct env index handlerScriptPath [handlerName])

/-- Printed by `getPublisherModule`. -/
def publishersHint : String :=
  "Dependencies for some of the publishers not installed. " ++
    "Please run data-publish-manager/publishers/install-publishers.js before starting the platform."

/-- `getPublisherModule`. -/
def getPublisherModule (env : Modules Instance) (index : Nat)
    (_publisherName publisherScriptPath : String) : List String × PromiseState Thrown Instance :=
  getModule publishersHint (construct env index publisherScriptPath [])

/-- `handlerObjMap`. -/
def handlerObjMap (handlerNames : List String) (handlerModules : List Instance) :
    JsObject Instance :=
  (handlerNames.zip handlerModules).foldl (fun map p ↦ map.set p.1 p.2) .empty

/-- `loadHandlers`, lines 16–48: the aggregate is awaited, and its rejection caught. -/
def loadHandlers (env : Modules Instance) (file : ConfigFile N) :
    Loading (Option (JsObject Instance)) :=
  match getHandlers file with
  | (printed, none) => ⟨printed, .fulfilled none⟩
  | (printed, some .null) => ⟨printed, .fulfilled none⟩
  | (printed, some handlersJson) =>
    match mainScriptPaths env handlersJson with
    | .error thrown => ⟨printed, .rejected thrown⟩
    | .ok mainScriptPaths =>
      let handlerNames := handlersJson.ownEntries.map Prod.fst
      let handlerModules := (handlerNames.zip mainScriptPaths).mapIdx fun index p ↦
        getHandlerModule env index p.1 p.2
      ⟨printed ++ handlerModules.flatMap Prod.fst,
        ((PromiseState.all (handlerModules.map Prod.snd)).map fun handlerModules ↦
          some (handlerObjMap handlerNames handlerModules)).recover none⟩

/-- `loadPublishers`, lines 10–33: the aggregate is returned out of the `try` block. -/
def loadPublishers (env : Modules Instance) (file : ConfigFile N) :
    Loading (Option (List Instance)) :=
  match getPublishersDetails file with
  | (printed, none) => ⟨printed, .fulfilled none⟩
  | (printed, some .null) => ⟨printed, .fulfilled none⟩
  | (printed, some publisherDetails) =>
    match mainScriptPaths env publisherDetails with
    | .error thrown => ⟨printed, .rejected thrown⟩
    | .ok mainScriptPaths =>
      let publisherNames := publisherDetails.ownEntries.map Prod.fst
      let publisherModules := (publisherNames.zip mainScriptPaths).mapIdx fun index p ↦
        getPublisherModule env index p.1 p.2
      ⟨printed ++ publisherModules.flatMap Prod.fst,
        (PromiseState.all (publisherModules.map Prod.snd)).map some⟩

/-! ### Documented results -/

/-- What the configuration lists. -/
def ConfigFile.entries : ConfigFile N → List (String × Json N)
  | .content json => json.ownEntries
  | _ => []

@[simp] theorem ConfigFile.entries_content (json : Json N) :
    (ConfigFile.content json).entries = json.ownEntries := rfl

/-- What requiring and constructing the module of an entry gives. -/
def Attempted (env : Modules Instance) (arguments : String → List String)
    (entries : List (String × Json N)) (index : Nat) (name : String)
    (result : Except Thrown Instance) : Prop :=
  ∃ value path, entries[index]? = some (name, value) ∧ scriptPath env (name, value) = .ok path ∧
    construct env index path (arguments name) = result

/-- The module of some entry throws. -/
def Throws (env : Modules Instance) (arguments : String → List String)
    (entries : List (String × Json N)) (thrown : Thrown) : Prop :=
  ∃ index name, Attempted env arguments entries index name (.error thrown)

/-- Every entry has a main script. -/
def NamesScripts (entries : List (String × Json N)) : Prop :=
  ∀ entry ∈ entries, ∃ main, entry.2.get? "main" = .ok (some (.string main))

/-- What is thrown that rejects the promise of a module. -/
def Thrown.Rejects : Thrown → Prop
  | .null => True
  | .undefined => True
  | .value code _ => code = some "MODULE_NOT_FOUND"

/-- `new HandlerClass(handlerName)`. -/
def handlerArguments (handlerName : String) : List String := [handlerName]

/-- `new PublisherClass()`. -/
def publisherArguments (_publisherName : String) : List String := []

/-- `@return {Promise<{}|null>}`: a map with the handler of every entry, or `null`. -/
def HandlersDocumented (env : Modules Instance) (file : ConfigFile N)
    (outcome : PromiseState Thrown (Option (JsObject Instance))) : Prop :=
  outcome = .fulfilled none ∨ ∃ map, outcome = .fulfilled (some map) ∧
    ∀ entry ∈ file.entries, ∃ instanceOf index, map.get? entry.1 = some instanceOf ∧
      Attempted env handlerArguments file.entries index entry.1 (.ok instanceOf)

/-- `@return {Promise<[module]|null>}`: the publishers of all entries, or `null`. -/
def PublishersDocumented (env : Modules Instance) (file : ConfigFile N)
    (outcome : PromiseState Thrown (Option (List Instance))) : Prop :=
  outcome = .fulfilled none ∨ ∃ list, outcome = .fulfilled (some list) ∧
    list.length = file.entries.length ∧
    ∀ index instanceOf, list[index]? = some instanceOf →
      ∃ name, Attempted env publisherArguments file.entries index name (.ok instanceOf)

/-! ### Aggregates -/

/-- Script paths are found exactly if every entry has a main script. -/
theorem exists_mainScriptPaths_iff (env : Modules Instance) {json : Json N} :
    (∃ paths, mainScriptPaths env json = .ok paths) ↔ NamesScripts json.ownEntries := by
  rw [mainScriptPaths, exists_mapM_eq_ok_iff, NamesScripts]
  apply forall₂_congr
  intro entry _
  unfold scriptPath
  split
  · next h => simp [h]
  · next h => simp [h]
  · next hno h =>
    constructor
    · rintro ⟨path, hpath⟩
      cases hpath
    · rintro ⟨main, hmain⟩
      exact absurd (Except.ok.inj (h.symm.trans hmain)) (hno main)

/-- Some entry has none where no paths are found. -/
theorem not_namesScripts_of_error {env : Modules Instance} {json : Json N} {thrown : Thrown}
    (h : mainScriptPaths env json = .error thrown) : ¬ NamesScripts json.ownEntries := by
  rw [← exists_mainScriptPaths_iff env]
  rintro ⟨paths, hpaths⟩
  cases h.symm.trans hpaths

/-- Requiring and constructing all modules in turn. -/
def attempts (env : Modules Instance) (arguments : String → List String)
    (names paths : List String) : List (Except Thrown Instance) :=
  (names.zip paths).mapIdx fun index p ↦ construct env index p.2 (arguments p.1)

/-- Each attempt is one of an entry. -/
theorem getElem?_attempts {env : Modules Instance} {json : Json N} {paths : List String}
    (h : mainScriptPaths env json = .ok paths) (arguments : String → List String) (index : Nat)
    (result : Except Thrown Instance) :
    (attempts env arguments (json.ownEntries.map Prod.fst) paths)[index]? = some result ↔
      ∃ name, Attempted env arguments json.ownEntries index name result := by
  have hpaths := getElem?_of_mapM_eq_ok h index
  rw [attempts, List.getElem?_mapIdx, Option.map_eq_some_iff]
  constructor
  · rintro ⟨⟨name, path⟩, hp, hresult⟩
    obtain ⟨hname, hpath⟩ := List.getElem?_zip_eq_some.mp hp
    rw [List.getElem?_map, Option.map_eq_some_iff] at hname
    obtain ⟨⟨_, value⟩, hentry, rfl⟩ := hname
    obtain ⟨entry, hentry', hscript⟩ := (hpaths path).mp hpath
    obtain rfl := Option.some.inj (hentry.symm.trans hentry')
    exact ⟨_, value, path, hentry, hscript, hresult⟩
  · rintro ⟨name, value, path, hentry, hscript, hresult⟩
    have hpath := (hpaths path).mpr ⟨_, hentry, hscript⟩
    refine ⟨(name, path), List.getElem?_zip_eq_some.mpr ⟨?_, hpath⟩, hresult⟩
    rw [List.getElem?_map, hentry, Option.map_some]

/-- One attempt is made for each entry. -/
theorem length_attempts {env : Modules Instance} {json : Json N} {paths : List String}
    (h : mainScriptPaths env json = .ok paths) (arguments : String → List String) :
    (attempts env arguments (json.ownEntries.map Prod.fst) paths).length =
      json.ownEntries.length := by
  have hpaths : paths.length = json.ownEntries.length := length_of_mapM_eq_ok h
  rw [attempts, List.length_mapIdx, List.length_zip, List.length_map, hpaths, Nat.min_self]

/-- A module throws exactly if an attempt does. -/
theorem throws_iff {env : Modules Instance} {json : Json N} {paths : List String}
    (h : mainScriptPaths env json = .ok paths) (arguments : String → List String)
    (thrown : Thrown) :
    Throws env arguments json.ownEntries thrown ↔
      .error thrown ∈ attempts env arguments (json.ownEntries.map Prod.fst) paths := by
  rw [List.mem_iff_getElem?]
  exact exists_congr fun index ↦ (getElem?_attempts h arguments index _).symm

/-- The promise of a module is fulfilled exactly if it could be constructed. -/
theorem getModule_eq_fulfilled_iff {hint : String} {attempt : Except Thrown Instance}
    {module : Instance} :
    (getModule hint attempt).2 = .fulfilled module ↔ attempt = .ok module := by
  unfold getModule
  split
  · simp
  · simp
  · simp
  · split <;> simp

/-- It is rejected exactly for some of what can be thrown. -/
theorem exists_getModule_eq_rejected_iff (hint : String) (attempt : Except Thrown Instance) :
    (∃ reason, (getModule hint attempt).2 = .rejected reason) ↔
      ∃ thrown, thrown.Rejects ∧ .error thrown = attempt := by
  unfold getModule
  split
  · simp
  · exact iff_of_true ⟨_, rfl⟩ ⟨.null, trivial, rfl⟩
  · exact iff_of_true ⟨_, rfl⟩ ⟨.undefined, trivial, rfl⟩
  · next code message =>
    split
    · next hcode => exact iff_of_true ⟨_, rfl⟩ ⟨.value code message, hcode, rfl⟩
    · next hcode => simpa [Thrown.Rejects] using hcode

section Modules

variable (hint : String) {results : List (Except Thrown Instance)}

/-- All modules are loaded exactly if all could be constructed. -/
theorem all_modules_eq_fulfilled_iff {modules : List Instance} :
    PromiseState.all (results.map fun attempt ↦ (getModule hint attempt).2) = .fulfilled modules ↔
      results = modules.map .ok := by
  rw [PromiseState.all_eq_fulfilled_iff]
  induction results generalizing modules with
  | nil => simp
  | cons attempt results ih =>
    cases modules with
    | nil => simp
    | cons module modules =>
      rw [List.map_cons, List.map_cons, List.map_cons, List.cons.injEq, List.cons.injEq, ih,
        getModule_eq_fulfilled_iff]

/-- Their aggregate is rejected exactly if one is. -/
theorem exists_all_modules_eq_rejected_iff :
    (∃ reason, PromiseState.all (results.map fun attempt ↦ (getModule hint attempt).2) =
      .rejected reason) ↔ ∃ thrown : Thrown, thrown.Rejects ∧ .error thrown ∈ results := by
  rw [PromiseState.exists_all_eq_rejected_iff]
  constructor
  · rintro ⟨reason, hreason⟩
    obtain ⟨attempt, hmem, heq⟩ := List.mem_map.mp hreason
    obtain ⟨thrown, hrejects, rfl⟩ := (exists_getModule_eq_rejected_iff hint _).mp ⟨reason, heq⟩
    exact ⟨thrown, hrejects, hmem⟩
  · rintro ⟨thrown, hrejects, hmem⟩
    obtain ⟨reason, hreason⟩ :=
      (exists_getModule_eq_rejected_iff hint _).mpr ⟨thrown, hrejects, rfl⟩
    exact ⟨reason, List.mem_map.mpr ⟨_, hmem, hreason⟩⟩

/-- Nothing is thrown exactly if all could be constructed. -/
theorem exists_eq_map_ok_iff :
    (∃ modules : List Instance, results = modules.map .ok) ↔ ∀ thrown, .error thrown ∉ results := by
  induction results with
  | nil => exact iff_of_true ⟨[], rfl⟩ nofun
  | cons attempt results ih =>
    cases attempt with
    | error thrown =>
      apply iff_of_false
      · rintro ⟨modules, h⟩
        cases modules <;> cases h
      · exact fun h ↦ h thrown List.mem_cons_self
    | ok module =>
      simp only [List.mem_cons, reduceCtorEq, false_or]
      rw [← ih]
      constructor
      · rintro ⟨modules, h⟩
        cases modules with
        | nil => cases h
        | cons other modules => exact ⟨modules, (List.cons.inj h).2⟩
      · rintro ⟨modules, rfl⟩
        exact ⟨module :: modules, rfl⟩

end Modules

/-! ### Loaders -/

/-- Nothing is loaded without a configuration. -/
theorem load_of_entries (env : Modules Instance) (file : ConfigFile N) :
    (file.entries = [] ∧ (loadHandlers env file).outcome = .fulfilled none ∧
      (loadPublishers env file).outcome = .fulfilled none) ∨
    ∃ json, file = .content json ∧ json ≠ .null := by
  cases file with
  | missing => exact .inl ⟨rfl, rfl, rfl⟩
  | unreadable => exact .inl ⟨rfl, rfl, rfl⟩
  | malformed => exact .inl ⟨rfl, rfl, rfl⟩
  | content json =>
    cases json with
    | null => exact .inl ⟨rfl, rfl, rfl⟩
    | bool value => exact .inr ⟨_, rfl, nofun⟩
    | number value => exact .inr ⟨_, rfl, nofun⟩
    | string value => exact .inr ⟨_, rfl, nofun⟩
    | array elements => exact .inr ⟨_, rfl, nofun⟩
    | object properties => exact .inr ⟨_, rfl, nofun⟩

/-- Without a script for every entry both loaders are rejected. -/
theorem load_of_error {env : Modules Instance} {json : Json N} (hjson : json ≠ .null)
    {thrown : Thrown} (h : mainScriptPaths env json = .error thrown) :
    (loadHandlers env (.content json)).outcome = .rejected thrown ∧
      (loadPublishers env (.content json)).outcome = .rejected thrown := by
  unfold loadHandlers loadPublishers
  cases json with
  | null => exact absurd rfl hjson
  | _ => simp [getHandlers, getPublishersDetails, getDetails, h]

/-- The modules of all entries, in the order of the entries. -/
theorem map_modules_eq {f : Nat → String → String → List String × PromiseState Thrown Instance}
    {env : Modules Instance} {hint : String} (arguments : String → List String)
    (h : ∀ index name path, f index name path =
      getModule hint (construct env index path (arguments name))) (names paths : List String) :
    ((names.zip paths).mapIdx fun index p ↦ f index p.1 p.2).map Prod.snd =
      (attempts env arguments names paths).map fun attempt ↦ (getModule hint attempt).2 := by
  apply List.ext_getElem?
  intro index
  simp [attempts, h, Function.comp_def]

/-- The handlers' aggregate, caught. -/
theorem loadHandlers_of_ok {env : Modules Instance} {json : Json N} (hjson : json ≠ .null)
    {paths : List String} (h : mainScriptPaths env json = .ok paths) :
    (loadHandlers env (.content json)).outcome =
      ((PromiseState.all ((attempts env handlerArguments (json.ownEntries.map Prod.fst) paths).map
        fun attempt ↦ (getModule handlersHint attempt).2)).map fun handlerModules ↦
          some (handlerObjMap (json.ownEntries.map Prod.fst) handlerModules)).recover none := by
  rw [← map_modules_eq (f := getHandlerModule env) handlerArguments fun _ _ _ ↦ rfl]
  unfold loadHandlers
  cases json with
  | null => exact absurd rfl hjson
  | _ => simp [getHandlers, getDetails, h]

/-- The publishers' aggregate. -/
theorem loadPublishers_of_ok {env : Modules Instance} {json : Json N} (hjson : json ≠ .null)
    {paths : List String} (h : mainScriptPaths env json = .ok paths) :
    (loadPublishers env (.content json)).outcome =
      (PromiseState.all ((attempts env publisherArguments (json.ownEntries.map Prod.fst) paths).map
        fun attempt ↦ (getModule publishersHint attempt).2)).map some := by
  rw [← map_modules_eq (f := getPublisherModule env) publisherArguments fun _ _ _ ↦ rfl]
  unfold loadPublishers
  cases json with
  | null => exact absurd rfl hjson
  | _ => simp [getPublishersDetails, getDetails, h]

/-- Each name has one of the modules loaded under it. -/
theorem exists_get?_handlerObjMap {handlerNames : List String} {handlerModules : List Instance}
    (hlength : handlerNames.length ≤ handlerModules.length) {name : String}
    (hname : name ∈ handlerNames) :
    ∃ (module : Instance) (index : Nat),
      (handlerObjMap handlerNames handlerModules).get? name = some module ∧
      handlerNames[index]? = some name ∧ handlerModules[index]? = some module := by
  have hmem : name ∈ (handlerNames.zip handlerModules).map Prod.fst := by
    rw [List.map_fst_zip hlength]
    exact hname
  obtain ⟨module, hzip, hget⟩ := JsObject.exists_get?_foldl_set hmem .empty
  obtain ⟨index, hindex⟩ := List.mem_iff_getElem?.mp hzip
  obtain ⟨hat, hmodule⟩ := List.getElem?_zip_eq_some.mp hindex
  exact ⟨module, index, hget, hat, hmodule⟩

/-- Where all could be constructed, the map has a module for every entry. -/
theorem handlerObjMap_of_attempts {env : Modules Instance} {json : Json N} {paths : List String}
    (hpaths : mainScriptPaths env json = .ok paths) {modules : List Instance}
    (hmodules : attempts env handlerArguments (json.ownEntries.map Prod.fst) paths =
      modules.map .ok) {entry : String × Json N} (hentry : entry ∈ json.ownEntries) :
    ∃ instanceOf index,
      (handlerObjMap (json.ownEntries.map Prod.fst) modules).get? entry.1 = some instanceOf ∧
        Attempted env handlerArguments json.ownEntries index entry.1 (.ok instanceOf) := by
  have hlength := length_attempts hpaths handlerArguments
  rw [hmodules, List.length_map] at hlength
  have hle : (json.ownEntries.map Prod.fst).length ≤ modules.length := by
    rw [List.length_map, hlength]
  obtain ⟨module, index, hget, hname, hmodule⟩ :=
    exists_get?_handlerObjMap hle (List.mem_map_of_mem hentry)
  have hresult : (attempts env handlerArguments (json.ownEntries.map Prod.fst) paths)[index]? =
      some (.ok module) := by
    rw [hmodules, List.getElem?_map, hmodule, Option.map_some]
  obtain ⟨name, value, path, hat, hattempted⟩ :=
    (getElem?_attempts hpaths handlerArguments index _).mp hresult
  rw [List.getElem?_map, hat, Option.map_some] at hname
  obtain rfl := Option.some.inj hname
  exact ⟨module, index, hget, value, path, hat, hattempted⟩

/-- Nothing is configured, and nothing throws. -/
theorem not_throws_nil (env : Modules Instance) (arguments : String → List String)
    (thrown : Thrown) : ¬ Throws (N := N) env arguments [] thrown := by
  rintro ⟨index, name, value, path, hentry, -⟩
  cases hentry

/-- Handlers are loaded as documented exactly if each has a main script, and no module throws or one
throws what is caught. -/
theorem handlersDocumented_iff (env : Modules Instance) (file : ConfigFile N) :
    HandlersDocumented env file (loadHandlers env file).outcome ↔
      NamesScripts file.entries ∧
        ((∀ thrown, ¬ Throws env handlerArguments file.entries thrown) ∨
          ∃ thrown : Thrown, thrown.Rejects ∧
            Throws env handlerArguments file.entries thrown) := by
  rcases load_of_entries env file with ⟨hentries, houtcome, -⟩ | ⟨json, rfl, hjson⟩
  · rw [hentries]
    exact iff_of_true (.inl houtcome) ⟨nofun, .inl (not_throws_nil env handlerArguments)⟩
  rw [ConfigFile.entries_content]
  cases hpaths : mainScriptPaths env json with
  | error thrown =>
    rw [(load_of_error hjson hpaths).1]
    apply iff_of_false
    · rintro (h | ⟨map, h, -⟩) <;> cases h
    · exact fun h ↦ not_namesScripts_of_error hpaths h.1
  | ok paths =>
    have hnames : NamesScripts json.ownEntries :=
      (exists_mainScriptPaths_iff env).mp ⟨paths, hpaths⟩
    rw [and_iff_right hnames, loadHandlers_of_ok hjson hpaths]
    simp only [throws_iff hpaths handlerArguments]
    rw [← exists_eq_map_ok_iff, ← exists_all_modules_eq_rejected_iff handlersHint]
    simp only [← all_modules_eq_fulfilled_iff handlersHint]
    cases hall : PromiseState.all ((attempts env handlerArguments (json.ownEntries.map Prod.fst)
        paths).map fun attempt ↦ (getModule handlersHint attempt).2) with
    | pending =>
      apply iff_of_false
      · rintro (h | ⟨map, h, -⟩) <;> cases h
      · rintro (⟨modules, h⟩ | ⟨reason, h⟩) <;> cases h
    | rejected reason => exact iff_of_true (.inl rfl) (.inr ⟨reason, rfl⟩)
    | fulfilled modules =>
      have hmodules := (all_modules_eq_fulfilled_iff handlersHint).mp hall
      exact iff_of_true (.inr ⟨_, rfl, fun entry ↦ handlerObjMap_of_attempts hpaths hmodules⟩)
        (.inl ⟨modules, rfl⟩)

/-- Publishers are loaded as documented exactly if each has a main script and no module throws. -/
theorem publishersDocumented_iff (env : Modules Instance) (file : ConfigFile N) :
    PublishersDocumented env file (loadPublishers env file).outcome ↔
      NamesScripts file.entries ∧
        ∀ thrown, ¬ Throws env publisherArguments file.entries thrown := by
  rcases load_of_entries env file with ⟨hentries, -, houtcome⟩ | ⟨json, rfl, hjson⟩
  · rw [hentries]
    exact iff_of_true (.inl houtcome) ⟨nofun, not_throws_nil env publisherArguments⟩
  rw [ConfigFile.entries_content]
  cases hpaths : mainScriptPaths env json with
  | error thrown =>
    rw [(load_of_error hjson hpaths).2]
    apply iff_of_false
    · rintro (h | ⟨map, h, -⟩) <;> cases h
    · exact fun h ↦ not_namesScripts_of_error hpaths h.1
  | ok paths =>
    have hnames : NamesScripts json.ownEntries :=
      (exists_mainScriptPaths_iff env).mp ⟨paths, hpaths⟩
    rw [and_iff_right hnames, loadPublishers_of_ok hjson hpaths]
    simp only [throws_iff hpaths publisherArguments]
    rw [← exists_eq_map_ok_iff]
    simp only [← all_modules_eq_fulfilled_iff publishersHint]
    cases hall : PromiseState.all ((attempts env publisherArguments (json.ownEntries.map Prod.fst)
        paths).map fun attempt ↦ (getModule publishersHint attempt).2) with
    | pending =>
      apply iff_of_false
      · rintro (h | ⟨map, h, -⟩) <;> cases h
      · rintro ⟨modules, h⟩
        cases h
    | rejected reason =>
      apply iff_of_false
      · rintro (h | ⟨map, h, -⟩) <;> cases h
      · rintro ⟨modules, h⟩
        cases h
    | fulfilled modules =>
      have hmodules := (all_modules_eq_fulfilled_iff publishersHint).mp hall
      have hlength := length_attempts hpaths publisherArguments
      rw [hmodules, List.length_map] at hlength
      refine iff_of_true (.inr ⟨modules, rfl, hlength, ?_⟩) ⟨modules, rfl⟩
      intro index module hmodule
      apply (getElem?_attempts hpaths publisherArguments index _).mp
      rw [hmodules, List.getElem?_map, hmodule, Option.map_some]

/-- Both loaders do what they document exactly if each entry has a main script and no module throws,
or for handlers if one throws what is caught. -/
theorem loaders_documented_iff (env : Modules Instance) (file : ConfigFile N) :
    (HandlersDocumented env file (loadHandlers env file).outcome ↔
      NamesScripts file.entries ∧
        ((∀ thrown, ¬ Throws env handlerArguments file.entries thrown) ∨
          ∃ thrown : Thrown, thrown.Rejects ∧
            Throws env handlerArguments file.entries thrown)) ∧
    (PublishersDocumented env file (loadPublishers env file).outcome ↔
      NamesScripts file.entries ∧
        ∀ thrown, ¬ Throws env publisherArguments file.entries thrown) :=
  ⟨handlersDocumented_iff env file, publishersDocumented_iff env file⟩

/-- One module, as the platform lists it. -/
def singleEntry : ConfigFile Nat :=
  .content (.object [("sif-cloud", .object [("main", .string "sif-cloud.js")])])

/-- Its file is there, and requiring it has the given result. -/
def singleModule (result : Except Thrown (List String → Except Thrown Unit)) : Modules Unit where
  dirname := "/platform"
  join components := "/".intercalate components
  require _ _ := result

/-- A constructor that throws leaves the handlers' promise pending; a dependency that is not
installed rejects the publishers' promise. -/
theorem loading_undocumented :
    ¬ HandlersDocumented
      (singleModule (.ok fun _ ↦ .error (.value none "TypeError: noble is not a function")))
      singleEntry (loadHandlers (singleModule (.ok fun _ ↦
        .error (.value none "TypeError: noble is not a function"))) singleEntry).outcome ∧
    ¬ PublishersDocumented
      (singleModule (.error (.value (some "MODULE_NOT_FOUND") "Cannot find module 'influx'")))
      singleEntry (loadPublishers (singleModule (.error
        (.value (some "MODULE_NOT_FOUND") "Cannot find module 'influx'"))) singleEntry).outcome := by
  have hhandlers : (loadHandlers (singleModule (.ok fun _ ↦
      .error (.value none "TypeError: noble is not a function"))) singleEntry).outcome =
      .pending := rfl
  have hpublishers : (loadPublishers (singleModule (.error
      (.value (some "MODULE_NOT_FOUND") "Cannot find module 'influx'"))) singleEntry).outcome =
      .rejected (.value (some "MODULE_NOT_FOUND") "Cannot find module 'influx'") := rfl
  constructor
  · rw [hhandlers]
    rintro (h | ⟨map, h, -⟩) <;> cases h
  · rw [hpublishers]
    rintro (h | ⟨list, h, -⟩) <;> cases h

end NexusEdge.Platform
