import NexusEdge.Apps.Scheduler

/-!
# Deployment requests between gateways

Library `Api`. The multipart requests of `utils.js:296–332` with `http-file-transfer.js:10–33`, the
routes that take them, `routes.js:29–33`, their controllers, `gateway-api-controller.js:120–189`,
and the listeners of the app manager, `app-manager.js:352–389`. The sender names its files `app`
and `metadata`. The route for execution does not take these names; the route for watching does,
but its controller looks for others, and sends the paths under names that the listener does not
read.
-/

namespace NexusEdge.Api
open NexusEdge.Base NexusEdge.Platform NexusEdge.Apps

/-- `JSON.stringify` and `JSON.parse` on link graphs. -/
structure LinkGraphText where
  stringify : LinkGraph → String
  parse : String → Except String LinkGraph

/-- A value of `formData`, `http-file-transfer.js:11–20`. -/
inductive FormValue where
  | text (value : String)
  | file (path : Path)
  | undefined
  deriving DecidableEq

/-- The file of a form field. -/
def FormValue.file? : FormValue → Option Path
  | .file path => some path
  | .text _ | .undefined => none

/-- The text of a form field. -/
def FormValue.text? : FormValue → Option String
  | .text value => some value
  | .file _ | .undefined => none

/-- `transferFiles`, `http-file-transfer.js:10–33`: the form that is posted. -/
def transferFiles (files : JsObject Path) (textFields : JsObject FormValue) : JsObject FormValue :=
  files.ownEntries.foldl (fun formData entry ↦ formData.set entry.1 (.file entry.2))
    (JsObject.empty.assign textFields)

/-- `appFiles`, `scheduler.js:148–151`, as an object. -/
def appFilesObject (appFiles : AppFiles) : JsObject Path :=
  (JsObject.empty.set "app" appFiles.app).set "metadata" appFiles.metadata

/-- `executeAppOnGateway`, `utils.js:310–316`. -/
def executeAppOnGateway (json : LinkGraphText) (appFiles : AppFiles) (appId : String)
    (linkGraph : Option LinkGraph) : JsObject FormValue :=
  transferFiles (appFilesObject appFiles) ((JsObject.empty.set "appId" (.text appId)).set "linkGraph"
    (linkGraph.elim .undefined fun linkGraph ↦ .text (json.stringify linkGraph)))

/-- `watchAppOnGateway`, `utils.js:326–332`. -/
def watchAppOnGateway (appFiles : AppFiles) (appId executorGatewayId : String) :
    JsObject FormValue :=
  transferFiles (appFilesObject appFiles) ((JsObject.empty.set "appId" (.text appId)).set
    "executorGatewayId" (.text executorGatewayId))

/-! ### The routes -/

/-- A request as the upload middleware hands it on. -/
structure UploadedRequest where
  body : JsObject String
  files : JsObject (List Path)

/-- The fields of a form that carry a part of this kind. -/
def parts {α : Type} (part? : FormValue → Option α) (form : JsObject FormValue) :
    List (String × α) :=
  form.ownEntries.filterMap fun entry ↦ (part? entry.2).map fun value ↦ (entry.1, value)

/-- `uploader.fields(fields)`: what the middleware makes of a posted form. -/
abbrev Uploader := List String → JsObject FormValue → Except String UploadedRequest

/-- What the code relies on in multer; `store` tells where an uploaded file is stored. -/
structure Uploader.Documented (upload : Uploader) (store : Path → Path) : Prop where
  /-- Exactly the forms with files in the listed fields only are taken. -/
  accepts : ∀ fields form, (∃ req, upload fields form = .ok req) ↔
    ∀ name path, form.get? name = some (.file path) → name ∈ fields
  /-- Files are listed under the names of their fields. -/
  files : ∀ fields form req, upload fields form = .ok req → ∀ name,
    req.files.get? name = ((form.get? name).bind FormValue.file?).map fun path ↦ [store path]
  /-- Text fields are in the body. -/
  body : ∀ fields form req, upload fields form = .ok req → ∀ name,
    req.body.get? name = (form.get? name).bind FormValue.text?

/-- An uploader of this kind: a file under another field name is an error. -/
def uploadFields (store : Path → Path) (fields : List String) (form : JsObject FormValue) :
    Except String UploadedRequest :=
  if (parts FormValue.file? form).all fun entry ↦ entry.1 ∈ fields then
    .ok
      { body := (parts FormValue.text? form).foldl (fun body entry ↦ body.set entry.1 entry.2)
          JsObject.empty
        files := ((parts FormValue.file? form).map fun entry ↦ (entry.1, [store entry.2])).foldl
          (fun files entry ↦ files.set entry.1 entry.2) JsObject.empty }
  else .error "Unexpected field"

/-- Fields of `/gateway/execute-app`, `routes.js:30`. -/
def executeAppFields : List String := ["appPackage", "deployMetadata"]

/-- Fields of `/gateway/watch-app`, `routes.js:32`. -/
def watchAppFields : List String := ["app", "metadata"]

/-! ### Controllers and listeners -/

/-- A parameter of a query. -/
inductive QueryParam where
  | text (value : String)
  | path (value : Path)
  | linkGraph (value : LinkGraph)
  deriving DecidableEq

/-- `req["files"][name][0]["path"]`; an exception when there is no such file. -/
def UploadedRequest.filePath (req : UploadedRequest) (name : String) : Except String Path :=
  match req.files.get? name with
  | some (path :: _) => .ok path
  | some [] | none => .error "TypeError: Cannot read property '0' of undefined"

/-- `executeApp`, `gateway-api-controller.js:120–138`: the parameters of the query, or why none is
made. -/
def executeApp (json : LinkGraphText) (req : UploadedRequest) :
    Except String (JsObject QueryParam) := do
  let appId := (req.body.get? "appId").getD ""
  let linkGraph ← match req.body.get? "linkGraph" with
    | some "" | none => .ok none
    | some text => (json.parse text).map some
  if appId = "" then .error "no app id provided!"
  else
    let packagePath ← req.filePath "appPackage"
    let deployMetadataPath ← req.filePath "deployMetadata"
    let params := JsObject.empty.set "appId" (QueryParam.text appId)
    let params :=
      linkGraph.elim params fun linkGraph ↦ params.set "linkGraph" (.linkGraph linkGraph)
    return (params.set "packagePath" (.path packagePath)).set "deployMetadataPath"
      (.path deployMetadataPath)

/-- `watchApp`, `gateway-api-controller.js:163–183`: the parameters of the query, or why none is
made. -/
def watchApp (req : UploadedRequest) : Except String (JsObject QueryParam) :=
  let appId := (req.body.get? "appId").getD ""
  let executorGatewayId := (req.body.get? "executorGatewayId").getD ""
  if appId = "" ∨ executorGatewayId = "" then
    .error "no app id or executor gateway id provided!"
  else do
    let appPath ← req.filePath "appPackage"
    let metadataPath ← req.filePath "deployMetadata"
    let params := (JsObject.empty.set "appId" (QueryParam.text appId)).set "executorGatewayId"
      (.text executorGatewayId)
    return (params.set "appPath" (.path appPath)).set "metadataPath" (.path metadataPath)

/-- The arguments of `executeApplication` in the `execute-app` listener; none is `undefined`. -/
structure ExecuteCall where
  appId : Option QueryParam
  linkGraph : Option QueryParam
  tempAppPath : Option QueryParam
  tempMetadataPath : Option QueryParam
  deriving DecidableEq

/-- The `execute-app` listener, `app-manager.js:353–357`. -/
def executeAppListener (params : JsObject QueryParam) : ExecuteCall :=
  ⟨params.get? "appId", params.get? "linkGraph", params.get? "packagePath",
    params.get? "deployMetadataPath"⟩

/-- The arguments of `watcher.watch` in the `watch-app` listener; none is `undefined`. -/
structure WatchCall where
  appId : Option QueryParam
  executorGatewayId : Option QueryParam
  tempAppPath : Option QueryParam
  tempMetadataPath : Option QueryParam
  deriving DecidableEq

/-- The `watch-app` listener, `app-manager.js:373–377`. -/
def watchAppListener (params : JsObject QueryParam) : WatchCall :=
  ⟨params.get? "appId", params.get? "executorGatewayId", params.get? "packagePath",
    params.get? "deployMetadataPath"⟩

/-- What a posted form makes the app manager execute. -/
def executeDelivered (upload : Uploader) (json : LinkGraphText) (form : JsObject FormValue) :
    Except String ExecuteCall := do
  let req ← upload executeAppFields form
  let params ← executeApp json req
  return executeAppListener params

/-- What a posted form makes the app manager watch. -/
def watchDelivered (upload : Uploader) (form : JsObject FormValue) : Except String WatchCall := do
  let req ← upload watchAppFields form
  let params ← watchApp req
  return watchAppListener params

section Delivery

variable (upload : Uploader) (store : Path → Path) (json : LinkGraphText) (appFiles : AppFiles)
  (appId : String)

/-- The request of `executeAppOnGateway` reaches `executeApplication` with its data. -/
def ExecuteReaches (linkGraph : Option LinkGraph) : Prop :=
  executeDelivered upload json (executeAppOnGateway json appFiles appId linkGraph) =
    .ok ⟨some (.text appId), linkGraph.map .linkGraph, some (.path (store appFiles.app)),
      some (.path (store appFiles.metadata))⟩

/-- The request of `watchAppOnGateway` reaches `watch` with its data. -/
def WatchReaches (executorGatewayId : String) : Prop :=
  watchDelivered upload (watchAppOnGateway appFiles appId executorGatewayId) =
    .ok ⟨some (.text appId), some (.text executorGatewayId), some (.path (store appFiles.app)),
      some (.path (store appFiles.metadata))⟩

end Delivery

/-! ### What becomes of the files -/

/-- A form posted with files carries them under the names given. -/
theorem get?_transferFiles (files : JsObject Path) (textFields : JsObject FormValue)
    (name : String) : (transferFiles files textFields).get? name =
      ((files.get? name).map .file).or (textFields.get? name) := by
  rw [transferFiles, JsObject.get?_foldl_set_ownEntries, JsObject.get?_assign]
  cases textFields.get? name <;> rfl

/-- The parts of a form by their field names. -/
theorem mem_parts {α : Type} {part? : FormValue → Option α} {form : JsObject FormValue}
    {name : String} {value : α} :
    (name, value) ∈ parts part? form ↔ ∃ v, form.get? name = some v ∧ part? v = some value := by
  simp only [parts, List.mem_filterMap, Option.map_eq_some_iff, Prod.mk.injEq]
  constructor
  · rintro ⟨⟨_, v⟩, hmem, _, hpart, rfl, rfl⟩
    exact ⟨v, (JsObject.mem_ownEntries_iff _ _ _).mp hmem, hpart⟩
  · rintro ⟨v, hget, hpart⟩
    exact ⟨(name, v), (JsObject.mem_ownEntries_iff _ _ _).mpr hget, value, hpart, rfl, rfl⟩

private theorem nodup_parts {α : Type} (part? : FormValue → Option α) (form : JsObject FormValue) :
    ((parts part? form).map Prod.fst).Nodup := by
  have hsublist (l : List (String × FormValue)) : ((l.filterMap fun entry ↦
      (part? entry.2).map fun value ↦ (entry.1, value)).map Prod.fst).Sublist (l.map Prod.fst) := by
    induction l with
    | nil => exact List.Sublist.slnil
    | cons entry l ih =>
      rw [List.filterMap_cons, List.map_cons]
      cases part? entry.2 with
      | none => exact ih.cons entry.1
      | some value => exact ih.cons_cons entry.1
  exact (hsublist form.ownEntries).nodup form.nodup_keys

/-- An object that is filled with parts of a form has them under the names of their fields. -/
private theorem get?_foldl_parts {α β : Type} (part? : FormValue → Option α) (g : α → β)
    (form : JsObject FormValue) (name : String) :
    (((parts part? form).map fun entry ↦ (entry.1, g entry.2)).foldl
      (fun object entry ↦ object.set entry.1 entry.2) JsObject.empty).get? name =
        ((form.get? name).bind part?).map g := by
  have hkeys : (((parts part? form).map fun entry ↦ (entry.1, g entry.2)).map Prod.fst).Nodup := by
    rw [List.map_map]
    exact nodup_parts part? form
  have hempty : (JsObject.empty : JsObject β).get? name = none := rfl
  rw [JsObject.get?_foldl_set _ hkeys, hempty, Option.or_none]
  ext value
  refine (JsObject.get?_eq_some_iff ⟨_, hkeys⟩ name value).trans ?_
  simp only [List.mem_map, Option.map_eq_some_iff, Option.bind_eq_some_iff, Prod.mk.injEq]
  constructor
  · rintro ⟨⟨_, a⟩, hmem, rfl, rfl⟩
    exact ⟨a, mem_parts.mp hmem, rfl⟩
  · rintro ⟨a, hget, rfl⟩
    exact ⟨(name, a), mem_parts.mpr hget, rfl, rfl⟩

/-- A form is taken exactly if every file is under one of the fields. -/
theorem uploadFields_isOk_iff (store : Path → Path) (fields : List String)
    (form : JsObject FormValue) :
    (∃ req, uploadFields store fields form = .ok req) ↔
      ∀ name path, form.get? name = some (.file path) → name ∈ fields := by
  have hall : (parts FormValue.file? form).all (fun entry ↦ entry.1 ∈ fields) = true ↔
      ∀ name path, form.get? name = some (.file path) → name ∈ fields := by
    simp only [List.all_eq_true, decide_eq_true_eq]
    constructor
    · exact fun h name path hget ↦ h (name, path) (mem_parts.mpr ⟨_, hget, rfl⟩)
    · rintro h ⟨name, path⟩ hmem
      obtain ⟨v, hget, hpart⟩ := mem_parts.mp hmem
      cases v with
      | file path' => exact h name path' hget
      | text value => cases hpart
      | undefined => cases hpart
  rw [← hall, uploadFields]
  split
  · next h => exact iff_of_true ⟨_, rfl⟩ h
  · next h => exact iff_of_false (fun ⟨_, h⟩ ↦ by cases h) h

/-- This uploader does what the code relies on. -/
theorem uploadFields_documented (store : Path → Path) :
    Uploader.Documented (uploadFields store) store where
  accepts := uploadFields_isOk_iff store
  files fields form req h name := by
    rw [uploadFields] at h
    split at h
    · cases h
      exact get?_foldl_parts FormValue.file? (fun path ↦ [store path]) form name
    · cases h
  body fields form req h name := by
    rw [uploadFields] at h
    split at h
    · cases h
      have hbody := get?_foldl_parts FormValue.text? id form name
      have hmap : ((parts FormValue.text? form).map fun entry ↦ (entry.1, id entry.2)) =
          parts FormValue.text? form := List.map_id _
      rwa [hmap, Option.map_id] at hbody
    · cases h

/-- The files of both requests, and no others. -/
theorem get?_appFiles {appFiles : AppFiles} {textFields : JsObject FormValue} {name : String}
    {path : Path} (htext : ∀ path, textFields.get? name ≠ some (.file path)) :
    (transferFiles (appFilesObject appFiles) textFields).get? name = some (.file path) ↔
      (name = "app" ∧ path = appFiles.app) ∨ (name = "metadata" ∧ path = appFiles.metadata) := by
  rw [get?_transferFiles, appFilesObject, JsObject.get?_set, JsObject.get?_set]
  by_cases hmetadata : name = "metadata"
  · subst hmetadata
    simp [eq_comm]
  · by_cases happ : name = "app"
    · subst happ
      simp [eq_comm]
    · simp only [if_neg hmetadata, if_neg happ]
      simpa [hmetadata, happ] using htext path

/-! ### What becomes of the requests -/

section Requests

variable {upload : Uploader} {store : Path → Path} (hupload : upload.Documented store)
  (json : LinkGraphText) (appFiles : AppFiles) (appId : String)

include hupload

/-- The route for execution takes no file named `app`. -/
theorem executeDelivered_executeAppOnGateway (linkGraph : Option LinkGraph) :
    ∃ error, executeDelivered upload json (executeAppOnGateway json appFiles appId linkGraph) =
      .error error := by
  have happ : (executeAppOnGateway json appFiles appId linkGraph).get? "app" =
      some (.file appFiles.app) := by
    refine (get?_appFiles fun path ↦ ?_).mpr (Or.inl ⟨rfl, rfl⟩)
    exact nofun
  cases hreq : upload executeAppFields (executeAppOnGateway json appFiles appId linkGraph) with
  | error error =>
    rw [executeDelivered, hreq]
    exact ⟨error, rfl⟩
  | ok req =>
    have hmem := (hupload.accepts _ _).mp ⟨req, hreq⟩ "app" appFiles.app happ
    exact absurd hmem (by decide)

/-- The controller for watching finds no file named `appPackage`. -/
theorem watchDelivered_watchAppOnGateway (executorGatewayId : String) :
    ∃ error, watchDelivered upload (watchAppOnGateway appFiles appId executorGatewayId) =
      .error error := by
  cases hreq : upload watchAppFields (watchAppOnGateway appFiles appId executorGatewayId) with
  | error error =>
    rw [watchDelivered, hreq]
    exact ⟨error, rfl⟩
  | ok req =>
    have hnone : req.files.get? "appPackage" = none := by
      rw [hupload.files _ _ req hreq, watchAppOnGateway, get?_transferFiles, appFilesObject]
      simp only [JsObject.get?_set]
      rfl
    have hpath : req.filePath "appPackage" =
        .error "TypeError: Cannot read property '0' of undefined" := by
      rw [UploadedRequest.filePath, hnone]
    have hwatch : ∃ error, watchApp req = .error error := by
      simp only [watchApp, hpath]
      split
      · exact ⟨_, rfl⟩
      · exact ⟨_, rfl⟩
    obtain ⟨error, herror⟩ := hwatch
    rw [watchDelivered, hreq]
    exact ⟨error, congrArg (Except.map watchAppListener) herror⟩

omit hupload in
/-- Whatever the controller for watching sends, the listener reads no paths from it. -/
theorem watchAppListener_watchApp {req : UploadedRequest} {params : JsObject QueryParam}
    (h : watchApp req = .ok params) :
    (watchAppListener params).tempAppPath = none ∧
      (watchAppListener params).tempMetadataPath = none := by
  simp only [watchApp] at h
  split at h
  · cases h
  · cases happ : req.filePath "appPackage" with
    | error error =>
      rw [happ] at h
      cases h
    | ok appPath =>
      cases hmetadata : req.filePath "deployMetadata" with
      | error error =>
        rw [happ, hmetadata] at h
        cases h
      | ok metadataPath =>
        rw [happ, hmetadata] at h
        cases h
        simp only [watchAppListener, JsObject.get?_set]
        exact ⟨rfl, rfl⟩

/-- No request of the senders reaches the app manager of the receiver with its data. -/
theorem deployments_never_reach (linkGraph : Option LinkGraph) (executorGatewayId : String) :
    ¬ ExecuteReaches upload store json appFiles appId linkGraph ∧
      ¬ WatchReaches upload store appFiles appId executorGatewayId := by
  constructor
  · intro h
    obtain ⟨error, herror⟩ :=
      executeDelivered_executeAppOnGateway hupload json appFiles appId linkGraph
    rw [ExecuteReaches, herror] at h
    cases h
  · intro h
    obtain ⟨error, herror⟩ :=
      watchDelivered_watchAppOnGateway hupload appFiles appId executorGatewayId
    rw [WatchReaches, herror] at h
    cases h

end Requests

/-- A codec for link graphs. -/
def sampleText : LinkGraphText := ⟨fun _ ↦ "g", fun _ ↦ .error ""⟩

/-- The files of an application. -/
def sampleFiles : AppFiles := ⟨["tmp", "app.js"], ["tmp", "app.json"]⟩

/-- An application with its files, between two gateways. -/
theorem deployments_never_reach_sample :
    ¬ ExecuteReaches (uploadFields id) id sampleText sampleFiles "a1" none ∧
      ¬ WatchReaches (uploadFields id) id sampleFiles "a1" "gateway-2" :=
  deployments_never_reach (uploadFields_documented id) sampleText sampleFiles "a1" none "gateway-2"

/-- Its request for execution is rejected. -/
theorem deployment_not_reached :
    ¬ (ExecuteReaches (uploadFields id) id sampleText sampleFiles "a1" none ∧
      WatchReaches (uploadFields id) id sampleFiles "a1" "gateway-2") := by
  rintro ⟨hexecute, _⟩
  have hrejected : executeDelivered (uploadFields id) sampleText
      (executeAppOnGateway sampleText sampleFiles "a1" none) = .error "Unexpected field" := by
    rfl
  rw [ExecuteReaches, hrejected] at hexecute
  cases hexecute

end NexusEdge.Api
