import NexusEdge.Platform.LinkGraph

/-!
# Calls to all gateways

Library `Api`. `disseminateAll` and `queryAll` of `platform-api-controller.js:12–101`: a request
from the own machine is sent on to every other gateway of the link graph, a request from another
one is published on the local broker. Request bodies are kept as values, as they are parsed again
where they arrive.
-/

namespace NexusEdge.Api
open NexusEdge.Base NexusEdge.Platform

universe u

/-- The two calls, `platform-api-controller.js:12–18`. -/
inductive PlatformFunction where
  | disseminateAll
  | queryAll
  deriving DecidableEq

/-- The endpoint of the call, `routes.js:54–55`; also the event that the `Oracle` emits for it. -/
def PlatformFunction.endpoint : PlatformFunction → String
  | .disseminateAll => "disseminate-all"
  | .queryAll => "query-all"

/-- `execUrl`, `platform-api-controller.js:64,75`. -/
def PlatformFunction.execUrl (platformAPIFunction : PlatformFunction) (gatewayIP : String) :
    String :=
  "http://" ++ gatewayIP ++ ":5000/platform/" ++ platformAPIFunction.endpoint

/-- What the helper reads of a request. -/
structure ApiRequest (Data : Type u) where
  localAddress : String
  remoteAddress : String
  body : Data
  deriving DecidableEq

/-- A request to a gateway, `sendDisseminateAllRequest` and `sendQueryAllRequest`. -/
structure Post (Data : Type u) where
  gatewayIP : String
  platformAPIFunction : PlatformFunction
  data : Data
  deriving DecidableEq

/-- Where the post goes. -/
def Post.url {Data : Type u} (post : Post Data) : String :=
  post.platformAPIFunction.execUrl post.gatewayIP

/-- `mqttTopic`, `platform-api-controller.js:6`. -/
def mqttTopic : String := "platform-data"

/-- How a request is handled up to the first `await`. -/
inductive Handling (Data : Type u) where
  /-- The promise is rejected; nobody answers. -/
  | rejected (err : String)
  /-- A local request waits for the link graph. -/
  | awaitsLinkGraph (ipAddress : String) (platformAPIFunction : PlatformFunction) (data : Data)
  /-- `mqttController.publish("localhost", topic, data)`, then an answer. -/
  | publishes (topic : String) (data : Data) (status : Nat)
  deriving DecidableEq

/-- `getGatewayIPAddressList`, `platform-api-controller.js:53–55`. -/
def getGatewayIPAddressList (linkGraph : LinkGraph) : List String :=
  linkGraph.data.ownEntries.map fun entry ↦ entry.2.ip

/-- `platformAPICallHelper`, `platform-api-controller.js:30–51`; the ip comes from
`utils.getGatewayIp`, which throws without a backhaul interface. -/
def platformAPICallHelper {Data : Type u} (getGatewayIp : Except String String)
    (platformAPIFunction : PlatformFunction) (req : ApiRequest Data) : Handling Data :=
  match getGatewayIp with
  | .error err => .rejected err
  | .ok ipAddress =>
    if req.localAddress = req.remoteAddress then
      .awaitsLinkGraph ipAddress platformAPIFunction req.body
    else .publishes mqttTopic req.body 200

/-- What follows the `await`, `platform-api-controller.js:39–44`. -/
def forwardToOthers {Data : Type u} (ipAddress : String)
    (platformAPIFunction : PlatformFunction) (data : Data) (linkGraph : LinkGraph) :
    List (Post Data) :=
  ((getGatewayIPAddressList linkGraph).filter fun gatewayIP ↦ gatewayIP ≠ ipAddress).map
    fun gatewayIP ↦ ⟨gatewayIP, platformAPIFunction, data⟩

variable {Data : Type u} {ipAddress : String} {platformAPIFunction : PlatformFunction}
  {data : Data} {linkGraph : LinkGraph}

/-- Forwarded is what was asked for, to gateways of the link graph other than the own. -/
theorem mem_forwardToOthers (post : Post Data) :
    post ∈ forwardToOthers ipAddress platformAPIFunction data linkGraph ↔
      post.gatewayIP ∈ getGatewayIPAddressList linkGraph ∧ post.gatewayIP ≠ ipAddress ∧
        post.platformAPIFunction = platformAPIFunction ∧ post.data = data := by
  obtain ⟨gatewayIP, f, d⟩ := post
  simp only [forwardToOthers, List.mem_map, List.mem_filter, decide_eq_true_eq, Post.mk.injEq]
  constructor
  · rintro ⟨_, ⟨hmem, hne⟩, rfl, rfl, rfl⟩
    exact ⟨hmem, hne, rfl, rfl⟩
  · rintro ⟨hmem, hne, rfl, rfl⟩
    exact ⟨gatewayIP, ⟨hmem, hne⟩, rfl, rfl, rfl⟩

/-- A gateway is sent a copy for each of its entries, the own gateway none. -/
theorem countP_forwardToOthers (gatewayIP : String) :
    (forwardToOthers ipAddress platformAPIFunction data linkGraph).countP
        (fun post ↦ post.gatewayIP = gatewayIP) =
      if gatewayIP = ipAddress then 0 else (getGatewayIPAddressList linkGraph).count gatewayIP := by
  rw [forwardToOthers, List.countP_map, List.countP_filter, List.count]
  split
  · next h =>
    rw [List.countP_eq_zero]
    intro ip _
    simp [h]
  · next h =>
    apply List.countP_congr
    intro ip _
    simp only [Function.comp, Bool.and_eq_true, decide_eq_true_eq, beq_iff_eq]
    exact ⟨And.left, fun hip ↦ ⟨hip, hip ▸ h⟩⟩

end NexusEdge.Api
