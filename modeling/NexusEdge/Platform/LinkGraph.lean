import NexusEdge.Base.JsObject

/-!
# Link graph records

Library `Platform`. The link graph served at `/platform/link-graph-data`: neighbour ids
per gateway id, and per gateway id its ip, devices and running applications.
Fields follow `dao/collections/devices-dao.js:5–13`, `app-manager.js:150–161` and
`api-server/api/controllers/link-graph-controller.js:31–34,56`.
-/

namespace NexusEdge.Platform
open NexusEdge.Base

/-- `Device`, `devices-dao.js:5–13`. -/
structure Device where
  id : String
  type : String
  handlerId : String
  controllerId : String
  isStreamingDevice : Bool
  deriving DecidableEq

/-- A running application as listed by `get-apps`, `app-manager.js:155–158`. -/
structure AppListing where
  id : String
  name : String
  deriving DecidableEq

/-- Entry of `linkGraph["data"]`, `link-graph-controller.js:31–33`. -/
structure GatewayData where
  ip : String
  devices : List Device
  apps : List AppListing
  deriving DecidableEq

/-- `{"graph": graph, "data": data}`, `link-graph-controller.js:56`. -/
structure LinkGraph where
  graph : JsObject (List String)
  data : JsObject GatewayData
  deriving DecidableEq

/-- The device list of the entry contains the device id. -/
def GatewayData.Hosts (gatewayData : GatewayData) (deviceId : String) : Prop :=
  ∃ device ∈ gatewayData.devices, device.id = deviceId

instance (gatewayData : GatewayData) : DecidablePred gatewayData.Hosts := fun deviceId ↦
  inferInstanceAs (Decidable (∃ device ∈ gatewayData.devices, device.id = deviceId))

/-- Some entry of the link graph with this ip hosts the device. -/
def LinkGraph.Lists (linkGraph : LinkGraph) (ip deviceId : String) : Prop :=
  ∃ gatewayId gatewayData, linkGraph.data.get? gatewayId = some gatewayData ∧
    gatewayData.ip = ip ∧ gatewayData.Hosts deviceId

end NexusEdge.Platform
