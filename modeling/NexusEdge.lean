import NexusEdge.Api.LinkGraphController
import NexusEdge.Apps.Scheduler
import NexusEdge.Base.JsArray
import NexusEdge.Base.JsObject
import NexusEdge.Base.JsSet
import NexusEdge.Base.Loop
import NexusEdge.Base.Nested
import NexusEdge.Base.Search
import NexusEdge.Base.Thinning
import NexusEdge.Base.Timers
import NexusEdge.Base.Transition
import NexusEdge.Devices.Cache
import NexusEdge.Devices.DeviceManager
import NexusEdge.Devices.Readings
import NexusEdge.Messaging.Correlation
import NexusEdge.Messaging.MessagingService
import NexusEdge.Messaging.MqttController
import NexusEdge.Messaging.PlatformManager
import NexusEdge.Messaging.Subscriptions
import NexusEdge.Platform.LinkGraph
import NexusEdge.Platform.Path
import NexusEdge.Platform.Storage
import NexusEdge.Policy.Enforcement
import NexusEdge.Policy.PolicyEnforcer
import NexusEdge.Policy.PrivacyPolicy
import NexusEdge.Policy.PrivacyRule
import NexusEdge.Policy.Schedule
import NexusEdge.Streams.Failover
import NexusEdge.Streams.GatewayMapping
import NexusEdge.Streams.Manager
import NexusEdge.Streams.Requests
import NexusEdge.Streams.RouteTable
import NexusEdge.Apps.Deployment
import NexusEdge.Apps.Watcher
import NexusEdge.Base.Delivery
import NexusEdge.Devices.BleController
import NexusEdge.Devices.GatewayScanner
import NexusEdge.Dao.DirtyDbService
import NexusEdge.Streams.Routing
import NexusEdge.Policy.RejectedUpdate
import NexusEdge.Apps.AppManager
import NexusEdge.Dao.Collection
import NexusEdge.Apps.Isolation
import NexusEdge.Apps.Registry
import NexusEdge.Streams.Heartbeats
import NexusEdge.Apps.Termination
import NexusEdge.Streams.PublishTimers
import NexusEdge.Streams.Redundancy
import NexusEdge.Streams.Diagnostics
import NexusEdge.Streams.RoutingClient
import NexusEdge.Apps.Execution
import NexusEdge.Apps.LogStreaming
import NexusEdge.Apps.Rollback
import NexusEdge.Api.FileTransfer
import NexusEdge.Devices.Delegation
import NexusEdge.Policy.EnforcementTimer
import NexusEdge.Policy.Retrieval
import NexusEdge.Apps.QueryResponses
import NexusEdge.Devices.Connections
import NexusEdge.Devices.Scanning
import NexusEdge.Base.Json
import NexusEdge.Devices.Actuator
import NexusEdge.Devices.Actuators
import NexusEdge.Base.Buffer
import NexusEdge.Base.Contests
import NexusEdge.Devices.Discovery
import NexusEdge.Devices.Advertisements
import NexusEdge.Devices.Eddystone
import NexusEdge.Devices.Handlers
import NexusEdge.Base.Assignments
import NexusEdge.Publishers.Fields
import NexusEdge.Publishers.Records
import NexusEdge.Base.Base64
import NexusEdge.Devices.AdvertisementName
import NexusEdge.Apps.WatchTimer
import NexusEdge.Streams.TopicIsolation
import NexusEdge.Publishers.Flattening
import NexusEdge.Streams.FailureTopics
import NexusEdge.Devices.MessageCharacteristic
import NexusEdge.Policy.NextUpdate
import NexusEdge.Base.Numeral
import NexusEdge.Publishers.NumericStrings
import NexusEdge.Base.Promise
import NexusEdge.Base.Prototype
import NexusEdge.Platform.ModuleLoading
import NexusEdge.Devices.BleInitialization
import NexusEdge.Devices.EnOceanController
import NexusEdge.Api.PlatformApiController
import NexusEdge.Api.Topology
import NexusEdge.Api.Dissemination
import NexusEdge.Apps.Oracle
import NexusEdge.Apps.PlatformCalls
import NexusEdge.Streams.Provenance
import NexusEdge.Streams.Accounting
import NexusEdge.Apps.DataPath
import NexusEdge.Apps.DataDelivery
import NexusEdge.Devices.ParserCache
import NexusEdge.Devices.ParserOrigin
import NexusEdge.Platform.Supervision
import NexusEdge.Publishers.DataPublishManager
import NexusEdge.Publishers.CloudToken
import NexusEdge.Base.BitField
import NexusEdge.Devices.EstimoteTelemetry
import NexusEdge.Devices.BeaconMerging
import NexusEdge.Devices.Commands
import NexusEdge.Streams.FailureDetection
import NexusEdge.Streams.PlainRouting
import NexusEdge.Streams.PlainObjects
import NexusEdge.Streams.PlainRouting
