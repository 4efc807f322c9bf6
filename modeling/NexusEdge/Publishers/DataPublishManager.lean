import NexusEdge.Devices.Readings
import NexusEdge.Publishers.Records

/-!
# From the handlers to the publishers

Library `Publishers`. The way of a reading from a handler to the records outside of the platform:
`deliver` of `device-manager.js:99–146`, the platform topic of the broker, which keeps the order of
messages, and `data-publish-manager.js:12–46`. Handlers, operations of the database, the start-up of
the data publish manager, new tokens and messages of other clients of the broker come in any order.
Others publish readings of their own, or texts on which `JSON.parse` throws.
-/

namespace NexusEdge.Publishers
open NexusEdge.Base NexusEdge.Devices

/-- The publishers of `publishers.json`. -/
inductive Publisher where
  | sifCloud
  | linklabInflux
  deriving DecidableEq

/-- A message of the platform topic. -/
inductive TopicMessage (N : Type) where
  /-- A reading that the device manager or another client has published. -/
  | reading (own : Bool) (data : Reading (Json N))
  /-- A text that is no JSON. -/
  | malformed

/-- A reading that was passed to the publishers, and the token at that time. -/
structure HandledReading (N : Type) where
  /-- The device manager has published it. -/
  own : Bool
  data : Reading (Json N)
  token : Option String

/-- The data publish manager, and what its publishers have published. -/
structure DataPublishManager (N : Type) where
  running : Bool
  subscribed : Bool
  publishers : List Publisher
  /-- `this.token` of the SIF cloud publisher. -/
  token : Option String
  cloud : List (CloudRecord N)
  influx : List (JsObject (Json N))

/-- Both managers and the messages between them, with the readings of the device manager that
nothing was made of and all readings that were passed to the publishers. -/
structure DataPipeline (N : Type) where
  deviceManager : DeviceManager (Json N)
  topic : List (TopicMessage N)
  publishManager : DataPublishManager N
  missed : List (Reading (Json N))
  handled : List (HandledReading N)

/-- What happens to them. -/
inductive PipelineEvent (N : Type) where
  | device (e : DeviceEvent (Json N))
  /-- The broker has the subscription. -/
  | subscribed
  /-- `loadPublishers` has resolved. -/
  | loaded (publishers : List Publisher)
  | token (token : String)
  /-- Another client publishes a reading, or a text that is no JSON. -/
  | foreign (data : Option (Reading (Json N)))
  /-- The next message is received. -/
  | message

variable {N : Type} [Zero N] [One N]

namespace DataPublishManager

/-- `publisher.onData(data)`. -/
def onData (conv : Conversions N) (data : Reading (Json N)) (s : DataPublishManager N) :
    Publisher → DataPublishManager N
  | .sifCloud => { s with cloud := s.cloud ++ (cloudOnData conv s.token data).toList }
  | .linklabInflux => { s with influx := s.influx ++ [getFormattedData conv data] }

/-- The callback of the platform topic, `data-publish-manager.js:42–46`; the text is parsed for each
publisher. -/
def onMessage (conv : Conversions N) (s : DataPublishManager N) :
    TopicMessage N → DataPublishManager N
  | .reading _ data => s.publishers.foldl (onData conv data) s
  | .malformed => if s.publishers = [] then s else { s with running := false }

end DataPublishManager

namespace DataPipeline

/-- Both managers are started. -/
def start (db : DevicesDb) : DataPipeline N :=
  ⟨DeviceManager.initial db, [], ⟨true, false, [], none, [], []⟩, [], []⟩

/-- One event; none when it cannot happen. -/
def step (config : GatewayConfig) (conv : Conversions N) (s : DataPipeline N) :
    PipelineEvent N → Option (DataPipeline N)
  | .device e =>
    (Devices.step config s.deviceManager e).map fun deviceManager ↦
      let new := deviceManager.published.drop s.deviceManager.published.length
      if s.publishManager.subscribed then
        { s with deviceManager := deviceManager, topic := s.topic ++ new.map (.reading true) }
      else { s with deviceManager := deviceManager, missed := s.missed ++ new }
  | .subscribed => some { s with publishManager := { s.publishManager with subscribed := true } }
  | .loaded publishers =>
    if s.publishManager.publishers = [] then
      some { s with publishManager := { s.publishManager with publishers := publishers } }
    else none
  | .token token =>
    if .sifCloud ∈ s.publishManager.publishers then
      some { s with publishManager := { s.publishManager with token := some token } }
    else none
  | .foreign data =>
    let message := match data with
      | some data => .reading false data
      | none => .malformed
    some (if s.publishManager.subscribed then { s with topic := s.topic ++ [message] } else s)
  | .message =>
    if s.publishManager.running then
      match s.topic with
      | [] => none
      | message :: topic =>
        let s := { s with
          topic := topic
          publishManager := s.publishManager.onMessage conv message }
        match message with
        | .malformed => some s
        | .reading own data =>
          some (if s.publishManager.publishers = [] then
              { s with missed := s.missed ++ if own then [data] else [] }
            else { s with handled := s.handled ++ [⟨own, data, s.publishManager.token⟩] })
    else none

/-- The readings of the device manager among messages. -/
def readings (topic : List (TopicMessage N)) : List (Reading (Json N)) :=
  topic.filterMap fun
    | .reading own data => if own then some data else none
    | .malformed => none

/-- Those among the readings handled. -/
def ownReadings (handled : List (HandledReading N)) : List (Reading (Json N)) :=
  handled.filterMap fun h ↦ if h.own then some h.data else none

/-- The readings with which handlers have called `deliver`. -/
def deliveries (config : GatewayConfig) (events : List (PipelineEvent N)) :
    List (Reading (Json N)) :=
  events.filterMap fun
    | .device e => DeviceManager.reading? config e
    | _ => none

/-- What the SIF cloud publishers among these make of a reading. -/
def cloudRecords (conv : Conversions N) (publishers : List Publisher) (token : Option String)
    (data : Reading (Json N)) : List (CloudRecord N) :=
  publishers.flatMap fun
    | .sifCloud => (cloudOnData conv token data).toList
    | .linklabInflux => []

/-- What the Influx publishers among these make of it. -/
def influxRecords (conv : Conversions N) (publishers : List Publisher) (data : Reading (Json N)) :
    List (JsObject (Json N)) :=
  publishers.flatMap fun
    | .sifCloud => []
    | .linklabInflux => [getFormattedData conv data]

/-- The readings that the device manager has published are those that were missed, then those that
were handled, then those under way, and the records are made of all that were handled. -/
structure Recorded (conv : Conversions N) (s : DataPipeline N) : Prop where
  valid : s.deviceManager.Valid
  order : s.missed ++ (ownReadings s.handled ++ readings s.topic) = s.deviceManager.published
  unsubscribed : s.publishManager.subscribed = false → s.topic = [] ∧ s.handled = []
  unloaded : s.publishManager.publishers = [] → s.handled = []
  cloud : s.publishManager.cloud =
    s.handled.flatMap fun h ↦ cloudRecords conv s.publishManager.publishers h.token h.data
  influx : s.publishManager.influx =
    s.handled.flatMap fun h ↦ influxRecords conv s.publishManager.publishers h.data

variable {config : GatewayConfig} {conv : Conversions N} {s t : DataPipeline N}

/-- The data publish manager has been set up, and nothing was missed. -/
structure Ready (publishers : List Publisher) (s : DataPipeline N) : Prop where
  subscribed : s.publishManager.subscribed = true
  publishers : s.publishManager.publishers = publishers
  missed : s.missed = []

/-- Two readings of a new device, published after its registration, the second one in between, and
one that another client publishes for the same device. -/
def sampleEvents : List (PipelineEvent Nat) :=
  [.device (.deliver "handler" "d1" "sensor" (.number 1) "t1"),
    .device (.store ⟨⟨"d1", "sensor", "handler", "controller", true⟩, .deliver⟩),
    .device (.deliver "handler" "d1" "sensor" (.number 2) "t2"),
    .foreign (some ⟨"d1", "sensor", .number 3, ⟨"t3", "handler", "controller", "gateway"⟩⟩),
    .device (.complete ⟨⟨"d1", "sensor", "handler", "controller", true⟩, .deliver⟩),
    .message, .message, .message]

end DataPipeline
end NexusEdge.Publishers
