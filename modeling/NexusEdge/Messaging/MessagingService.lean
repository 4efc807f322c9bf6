import NexusEdge.Base.Transition

/-!
# Queries between services

Library `Messaging`. `MessagingService.query`, `listenForQuery` and `respondToQuery` of
`messaging-service.js:85–141`, and the forwarding of their messages by the platform
manager, `platform-manager.js:46–81`. Services emit to the platform manager, which emits to
the recipient's socket; emitted messages are handled in any order. A query resolves its
promise from an event whose name is all that ties the response to it. Calls are numbered;
the numbers on queries and responses record their origin and are not read by the code.
-/

namespace NexusEdge.Messaging
open NexusEdge.Base

/-- `services`, `platform-manager.js:8–34`. -/
def services : List String :=
  ["app-manager", "api-server", "sensor-stream-manager", "device-manager", "data-publish-manager"]

/-- `"meta"` of a message and of a query. -/
structure Metadata where
  sender : String
  recipient : String
  event : String
  deriving DecidableEq

/-- `"query"` in the payload, `messaging-service.js:94–101`, with the number of its call. -/
structure Query (P : Type) where
  params : P
  metadata : Metadata
  call : Nat
  deriving DecidableEq

/-- What is forwarded: a query, or a response with the number of the call it answers. -/
inductive Payload (P R : Type) where
  | query (query : Query P)
  | response (response : R) (call : Nat)
  deriving DecidableEq

/-- The argument of `"forward"`. -/
structure Forward (P R : Type) where
  metadata : Metadata
  payload : Payload P R

/-- The message sent on, `platform-manager.js:54–58`. -/
structure Message (P R : Type) where
  sender : String
  data : Payload P R

/-- A message emitted to a service. -/
structure Emission (P R : Type) where
  recipient : String
  event : String
  message : Message P R

/-- The promise of a query and the event its listener waits for. -/
structure QueryPromise (P R : Type) where
  service : String
  event : String
  result : Option (Payload P R)

/-- The platform manager, the services and the messages between them. -/
structure System (P R : Type) where
  /-- Services whose socket the platform manager holds. -/
  sockets : List String
  /-- Promises of all calls, by number. -/
  promises : List (QueryPromise P R)
  toPlatform : List (Forward P R)
  toServices : List (Emission P R)
  /-- Queries handed to the listeners of `listenForQuery`. -/
  received : List (Query P)
  /-- Calls whose response has reached the service that waits for it. -/
  answered : List Nat

variable {P R : Type}

/-- The call a response belongs to. -/
def Payload.call? : Payload P R → Option Nat
  | .query _ => none
  | .response _ call => some call

/-- `message.data.query`. -/
def Payload.query? : Payload P R → Option (Query P)
  | .query q => some q
  | .response _ _ => none

/-- The event that carries the response to a query, `messaging-service.js:106,132`. -/
def responseEvent (query : String) : String := query ++ "-response"

/-- `resolve`: the first call counts. -/
def QueryPromise.resolve (p : QueryPromise P R) (data : Payload P R) : QueryPromise P R :=
  { p with result := p.result.or (some data) }

namespace System

/-- Before the services connect. -/
def initial : System P R := ⟨[], [], [], [], [], []⟩

/-- `query`, `messaging-service.js:85–111`. -/
def query (sender recipient query : String) (queryParams : P) (s : System P R) : System P R :=
  let metadata : Metadata := ⟨sender, recipient, query⟩
  { s with
    toPlatform := s.toPlatform ++
      [⟨metadata, .query ⟨queryParams, metadata, s.promises.length⟩⟩]
    promises := s.promises ++ [⟨sender, responseEvent query, none⟩] }

/-- The message of `respondToQuery`, `messaging-service.js:130–140`. -/
def responseTo (query : Query P) (response : R) : Forward P R :=
  let sender := query.metadata.recipient
  let recipient := query.metadata.sender
  let event := responseEvent query.metadata.event
  ⟨⟨sender, recipient, event⟩, .response response query.call⟩

/-- `respondToQuery`, `messaging-service.js:129–141`. -/
def respondToQuery (query : Query P) (response : R) (s : System P R) : System P R :=
  { s with toPlatform := s.toPlatform ++ [responseTo query response] }

/-- `ipcCallback["register-socket"]`, `platform-manager.js:74–80`. -/
def registerSocket (sender : String) (s : System P R) : System P R :=
  if sender ∈ services then { s with sockets := s.sockets ++ [sender] } else s

/-- `ipcCallback["forward"]`, `platform-manager.js:52–67`; a service without socket gets
nothing. -/
def forward (data : Forward P R) (s : System P R) : System P R :=
  if data.metadata.sender ∈ services ∧ data.metadata.recipient ∈ s.sockets then
    { s with toServices := s.toServices ++
        [⟨data.metadata.recipient, data.metadata.event, ⟨data.metadata.sender, data.payload⟩⟩] }
  else s

/-- The listeners of a service on an event: those of its queries,
`messaging-service.js:106–109`, and those of `listenForQuery`, `messaging-service.js:118–122`. -/
def receive (emission : Emission P R) (s : System P R) : System P R :=
  { s with
    promises := s.promises.map fun p ↦
      if p.service = emission.recipient ∧ p.event = emission.event then
        p.resolve emission.message.data
      else p
    received := s.received ++ emission.message.data.query?.toList
    answered := s.answered ++ emission.message.data.call?.toList }

end System

/-- What can happen next; numbers select a message or a received query. -/
inductive Event (P R : Type) where
  | registerSocket (service : String)
  | query (sender recipient query : String) (queryParams : P)
  | forward (i : Nat)
  | receive (i : Nat)
  | respond (i : Nat) (response : R)

/-- One event; recipients may answer a received query at any time. -/
def step (s : System P R) : Event P R → Option (System P R)
  | .registerSocket service => some (s.registerSocket service)
  | .query sender recipient query queryParams => some (s.query sender recipient query queryParams)
  | .forward i => s.toPlatform[i]?.map fun data ↦
      System.forward data { s with toPlatform := s.toPlatform.eraseIdx i }
  | .receive i => s.toServices[i]?.map fun emission ↦
      System.receive emission { s with toServices := s.toServices.eraseIdx i }
  | .respond i response => s.received[i]?.map fun query ↦ s.respondToQuery query response

end NexusEdge.Messaging
