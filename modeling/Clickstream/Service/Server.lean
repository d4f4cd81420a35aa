import Clickstream.Configuration
import Clickstream.Event.Record
import Clickstream.Studio.Basic
import Clickstream.Service.Body
import Clickstream.Service.Listeners
import Clickstream.Service.Route

/-
  The service: one studio, the test generator, and listeners,
  behind a set of endpoints.

  Key definitions:
    * `Server`, `Server.new`
    * `Answer`
    * `Server.answer`: what an endpoint does
    * `Server.reply`: a request from path to status
    * `Server.respond`: the same, with the origins that may
      read the reply
-/

namespace Clickstream

/-
  A studio with the settings of its tests and its audience.
  `sessionName` says how clients know the recordings, which
  the studio numbers.
-/
structure Server where
  studio : Studio
  plan : Plan.Settings
  sessionName : Nat → String
  listeners : Listeners := {}

/-
  What a request leads to: the state afterwards, a status,
  and a body if there is one.
-/
structure Answer where
  server : Server
  status : Nat
  body : Option Json := none

namespace Server

/- A service at the start of its life. -/
def new
    (configuration : Configuration)
    (sessionName : Nat → String)
    (now : Nat) : Server :=
  { studio := Studio.new configuration.capture now
    plan := configuration.plan
    sessionName := sessionName }

------------------------------------------------------------
-- Answers
------------------------------------------------------------

/- Answer with a body. -/
def accept
    (server : Server)
    (body : Json) : Answer :=
  ⟨server, 200, some body⟩

/- Answer with a fault. -/
def refuse
    (server : Server)
    (fault : Fault) : Answer :=
  ⟨server, fault.status,
    some (fault.toJson server.sessionName)⟩

/- Take over what happened in the studio. -/
def follow
    {α : Type}
    (server : Server)
    (outcome : Outcome α) : Server :=
  { server with
    studio := outcome.studio
    listeners := server.listeners.publish outcome.heard }

/- Take over an outcome and answer with what came of it. -/
def settle
    {α : Type}
    (server : Server)
    (outcome : Outcome α)
    (write : α → Json) : Answer :=
  let server := server.follow outcome
  match outcome.result with
  | .ok a => server.accept (write a)
  | .error fault => server.refuse fault

/- Answer a request whose body can be read. -/
def withBody
    {α : Type}
    (server : Server)
    (request : Request)
    (shape : Json.Shape)
    (read : Json → Option α)
    (use : α → Answer) : Answer :=
  match request.readBody shape read with
  | .ok a => use a
  | .error fault => ⟨server, fault.status, none⟩

------------------------------------------------------------
-- Endpoints
------------------------------------------------------------

/- Tell that the service lives; `time` is the time as text. -/
def health
    (server : Server)
    (time : String) : Answer :=
  server.accept (.object
    [("status", .string "healthy"),
      ("timestamp", .string time),
      ("recording", .bool server.studio.isRecording),
      ("connectedClients",
        Json.ofNat server.listeners.count)])

/- Write whether a recording was started, and which one runs. -/
def startReply
    (server : Server)
    (accepted : Bool)
    (number : Nat) : Json :=
  .object
    [("accepted", .bool accepted),
      ("sessionId", .string (server.sessionName number))]

/-
  Start a recording. Where one is active already, the client
  is told so and can go on with it.
-/
def start
    (server : Server)
    (request : StartRequest) : Answer :=
  let outcome := server.studio.start request.fileName
    request.language request.startUrl
  match outcome.result with
  | .error (.sessionAlreadyActive number) =>
      (server.follow outcome).accept
        (server.startReply false number)
  | _ =>
      server.settle outcome fun session =>
        server.startReply true session.number

/- Write the test of a log of actions. -/
def generate
    (server : Server)
    (request : GenerateRequest) : Answer :=
  if Text.isBlankText request.fileName then
    server.refuse .nameRequired
  else
    server.accept
      (Script.generateFile server.plan request.language
        request.fileName request.startUrl
        request.actions).toJson

/-
  The status of a request for a feed. A feed is opened over a
  connection that lasts, and a single request has none, even
  if it asks for one properly.
-/
def feedStatus (request : Request) : Nat :=
  if request.method ≠ "GET" then 405
  else if request.asksForConnection then 426
  else 400

/- What an endpoint does. -/
def answer
    (server : Server)
    (time : String)
    (request : Request) :
    Endpoint → Answer
  | .health => server.health time
  | .start =>
      server.withBody request StartRequest.shape
        StartRequest.ofJson? server.start
  | .stop => server.settle server.studio.stop Session.toStopReply
  | .events =>
      server.withBody request
        (.ofWhole Event.batchOfJson?) Event.batchOfJson?
        fun events =>
          server.settle (server.studio.submit events) fun n =>
            .object [("queued", Json.ofNat n)]
  | .actions =>
      server.withBody request Action.shape Action.ofJson?
        fun action =>
          server.settle (server.studio.append action)
            fun taken => .object [("appended", .bool taken)]
  | .status => server.accept
      (Session.toStatus server.sessionName
        server.studio.session?)
  | .generate =>
      server.withBody request GenerateRequest.shape
        GenerateRequest.ofJson? server.generate
  | .feed _ => ⟨server, feedStatus request, none⟩

------------------------------------------------------------
-- Requests
------------------------------------------------------------

/- A request, from its path to the answer. -/
def reply
    (server : Server)
    (time : String)
    (request : Request) : Answer :=
  if request.method = "OPTIONS" then ⟨server, 200, none⟩
  else
    match Endpoint.ofPath? request.resource with
    | none => ⟨server, 404, none⟩
    | some endpoint =>
        if endpoint.allows request.method then
          let answer := server.answer time request endpoint
          if request.method = "HEAD" then
            { answer with body := none }
          else answer
        else ⟨server, 405, none⟩

/- A request and the reply to it. -/
def respond
    (server : Server)
    (time : String)
    (request : Request) : Server × Reply :=
  let answer := server.reply time request
  (answer.server,
    { status := answer.status
      allowOrigin :=
        (request.header? "origin").filter
          Service.isAllowedOrigin
      body := answer.body })

end Server

end Clickstream
