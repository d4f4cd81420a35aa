import Clickstream.Language
import Clickstream.Action.Record
import Clickstream.Session
import Clickstream.Script.File
import Clickstream.Studio.Fault

/-
  The messages that clients and service exchange.

  Key definitions:
    * `StartRequest`, `GenerateRequest`
    * `Fault.status`, `Fault.title`, `Fault.toJson`
    * `TestFile.toJson`
    * `Session.toStopReply`, `Session.toStatus`
    * `FeedMessage`, `FeedMessage.isPing`
-/

namespace Clickstream

------------------------------------------------------------
-- Requests
------------------------------------------------------------

/- A recording to be started. -/
structure StartRequest where
  fileName : String
  language : Language
  startUrl : Option String
deriving DecidableEq, Repr, Inhabited

namespace StartRequest

/- The fields in order. -/
def members : List (Json.Member Json.Shape) :=
  [.needed "fileName" .text, .free "language" Language.shape,
    .neededInArrays "startUrl" (.optional .text)]

/- The shape of a written request. -/
def shape : Json.Shape :=
  .record members

/- Read a request to start a recording. -/
def ofJson? (value : Json) : Option StartRequest := do
  let fields ← Json.Member.record? members value
  let fileName ← fields.required "fileName" Json.text?
  let language ← fields.withDefault "language" .javaScript
    Language.ofJson?
  let startUrl ← fields.optional "startUrl" Json.text?
  return { fileName, language, startUrl }

end StartRequest

/- A test to be written. -/
structure GenerateRequest where
  actions : List Action
  fileName : String
  language : Language
  startUrl : Option String
deriving DecidableEq, Repr, Inhabited

namespace GenerateRequest

/- The fields in order. -/
def members : List (Json.Member Json.Shape) :=
  [.free "actions" (.list Action.shape),
    .needed "fileName" .text, .free "language" Language.shape,
    .neededInArrays "startUrl" (.optional .text)]

/- The shape of a written request. -/
def shape : Json.Shape :=
  .record members

/- Read a request to write a test. -/
def ofJson? (value : Json) : Option GenerateRequest := do
  let fields ← Json.Member.record? members value
  let actions ← fields.withDefault "actions" []
    (Json.listOf? Action.ofJson?)
  let fileName ← fields.required "fileName" Json.text?
  let language ← fields.withDefault "language" .javaScript
    Language.ofJson?
  let startUrl ← fields.optional "startUrl" Json.text?
  return { actions, fileName, language, startUrl }

end GenerateRequest

------------------------------------------------------------
-- Faults
------------------------------------------------------------

namespace Fault

/- The status of a reply to a refused request. -/
def status : Fault → Nat
  | .noActiveSession => 404
  | .sessionAlreadyActive _ => 409
  | .invalid _ => 400
  | .recording _ => 500
  | .unexpected _ => 500

/- The kind of a fault in a few words. -/
def title : Fault → String
  | .noActiveSession => "Not Found"
  | .sessionAlreadyActive _ => "Conflict"
  | .invalid _ => "Bad Request"
  | .recording _ => "Recording Error"
  | .unexpected _ => "Internal Error"

/- Write a fault, given the names of sessions. -/
def toJson
    (name : Nat → String)
    (fault : Fault) : Json :=
  .object
    [("error", .string fault.title),
      ("detail", .string (fault.message name))]

end Fault

------------------------------------------------------------
-- Answers
------------------------------------------------------------

/- Write a test. -/
def TestFile.toJson (file : TestFile) : Json :=
  .object
    [("code", .string file.code),
      ("fileName", .string file.fileName),
      ("contentType", .string file.contentType)]

/- Write what a stopped recording holds. -/
def Session.toStopReply (session : Session) : Json :=
  .object
    [("actions",
        Json.ofList Action.toJson session.actions),
      ("fileName", .string session.fileName),
      ("language", session.language.toJson)]

/- Write how the recording stands, given its name. -/
def Session.toStatus
    (name : Nat → String) : Option Session → Json
  | none =>
      .object
        [("isRecording", .bool false),
          ("actionCount", Json.ofNat 0)]
  | some session =>
      .object
        [("isRecording", .bool session.isActive),
          ("actionCount",
            Json.ofNat session.actions.length),
          ("sessionId", .string (name session.number)),
          ("fileName", .string session.fileName),
          ("language", session.language.toJson)]

------------------------------------------------------------
-- Feeds
------------------------------------------------------------

/- What a listener is told. -/
inductive FeedMessage where
  | action (action : Action)
  | pong
deriving DecidableEq, Repr, Inhabited

namespace FeedMessage

/- Write what a listener is told. -/
def toJson : FeedMessage → Json
  | .action a =>
      .object
        [("type", .string "action"), ("action", a.toJson)]
  | .pong => .object [("type", .string "pong")]

/- The fields of a text from a listener: it names its type. -/
def heardMembers : List (Json.Member Json.Shape) :=
  [.needed "type" .text]

/- Whether a text from a listener asks for a sign of life. -/
def isPing (text : String) : Bool :=
  let type? := do
    let value ←
      ((Json.Shape.record heardMembers).read text).toOption
    let fields ← Json.Member.record? heardMembers value
    fields.required "type" Json.text?
  type? = some "ping"

end FeedMessage

end Clickstream
