import Clickstream.Text.Ascii
import Clickstream.Json.Shape
import Clickstream.Service.Request

/-
  Bodies of requests: JSON values of a type the endpoint
  expects, announced as JSON.

  Key definitions:
    * `Service.isJsonType`: content types that announce JSON
    * `BodyFault`, `BodyFault.status`
    * `Request.readBody`
-/

namespace Clickstream

namespace Service

------------------------------------------------------------
-- Content Types
------------------------------------------------------------

/- The characters of names in a content type. -/
def isTokenChar (c : Char) : Bool :=
  Text.isAlphanumeric c || "!#$&'*+-.^_`|~%".toList.contains c

/- Cut at the first character of a kind, which is dropped. -/
def cutAt
    (sign : Char)
    (cs : List Char) : List Char × Option (List Char) :=
  let front := cs.takeWhile (fun c => c ≠ sign)
  match cs.dropWhile (fun c => c ≠ sign) with
  | [] => (front, none)
  | _ :: rest => (front, some rest)

/- A parameter: a name, an equals sign, and a value. -/
def isParameter (cs : List Char) : Bool :=
  match cutAt '=' (cs.dropWhile (fun c => c = ' ')) with
  | (name, some value) =>
      !name.isEmpty && name.all isTokenChar &&
        (value.all isTokenChar ||
          (value.length ≥ 2 && value.head? = some '"' &&
            value.getLast? = some '"'))
  | (_, none) => false

/-
  The parameters after the first semicolon. Nothing at all
  may follow the last semicolon.
-/
def areParameters (cs : List Char) : Bool :=
  let parts := cs.splitOnP (· == ';')
  let parts :=
    if parts.getLast? = some [] then parts.dropLast else parts
  parts.all isParameter

/-
  A subtype that is JSON or is written in it. What follows
  the last plus sign is a suffix, unless nothing stands
  before it.
-/
def isJsonSubtype (cs : List Char) : Bool :=
  let json := "json".toList
  let suffix := (cs.reverse.takeWhile (· ≠ '+')).reverse
  if '+' ∈ cs.drop 1 then
    suffix = json ||
      cs.take (cs.length - suffix.length - 1) = json
  else
    cs = json

/- Whether a content type announces JSON. -/
def isJsonType (contentType : String) : Bool :=
  let (essence, parameters) :=
    cutAt ';' (Text.lower contentType).toList
  contentType.toList.all isVisible &&
    (match cutAt '/' essence with
    | (main, some subtype) =>
        main = "application".toList && isJsonSubtype subtype &&
          subtype.all isTokenChar &&
          (parameters.map areParameters).getD true
    | (_, none) => false)

end Service

------------------------------------------------------------
-- Bodies
------------------------------------------------------------

/- What can be wrong with a body. -/
inductive BodyFault where
  | notAnnounced
  | tooLong
  | unreadable (fault : Json.Fault)
deriving DecidableEq, Repr, Inhabited

/- The status of a reply to a faulty body. -/
def BodyFault.status : BodyFault → Nat
  | .notAnnounced => 415
  | .tooLong => 413
  | .unreadable .broken => 400
  | .unreadable .misfit => 422

/- The number of bytes that a body may have. -/
def Service.longestBody : Nat :=
  2 * 1024 * 1024

/-
  Read the body of a request by the shape of what the
  endpoint expects. Only the JSON value it starts with
  counts.
-/
def Request.readBody
    {α : Type}
    (request : Request)
    (shape : Json.Shape)
    (read : Json → Option α) : Except BodyFault α :=
  let announced :=
    (request.header? "content-type").map Service.isJsonType
  if announced ≠ some true then
    .error .notAnnounced
  else if Service.longestBody < request.body.utf8ByteSize then
    .error .tooLong
  else
    match shape.readFront request.body with
    | .error fault => .error (.unreadable fault)
    | .ok (value, _) =>
        match read value with
        | none => .error (.unreadable .misfit)
        | some a => .ok a

end Clickstream
