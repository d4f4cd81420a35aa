import Clickstream.Text.Ascii
import Clickstream.Text.Split
import Clickstream.Json.Basic

/-
  Requests and replies of the service.

  Key definitions:
    * `Request`, `Request.header?`, `Request.resource`
    * `Request.asksForConnection`
    * `Reply`
    * `Service.isAllowedOrigin`
-/

namespace Clickstream

------------------------------------------------------------
-- Requests
------------------------------------------------------------

/- What a client asks for. -/
structure Request where
  method : String
  path : String
  headers : List (String × String) := []
  body : String := ""
deriving DecidableEq, Repr, Inhabited

namespace Request

/- The value of a header; case does not matter in its name. -/
def header?
    (request : Request)
    (name : String) : Option String :=
  (request.headers.find?
    (fun h => Text.lower h.1 = Text.lower name)).map (·.2)

/- The path without the query and the fragment. -/
def resource (request : Request) : String :=
  String.ofList
    (request.path.toList.takeWhile
      (fun c => c ≠ '?' ∧ c ≠ '#'))

/- Whether a header has a value, in letters of any case. -/
def headerIs
    (request : Request)
    (name value : String) : Bool :=
  (request.header? name).map Text.lower = some value

/-
  Whether a request asks to go on as a connection over which
  both sides send messages.
-/
def asksForConnection (request : Request) : Bool :=
  let connection :=
    ((request.header? "connection").map Text.lower).getD ""
  request.method = "GET" &&
    Text.includes "upgrade".toList connection.toList &&
    request.headerIs "upgrade" "websocket" &&
    request.headerIs "sec-websocket-version" "13" &&
    (request.header? "sec-websocket-key").isSome

end Request

------------------------------------------------------------
-- Replies
------------------------------------------------------------

/-
  What a client gets. `allowOrigin` names the origin whose
  pages may read the reply.
-/
structure Reply where
  status : Nat
  allowOrigin : Option String := none
  body : Option Json := none
deriving Repr, Inhabited

------------------------------------------------------------
-- Origins
------------------------------------------------------------

namespace Service

/- The characters a header value may show. -/
def isVisible (c : Char) : Bool :=
  c == '\t' || (0x20 ≤ c.toNat && c.toNat < 0x7F)

/- What follows a text at the front of another one. -/
def after? (front : List Char) :
    List Char → Option (List Char) :=
  match front with
  | [] => some
  | a :: rest => fun cs =>
      match cs with
      | [] => none
      | c :: tail => if a = c then after? rest tail else none

/-
  Whether a text is this host, alone or with something after
  a colon.
-/
def isHost
    (host : String)
    (origin : List Char) : Bool :=
  match after? host.toList origin with
  | some [] => true
  | some (':' :: _) => true
  | _ => false

/-
  The pages that may read replies: those of browser
  extensions and of this machine.
-/
def isAllowedOrigin (origin : String) : Bool :=
  let cs := origin.toList
  cs.all isVisible &&
    ((after? "chrome-extension://".toList cs).isSome ||
      isHost "http://localhost" cs ||
      isHost "http://127.0.0.1" cs)

end Service

end Clickstream
