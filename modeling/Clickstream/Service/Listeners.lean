import Clickstream.Service.Message

/-
  Listeners: the open connections of the feed and the clients
  that are counted as connected. A client is known by its
  name; closing any of its connections strikes it off.

  Key definitions:
    * `Connection`
    * `Listeners`
    * `Listeners.connect`, `Listeners.disconnect`
    * `Listeners.publish`, `Listeners.receive`
    * `Listeners.collect`
-/

namespace Clickstream

/-
  An open connection of a client, and what was sent over it
  and not yet looked at.
-/
structure Connection where
  number : Nat
  client : String
  waiting : List FeedMessage
deriving DecidableEq, Repr, Inhabited

/- The open connections and the clients that are counted. -/
structure Listeners where
  connections : List Connection := []
  clients : List String := []
  nextNumber : Nat := 0
deriving DecidableEq, Repr, Inhabited

namespace Listeners

/- How many clients are counted as connected. -/
def count (listeners : Listeners) : Nat :=
  listeners.clients.length

/- Open a connection; its number is the next one. -/
def connect
    (listeners : Listeners)
    (client : String) : Listeners :=
  { connections := listeners.connections ++
      [⟨listeners.nextNumber, client, []⟩]
    clients := client ::
      listeners.clients.filter (fun c => c ≠ client)
    nextNumber := listeners.nextNumber + 1 }

/- Close a connection and strike its client off. -/
def disconnect
    (listeners : Listeners)
    (number : Nat) : Listeners :=
  let closed :=
    listeners.connections.filter (fun c => c.number = number)
  { listeners with
    connections :=
      listeners.connections.filter (fun c => c.number ≠ number)
    clients := listeners.clients.filter
      (fun client => client ∉ closed.map (·.client)) }

/- Change one connection. -/
def update
    (listeners : Listeners)
    (number : Nat)
    (change : Connection → Connection) : Listeners :=
  { listeners with
    connections := listeners.connections.map fun c =>
      if c.number = number then change c else c }

/- Tell every connection of recorded actions. -/
def publish
    (listeners : Listeners)
    (actions : List Action) : Listeners :=
  { listeners with
    connections := listeners.connections.map fun c =>
      { c with
        waiting := c.waiting ++ actions.map .action } }

/- Take a text from a connection; a ping is answered. -/
def receive
    (listeners : Listeners)
    (number : Nat)
    (text : String) : Listeners :=
  if FeedMessage.isPing text then
    listeners.update number fun c =>
      { c with waiting := c.waiting ++ [.pong] }
  else
    listeners

/- Look at what was sent over a connection. -/
def collect
    (listeners : Listeners)
    (number : Nat) : Listeners × List FeedMessage :=
  let waiting :=
    (listeners.connections.filter
      (fun c => c.number = number)).flatMap (·.waiting)
  (listeners.update number (fun c => { c with waiting := [] }),
    waiting)

end Listeners

end Clickstream
