import Clickstream.Session
import Clickstream.Studio.Fault

/-
  Outlets: where recorded actions go. An outlet takes an
  action or says why it does not.

  Key definitions:
    * `Outlet`
    * `Channel`: hands actions on as long as it is open
    * `Store`: holds the current session
    * `Outlet.deliverAll`
-/

namespace Clickstream

------------------------------------------------------------
-- Outlets
------------------------------------------------------------

/- Something that takes actions one at a time. -/
class Outlet (σ : Type) where
  deliver : σ → Action → Except DeliveryFault σ

namespace Outlet

variable {σ : Type} [Outlet σ]

/-
  Deliver one action after the other. What is refused is
  dropped; what is taken comes back, in order.
-/
def deliverAll
    (outlet : σ) :
    List Action → σ × List Action
  | [] => (outlet, [])
  | action :: rest =>
      match deliver outlet action with
      | .ok outlet =>
          let (outlet, taken) := deliverAll outlet rest
          (outlet, action :: taken)
      | .error _ => deliverAll outlet rest

end Outlet

------------------------------------------------------------
-- Channels
------------------------------------------------------------

/- A channel with someone at the other end, or no one. -/
structure Channel where
  isOpen : Bool := true
deriving DecidableEq, Repr, Inhabited

instance : Outlet Channel where
  deliver channel _ :=
    if channel.isOpen then .ok channel else .error .closed

------------------------------------------------------------
-- Stores
------------------------------------------------------------

/-
  The place of the one session. A stopped session can be read
  until the next one takes its place. `opened` counts the
  sessions so far.
-/
structure Store where
  session : Option Session := none
  opened : Nat := 0
deriving DecidableEq, Repr, Inhabited

namespace Store

/- The session, if it is active. -/
def active? (store : Store) : Option Session :=
  store.session.filter (·.isActive)

/- Whether there is an active session. -/
def isActive (store : Store) : Bool :=
  store.active?.isSome

/- Open a session, unless one is active. -/
def openSession
    (store : Store)
    (fileName : String)
    (language : Language)
    (startUrl : Option String) :
    Except Fault (Store × Session) :=
  match store.active? with
  | some active =>
      .error (.sessionAlreadyActive active.number)
  | none =>
      let session : Session :=
        { number := store.opened + 1
          fileName := fileName
          language := language
          startUrl := startUrl }
      .ok ({ session := some session
             opened := store.opened + 1 }, session)

/- Stop the active session. -/
def closeSession
    (store : Store) : Except Fault (Store × Session) :=
  match store.active? with
  | none => .error .noActiveSession
  | some active =>
      .ok ({ store with session := some active.stop },
        active.stop)

/- Add an action to the log of the active session. -/
def append
    (store : Store)
    (action : Action) : Except DeliveryFault Store :=
  match store.session.bind (·.append? action) with
  | some session =>
      .ok { store with session := some session }
  | none => .error .inactive

end Store

instance : Outlet Store where
  deliver := Store.append

end Clickstream
