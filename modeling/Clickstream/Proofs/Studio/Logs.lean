import Mathlib.Data.List.Chain
import Clickstream.Studio.Outlet

/-
  Logs: what becomes of actions that are delivered. An active
  session takes every action and raises its time where the
  log would not be in order; whatever is delivered, it is the
  same session. The clock has a last time, so that order lasts
  as long as the clock goes on.

  Key definitions:
    * `Action.HasLater`: whether the clock goes on
    * `Action.Follows`: what a log holds behind an action
    * `Session.raise`: what becomes of actions in a log
    * `Session.InOrder`
    * `Store.Logs`, `Store.Begins`
    * `Store.current?`: which session a store holds

  Key theorems:
    * `Outlet.deliverAll_append`, `Outlet.deliverAll_keeps`
    * `Session.append?_of_raise`, `Session.raise_eq_self_iff`
    * `Session.inOrder_of_isChain`
    * `Session.isChain_of_append?`
    * `Store.begins_of_openSession`
    * `Store.Logs.deliverAll`, `Store.current?_deliverAll`
-/

namespace Clickstream

------------------------------------------------------------
-- Deliveries
------------------------------------------------------------

namespace Outlet

variable {σ : Type} [Outlet σ]
variable {outlet next : σ}
variable {action : Action}

/- What is taken comes first among all that is taken. -/
theorem deliverAll_of_ok
    (hDeliver : deliver outlet action = .ok next)
    (rest : List Action) :
    deliverAll outlet (action :: rest) =
      ((deliverAll next rest).1,
        action :: (deliverAll next rest).2) := by
  rw [deliverAll, hDeliver]

/- What is refused is as good as not there. -/
theorem deliverAll_of_error
    {fault : DeliveryFault}
    (hDeliver : deliver outlet action = .error fault)
    (rest : List Action) :
    deliverAll outlet (action :: rest) =
      deliverAll outlet rest := by
  rw [deliverAll, hDeliver]

/- Two deliveries are one delivery of both. -/
theorem deliverAll_append
    (outlet : σ)
    (first second : List Action) :
    deliverAll outlet (first ++ second) =
      ((deliverAll (deliverAll outlet first).1 second).1,
        (deliverAll outlet first).2 ++
          (deliverAll (deliverAll outlet first).1
            second).2) := by
  induction first generalizing outlet with
  | nil => rfl
  | cons action first ih =>
      rw [List.cons_append]
      cases hDeliver : deliver outlet action with
      | ok next =>
          rw [deliverAll_of_ok hDeliver,
            deliverAll_of_ok hDeliver, ih]
          rfl
      | error fault =>
          rw [deliverAll_of_error hDeliver,
            deliverAll_of_error hDeliver, ih]

/- What no delivery changes, no number of them changes. -/
theorem deliverAll_keeps
    {β : Type}
    (f : σ → β)
    (hKeeps :
      ∀ outlet action next,
        deliver outlet action = .ok next → f next = f outlet)
    (outlet : σ)
    (actions : List Action) :
    f (deliverAll outlet actions).1 = f outlet := by
  induction actions generalizing outlet with
  | nil => rfl
  | cons action actions ih =>
      cases hDeliver : deliver outlet action with
      | ok next =>
          rw [deliverAll_of_ok hDeliver]
          exact (ih next).trans
            (hKeeps outlet action next hDeliver)
      | error fault =>
          rw [deliverAll_of_error hDeliver]
          exact ih outlet

end Outlet

------------------------------------------------------------
-- Times
------------------------------------------------------------

namespace Action

/- Whether the clock shows a later time than an action's. -/
def HasLater (action : Action) : Prop :=
  action.timestamp + 1 < UInt64.size

instance (action : Action) : Decidable action.HasLater :=
  inferInstanceAs (Decidable (_ < _))

/-
  Whether one action comes after another, or at the very next
  time of the clock, which starts again after its last one.
-/
def Follows (a b : Action) : Prop :=
  a.timestamp < b.timestamp ∨
    b.timestamp = clockAfter a.timestamp 1

instance (a b : Action) : Decidable (a.Follows b) :=
  inferInstanceAs (Decidable (_ ∨ _))

variable {a b : Action}

/- What follows comes after, as long as the clock goes on. -/
theorem Follows.lt
    (hFollows : a.Follows b)
    (hLater : a.HasLater) :
    a.timestamp < b.timestamp := by
  rcases hFollows with hAfter | hNext
  · exact hAfter
  · rw [hNext, clockAfter_of_lt hLater]
    exact Nat.lt_succ_self _

end Action

------------------------------------------------------------
-- Logs
------------------------------------------------------------

namespace Session

/-
  The time of an action in a log behind a last time, if there
  is one: its own where it comes after that, or else the next
  time of the clock.
-/
def timeBehind : Option Nat → Nat → Nat
  | none, timestamp => timestamp
  | some last, timestamp =>
      if timestamp ≤ last then clockAfter last 1
      else timestamp

/-
  Actions in a log behind a last time, if there is one. A time
  that would not come after the one before it is raised to the
  next one; nothing else changes.
-/
def raise (last : Option Nat) : List Action → List Action
  | [] => []
  | action :: rest =>
      let time := timeBehind last action.timestamp
      { action with timestamp := time } ::
        raise (some time) rest

/- The last time of a log that is kept behind another time. -/
def lastTime?
    (last : Option Nat)
    (log : List Action) : Option Nat :=
  (log.getLast?.map (·.timestamp)).or last

theorem lastTime?_cons
    (last : Option Nat)
    (action : Action)
    (log : List Action) :
    lastTime? last (action :: log) =
      lastTime? (some action.timestamp) log := by
  unfold lastTime?
  rw [List.getLast?_cons]
  cases log.getLast? <;> rfl

/- One more action is raised past the log so far. -/
theorem raise_append_singleton
    (last : Option Nat)
    (emitted : List Action)
    (action : Action) :
    raise last (emitted ++ [action]) =
      raise last emitted ++
        [{ action with
            timestamp :=
              timeBehind (lastTime? last (raise last emitted))
                action.timestamp }] := by
  induction emitted generalizing last with
  | nil => rfl
  | cons first emitted ih =>
      rw [List.cons_append, raise, raise, ih, lastTime?_cons]
      rfl

theorem nextTimestamp_eq_timeBehind
    (session : Session)
    (timestamp : Nat) :
    session.nextTimestamp timestamp =
      timeBehind (lastTime? none session.actions)
        timestamp := by
  unfold nextTimestamp lastTime?
  cases session.actions.getLast? <;> rfl

/- An active session raises what it takes. -/
theorem append?_of_raise
    {session : Session}
    {emitted : List Action}
    (hActive : session.isActive = true)
    (hActions : session.actions = raise none emitted)
    (action : Action) :
    session.append? action =
      some { session with
        actions := raise none (emitted ++ [action]) } := by
  unfold append?
  rw [if_pos hActive, nextTimestamp_eq_timeBehind, hActions,
    raise_append_singleton]

/- Two of three actions come too early for their places. -/
example :
    (raise none
      [.navigate "/a" none 100, .navigate "/b" none 100,
        .navigate "/c" none 50]).map (·.timestamp) =
      [100, 101, 102] := by
  decide

/- A time stays as it is if it follows the last one. -/
theorem timeBehind_eq_self_iff {a b : Action} :
    timeBehind (some a.timestamp) b.timestamp = b.timestamp ↔
      a.Follows b := by
  rw [timeBehind]
  unfold Action.Follows
  split
  · rename_i hEarly
    rw [or_iff_right (Nat.not_lt.mpr hEarly)]
    exact eq_comm
  · rename_i hAfter
    exact iff_of_true rfl (Or.inl (Nat.not_le.mp hAfter))

theorem raise_some_eq_self_iff
    {first : Action}
    {emitted : List Action} :
    raise (some first.timestamp) emitted = emitted ↔
      (first :: emitted).IsChain Action.Follows := by
  induction emitted generalizing first with
  | nil => exact iff_of_true rfl (List.isChain_singleton _)
  | cons action emitted ih =>
      rw [List.isChain_cons_cons, ← timeBehind_eq_self_iff,
        ← ih, raise, List.cons_eq_cons]
      constructor
      · rintro ⟨hFirst, hRest⟩
        have hTime := congrArg Action.timestamp hFirst
        dsimp only at hTime
        rw [hTime] at hRest
        exact ⟨hTime, hRest⟩
      · rintro ⟨hTime, hRest⟩
        rw [hTime]
        exact ⟨rfl, hRest⟩

/- The log is what came in just if each follows the last. -/
theorem raise_eq_self_iff {emitted : List Action} :
    raise none emitted = emitted ↔
      emitted.IsChain Action.Follows := by
  cases emitted with
  | nil => exact iff_of_true rfl List.isChain_nil
  | cons first emitted =>
      rw [← raise_some_eq_self_iff]
      exact List.cons_eq_cons.trans (and_iff_right rfl)

/- Whether the times of actions strictly increase. -/
def InOrder (actions : List Action) : Prop :=
  actions.Pairwise (fun a b => a.timestamp < b.timestamp)

instance (actions : List Action) :
    Decidable (InOrder actions) :=
  inferInstanceAs (Decidable (actions.Pairwise _))

theorem isChain_of_inOrder
    {actions : List Action}
    (hOrder : InOrder actions) :
    actions.IsChain Action.Follows :=
  hOrder.isChain.imp fun _ _ => Or.inl

/- As long as the clock goes on, what follows is in order. -/
theorem inOrder_of_isChain
    {actions : List Action}
    (hChain : actions.IsChain Action.Follows)
    (hLater : ∀ action ∈ actions, action.HasLater) :
    InOrder actions := by
  have hNeighbours :
      actions.IsChain (fun a b => a.timestamp < b.timestamp) :=
    hChain.imp_of_mem_imp fun a _ ha _ hFollows =>
      hFollows.lt (hLater a ha)
  have : Trans (fun a b : Action => a.timestamp < b.timestamp)
      (fun a b : Action => a.timestamp < b.timestamp)
      (fun a b : Action => a.timestamp < b.timestamp) :=
    ⟨Nat.lt_trans⟩
  exact hNeighbours.pairwise

/- However actions come in, each follows the last in a log. -/
theorem isChain_of_append?
    {session next : Session}
    {action : Action}
    (hChain : session.actions.IsChain Action.Follows)
    (hAppend : session.append? action = some next) :
    next.actions.IsChain Action.Follows := by
  unfold append? at hAppend
  split at hAppend
  · cases hAppend
    refine hChain.append (List.isChain_singleton _) ?_
    intro last hLast taken hTaken
    cases hTaken
    unfold nextTimestamp
    rw [Option.mem_def.mp hLast]
    dsimp only
    split
    · exact Or.inr rfl
    · rename_i hAfter
      exact Or.inl (Nat.not_le.mp hAfter)
  · cases hAppend

theorem number_of_append?
    {session next : Session}
    {action : Action}
    (hAppend : session.append? action = some next) :
    next.number = session.number := by
  unfold append? at hAppend
  split at hAppend
  · cases hAppend
    rfl
  · cases hAppend

end Session

------------------------------------------------------------
-- Stores
------------------------------------------------------------

namespace Store

variable {store : Store}
variable {emitted : List Action}

/- Whether the log of the active session holds these. -/
def Logs (store : Store) (emitted : List Action) : Prop :=
  ∃ session, store.active? = some session ∧
    session.actions = Session.raise none emitted

theorem active?_eq_some_iff {session : Session} :
    store.active? = some session ↔
      store.session = some session ∧
        session.isActive = true :=
  Option.filter_eq_some_iff

/- Which session it is that a store holds. -/
def current? (store : Store) : Option Nat :=
  store.session.map (·.number)

/- Whether a new session with an empty log took its place. -/
structure Begins (store next : Store) : Prop where
  logs : next.Logs []
  current : next.current? = some (store.opened + 1)

theorem begins_of_openSession
    {next : Store}
    {session : Session}
    {fileName : String}
    {language : Language}
    {startUrl : Option String}
    (hOpen :
      store.openSession fileName language startUrl =
        .ok (next, session)) :
    store.Begins next := by
  unfold openSession at hOpen
  cases hActive : store.active? with
  | some active =>
      rw [hActive] at hOpen
      cases hOpen
  | none =>
      rw [hActive] at hOpen
      cases hOpen
      refine
        ⟨⟨_, active?_eq_some_iff.mpr ⟨rfl, ?_⟩, ?_⟩, ?_⟩
      · rfl
      · rfl
      · rfl

/- An action is logged in the session that there is. -/
theorem current?_of_deliver
    {next : Store}
    {action : Action}
    (hDeliver : Outlet.deliver store action = .ok next) :
    next.current? = store.current? := by
  have hAppend : store.append action = .ok next := hDeliver
  unfold append at hAppend
  cases hTaken : store.session.bind (·.append? action) with
  | none =>
      rw [hTaken] at hAppend
      cases hAppend
  | some taken =>
      rw [hTaken] at hAppend
      cases hAppend
      rcases Option.bind_eq_some_iff.mp hTaken with
        ⟨session, hSession, hSame⟩
      unfold current?
      rw [hSession]
      exact congrArg some (Session.number_of_append? hSame)

theorem current?_deliverAll
    (store : Store)
    (actions : List Action) :
    (Outlet.deliverAll store actions).1.current? =
      store.current? :=
  Outlet.deliverAll_keeps current?
    (fun _ _ _ => current?_of_deliver) store actions

/- No delivery opens or stops a session. -/
theorem isActive_of_deliver
    {next : Store}
    {action : Action}
    (hDeliver : Outlet.deliver store action = .ok next) :
    next.isActive = store.isActive := by
  have hAppend : store.append action = .ok next := hDeliver
  unfold append at hAppend
  cases hTaken : store.session.bind (·.append? action) with
  | none =>
      rw [hTaken] at hAppend
      cases hAppend
  | some taken =>
      rw [hTaken] at hAppend
      cases hAppend
      rcases Option.bind_eq_some_iff.mp hTaken with
        ⟨session, hSession, hSame⟩
      unfold Session.append? at hSame
      split at hSame
      · rename_i hActive
        cases hSame
        unfold isActive active?
        rw [hSession, Option.filter_some, Option.filter_some,
          if_pos hActive, if_pos hActive]
        rfl
      · cases hSame

theorem isActive_deliverAll
    (store : Store)
    (actions : List Action) :
    (Outlet.deliverAll store actions).1.isActive =
      store.isActive :=
  Outlet.deliverAll_keeps isActive
    (fun _ _ _ => isActive_of_deliver) store actions

/- An active session can be closed. -/
theorem closeSession_of_active
    {session : Session}
    (hActive : store.active? = some session) :
    store.closeSession =
      .ok ({ store with session := some session.stop },
        session.stop) := by
  unfold closeSession
  rw [hActive]

/- An active session takes an action. -/
theorem Logs.deliver
    (hLogs : store.Logs emitted)
    (action : Action) :
    ∃ next,
      Outlet.deliver store action = .ok next ∧
        next.Logs (emitted ++ [action]) := by
  rcases hLogs with ⟨session, hSession, hActions⟩
  rcases active?_eq_some_iff.mp hSession with
    ⟨hCurrent, hActive⟩
  have hAppend :=
    Session.append?_of_raise hActive hActions action
  have hDeliver :
      Outlet.deliver store action =
        .ok { store with
          session := some { session with
            actions :=
              Session.raise none (emitted ++ [action]) } } := by
    show store.append action = _
    unfold append
    rw [hCurrent, Option.bind_some, hAppend]
  refine ⟨_, hDeliver, ?_⟩
  exact ⟨_, active?_eq_some_iff.mpr ⟨rfl, hActive⟩, rfl⟩

/- It takes any number of them. -/
theorem Logs.deliverAll
    (hLogs : store.Logs emitted)
    (actions : List Action) :
    (Outlet.deliverAll store actions).1.Logs
        (emitted ++ actions) ∧
      (Outlet.deliverAll store actions).2 = actions := by
  induction actions generalizing store emitted with
  | nil =>
      rw [List.append_nil]
      exact ⟨hLogs, rfl⟩
  | cons action actions ih =>
      rcases hLogs.deliver action with
        ⟨next, hDeliver, hNext⟩
      rcases ih hNext with ⟨hRest, hTaken⟩
      rw [List.append_assoc] at hRest
      rw [Outlet.deliverAll_of_ok hDeliver]
      exact ⟨hRest, congrArg (action :: ·) hTaken⟩

end Store

end Clickstream
