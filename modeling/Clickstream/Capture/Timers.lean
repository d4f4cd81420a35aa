/-
  Timers: values that wait under a key until a deadline. A
  key that is scheduled again loses its older value. Every
  scheduling draws a ticket with a higher number than any
  before it, and tickets decide between equal deadlines; so
  no result depends on the order of the list that holds what
  is pending.

  Key definitions:
    * `Pending`, `Timers`
    * `Timers.has`, `Timers.size`, `Timers.nextDeadline?`
    * `Timers.schedule`, `Timers.cancel`, `Timers.clear`
    * `Timers.due`, `Timers.takeDue`
    * `Timers.drain`
-/

namespace Clickstream

namespace Capture

------------------------------------------------------------
-- Pending Values
------------------------------------------------------------

/- A value that waits. -/
structure Pending (κ α : Type) where
  key : κ
  deadline : Nat
  ticket : Nat
  value : α
deriving DecidableEq, Repr

/- Everything that waits, and the ticket to draw next. -/
structure Timers (κ α : Type) where
  pending : List (Pending κ α) := []
  nextTicket : Nat := 0
deriving DecidableEq, Repr

namespace Pending

variable {κ α : Type}

/- A key and what waited under it. -/
def entry (p : Pending κ α) : κ × α :=
  (p.key, p.value)

/- Earlier deadlines come first, then earlier tickets. -/
def FiresBefore (p q : Pending κ α) : Prop :=
  p.deadline < q.deadline ∨
    (p.deadline = q.deadline ∧ p.ticket ≤ q.ticket)

instance (p q : Pending κ α) :
    Decidable (FiresBefore p q) := by
  unfold FiresBefore
  infer_instance

/- Earlier tickets come first. -/
def DrawnBefore (p q : Pending κ α) : Prop :=
  p.ticket ≤ q.ticket

instance (p q : Pending κ α) :
    Decidable (DrawnBefore p q) := by
  unfold DrawnBefore
  infer_instance

end Pending

------------------------------------------------------------
-- Sorting
------------------------------------------------------------

section Sorting

variable {β : Type}

/-
  The same items in order: each one goes behind those in front
  that it does not come before.
-/
def sortBy
    (before : β → β → Prop)
    [∀ a b, Decidable (before a b)]
    (items : List β) : List β :=
  items.foldr
    (fun a sorted =>
      sorted.takeWhile (fun b => ¬ before a b) ++
        a :: sorted.dropWhile (fun b => ¬ before a b))
    []

end Sorting

------------------------------------------------------------
-- Timers
------------------------------------------------------------

namespace Timers

variable {κ α : Type}

/- Nothing waits. -/
def empty : Timers κ α :=
  ⟨[], 0⟩

instance : Inhabited (Timers κ α) := ⟨empty⟩

/- How many values wait. -/
def size (t : Timers κ α) : Nat :=
  t.pending.length

/- The earliest deadline. -/
def nextDeadline? (t : Timers κ α) : Option Nat :=
  (t.pending.map (·.deadline)).min?

/- Forget everything that waits. -/
def clear (t : Timers κ α) : Timers κ α :=
  { t with pending := [] }

variable [DecidableEq κ]

/- What waits under a key. -/
def find?
    (t : Timers κ α)
    (key : κ) : Option (Pending κ α) :=
  t.pending.find? (fun p => p.key = key)

/- Whether something waits under a key. -/
def has
    (t : Timers κ α)
    (key : κ) : Bool :=
  (t.find? key).isSome

/- The value that waits under a key. -/
def get?
    (t : Timers κ α)
    (key : κ) : Option α :=
  (t.find? key).map (·.value)

/- Forget what waits under a key. -/
def cancel
    (t : Timers κ α)
    (key : κ) : Timers κ α :=
  { t with pending := t.pending.filter (fun p => p.key ≠ key) }

/- Let a value wait, in place of the older one if any. -/
def schedule
    (t : Timers κ α)
    (key : κ)
    (deadline : Nat)
    (value : α) : Timers κ α :=
  { pending := (t.cancel key).pending ++
      [⟨key, deadline, t.nextTicket, value⟩]
    nextTicket := t.nextTicket + 1 }

omit [DecidableEq κ] in
/- What has waited long enough, in the order of firing. -/
def due
    (t : Timers κ α)
    (now : Nat) : List (Pending κ α) :=
  sortBy Pending.FiresBefore
    (t.pending.filter (fun p => p.deadline ≤ now))

omit [DecidableEq κ] in
/- What has to wait longer. -/
def later
    (t : Timers κ α)
    (now : Nat) : Timers κ α :=
  { t with
    pending := t.pending.filter (fun p => now < p.deadline) }

omit [DecidableEq κ] in
/- Fire what has waited long enough and keep the rest. -/
def takeDue
    (t : Timers κ α)
    (now : Nat) : Timers κ α × List (κ × α) :=
  (t.later now, (t.due now).map Pending.entry)

omit [DecidableEq κ] in
/- Fire everything, in the order of scheduling. -/
def drain (t : Timers κ α) : Timers κ α × List (κ × α) :=
  (t.clear,
    (sortBy Pending.DrawnBefore t.pending).map Pending.entry)

end Timers

end Capture

end Clickstream
