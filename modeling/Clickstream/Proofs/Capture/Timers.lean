import Mathlib.Data.List.Sort
import Clickstream.Capture.Timers

/-
  Laws of timers. What fires was pending, what stays was
  pending too, and nothing depends on the values that wait,
  nor on the ticket that was drawn first. Firing in two goes
  is firing at once.

  Key definitions:
    * `Timers.drawn`: what waits, in the order of tickets
    * `Timers.under`: what waits under a key
    * `Pending.IsImage`: other values, fired just the same
    * `Pending.mapValue`, `Timers.mapValues`
    * `Pending.renumber`, `Timers.renumber`

  Key theorems:
    * `sortBy_eq_insertionSort`,
      `insertionSort_filter_append`
    * `Timers.perm_due`, `Timers.perm_drawn`
    * `Timers.pairwise_due`, `Timers.pairwise_drawn`
    * `Timers.exists_of_mem_takeDue`,
      `Timers.exists_of_mem_drain`
    * `Timers.takeDue_append_takeDue`
    * `Timers.under_schedule_self`, `Timers.perm_under`
    * `Pending.IsImage.takeDue`, `Pending.IsImage.drain`
    * `Timers.takeDue_mapValues`, `Timers.drain_mapValues`,
      `Timers.schedule_mapValues`
    * `Timers.takeDue_renumber`, `Timers.drain_renumber`,
      `Timers.schedule_renumber`
-/

namespace Clickstream

namespace Capture

------------------------------------------------------------
-- Sorting
------------------------------------------------------------

section Sorting

variable {β : Type}
variable {before : β → β → Prop}
variable [∀ a b, Decidable (before a b)]

/- Sorting is the insertion sort of lists. -/
theorem sortBy_eq_insertionSort (items : List β) :
    sortBy before items = items.insertionSort before := by
  unfold sortBy List.insertionSort
  congr 1
  funext a sorted
  exact (List.orderedInsert_eq_take_drop before a sorted).symm

/- An item goes in front of all that it comes before. -/
theorem orderedInsert_append
    {a : β}
    {late : List β}
    (hLate : ∀ b ∈ late, before a b)
    (early : List β) :
    (early ++ late).orderedInsert before a =
      early.orderedInsert before a ++ late := by
  induction early with
  | nil =>
      cases late with
      | nil => rfl
      | cons b late =>
          have hBefore := hLate b List.mem_cons_self
          exact List.orderedInsert_cons_of_le before late hBefore
  | cons b early ih =>
      rw [List.cons_append, List.orderedInsert_cons,
        List.orderedInsert_cons, ih]
      split <;> rfl

/- An item goes behind all that it does not come before. -/
theorem orderedInsert_append_of_not
    {a : β}
    {early : List β}
    (hEarly : ∀ b ∈ early, ¬ before a b)
    (late : List β) :
    (early ++ late).orderedInsert before a =
      early ++ late.orderedInsert before a := by
  have hSkip : ∀ b ∈ early, decide (¬ before a b) = true :=
    fun b hb => decide_eq_true (hEarly b hb)
  rw [List.orderedInsert_eq_take_drop,
    List.orderedInsert_eq_take_drop,
    List.takeWhile_append_of_pos hSkip,
    List.dropWhile_append_of_pos hSkip, List.append_assoc]

/-
  Where all items of one sort come before all others, the two
  sorts may be sorted one after the other.
-/
theorem insertionSort_filter_append
    {p : β → Bool}
    (hApart :
      ∀ a b, p a = true → p b = false →
        before a b ∧ ¬ before b a)
    (items : List β) :
    (items.filter p).insertionSort before ++
        (items.filter (fun a => !p a)).insertionSort before =
      items.insertionSort before := by
  induction items with
  | nil => rfl
  | cons a items ih =>
      rw [List.insertionSort_cons, ← ih]
      cases hp : p a with
      | true =>
          rw [List.filter_cons_of_pos hp,
            List.filter_cons_of_neg (by simp [hp]),
            List.insertionSort_cons]
          symm
          apply orderedInsert_append
          intro b hb
          have hLate :=
            (List.mem_filter.mp
              ((List.mem_insertionSort before).mp hb)).2
          exact (hApart a b hp (by simpa using hLate)).1
      | false =>
          rw [List.filter_cons_of_neg (by simp [hp]),
            List.filter_cons_of_pos (by simp [hp]),
            List.insertionSort_cons]
          symm
          apply orderedInsert_append_of_not
          intro b hb
          have hEarly :=
            (List.mem_filter.mp
              ((List.mem_insertionSort before).mp hb)).2
          exact (hApart b a hEarly hp).2

end Sorting

------------------------------------------------------------
-- Orders
------------------------------------------------------------

section Orders

variable {κ α : Type}

instance : Std.Total (@Pending.FiresBefore κ α) where
  total p q := by
    unfold Pending.FiresBefore
    omega

instance : IsTrans (Pending κ α) Pending.FiresBefore where
  trans p q s := by
    unfold Pending.FiresBefore
    omega

instance : Std.Total (@Pending.DrawnBefore κ α) where
  total p q := Nat.le_total p.ticket q.ticket

instance : IsTrans (Pending κ α) Pending.DrawnBefore where
  trans _ _ _ := Nat.le_trans

end Orders

------------------------------------------------------------
-- Firing
------------------------------------------------------------

namespace Timers

variable {κ α : Type}

theorem due_eq_insertionSort
    (t : Timers κ α)
    (now : Nat) :
    t.due now =
      (t.pending.filter
        (fun p => p.deadline ≤ now)).insertionSort
          Pending.FiresBefore :=
  sortBy_eq_insertionSort _

/- What waits, in the order in which it was scheduled. -/
def drawn (t : Timers κ α) : List (Pending κ α) :=
  t.pending.insertionSort Pending.DrawnBefore

theorem drain_eq_drawn (t : Timers κ α) :
    t.drain = (t.clear, t.drawn.map Pending.entry) := by
  unfold drain drawn
  rw [sortBy_eq_insertionSort]

theorem perm_due
    (t : Timers κ α)
    (now : Nat) :
    (t.due now).Perm
      (t.pending.filter (fun p => p.deadline ≤ now)) := by
  rw [due_eq_insertionSort]
  exact List.perm_insertionSort _ _

theorem perm_drawn (t : Timers κ α) :
    t.drawn.Perm t.pending :=
  List.perm_insertionSort _ _

/- What is due fires earliest first. -/
theorem pairwise_due
    (t : Timers κ α)
    (now : Nat) :
    (t.due now).Pairwise Pending.FiresBefore := by
  rw [due_eq_insertionSort]
  exact List.pairwise_insertionSort _ _

/- A flush goes by tickets. -/
theorem pairwise_drawn (t : Timers κ α) :
    t.drawn.Pairwise Pending.DrawnBefore :=
  List.pairwise_insertionSort _ _

/- What is due was pending and has waited long enough. -/
theorem mem_due_iff
    {t : Timers κ α}
    {now : Nat}
    {p : Pending κ α} :
    p ∈ t.due now ↔ p ∈ t.pending ∧ p.deadline ≤ now := by
  rw [(t.perm_due now).mem_iff, List.mem_filter,
    decide_eq_true_eq]

theorem mem_drawn_iff
    {t : Timers κ α}
    {p : Pending κ α} :
    p ∈ t.drawn ↔ p ∈ t.pending :=
  t.perm_drawn.mem_iff

/- What is due was pending. -/
theorem exists_of_mem_takeDue
    {t : Timers κ α}
    {now : Nat}
    {entry : κ × α}
    (hEntry : entry ∈ (t.takeDue now).2) :
    ∃ p ∈ t.pending, p.entry = entry := by
  rcases List.mem_map.mp hEntry with ⟨p, hp, hSame⟩
  exact ⟨p, (mem_due_iff.mp hp).1, hSame⟩

/- What is drained was pending. -/
theorem exists_of_mem_drain
    {t : Timers κ α}
    {entry : κ × α}
    (hEntry : entry ∈ t.drain.2) :
    ∃ p ∈ t.pending, p.entry = entry := by
  rw [drain_eq_drawn] at hEntry
  rcases List.mem_map.mp hEntry with ⟨p, hp, hSame⟩
  exact ⟨p, mem_drawn_iff.mp hp, hSame⟩

/- What waits longer was pending. -/
theorem mem_of_mem_later
    {t : Timers κ α}
    {now : Nat}
    {p : Pending κ α}
    (hp : p ∈ (t.later now).pending) :
    p ∈ t.pending :=
  (List.mem_filter.mp hp).1

/- What stays is what is not due. -/
theorem pending_later
    (t : Timers κ α)
    (now : Nat) :
    (t.later now).pending =
      t.pending.filter
        (fun p => !decide (p.deadline ≤ now)) := by
  apply List.filter_congr
  intro p _
  rw [← decide_not, decide_eq_decide]
  exact Nat.not_le.symm

/- What fires and what stays are together what waited. -/
theorem perm_due_append_later
    (t : Timers κ α)
    (now : Nat) :
    (t.due now ++ (t.later now).pending).Perm t.pending := by
  rw [pending_later]
  exact ((t.perm_due now).append_right _).trans
    (List.filter_append_perm _ _)

/- A later firing leaves what no earlier one would take. -/
theorem later_later
    (t : Timers κ α)
    {first second : Nat}
    (hOrder : first ≤ second) :
    (t.later first).later second = t.later second := by
  unfold later
  rw [List.filter_filter]
  congr 1
  apply List.filter_congr
  intro p _
  rw [← Bool.decide_and, decide_eq_decide]
  omega

/-
  What is due at some time fires in the same order if some of
  it fires earlier.
-/
theorem due_append_due
    (t : Timers κ α)
    {first second : Nat}
    (hOrder : first ≤ second) :
    t.due first ++ (t.later first).due second =
      t.due second := by
  have hEarly :
      t.pending.filter (fun p => p.deadline ≤ first) =
        (t.pending.filter (fun p => p.deadline ≤ second)).filter
          (fun p => p.deadline ≤ first) := by
    rw [List.filter_filter]
    apply List.filter_congr
    intro p _
    rw [← Bool.decide_and, decide_eq_decide]
    omega
  have hLate :
      (t.later first).pending.filter
          (fun p => p.deadline ≤ second) =
        (t.pending.filter (fun p => p.deadline ≤ second)).filter
          (fun p => !decide (p.deadline ≤ first)) := by
    unfold later
    rw [List.filter_filter, List.filter_filter]
    apply List.filter_congr
    intro p _
    rw [← decide_not, ← Bool.decide_and, ← Bool.decide_and,
      decide_eq_decide]
    omega
  rw [due_eq_insertionSort, due_eq_insertionSort,
    due_eq_insertionSort, hEarly, hLate]
  apply insertionSort_filter_append
  intro p q hp hq
  have hp := of_decide_eq_true hp
  have hq := of_decide_eq_false hq
  unfold Pending.FiresBefore
  omega

/- Firing in two goes is firing at once. -/
theorem takeDue_append_takeDue
    (t : Timers κ α)
    {first second : Nat}
    (hOrder : first ≤ second) :
    (t.takeDue first).2 ++
        ((t.later first).takeDue second).2 =
      (t.takeDue second).2 := by
  unfold takeDue
  rw [← List.map_append, t.due_append_due hOrder]

end Timers

------------------------------------------------------------
-- Keys
------------------------------------------------------------

namespace Timers

variable {κ α : Type}
variable [DecidableEq κ]
variable {t : Timers κ α}
variable {key other : κ}
variable {deadline : Nat}
variable {value : α}
variable {p : Pending κ α}

/- What waits after scheduling is new or has another key. -/
theorem mem_pending_schedule_iff :
    p ∈ (t.schedule key deadline value).pending ↔
      (p ∈ t.pending ∧ p.key ≠ key) ∨
        p = ⟨key, deadline, t.nextTicket, value⟩ := by
  unfold schedule cancel
  simp

/- What waits after scheduling waited before or is new. -/
theorem mem_pending_schedule
    (hp : p ∈ (t.schedule key deadline value).pending) :
    p ∈ t.pending ∨ p = ⟨key, deadline, t.nextTicket, value⟩ :=
  (mem_pending_schedule_iff.mp hp).imp_left And.left

/- What waits under a key. -/
def under
    (t : Timers κ α)
    (key : κ) : List (Pending κ α) :=
  t.pending.filter (fun p => p.key = key)

/- What is found under a key is the first that waits there. -/
theorem find?_eq_head?_under
    (t : Timers κ α)
    (key : κ) :
    t.find? key = (t.under key).head? :=
  List.head?_filter.symm

/- What is scheduled waits alone under its key. -/
theorem under_schedule_self
    (t : Timers κ α)
    (key : κ)
    (deadline : Nat)
    (value : α) :
    (t.schedule key deadline value).under key =
      [⟨key, deadline, t.nextTicket, value⟩] := by
  have hOld :
      (t.cancel key).pending.filter (fun p => p.key = key) =
        [] := by
    unfold cancel
    simp
  unfold under schedule
  dsimp only
  rw [List.filter_append, hOld,
    List.filter_cons_of_pos (by simp)]
  rfl

/- It leaves alone what waits under other keys. -/
theorem under_schedule_of_ne
    (t : Timers κ α)
    (hOther : other ≠ key)
    (deadline : Nat)
    (value : α) :
    (t.schedule other deadline value).under key =
      t.under key := by
  unfold under schedule cancel
  dsimp only
  rw [List.filter_append, List.filter_filter,
    List.filter_cons_of_neg (by simpa using hOther),
    List.filter_nil, List.append_nil]
  apply List.filter_congr
  intro p _
  rw [← Bool.decide_and, decide_eq_decide]
  constructor
  · exact And.left
  · rintro rfl
    exact ⟨rfl, hOther.symm⟩

/- What waits under a key fires or stays there. -/
theorem perm_under
    (t : Timers κ α)
    (key : κ)
    (now : Nat) :
    ((t.due now).filter (fun p => p.key = key) ++
        (t.later now).under key).Perm (t.under key) := by
  unfold under
  rw [← List.filter_append]
  exact (t.perm_due_append_later now).filter _

end Timers

------------------------------------------------------------
-- Images
------------------------------------------------------------

section Images

variable {κ α β : Type}

/-
  Whether a map of what waits leaves alone when it fires and
  in which order, and takes the values to others.
-/
structure Pending.IsImage
    (f : α → β)
    (g : Pending κ α → Pending κ β) : Prop where
  key : ∀ p, (g p).key = p.key
  deadline : ∀ p, (g p).deadline = p.deadline
  ticket :
    ∀ p q, (g p).ticket ≤ (g q).ticket ↔ p.ticket ≤ q.ticket
  value : ∀ p, (g p).value = f p.value

namespace Pending.IsImage

variable {f : α → β}
variable {g : Pending κ α → Pending κ β}
variable {t : Timers κ α}
variable {u : Timers κ β}

theorem map_entry
    (hImage : IsImage f g)
    (items : List (Pending κ α)) :
    (items.map g).map entry =
      (items.map entry).map
        (fun entry => (entry.1, f entry.2)) := by
  rw [List.map_map, List.map_map]
  apply List.map_congr_left
  intro p hp
  exact Prod.ext (hImage.key p) (hImage.value p)

theorem nextDeadline?
    (hImage : IsImage f g)
    (hPending : u.pending = t.pending.map g) :
    u.nextDeadline? = t.nextDeadline? := by
  unfold Timers.nextDeadline?
  rw [hPending, List.map_map]
  congr 1
  apply List.map_congr_left
  intro p hp
  exact hImage.deadline p

/- What is due fires in the same order. -/
theorem takeDue
    (hImage : IsImage f g)
    (hPending : u.pending = t.pending.map g)
    (now : Nat) :
    (u.takeDue now).2 =
      (t.takeDue now).2.map
        (fun entry => (entry.1, f entry.2)) := by
  have hOrder :
      ∀ p q, FiresBefore (g p) (g q) ↔ FiresBefore p q := by
    intro p q
    unfold FiresBefore
    rw [hImage.deadline, hImage.deadline, hImage.ticket]
  have hFilter :
      (t.pending.map g).filter (fun p => p.deadline ≤ now) =
        (t.pending.filter
          (fun p => p.deadline ≤ now)).map g := by
    rw [List.filter_map]
    congr 1
    apply List.filter_congr
    intro p hp
    dsimp only [Function.comp_apply]
    rw [hImage.deadline]
  unfold Timers.takeDue
  rw [Timers.due_eq_insertionSort,
    Timers.due_eq_insertionSort, hPending, hFilter,
    ← List.map_insertionSort FiresBefore FiresBefore g _
      (fun p _ q _ => (hOrder p q).symm),
    hImage.map_entry]

/- So does everything when it is drained. -/
theorem drain
    (hImage : IsImage f g)
    (hPending : u.pending = t.pending.map g) :
    u.drain.2 =
      t.drain.2.map (fun entry => (entry.1, f entry.2)) := by
  have hOrder :
      ∀ p q, DrawnBefore (g p) (g q) ↔ DrawnBefore p q :=
    hImage.ticket
  rw [Timers.drain_eq_drawn, Timers.drain_eq_drawn]
  unfold Timers.drawn
  rw [hPending,
    ← List.map_insertionSort DrawnBefore DrawnBefore g _
      (fun p _ q _ => (hOrder p q).symm),
    hImage.map_entry]

end Pending.IsImage

end Images

------------------------------------------------------------
-- Other Values
------------------------------------------------------------

section Values

variable {κ α β : Type}

/- The same wait with another value. -/
def Pending.mapValue
    (f : α → β)
    (p : Pending κ α) : Pending κ β where
  key := p.key
  deadline := p.deadline
  ticket := p.ticket
  value := f p.value

/- The same timers with other values. -/
def Timers.mapValues
    (f : α → β)
    (t : Timers κ α) : Timers κ β where
  pending := t.pending.map (Pending.mapValue f)
  nextTicket := t.nextTicket

variable (f : α → β)

theorem Pending.isImage_mapValue :
    Pending.IsImage f
      (Pending.mapValue f :
        Pending κ α → Pending κ β) where
  key _ := rfl
  deadline _ := rfl
  ticket _ _ := Iff.rfl
  value _ := rfl

namespace Timers

variable (t : Timers κ α)

@[simp] theorem size_mapValues :
    (t.mapValues f).size = t.size :=
  List.length_map _

@[simp] theorem nextDeadline?_mapValues :
    (t.mapValues f).nextDeadline? = t.nextDeadline? :=
  (Pending.isImage_mapValue f).nextDeadline? rfl

@[simp] theorem clear_mapValues :
    (t.mapValues f).clear = t.clear.mapValues f :=
  rfl

@[simp] theorem later_mapValues (now : Nat) :
    (t.mapValues f).later now =
      (t.later now).mapValues f := by
  unfold later mapValues
  rw [List.filter_map]
  rfl

/- Which timers are due does not depend on the values. -/
theorem takeDue_mapValues (now : Nat) :
    (t.mapValues f).takeDue now =
      ((t.takeDue now).1.mapValues f,
        (t.takeDue now).2.map
          (fun entry => (entry.1, f entry.2))) := by
  have hFired :=
    (Pending.isImage_mapValue f).takeDue
      (Eq.refl (t.mapValues f).pending) now
  exact Prod.ext (t.later_mapValues f now) hFired

/- The order of draining does not depend on the values. -/
theorem drain_mapValues :
    (t.mapValues f).drain =
      (t.drain.1.mapValues f,
        t.drain.2.map (fun entry => (entry.1, f entry.2))) := by
  have hFired :=
    (Pending.isImage_mapValue f).drain
      (Eq.refl (t.mapValues f).pending)
  exact Prod.ext (t.clear_mapValues f) hFired

/- Scheduling another value is scheduling elsewhere. -/
theorem schedule_mapValues
    [DecidableEq κ]
    (key : κ)
    (deadline : Nat)
    (value : α) :
    (t.mapValues f).schedule key deadline (f value) =
      (t.schedule key deadline value).mapValues f := by
  unfold schedule cancel mapValues
  rw [List.filter_map, List.map_append]
  rfl

end Timers

end Values

------------------------------------------------------------
-- Other Tickets
------------------------------------------------------------

section Tickets

variable {κ α : Type}

/- The same wait with a ticket drawn so much later. -/
def Pending.renumber
    (shift : Nat)
    (p : Pending κ α) : Pending κ α :=
  { p with ticket := p.ticket + shift }

/- The same timers with tickets drawn so much later. -/
def Timers.renumber
    (shift : Nat)
    (t : Timers κ α) : Timers κ α where
  pending := t.pending.map (Pending.renumber shift)
  nextTicket := t.nextTicket + shift

variable (shift : Nat)

/- A shift keeps the order of the tickets. -/
theorem Pending.isImage_renumber :
    Pending.IsImage id
      (Pending.renumber shift :
        Pending κ α → Pending κ α) where
  key _ := rfl
  deadline _ := rfl
  ticket _ _ := Nat.add_le_add_iff_right
  value _ := rfl

namespace Timers

variable (t : Timers κ α)

@[simp] theorem size_renumber :
    (t.renumber shift).size = t.size :=
  List.length_map _

@[simp] theorem nextDeadline?_renumber :
    (t.renumber shift).nextDeadline? = t.nextDeadline? :=
  (Pending.isImage_renumber shift).nextDeadline? rfl

@[simp] theorem clear_renumber :
    (t.renumber shift).clear = t.clear.renumber shift :=
  rfl

@[simp] theorem later_renumber (now : Nat) :
    (t.renumber shift).later now =
      (t.later now).renumber shift := by
  unfold later renumber
  rw [List.filter_map]
  rfl

/- Which timers are due depends on the deadlines alone. -/
theorem takeDue_renumber (now : Nat) :
    (t.renumber shift).takeDue now =
      ((t.takeDue now).1.renumber shift,
        (t.takeDue now).2) := by
  have hFired :=
    (Pending.isImage_renumber shift).takeDue
      (Eq.refl (t.renumber shift).pending) now
  exact Prod.ext (t.later_renumber shift now)
    (hFired.trans (List.map_id _))

/- The order of draining stays where tickets are shifted. -/
theorem drain_renumber :
    (t.renumber shift).drain =
      (t.drain.1.renumber shift, t.drain.2) := by
  have hFired :=
    (Pending.isImage_renumber shift).drain
      (Eq.refl (t.renumber shift).pending)
  exact Prod.ext (t.clear_renumber shift)
    (hFired.trans (List.map_id _))

/- What is scheduled draws its ticket so much later, too. -/
theorem schedule_renumber
    [DecidableEq κ]
    (key : κ)
    (deadline : Nat)
    (value : α) :
    (t.renumber shift).schedule key deadline value =
      (t.schedule key deadline value).renumber shift := by
  unfold schedule cancel renumber
  rw [List.filter_map, List.map_append]
  dsimp only
  rw [Nat.add_right_comm]
  rfl

end Timers

end Tickets

end Capture

end Clickstream
