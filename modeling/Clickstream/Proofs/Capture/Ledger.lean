import Mathlib.Data.List.Nodup
import Clickstream.Proofs.Capture.Timers

/-
  The ledger of timers: whatever is asked of them, each value
  that was scheduled has left once or still waits. What leaves
  and in which order is told by deadlines and tickets alone,
  so the order in which a table lists what is pending decides
  nothing.

  Key definitions:
    * `Timers.Request`, `Timers.Outcome`, `Timers.perform`
    * `Request.Releases`: what leaves at a request
    * `Timers.departures`, `arrivals`
    * `Timers.IsSound`, `Timers.SameAs`
    * `Timers.Runs`: runs that list anew what is pending

  Key theorems:
    * `Timers.pending_perform`
    * `Timers.perm_departures`
    * `Timers.IsSound.tells`
    * `Timers.IsSound.eq_of_runs`
    * `Timers.accounts_of_requests`
-/

namespace Clickstream

namespace Capture

open scoped List

------------------------------------------------------------
-- Requests
------------------------------------------------------------

namespace Timers

/- What may be asked of timers. -/
inductive Request (κ α : Type) where
  | schedule (key : κ) (deadline : Nat) (value : α)
  | cancel (key : κ)
  | takeDue (now : Nat)
  | drain
  | clear
deriving DecidableEq, Repr

/-
  What is told of a request: whether a value was replaced, the
  value that was cancelled, or what fires.
-/
inductive Outcome (κ α : Type) where
  | scheduled (replaced : Bool)
  | cancelled (value : Option α)
  | fired (entries : List (κ × α))
  | cleared
deriving DecidableEq, Repr

/- What can be seen of timers behind a request. -/
structure Report (κ α : Type) where
  outcome : Outcome κ α
  size : Nat
  nextDeadline? : Option Nat
deriving DecidableEq, Repr

variable {κ α : Type}
variable [DecidableEq κ]

/- Do what is asked. -/
def perform
    (t : Timers κ α) :
    Request κ α → Timers κ α × Outcome κ α
  | .schedule key deadline value =>
      (t.schedule key deadline value, .scheduled (t.has key))
  | .cancel key => (t.cancel key, .cancelled (t.get? key))
  | .takeDue now =>
      ((t.takeDue now).1, .fired (t.takeDue now).2)
  | .drain => (t.drain.1, .fired t.drain.2)
  | .clear => (t.clear, .cleared)

/- What is seen of a request. -/
def report
    (t : Timers κ α)
    (request : Request κ α) : Report κ α where
  outcome := (t.perform request).2
  size := (t.perform request).1.size
  nextDeadline? := (t.perform request).1.nextDeadline?

/- The timers behind requests. -/
def after
    (t : Timers κ α) : List (Request κ α) → Timers κ α
  | [] => t
  | request :: rest => (t.perform request).1.after rest

/- What is seen of requests, one after the other. -/
def reports
    (t : Timers κ α) :
    List (Request κ α) → List (Report κ α)
  | [] => []
  | request :: rest =>
      t.report request :: (t.perform request).1.reports rest

------------------------------------------------------------
-- Coming and Going
------------------------------------------------------------

/-
  Whether a value leaves at a request: it has the key that is
  scheduled anew or cancelled, it is due, or all leave.
-/
def Request.Releases
    (p : Pending κ α) : Request κ α → Prop
  | .schedule key _ _ => p.key = key
  | .cancel key => p.key = key
  | .takeDue now => p.deadline ≤ now
  | .drain => True
  | .clear => True

instance (p : Pending κ α) :
    ∀ request : Request κ α, Decidable (request.Releases p)
  | .schedule key _ _ => inferInstanceAs (Decidable (_ = key))
  | .cancel key => inferInstanceAs (Decidable (_ = key))
  | .takeDue now => inferInstanceAs (Decidable (_ ≤ now))
  | .drain => inferInstanceAs (Decidable True)
  | .clear => inferInstanceAs (Decidable True)

/- What leaves at a request. -/
def leaving
    (t : Timers κ α)
    (request : Request κ α) : List (Pending κ α) :=
  t.pending.filter (fun p => request.Releases p)

/- What stays. -/
def staying
    (t : Timers κ α)
    (request : Request κ α) : List (Pending κ α) :=
  t.pending.filter (fun p => !decide (request.Releases p))

/- What has left behind requests, in order. -/
def departures
    (t : Timers κ α) :
    List (Request κ α) → List (Pending κ α)
  | [] => []
  | request :: rest =>
      t.leaving request ++ (t.perform request).1.departures rest

end Timers

/- What is scheduled by requests; each draws the next ticket. -/
def arrivals
    {κ α : Type} :
    Nat → List (Timers.Request κ α) → List (Pending κ α)
  | _, [] => []
  | ticket, .schedule key deadline value :: rest =>
      ⟨key, deadline, ticket, value⟩ ::
        arrivals (ticket + 1) rest
  | ticket, _ :: rest => arrivals ticket rest

namespace Timers

variable {κ α : Type}
variable {t u : Timers κ α}

/- Tickets count what is scheduled. -/
theorem map_ticket_arrivals
    (ticket : Nat)
    (requests : List (Request κ α)) :
    (arrivals ticket requests).map (·.ticket) =
      List.range' ticket (arrivals ticket requests).length := by
  induction requests generalizing ticket with
  | nil => rfl
  | cons request requests ih =>
      cases request with
      | schedule key deadline value =>
          unfold arrivals
          rw [List.map_cons, List.length_cons,
            List.range'_succ, ih]
      | _ => exact ih ticket

theorem arrivals_cons
    (ticket : Nat)
    (request : Request κ α)
    (requests : List (Request κ α)) :
    arrivals ticket (request :: requests) =
      arrivals ticket [request] ++
        arrivals (ticket + (arrivals ticket [request]).length)
          requests := by
  cases request <;> rfl

variable [DecidableEq κ]
variable {request : Request κ α}
variable {requests : List (Request κ α)}

/- A request leaves what stays, and adds what it schedules. -/
theorem pending_perform
    (t : Timers κ α)
    (request : Request κ α) :
    (t.perform request).1.pending =
      t.staying request ++ arrivals t.nextTicket [request] := by
  have hOthers :
      ∀ key,
        (t.cancel key).pending =
          t.pending.filter (fun p => !decide (p.key = key)) :=
    fun key => List.filter_congr fun p _ => decide_not
  have hNone :
      t.pending.filter (fun _ => !decide True) = [] :=
    List.filter_eq_nil_iff.mpr fun _ _ => Bool.false_ne_true
  cases request with
  | schedule key deadline value =>
      exact congrArg (· ++ _) (hOthers key)
  | cancel key =>
      exact (hOthers key).trans (List.append_nil _).symm
  | takeDue now =>
      exact (t.pending_later now).trans
        (List.append_nil _).symm
  | drain => exact hNone.symm.trans (List.append_nil _).symm
  | clear => exact hNone.symm.trans (List.append_nil _).symm

theorem nextTicket_perform
    (t : Timers κ α)
    (request : Request κ α) :
    (t.perform request).1.nextTicket =
      t.nextTicket +
        (arrivals t.nextTicket [request]).length := by
  cases request <;> rfl

/-
  What waited or is scheduled has left or still waits, and
  nothing else. The induction is on the requests.
-/
theorem perm_departures
    (t : Timers κ α)
    (requests : List (Request κ α)) :
    (t.departures requests ++ (t.after requests).pending).Perm
      (t.pending ++ arrivals t.nextTicket requests) := by
  induction requests generalizing t with
  | nil =>
      rw [arrivals, List.append_nil]
      exact List.Perm.refl _
  | cons request requests ih =>
      have hRest := ih (t.perform request).1
      rw [nextTicket_perform, pending_perform] at hRest
      have hSplit :
          (t.leaving request ++ t.staying request).Perm
            t.pending :=
        List.filter_append_perm _ _
      rw [departures, after, arrivals_cons, List.append_assoc]
      calc
        t.leaving request ++
            ((t.perform request).1.departures requests ++
              ((t.perform request).1.after requests).pending)
          ~ t.leaving request ++
              (t.staying request ++
                arrivals t.nextTicket [request] ++
                  arrivals
                    (t.nextTicket +
                      (arrivals t.nextTicket [request]).length)
                    requests) := hRest.append_left _
        _ = (t.leaving request ++ t.staying request) ++
              (arrivals t.nextTicket [request] ++
                arrivals
                  (t.nextTicket +
                    (arrivals t.nextTicket [request]).length)
                  requests) := by
            simp only [List.append_assoc]
        _ ~ t.pending ++ _ := hSplit.append_right _

------------------------------------------------------------
-- Sound Timers
------------------------------------------------------------

/-
  Whether no key and no ticket occurs twice, and all tickets
  were drawn.
-/
structure IsSound (t : Timers κ α) : Prop where
  keys : (t.pending.map (·.key)).Nodup
  tickets : (t.pending.map (·.ticket)).Nodup
  drawn : ∀ p ∈ t.pending, p.ticket < t.nextTicket

omit [DecidableEq κ] in
theorem isSound_empty :
    (empty : Timers κ α).IsSound :=
  ⟨.nil, .nil, nofun⟩

omit [DecidableEq κ] in
/- Letting values go keeps timers sound. -/
theorem IsSound.of_sublist
    (hSound : t.IsSound)
    (hPending : u.pending.Sublist t.pending)
    (hTicket : u.nextTicket = t.nextTicket) :
    u.IsSound where
  keys := hSound.keys.sublist (hPending.map _)
  tickets := hSound.tickets.sublist (hPending.map _)
  drawn p hp := by
    rw [hTicket]
    exact hSound.drawn p (hPending.subset hp)

/- So does scheduling, as it takes the key and a new ticket. -/
theorem IsSound.schedule
    (hSound : t.IsSound)
    (key : κ)
    (deadline : Nat)
    (value : α) :
    (t.schedule key deadline value).IsSound := by
  have hCancelled : (t.cancel key).IsSound :=
    hSound.of_sublist List.filter_sublist rfl
  have hKey : key ∉ (t.cancel key).pending.map (·.key) := by
    unfold cancel
    simp
  have hTicket :
      t.nextTicket ∉ (t.cancel key).pending.map (·.ticket) := by
    intro hMem
    rcases List.mem_map.mp hMem with ⟨p, hp, hSame⟩
    exact Nat.ne_of_lt (hCancelled.drawn p hp) hSame
  constructor
  · unfold Timers.schedule
    rw [List.map_append, List.map_singleton,
      ← List.concat_eq_append]
    exact hCancelled.keys.concat hKey
  · unfold Timers.schedule
    rw [List.map_append, List.map_singleton,
      ← List.concat_eq_append]
    exact hCancelled.tickets.concat hTicket
  · intro p hp
    rcases mem_pending_schedule hp with hOld | rfl
    · exact Nat.lt_succ_of_lt (hSound.drawn p hOld)
    · exact Nat.lt_succ_self _

/- No request makes timers unsound. -/
theorem IsSound.perform
    (hSound : t.IsSound)
    (request : Request κ α) :
    (t.perform request).1.IsSound := by
  cases request with
  | schedule key deadline value =>
      exact hSound.schedule key deadline value
  | cancel key =>
      exact hSound.of_sublist List.filter_sublist rfl
  | takeDue now =>
      exact hSound.of_sublist List.filter_sublist rfl
  | drain => exact hSound.of_sublist (List.nil_sublist _) rfl
  | clear => exact hSound.of_sublist (List.nil_sublist _) rfl

theorem IsSound.after
    (hSound : t.IsSound)
    (requests : List (Request κ α)) :
    (t.after requests).IsSound := by
  induction requests generalizing t with
  | nil => exact hSound
  | cons request requests ih => exact ih (hSound.perform request)

/- One value at most waits under a key. -/
theorem IsSound.under_cases
    (hSound : t.IsSound)
    (key : κ) :
    t.under key = [] ∨ ∃ p, t.under key = [p] := by
  have hKeys : ((t.under key).map (·.key)).Nodup :=
    hSound.keys.sublist (List.filter_sublist.map _)
  have hUnder : ∀ p ∈ t.under key, p.key = key := fun p hp =>
    of_decide_eq_true (List.mem_filter.mp hp).2
  match hSplit : t.under key with
  | [] => exact Or.inl rfl
  | [p] => exact Or.inr ⟨p, rfl⟩
  | p :: q :: rest =>
      rw [hSplit] at hKeys hUnder
      have hSame : p.key = q.key :=
        (hUnder p (by simp)).trans (hUnder q (by simp)).symm
      simp [hSame] at hKeys

------------------------------------------------------------
-- What Outcomes Tell
------------------------------------------------------------

/-
  Whether an outcome tells what leaves at a request: whether a
  value was replaced, which one was cancelled, or all that
  fires, by deadline and ticket, or by ticket if all fires.
-/
def Outcome.Tells
    (leaving : List (Pending κ α)) :
    Request κ α → Outcome κ α → Prop
  | .schedule _ _ _, .scheduled replaced =>
      leaving.length = replaced.toNat
  | .cancel _, .cancelled value =>
      leaving.map (·.value) = value.toList
  | .takeDue _, .fired entries =>
      ∃ fired : List (Pending κ α),
        fired.Perm leaving ∧
          fired.Pairwise Pending.FiresBefore ∧
          entries = fired.map Pending.entry
  | .drain, .fired entries =>
      ∃ fired : List (Pending κ α),
        fired.Perm leaving ∧
          fired.Pairwise Pending.DrawnBefore ∧
          entries = fired.map Pending.entry
  | .clear, .cleared => True
  | _, _ => False

/- Sound timers tell what leaves. -/
theorem IsSound.tells
    (hSound : t.IsSound)
    (request : Request κ α) :
    Outcome.Tells (t.leaving request) request
      (t.perform request).2 := by
  cases request with
  | schedule key deadline value =>
      have hUnder : (t.under key).length = (t.has key).toNat := by
        unfold has
        rw [find?_eq_head?_under]
        rcases hSound.under_cases key with hNone | ⟨p, hOne⟩
        · rw [hNone]
          rfl
        · rw [hOne]
          rfl
      exact hUnder
  | cancel key =>
      have hUnder :
          (t.under key).map (·.value) = (t.get? key).toList := by
        unfold get?
        rw [find?_eq_head?_under]
        rcases hSound.under_cases key with hNone | ⟨p, hOne⟩
        · rw [hNone]
          rfl
        · rw [hOne]
          rfl
      exact hUnder
  | takeDue now =>
      exact ⟨t.due now, t.perm_due now, t.pairwise_due now, rfl⟩
  | drain =>
      have hAll : t.leaving .drain = t.pending :=
        List.filter_eq_self.mpr fun _ _ => rfl
      refine ⟨t.drawn, ?_, t.pairwise_drawn, ?_⟩
      · rw [hAll]
        exact t.perm_drawn
      · exact congrArg Prod.snd t.drain_eq_drawn
  | clear => trivial

omit [DecidableEq κ] in
/- Behind a firing all deadlines lie ahead. -/
theorem lt_of_nextDeadline?_later
    {now deadline : Nat}
    (hNext :
      (t.later now).nextDeadline? = some deadline) :
    now < deadline := by
  rcases List.mem_map.mp (List.min?_mem hNext) with
    ⟨p, hp, rfl⟩
  exact of_decide_eq_true (List.mem_filter.mp hp).2

------------------------------------------------------------
-- Listings
------------------------------------------------------------

/- Whether two timers differ in the order of listing at most. -/
structure SameAs (t u : Timers κ α) : Prop where
  pending : u.pending.Perm t.pending
  nextTicket : u.nextTicket = t.nextTicket

omit [DecidableEq κ] in
theorem SameAs.refl (t : Timers κ α) : SameAs t t :=
  ⟨.refl _, rfl⟩

omit [DecidableEq κ] in
theorem SameAs.trans
    {v : Timers κ α}
    (hFirst : SameAs t u)
    (hSecond : SameAs u v) :
    SameAs t v where
  pending := hSecond.pending.trans hFirst.pending
  nextTicket := hSecond.nextTicket.trans hFirst.nextTicket

theorem SameAs.perform
    (hSame : SameAs t u)
    (request : Request κ α) :
    SameAs (t.perform request).1 (u.perform request).1 where
  pending := by
    rw [pending_perform, pending_perform, hSame.nextTicket]
    exact (hSame.pending.filter _).append_right _
  nextTicket := by
    rw [nextTicket_perform, nextTicket_perform,
      hSame.nextTicket]

theorem SameAs.under
    (hSound : t.IsSound)
    (hSame : SameAs t u)
    (key : κ) :
    u.under key = t.under key := by
  have hPerm : (u.under key).Perm (t.under key) :=
    hSame.pending.filter _
  rcases hSound.under_cases key with hNone | ⟨p, hOne⟩
  · rw [hNone] at hPerm ⊢
    exact hPerm.eq_nil
  · rw [hOne] at hPerm ⊢
    exact List.perm_singleton.mp hPerm

omit [DecidableEq κ] in
/- An order that tickets decide is decided for any listing. -/
theorem IsSound.eq_of_sorted
    {before : Pending κ α → Pending κ α → Prop}
    {first second : List (Pending κ α)}
    (hSound : t.IsSound)
    (hTickets :
      ∀ p q, before p q → before q p → p.ticket = q.ticket)
    (hPending : ∀ p ∈ first, p ∈ t.pending)
    (hFirst : first.Pairwise before)
    (hSecond : second.Pairwise before)
    (hPerm : second.Perm first) :
    second = first := by
  refine List.Perm.eq_of_pairwise ?_ hSecond hFirst hPerm
  intro p q hp hq hBefore hBehind
  exact List.inj_on_of_nodup_map hSound.tickets
    (hPending p (hPerm.subset hp)) (hPending q hq)
    (hTickets p q hBefore hBehind)

omit [DecidableEq κ] in
theorem SameAs.due
    (hSound : t.IsSound)
    (hSame : SameAs t u)
    (now : Nat) :
    u.due now = t.due now := by
  refine hSound.eq_of_sorted ?_ ?_ (t.pairwise_due now)
    (u.pairwise_due now) ?_
  · intro p q
    unfold Pending.FiresBefore
    omega
  · exact fun p hp => (mem_due_iff.mp hp).1
  · exact ((u.perm_due now).trans
      (hSame.pending.filter _)).trans (t.perm_due now).symm

omit [DecidableEq κ] in
theorem SameAs.drain
    (hSound : t.IsSound)
    (hSame : SameAs t u) :
    u.drain.2 = t.drain.2 := by
  have hDrawn : u.drawn = t.drawn := by
    refine hSound.eq_of_sorted ?_ ?_ t.pairwise_drawn
      u.pairwise_drawn ?_
    · exact fun p q => Nat.le_antisymm
    · exact fun p hp => mem_drawn_iff.mp hp
    · exact (u.perm_drawn.trans hSame.pending).trans
        t.perm_drawn.symm
  rw [drain_eq_drawn, drain_eq_drawn, hDrawn]

omit [DecidableEq κ] in
theorem SameAs.nextDeadline?
    (hSame : SameAs t u) :
    u.nextDeadline? = t.nextDeadline? := by
  have hPerm := hSame.pending.map (·.deadline)
  unfold Timers.nextDeadline?
  cases hNext : (t.pending.map (·.deadline)).min? with
  | none =>
      rw [List.min?_eq_none_iff] at hNext ⊢
      rw [hNext] at hPerm
      exact hPerm.eq_nil
  | some deadline =>
      rw [List.min?_eq_some_iff] at hNext ⊢
      exact ⟨hPerm.mem_iff.mpr hNext.1,
        fun other hOther =>
          hNext.2 other (hPerm.mem_iff.mp hOther)⟩

/- What is told of a request is the same for any listing. -/
theorem SameAs.report
    (hSound : t.IsSound)
    (hSame : SameAs t u)
    (request : Request κ α) :
    u.report request = t.report request := by
  have hFound : ∀ key, u.find? key = t.find? key := by
    intro key
    rw [find?_eq_head?_under, find?_eq_head?_under,
      hSame.under hSound]
  have hOutcome :
      (u.perform request).2 = (t.perform request).2 := by
    cases request with
    | schedule key deadline value =>
        exact congrArg (Outcome.scheduled ·.isSome) (hFound key)
    | cancel key =>
        exact congrArg
          (fun found => Outcome.cancelled (found.map (·.value)))
          (hFound key)
    | takeDue now =>
        exact congrArg
          (fun due => Outcome.fired (due.map Pending.entry))
          (hSame.due hSound now)
    | drain => exact congrArg Outcome.fired (hSame.drain hSound)
    | clear => rfl
  have hNext := hSame.perform request
  unfold Timers.report size
  rw [hOutcome, hNext.pending.length_eq, hNext.nextDeadline?]

/-
  Runs of requests in which what is pending may be listed anew
  before each request, in any order.
-/
inductive Runs :
    Timers κ α →
      List (Request κ α) →
        List (Report κ α) → Timers κ α → Prop where
  | done (t : Timers κ α) : Runs t [] [] t
  | step
      {t u v : Timers κ α}
      {request : Request κ α}
      {requests : List (Request κ α)}
      {reports : List (Report κ α)}
      (hListed : SameAs t u)
      (hRest : Runs (u.perform request).1 requests reports v) :
      Runs t (request :: requests)
        (u.report request :: reports) v

/- One such run lists nothing anew. -/
theorem runs_reports
    (t : Timers κ α)
    (requests : List (Request κ α)) :
    Runs t requests (t.reports requests)
      (t.after requests) := by
  induction requests generalizing t with
  | nil => exact .done t
  | cons request requests ih => exact .step (.refl t) (ih _)

/-
  However what is pending is listed, the reports of a run are
  the same. The induction is on the run; its timers are those
  of the other run up to their order.
-/
theorem IsSound.eq_of_runs
    {reports : List (Report κ α)}
    {s v : Timers κ α}
    (hSound : t.IsSound)
    (hSame : SameAs t s)
    (hRuns : Runs s requests reports v) :
    reports = t.reports requests ∧
      SameAs (t.after requests) v := by
  induction hRuns generalizing t with
  | done s => exact ⟨rfl, hSame⟩
  | step hListed hRest ih =>
      have hAnew := hSame.trans hListed
      rcases ih (hSound.perform _) (hAnew.perform _) with
        ⟨hReports, hEnd⟩
      rw [Timers.reports, hAnew.report hSound, hReports]
      exact ⟨rfl, hEnd⟩

------------------------------------------------------------
-- The Ledger
------------------------------------------------------------

/-
  Whatever is asked of new timers: what was scheduled, each
  with a ticket of its own in the order of scheduling, has left
  at one request or still waits. A further request is told what
  leaves at it: what is due by deadline and ticket, or all by
  ticket. What does not leave stays, and behind a firing all
  deadlines lie ahead. None of this depends on the order in
  which what is pending is listed.
-/
theorem accounts_of_requests
    (requests : List (Request κ α)) :
    ((empty.departures requests ++
        (empty.after requests).pending).Perm
          (arrivals 0 requests) ∧
      (arrivals 0 requests).map (·.ticket) =
        List.range (arrivals 0 requests).length) ∧
      (∀ request,
        Outcome.Tells ((empty.after requests).leaving request)
            request ((empty.after requests).perform request).2 ∧
          ((empty.after requests).perform request).1.pending =
            (empty.after requests).staying request ++
              arrivals (empty.after requests).nextTicket
                [request]) ∧
      (∀ now deadline,
        ((empty.after requests).takeDue now).1.nextDeadline? =
            some deadline →
          now < deadline) ∧
      Runs empty requests (empty.reports requests)
        (empty.after requests) ∧
      ∀ reports t,
        Runs empty requests reports t →
          reports = empty.reports requests ∧
            SameAs (empty.after requests) t := by
  have hEmpty : (empty : Timers κ α).IsSound := isSound_empty
  refine ⟨⟨empty.perm_departures requests, ?_⟩, ?_, ?_,
    empty.runs_reports requests, ?_⟩
  · rw [List.range_eq_range']
    exact map_ticket_arrivals 0 requests
  · exact fun request =>
      ⟨(hEmpty.after requests).tells request,
        pending_perform _ request⟩
  · exact fun now deadline => lt_of_nextDeadline?_later
  · exact fun reports t => hEmpty.eq_of_runs (.refl empty)

/- Of equal deadlines the one that was set last fires last. -/
example :
    ((empty.after
        [.schedule "b" 300 2, .schedule "a" 300 1,
          .schedule "b" 300 3, .schedule "c" 900 4]).takeDue
            500).2 =
      [("a", 1), ("b", 3)] := by
  decide

end Timers

end Capture

end Clickstream
