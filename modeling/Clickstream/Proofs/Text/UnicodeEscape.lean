import Mathlib.Data.List.Induction
import Mathlib.Algebra.Group.Nat.Even
import Clickstream.Proofs.Text.Literal

/-
  Unicode escapes of program texts: some compilers read a
  backslash and a `u` as the start of a character before
  anything else, unless the backslash is itself escaped.

  Key definitions:
    * `Text.HasUnicodeEscape`
    * `Text.scan`: a reader that knows only whether the next
      character is escaped
    * `Text.Settled`: texts with no such escape and none
      begun at their end
    * `Text.Harmless`: texts with no such escape

  Key theorems:
    * `Text.not_hasUnicodeEscape_of_scan`
    * `Text.Settled.append`, `Text.settled_of_plain`,
      `Text.settled_write`
    * `Text.settled_unlines`
-/

namespace Clickstream

namespace Text

------------------------------------------------------------
-- Escapes and Their Reader
------------------------------------------------------------

/- How many backslashes stand at the end. -/
def trailing (cs : List Char) : Nat :=
  (cs.reverse.takeWhile (· == '\\')).length

/-
  Some backslash with a `u` after it is not escaped: an even
  number of backslashes stands right before it.
-/
def HasUnicodeEscape (cs : List Char) : Prop :=
  ∃ before after,
    cs = before ++ '\\' :: 'u' :: after ∧
      Even (trailing before)

/-
  Read on, given whether the next character is escaped. There
  is no result once a Unicode escape was met.
-/
def scan : Bool → List Char → Option Bool
  | escaped, [] => some escaped
  | escaped, c :: rest =>
      if c = '\\' then scan (!escaped) rest
      else if escaped ∧ c = 'u' then none
      else scan false rest

/- Reading on after a part. -/
theorem scan_append
    (escaped : Bool)
    (cs ds : List Char) :
    scan escaped (cs ++ ds) =
      (scan escaped cs).bind (fun b => scan b ds) := by
  induction cs generalizing escaped with
  | nil => rfl
  | cons c cs ih =>
      simp only [List.cons_append, scan]
      split
      · exact ih _
      · split
        · rfl
        · exact ih _

/-
  The reader knows the parity of the backslashes at the end.
  The induction goes backwards, since a character at the end
  decides what the trailing backslashes are.
-/
theorem scan_eq_some
    {cs : List Char}
    {escaped : Bool}
    (hScan : scan false cs = some escaped) :
    escaped = true ↔ ¬ Even (trailing cs) := by
  induction cs using List.reverseRecOn
      generalizing escaped with
  | nil =>
      have hFalse : false = escaped := by
        simpa [scan] using hScan
      subst hFalse
      simp [trailing]
  | append_singleton cs c ih =>
      rw [scan_append, Option.bind_eq_some_iff] at hScan
      rcases hScan with ⟨before, hBefore, hLast⟩
      have hParity := ih hBefore
      by_cases hc : c = '\\'
      · subst hc
        have hFlip : (!before) = escaped := by
          simpa [scan] using hLast
        have hMore :
            trailing (cs ++ ['\\']) = trailing cs + 1 := by
          simp [trailing]
        rw [hMore, Nat.even_add_one, ← hParity, ← hFlip]
        simp
      · have hNone : trailing (cs ++ [c]) = 0 := by
          simp [trailing, hc]
        have hFalse : escaped = false := by
          simp only [scan, if_neg hc] at hLast
          split at hLast
          · cases hLast
          · exact (Option.some.inj hLast).symm
        rw [hNone, hFalse]
        simp

/- A text that is read to its end has no Unicode escape. -/
theorem not_hasUnicodeEscape_of_scan
    {cs : List Char}
    {escaped : Bool}
    (hScan : scan false cs = some escaped) :
    ¬ HasUnicodeEscape cs := by
  rintro ⟨before, after, rfl, hEven⟩
  rw [scan_append, Option.bind_eq_some_iff] at hScan
  rcases hScan with ⟨state, hBefore, hAfter⟩
  have hState : state = false := by
    cases state with
    | false => rfl
    | true =>
        exact absurd hEven ((scan_eq_some hBefore).mp rfl)
  subst hState
  simp [scan] at hAfter

------------------------------------------------------------
-- Settled Texts
------------------------------------------------------------

/- Read from the start, the text leaves nothing begun. -/
def Settled (s : String) : Prop :=
  scan false s.toList = some false

theorem Settled.append
    {s t : String}
    (hs : Settled s)
    (ht : Settled t) :
    Settled (s ++ t) := by
  unfold Settled at hs ht ⊢
  rw [String.toList_append, scan_append, hs]
  exact ht

/- Without backslashes there are no escapes. -/
theorem scan_of_backslash_not_mem
    {cs : List Char}
    (hcs : '\\' ∉ cs) :
    scan false cs = some false := by
  induction cs with
  | nil => rfl
  | cons c cs ih =>
      rw [List.mem_cons, not_or] at hcs
      rw [scan, if_neg (Ne.symm hcs.1), if_neg (by simp)]
      exact ih hcs.2

theorem settled_of_plain
    {s : String}
    (hPlain : Plain s) : Settled s :=
  scan_of_backslash_not_mem hPlain.backslash_not_mem

/- Every escape of a literal is complete. -/
theorem scan_escape
    {mark : Char}
    (hMark : Quoted.IsMark mark)
    (c : Char) :
    scan false (Quoted.escape mark c) = some false := by
  have hMarkU : mark ≠ 'u' := by
    rcases hMark with rfl | rfl <;> decide
  unfold Quoted.escape
  split_ifs with hBackslash <;>
    simp [scan, hMark.ne, hMarkU, hBackslash]

/- A literal is settled. -/
theorem settled_write
    {mark : Char}
    (hMark : Quoted.IsMark mark)
    (s : String) :
    Settled (Quoted.write mark s) := by
  have hBody :
      ∀ cs : List Char,
        scan false (cs.flatMap (Quoted.escape mark)) =
          some false := by
    intro cs
    induction cs with
    | nil => rfl
    | cons c cs ih =>
        rw [List.flatMap_cons, scan_append,
          scan_escape hMark, Option.bind_some, ih]
  have hMarkAlone : scan false [mark] = some false := by
    simp [scan, hMark.ne]
  unfold Settled Quoted.write Quoted.writeChars
  rw [String.toList_ofList, List.cons_append,
    ← List.singleton_append, scan_append, hMarkAlone,
    Option.bind_some, scan_append, hBody,
    Option.bind_some, hMarkAlone]

/- Read from the start, the text has no Unicode escape. -/
def Harmless (s : String) : Prop :=
  (scan false s.toList).isSome = true

theorem Settled.harmless
    {s : String}
    (hs : Settled s) : Harmless s := by
  unfold Harmless
  rw [hs]
  rfl

theorem Settled.append_harmless
    {s t : String}
    (hs : Settled s)
    (ht : Harmless t) :
    Harmless (s ++ t) := by
  unfold Harmless
  rw [String.toList_append, scan_append, hs]
  exact ht

/- The end of a line settles what its last escape began. -/
theorem settled_unlines
    {lines : List String}
    (hLines : ∀ line ∈ lines, Harmless line) :
    Settled (unlines lines) := by
  induction lines with
  | nil => rfl
  | cons line lines ih =>
      have hRest := ih fun l hl => hLines l (by simp [hl])
      rcases Option.isSome_iff_exists.mp
          (hLines line (by simp)) with ⟨escaped, hLine⟩
      have hFeed : scan escaped ['\n'] = some false := by
        cases escaped <;> rfl
      have hFirst : Settled (line ++ "\n") := by
        unfold Settled
        rw [String.toList_append, scan_append, hLine]
        exact hFeed
      have hUnlines :
          unlines (line :: lines) =
            line ++ "\n" ++ unlines lines := by
        simp [unlines]
      rw [hUnlines]
      exact hFirst.append hRest

end Text

end Clickstream
