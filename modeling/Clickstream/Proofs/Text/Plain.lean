import Clickstream.Text.Ascii
import Clickstream.Text.Lines

/-
  Texts without certain characters. What is put together
  from such texts is such a text again.

  Key definitions:
    * `Text.Avoids`
    * `Text.isBreak`: line feed and carriage return
    * `Text.Plain`: no end of line and no backslash

  Key theorems:
    * `Text.avoids_append_iff`, `Text.Avoids.join`,
      `Text.Avoids.intercalate`
    * `Text.plain_toString`
-/

namespace Clickstream

namespace Text

------------------------------------------------------------
-- Avoided Characters
------------------------------------------------------------

/- No character of the text is one that `bad` takes. -/
def Avoids
    (bad : Char → Bool)
    (s : String) : Prop :=
  ∀ c ∈ s.toList, bad c = false

-- Only the characters of the text are looked at.
instance
    (bad : Char → Bool)
    (s : String) :
    Decidable (Avoids bad s) :=
  List.decidableBAll (fun c => bad c = false) s.toList

/- The two characters that no file may have inside a line. -/
def isBreak (c : Char) : Bool :=
  c == '\n' || c == '\r'

/- Every end of line, and the character that opens escapes. -/
def isSpecial (c : Char) : Bool :=
  isLineEnd c || c == '\\'

/- A text that can stand anywhere in a line of a program. -/
abbrev Plain (s : String) : Prop :=
  Avoids isSpecial s

------------------------------------------------------------
-- Composition
------------------------------------------------------------

variable {bad : Char → Bool} {s t : String}

theorem avoids_append_iff :
    Avoids bad (s ++ t) ↔ Avoids bad s ∧ Avoids bad t := by
  simp only [Avoids, String.toList_append, List.mem_append]
  constructor
  · intro hBoth
    exact
      ⟨fun c hc => hBoth c (Or.inl hc),
        fun c hc => hBoth c (Or.inr hc)⟩
  · rintro ⟨hLeft, hRight⟩ c (hc | hc)
    · exact hLeft c hc
    · exact hRight c hc

theorem Avoids.append
    (hLeft : Avoids bad s)
    (hRight : Avoids bad t) :
    Avoids bad (s ++ t) :=
  avoids_append_iff.mpr ⟨hLeft, hRight⟩

theorem avoids_empty : Avoids bad "" := by
  intro c hc
  simp at hc

/- A text that avoids more characters avoids fewer. -/
theorem Avoids.mono
    {worse : Char → Bool}
    (hAvoids : Avoids worse s)
    (hBad : ∀ c, bad c = true → worse c = true) :
    Avoids bad s := by
  intro c hc
  cases hCase : bad c with
  | false => rfl
  | true =>
      have hWorse := hBad c hCase
      rw [hAvoids c hc] at hWorse
      exact absurd hWorse (by decide)

theorem Avoids.join
    {texts : List String}
    (hTexts : ∀ text ∈ texts, Avoids bad text) :
    Avoids bad (String.join texts) := by
  intro c hc
  rw [String.toList_join, List.mem_flatMap] at hc
  rcases hc with ⟨text, hText, hc⟩
  exact hTexts text hText c hc

theorem Avoids.intercalate
    {separator : String}
    {texts : List String}
    (hSeparator : Avoids bad separator)
    (hTexts : ∀ text ∈ texts, Avoids bad text) :
    Avoids bad (String.intercalate separator texts) := by
  induction texts with
  | nil =>
      rw [String.intercalate_nil]
      exact avoids_empty
  | cons text texts ih =>
      have hText := hTexts text (by simp)
      have hRest := ih (fun s hs => hTexts s (by simp [hs]))
      by_cases hEmpty : texts = []
      · subst hEmpty
        rw [String.intercalate_singleton]
        exact hText
      · rw [String.intercalate_cons_of_ne_nil hEmpty]
        exact (hText.append hSeparator).append hRest

theorem Avoids.ofList
    {cs : List Char}
    (hChars : ∀ c ∈ cs, bad c = false) :
    Avoids bad (String.ofList cs) := by
  intro c hc
  rw [String.toList_ofList] at hc
  exact hChars c hc

/- Ends of lines are more than breaks. -/
theorem isLineEnd_of_isBreak
    {c : Char}
    (hc : isBreak c = true) :
    isLineEnd c = true := by
  simp only [isBreak, Bool.or_eq_true, beq_iff_eq] at hc
  rcases hc with rfl | rfl <;> decide

theorem Avoids.isBreak_of_isLineEnd
    (hLine : Avoids isLineEnd s) : Avoids isBreak s :=
  hLine.mono fun _ hc => isLineEnd_of_isBreak hc

/- Plain texts have no end of line of any kind. -/
theorem Plain.avoids_isLineEnd
    (hPlain : Plain s) : Avoids isLineEnd s :=
  hPlain.mono fun c hc => by simp [isSpecial, hc]

theorem Plain.avoids_isBreak
    (hPlain : Plain s) : Avoids isBreak s :=
  hPlain.avoids_isLineEnd.isBreak_of_isLineEnd

/- Plain texts have no backslash. -/
theorem Plain.backslash_not_mem
    (hPlain : Plain s) : '\\' ∉ s.toList := by
  intro hMem
  have hFalse := hPlain _ hMem
  simp [isSpecial] at hFalse

------------------------------------------------------------
-- Rows with Separators
------------------------------------------------------------

section

variable {α : Type}
variable {x : α}
variable {separator part : List α}
variable {parts : List (List α)}

theorem mem_intercalate
    (hx : x ∈ List.intercalate separator parts) :
    x ∈ separator ∨ ∃ part ∈ parts, x ∈ part := by
  induction parts with
  | nil => cases hx
  | cons part parts ih =>
      cases parts with
      | nil =>
          rw [List.intercalate_singleton] at hx
          exact Or.inr ⟨part, List.mem_cons_self, hx⟩
      | cons next parts =>
          rw [List.intercalate_cons_cons, List.append_assoc,
            List.mem_append, List.mem_append] at hx
          rcases hx with hx | hx | hx
          · exact Or.inr ⟨part, List.mem_cons_self, hx⟩
          · exact Or.inl hx
          · rcases ih hx with hx | ⟨other, hOther, hx⟩
            · exact Or.inl hx
            · exact Or.inr
                ⟨other, List.mem_cons_of_mem _ hOther, hx⟩

theorem mem_intercalate_of_mem
    (separator : List α)
    (hPart : part ∈ parts)
    (hx : x ∈ part) :
    x ∈ List.intercalate separator parts := by
  induction parts with
  | nil => cases hPart
  | cons first parts ih =>
      cases parts with
      | nil =>
          rw [List.intercalate_singleton]
          rwa [← List.mem_singleton.mp hPart]
      | cons next parts =>
          rw [List.intercalate_cons_cons, List.append_assoc]
          rcases List.mem_cons.mp hPart with rfl | hPart
          · exact List.mem_append_left _ hx
          · exact List.mem_append_right _
              (List.mem_append_right _ (ih hPart))

end

------------------------------------------------------------
-- Plain Texts
------------------------------------------------------------

/- Letters and digits are not special. -/
theorem isSpecial_eq_false_of_isAlphanumeric
    {c : Char}
    (hc : isAlphanumeric c = true) :
    isSpecial c = false := by
  cases hCase : isSpecial c with
  | false => rfl
  | true =>
      simp only [isSpecial, isLineEnd, Bool.or_eq_true,
        beq_iff_eq] at hCase
      rcases hCase with (((rfl | rfl) | rfl) | rfl) | rfl <;>
        exact absurd hc (by decide)

/- The digits of a number are plain. -/
theorem plain_repr (n : Nat) : Plain (Nat.repr n) := by
  intro c hc
  rw [Nat.toList_repr] at hc
  have hDigit : c.isDigit = true :=
    Nat.isDigit_of_mem_toDigits (by decide) (by decide) hc
  cases hCase : isSpecial c with
  | false => rfl
  | true =>
      simp only [isSpecial, isLineEnd, Bool.or_eq_true,
        beq_iff_eq] at hCase
      rcases hCase with (((rfl | rfl) | rfl) | rfl) | rfl <;>
        exact absurd hDigit (by decide)

/- A number with its sign is plain. -/
theorem plain_toString (n : Int) : Plain (toString n) := by
  cases n with
  | ofNat m => exact plain_repr m
  | negSucc m =>
      have hSign : Plain "-" := by decide
      exact hSign.append (plain_repr (m + 1))

end Text

end Clickstream
