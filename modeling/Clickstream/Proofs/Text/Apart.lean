import Mathlib.Data.List.Pairwise
import Clickstream.Proofs.Text.Plain

/-
  Texts that can be told apart whatever follows them. Where
  every two words of a vocabulary are apart, the first word of
  a text is known from the text, and so is what follows it.

  Key definitions:
    * `Text.Apart`
    * `Text.startsWith`
    * `Text.Readable`: the words that can be read back

  Key theorems:
    * `Text.Apart.append_ne`
    * `Text.Readable.of_pairwise`
    * `Text.Readable.separated`: rows of words up to a stop
    * `Text.append_inj_of_forall`: a word of one class of
      characters
-/

namespace Clickstream

namespace Text

------------------------------------------------------------
-- Texts Apart
------------------------------------------------------------

/- Whether two texts differ at a place that both have. -/
def differ : List Char → List Char → Bool
  | a :: as, b :: bs => a != b || differ as bs
  | _, _ => false

/- Texts that stay different whatever follows them. -/
def Apart (s t : String) : Prop :=
  differ s.toList t.toList = true

instance (s t : String) : Decidable (Apart s t) :=
  inferInstanceAs (Decidable (_ = true))

theorem differ_comm (as bs : List Char) :
    differ as bs = differ bs as := by
  induction as generalizing bs with
  | nil => cases bs <;> rfl
  | cons a as ih =>
      cases bs with
      | nil => rfl
      | cons b bs =>
          unfold differ
          rw [ih bs, bne_comm]

theorem differ_self (as : List Char) :
    differ as as = false := by
  induction as with
  | nil => rfl
  | cons a as ih =>
      unfold differ
      rw [ih]
      simp

theorem differ_append
    {as bs : List Char}
    (hDiffer : differ as bs = true)
    (cs ds : List Char) :
    differ (as ++ cs) (bs ++ ds) = true := by
  induction as generalizing bs with
  | nil => cases hDiffer
  | cons a as ih =>
      cases bs with
      | nil => cases hDiffer
      | cons b bs =>
          rw [differ, Bool.or_eq_true] at hDiffer
          rw [List.cons_append, List.cons_append, differ,
            Bool.or_eq_true]
          rcases hDiffer with hHere | hLater
          · exact Or.inl hHere
          · exact Or.inr (ih hLater)

theorem Apart.symm
    {s t : String}
    (hApart : Apart s t) :
    Apart t s := by
  unfold Apart
  rw [differ_comm]
  exact hApart

theorem Apart.append
    {s t : String}
    (hApart : Apart s t)
    (r u : String) :
    Apart (s ++ r) (t ++ u) := by
  unfold Apart
  rw [String.toList_append, String.toList_append]
  exact differ_append hApart _ _

theorem Apart.append_right
    {s t : String}
    (hApart : Apart s t)
    (u : String) :
    Apart s (t ++ u) := by
  have hAppend := hApart.append "" u
  rwa [String.append_empty] at hAppend

theorem Apart.ne
    {s t : String}
    (hApart : Apart s t) :
    s ≠ t := by
  rintro rfl
  unfold Apart at hApart
  rw [differ_self] at hApart
  cases hApart

/- Nothing that follows makes texts equal that are apart. -/
theorem Apart.append_ne
    {s t : String}
    (hApart : Apart s t)
    (r u : String) :
    s ++ r ≠ t ++ u :=
  (hApart.append r u).ne

------------------------------------------------------------
-- Beginnings
------------------------------------------------------------

/- Whether a text begins with another one. -/
def startsWith (start text : String) : Bool :=
  start.toList.isPrefixOf text.toList

theorem startsWith_iff
    {start text : String} :
    startsWith start text = true ↔
      ∃ rest, text = start ++ rest := by
  unfold startsWith
  rw [List.isPrefixOf_iff_prefix]
  constructor
  · rintro ⟨cs, hText⟩
    refine ⟨String.ofList cs, ?_⟩
    rw [← String.toList_inj, String.toList_append,
      String.toList_ofList, hText]
  · rintro ⟨rest, rfl⟩
    exact ⟨rest.toList, (String.toList_append).symm⟩

------------------------------------------------------------
-- Readable Words
------------------------------------------------------------

/- Words that are known from any text they start. -/
def Readable {α : Type} (spell : α → String) : Prop :=
  ∀ (a b : α) (r s : String),
    spell a ++ r = spell b ++ s → a = b ∧ r = s

variable {α : Type}
variable {spell : α → String}

/- The first word of a text is known, and what follows it. -/
theorem Readable.append_inj
    (hSpell : Readable spell)
    {a b : α}
    {r s : String}
    (hText : spell a ++ r = spell b ++ s) :
    a = b ∧ r = s :=
  hSpell a b r s hText

/- A list of all words shows whether they are readable. -/
theorem Readable.of_pairwise
    {all : List α}
    (hAll : ∀ a, a ∈ all)
    (hApart :
      all.Pairwise (fun a b => Apart (spell a) (spell b))) :
    Readable spell := by
  have : Std.Symm (fun a b => Apart (spell a) (spell b)) :=
    ⟨fun _ _ hPair => hPair.symm⟩
  intro a b r s hText
  by_cases hSame : a = b
  · subst hSame
    exact ⟨rfl, (String.append_right_inj _).mp hText⟩
  · have hWords : Apart (spell a) (spell b) :=
      hApart.forall (hAll a) (hAll b) hSame
    exact absurd hText (hWords.append_ne r s)

/- Readable words differ where they are different words. -/
theorem Readable.inj
    (hSpell : Readable spell)
    {a b : α}
    (hText : spell a = spell b) :
    a = b := by
  have hAppend : spell a ++ "" = spell b ++ "" := by
    rw [hText]
  exact (hSpell.append_inj hAppend).1

------------------------------------------------------------
-- Rows of Words
------------------------------------------------------------

/- What stands behind the first word of a row. -/
def behindFirst
    (separator : String)
    (spell : α → String) :
    List α → String
  | [] => ""
  | row =>
      separator ++ String.intercalate separator (row.map spell)

/- A row is its first word and what stands behind it. -/
theorem intercalate_map_cons
    (separator : String)
    (a : α)
    (row : List α) :
    String.intercalate separator ((a :: row).map spell) =
      spell a ++ behindFirst separator spell row := by
  cases row with
  | nil =>
      simp [behindFirst]
  | cons b row =>
      have hRow : (b :: row).map spell ≠ [] := by simp
      rw [List.map_cons,
        String.intercalate_cons_of_ne_nil hRow,
        String.append_assoc]
      rfl

/-
  Where the end of a row can be told from words and from
  separators, the row is known from the text, and so is what
  follows it.
-/
theorem Readable.separated
    (hSpell : Readable spell)
    {separator stop : String}
    (hStop : ∀ a, Apart (spell a) stop)
    (hSeparator : Apart separator stop)
    {as bs : List α}
    {r s : String}
    (hText :
      String.intercalate separator (as.map spell) ++
          (stop ++ r) =
        String.intercalate separator (bs.map spell) ++
          (stop ++ s)) :
    as = bs ∧ r = s := by
  induction as generalizing bs with
  | nil =>
      cases bs with
      | nil =>
          have hRest := (String.append_right_inj _).mp hText
          exact ⟨rfl, (String.append_right_inj _).mp hRest⟩
      | cons b bs =>
          rw [intercalate_map_cons, List.map_nil,
            String.intercalate_nil, String.empty_append,
            String.append_assoc] at hText
          exact absurd hText ((hStop b).symm.append_ne _ _)
  | cons a as ih =>
      cases bs with
      | nil =>
          rw [intercalate_map_cons, List.map_nil,
            String.intercalate_nil, String.empty_append,
            String.append_assoc] at hText
          exact absurd hText ((hStop a).append_ne _ _)
      | cons b bs =>
          rw [intercalate_map_cons, intercalate_map_cons,
            String.append_assoc, String.append_assoc] at hText
          rcases hSpell.append_inj hText with ⟨rfl, hBehind⟩
          -- Either the row goes on on both sides or on none.
          cases as with
          | nil =>
              cases bs with
              | nil =>
                  have hStops :=
                    (String.append_right_inj _).mp hBehind
                  have hRest :=
                    (String.append_right_inj _).mp hStops
                  exact ⟨rfl, hRest⟩
              | cons b bs =>
                  simp only [behindFirst, String.empty_append,
                    String.append_assoc] at hBehind
                  exact absurd hBehind
                    (hSeparator.symm.append_ne _ _)
          | cons a' as =>
              cases bs with
              | nil =>
                  simp only [behindFirst, String.empty_append,
                    String.append_assoc] at hBehind
                  exact absurd hBehind
                    (hSeparator.append_ne _ _)
              | cons b bs =>
                  simp only [behindFirst,
                    String.append_assoc] at hBehind
                  have hRows :=
                    (String.append_right_inj _).mp hBehind
                  rcases ih hRows with ⟨hSame, hRest⟩
                  exact ⟨by rw [hSame], hRest⟩

------------------------------------------------------------
-- Words of One Class
------------------------------------------------------------

/-
  A word whose characters are all of one class ends where a
  character of another class follows.
-/
theorem append_inj_of_forall
    {kind : Char → Bool}
    {u v r s : String}
    (hu : ∀ c ∈ u.toList, kind c = true)
    (hv : ∀ c ∈ v.toList, kind c = true)
    (hr : ∀ c ∈ r.toList.head?, kind c = false)
    (hs : ∀ c ∈ s.toList.head?, kind c = false)
    (hText : u ++ r = v ++ s) :
    u = v ∧ r = s := by
  have hNone :
      ∀ cs : List Char, (∀ c ∈ cs.head?, kind c = false) →
        cs.takeWhile kind = [] := by
    intro cs hcs
    cases cs with
    | nil => rfl
    | cons c cs =>
        rw [List.takeWhile_cons_of_neg]
        simp [hcs c rfl]
  have hWord := congrArg
    (fun t : String => t.toList.takeWhile kind) hText
  simp only [String.toList_append] at hWord
  rw [List.takeWhile_append_of_pos hu,
    List.takeWhile_append_of_pos hv, hNone _ hr, hNone _ hs,
    List.append_nil, List.append_nil,
    String.toList_inj] at hWord
  subst hWord
  exact ⟨rfl, (String.append_right_inj _).mp hText⟩

end Text

end Clickstream
