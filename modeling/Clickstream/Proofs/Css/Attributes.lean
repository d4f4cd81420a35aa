import Clickstream.Css.Identifier
import Clickstream.Proofs.Css.Quoted

/-
  Rows of attribute selectors, such as `[role="tab"][title="A"]`.
  What is written for a row of names and values is read as this
  row just if every name may stand as it is and no value has an
  end of line.

  Key definitions:
    * `IsName`: names that stand for themselves
    * `readAttribute`, `readAttributes`
    * `attributeRow`
    * `IsLegible`

  Key theorems:
    * `eq_or_length_lt_of_readAttributes`
    * `readAttributes_attributeRow_iff`
    * `readAttributes_preprocess_iff`
-/

namespace Clickstream

namespace Css

open Text

------------------------------------------------------------
-- Names
------------------------------------------------------------

/- An identifier without any escape. -/
def IsName (name : List Char) : Prop :=
  startsIdentifier name = true ∧
    ∀ c ∈ name, isIdentifierChar c = true

-- Only the characters of the name are looked at.
instance (name : List Char) : Decidable (IsName name) :=
  @instDecidableAnd _ _ inferInstance
    (List.decidableBAll (fun c => isIdentifierChar c = true) name)

variable {c stop : Char}
variable {cs rest after name : List Char}
variable {fuel : Nat}

/- A name is read up to a character that ends it. -/
theorem readName_append
    (hName : ∀ c ∈ name, isIdentifierChar c = true)
    (hStop : isIdentifierChar stop = false)
    (hSlash : stop ≠ '\\')
    (hFuel : name.length ≤ fuel) :
    readName fuel (name ++ stop :: rest) =
      (name, stop :: rest) := by
  induction name generalizing fuel with
  | nil =>
      cases fuel with
      | zero => rfl
      | succ fuel =>
          rw [List.nil_append, readName,
            if_neg (by simp [hStop]), if_neg hSlash]
  | cons c name ih =>
      rw [List.length_cons] at hFuel
      obtain ⟨fuel, rfl⟩ :=
        Nat.exists_eq_succ_of_ne_zero (n := fuel) (by omega)
      have hRest :
          readName fuel (name ++ stop :: rest) =
            (name, stop :: rest) :=
        ih (fun d hd => hName d (List.mem_cons_of_mem _ hd))
          (by omega)
      rw [List.cons_append, readName,
        if_pos (hName c List.mem_cons_self), hRest]

/-
  What is read as a name is the name itself, or it is longer
  than the name as it has an escape.
-/
theorem eq_or_length_lt_of_readName
    (hRead : readName fuel cs = (name, after)) :
    (cs = name ++ after ∧
        ∀ c ∈ name, isIdentifierChar c = true) ∨
      name.length + after.length < cs.length := by
  induction fuel, cs using readName.induct
      generalizing name after with
  | case1 fuel =>
      rw [readName] at hRead
      cases hRead
      exact Or.inl ⟨rfl, List.forall_mem_nil _⟩
  | case2 cs hSome =>
      rw [readName.eq_2 _ hSome] at hRead
      cases hRead
      exact Or.inl ⟨rfl, List.forall_mem_nil _⟩
  | case3 fuel c rest hOwn later behind hLater ih =>
      rw [readName, if_pos hOwn, hLater] at hRead
      cases hRead
      rcases ih hLater with ⟨rfl, hName⟩ | hLess
      · exact Or.inl
          ⟨rfl, List.forall_mem_cons.mpr ⟨hOwn, hName⟩⟩
      · right
        simp only [List.length_cons]
        omega
  | case4 fuel rest d tail hEscape later behind hLater hOwn ih =>
      rw [readName, if_neg hOwn, if_pos rfl, hEscape] at hRead
      dsimp only at hRead
      rw [hLater] at hRead
      cases hRead
      have hTail := length_lt_of_readEscape hEscape
      right
      simp only [List.length_cons]
      rcases ih hLater with ⟨rfl, _⟩ | hLess
      · rw [List.length_append] at hTail
        omega
      · omega
  | case5 fuel rest hEscape hOwn =>
      rw [readName, if_neg hOwn, if_pos rfl, hEscape] at hRead
      cases hRead
      exact Or.inl ⟨rfl, List.forall_mem_nil _⟩
  | case6 fuel c rest hOwn hSlash =>
      rw [readName, if_neg hOwn, if_neg hSlash] at hRead
      cases hRead
      exact Or.inl ⟨rfl, List.forall_mem_nil _⟩

/- Identifiers start with characters of identifiers. -/
theorem isIdentifierChar_of_starts
    (hStarts :
      (isLetter c || c == '_' || !isAscii c) = true) :
    isIdentifierChar c = true := by
  simp only [Bool.or_eq_true] at hStarts
  rcases hStarts with (hLetter | hMark) | hOther
  · simp [isIdentifierChar, isNameChar, isAlphanumeric, hLetter]
  · simp [isIdentifierChar, isNameChar, hMark]
  · simp [isIdentifierChar, hOther]

/- What ends a name has no part in how it starts. -/
theorem startsIdentifier_append
    (hName : ∀ c ∈ name, isIdentifierChar c = true)
    (hStop : isIdentifierChar stop = false)
    (hSlash : stop ≠ '\\') :
    startsIdentifier (name ++ stop :: rest) =
      startsIdentifier name := by
  have hNone :
      (isLetter stop || stop == '_' || !isAscii stop) =
        false := by
    by_contra hStarts
    rw [Bool.not_eq_false] at hStarts
    rw [isIdentifierChar_of_starts hStarts] at hStop
    cases hStop
  have hHyphen : stop ≠ '-' := by
    rintro rfl
    cases hStop
  have hPlain : ∀ c ∈ name, c ≠ '\\' := by
    rintro _ hc rfl
    cases hName _ hc
  cases name with
  | nil =>
      rw [List.nil_append, startsIdentifier.eq_4 _ _ hHyphen,
        hNone]
      simp [startsIdentifier, hSlash]
  | cons first name =>
      have hFirst : (first == '\\') = false :=
        beq_eq_false_iff_ne.mpr
          (hPlain first List.mem_cons_self)
      by_cases hDash : first = '-'
      · subst hDash
        cases name with
        | nil =>
            simp only [Bool.or_eq_false_iff] at hNone
            simp [startsIdentifier, hHyphen, hSlash, hNone]
        | cons second name =>
            have hSecond : (second == '\\') = false :=
              beq_eq_false_iff_ne.mpr (hPlain second (by simp))
            rw [List.cons_append, List.cons_append,
              startsIdentifier, startsIdentifier, hSecond,
              Bool.false_and, Bool.false_and]
      · rw [List.cons_append,
          startsIdentifier.eq_4 _ _ hDash,
          startsIdentifier.eq_4 _ _ hDash, hFirst,
          Bool.false_and, Bool.false_and]

/- A name that ends is read as it stands. -/
theorem readIdentifier_append
    (hName : IsName name)
    (hStop : isIdentifierChar stop = false)
    (hSlash : stop ≠ '\\') :
    readIdentifier (name ++ stop :: rest) =
      some (name, stop :: rest) := by
  unfold readIdentifier
  rw [startsIdentifier_append hName.2 hStop hSlash,
    if_pos hName.1, readName_append hName.2 hStop hSlash]
  simp

/- What is read as an identifier and ends is no shorter. -/
theorem eq_or_length_lt_of_readIdentifier
    (hStop : isIdentifierChar stop = false)
    (hSlash : stop ≠ '\\')
    (hRead :
      readIdentifier cs = some (name, stop :: rest)) :
    (cs = name ++ stop :: rest ∧ IsName name) ∨
      name.length + (stop :: rest).length < cs.length := by
  unfold readIdentifier at hRead
  split at hRead
  · rename_i hStarts
    rw [Option.some_inj] at hRead
    rcases eq_or_length_lt_of_readName hRead with
      ⟨rfl, hName⟩ | hLess
    · rw [startsIdentifier_append hName hStop hSlash]
        at hStarts
      exact Or.inl ⟨rfl, hStarts, hName⟩
    · exact Or.inr hLess
  · cases hRead

------------------------------------------------------------
-- Attribute Selectors
------------------------------------------------------------

/-
  The name and the value of the attribute selector at the front
  of a text, and what follows it.
-/
def readAttribute :
    List Char → Option ((String × String) × List Char)
  | '[' :: rest =>
      match readIdentifier rest with
      | some (name, '=' :: '"' :: body) =>
          match closeQuoted body with
          | some (inside, ']' :: after) =>
              (readQuoted inside).map fun value =>
                ((String.ofList name, String.ofList value),
                  after)
          | _ => none
      | _ => none
  | _ => none

/- The names and values of a row and nothing else. -/
def readAttributesFrom :
    Nat → List Char → Option (List (String × String))
  | _, [] => some []
  | 0, _ :: _ => none
  | fuel + 1, cs =>
      match readAttribute cs with
      | some (fact, after) =>
          (readAttributesFrom fuel after).map (fact :: ·)
      | none => none

/- `readAttributesFrom` with fuel for the whole text. -/
def readAttributes
    (cs : List Char) : Option (List (String × String)) :=
  readAttributesFrom cs.length cs

/- What is written for a row of names and values. -/
def attributeRow (facts : List (String × String)) : String :=
  String.join
    (facts.map fun fact => attributeSelector fact.1 fact.2)

/- A name that may stand as it is, and a value on one line. -/
def IsLegible (fact : String × String) : Prop :=
  IsName fact.1.toList ∧ Avoids isNewline fact.2

instance (fact : String × String) :
    Decidable (IsLegible fact) := by
  unfold IsLegible
  infer_instance

variable {fact : String × String}
variable {facts : List (String × String)}

theorem toList_attributeSelector (name value : String) :
    (attributeSelector name value).toList =
      '[' :: (name.toList ++ '=' :: '"' ::
        ((escapeQuoted value).toList ++ ['"', ']'])) := by
  unfold attributeSelector
  simp only [String.toList_append, List.append_assoc]
  rfl

/- What is written for a legible attribute is read back. -/
theorem readAttribute_attributeSelector
    (hLegible : IsLegible fact) :
    readAttribute
        ((attributeSelector fact.1 fact.2).toList ++ after) =
      some (fact, after) := by
  have hBody :
      (escapeQuoted fact.2).toList ++ '"' :: ']' :: after =
        escapeQuotedChars fact.2.toList ++
          '"' :: ']' :: after := by
    rw [escapeQuoted, String.toList_ofList]
  have hValue :=
    (readQuoted_escapeQuoted_iff fact.2).mpr hLegible.2
  rw [escapeQuoted, String.toList_ofList] at hValue
  rw [toList_attributeSelector]
  simp only [List.cons_append, List.append_assoc,
    List.nil_append]
  rw [readAttribute, hBody,
    readIdentifier_append hLegible.1 rfl (by decide)]
  simp only [closeQuoted_escapeQuotedChars, hValue,
    Option.map_some, String.ofList_toList]

/-
  What is read as an attribute is what is written for it, or it
  is longer.
-/
theorem eq_or_length_lt_of_readAttribute
    (hRead : readAttribute cs = some (fact, after)) :
    (cs = (attributeSelector fact.1 fact.2).toList ++ after ∧
        IsLegible fact) ∨
      (attributeSelector fact.1 fact.2).toList.length +
          after.length < cs.length := by
  unfold readAttribute at hRead
  split at hRead
  · rename_i rest
    split at hRead
    · rename_i name body hName
      split at hRead
      · rename_i inside behind hClose
        rcases Option.map_eq_some_iff.mp hRead with
          ⟨value, hValue, hSame⟩
        cases hSame
        have hBody := eq_append_of_closeQuoted hClose
        subst hBody
        have hLength :
            (escapeQuotedChars value).length ≤
              inside.length := by
          rcases eq_or_length_lt_of_readQuoted hValue with
            rfl | hLess
          · exact Nat.le_refl _
          · exact Nat.le_of_lt hLess
        rw [toList_attributeSelector]
        simp only [String.toList_ofList, escapeQuoted,
          List.length_cons, List.length_append,
          List.length_nil]
        rcases eq_or_length_lt_of_readIdentifier rfl
            (by decide) hName with ⟨rfl, hPlain⟩ | hLess
        · simp only [List.length_append, List.length_cons]
          rcases eq_or_length_lt_of_readQuoted hValue with
            rfl | hLess
          · left
            refine ⟨by simp, ?_, ?_⟩
            · rw [String.toList_ofList]
              exact hPlain
            · exact Avoids.ofList
                (readQuoted_escapeQuotedChars_iff.mp hValue)
          · right
            omega
        · right
          simp only [List.length_append, List.length_cons]
            at hLess
          omega
      · cases hRead
    · cases hRead
  · cases hRead

------------------------------------------------------------
-- Rows
------------------------------------------------------------

theorem toList_attributeRow_cons :
    (attributeRow (fact :: facts)).toList =
      (attributeSelector fact.1 fact.2).toList ++
        (attributeRow facts).toList := by
  unfold attributeRow
  rw [List.map_cons, String.join_cons, String.toList_append]

/- What is written for a legible row is read back. -/
theorem readAttributesFrom_attributeRow
    (hLegible : ∀ fact ∈ facts, IsLegible fact)
    (hFuel : (attributeRow facts).toList.length ≤ fuel) :
    readAttributesFrom fuel (attributeRow facts).toList =
      some facts := by
  induction facts generalizing fuel with
  | nil => cases fuel <;> rfl
  | cons fact facts ih =>
      rw [List.forall_mem_cons] at hLegible
      rw [toList_attributeRow_cons, List.length_append]
        at hFuel
      have hSome :
          0 < (attributeSelector fact.1
            fact.2).toList.length := by
        rw [toList_attributeSelector]
        exact Nat.succ_pos _
      obtain ⟨fuel, rfl⟩ :=
        Nat.exists_eq_succ_of_ne_zero (n := fuel) (by omega)
      have hRest :
          readAttributesFrom fuel (attributeRow facts).toList =
            some facts :=
        ih hLegible.2 (by omega)
      rw [toList_attributeRow_cons,
        readAttributesFrom.eq_3 _ _ (by
          rw [toList_attributeSelector]
          exact nofun),
        readAttribute_attributeSelector hLegible.1]
      dsimp only
      rw [hRest, Option.map_some]

/-
  What is read as a row is what is written for it, or it is
  longer.
-/
theorem eq_or_length_lt_of_readAttributesFrom
    (hRead : readAttributesFrom fuel cs = some facts) :
    (cs = (attributeRow facts).toList ∧
        ∀ fact ∈ facts, IsLegible fact) ∨
      (attributeRow facts).toList.length < cs.length := by
  induction fuel, cs using readAttributesFrom.induct
      generalizing facts with
  | case1 fuel =>
      rw [readAttributesFrom] at hRead
      cases hRead
      exact Or.inl ⟨rfl, List.forall_mem_nil _⟩
  | case2 c rest => cases hRead
  | case3 fuel cs hSome fact after hFirst ih =>
      rw [readAttributesFrom.eq_3 _ _ hSome, hFirst] at hRead
      rcases Option.map_eq_some_iff.mp hRead with
        ⟨later, hLater, rfl⟩
      rw [toList_attributeRow_cons, List.length_append,
        List.forall_mem_cons]
      rcases eq_or_length_lt_of_readAttribute hFirst with
        ⟨rfl, hLegible⟩ | hLess
      · rw [List.length_append]
        rcases ih hLater with ⟨rfl, hOthers⟩ | hLess
        · exact Or.inl ⟨rfl, hLegible, hOthers⟩
        · right
          omega
      · right
        rcases ih hLater with ⟨rfl, _⟩ | hLater
        · exact hLess
        · omega
  | case4 fuel cs hSome hFirst =>
      rw [readAttributesFrom.eq_3 _ _ hSome, hFirst] at hRead
      cases hRead

/-
  What is written for a row is read as the row just if the row
  is legible: if anything else were read as this row it would
  be longer.
-/
theorem readAttributes_attributeRow_iff :
    readAttributes (attributeRow facts).toList = some facts ↔
      ∀ fact ∈ facts, IsLegible fact := by
  constructor
  · intro hRead
    rcases eq_or_length_lt_of_readAttributesFrom hRead with
      ⟨_, hLegible⟩ | hLess
    · exact hLegible
    · exact absurd hLess (Nat.lt_irrefl _)
  · intro hLegible
    exact readAttributesFrom_attributeRow hLegible
      (Nat.le_refl _)

------------------------------------------------------------
-- Rows in Style Sheets
------------------------------------------------------------

/- What is written but the name and the value. -/
theorem mem_attributeSelector
    {key value : String}
    (hc : c ∈ (attributeSelector key value).toList) :
    c ∈ key.toList ∨ c ∈ value.toList ∨
      c ∈ ['[', '=', '"', ']', '\\'] := by
  rw [toList_attributeSelector, escapeQuoted,
    String.toList_ofList] at hc
  simp only [List.mem_cons, List.mem_append,
    List.not_mem_nil, or_false] at hc ⊢
  rcases hc with
    rfl | hName | rfl | rfl | hValue | rfl | rfl
  · simp
  · exact Or.inl hName
  · simp
  · simp
  · rcases mem_escapeQuotedChars hValue with hValue | rfl
    · exact Or.inr (Or.inl hValue)
    · simp
  · simp
  · simp

theorem isReplaced_of_isIdentifierChar
    (hOwn : isIdentifierChar c = true) :
    isReplaced c = false := by
  by_contra hReplaced
  simp only [isReplaced, Bool.not_eq_false, Bool.or_eq_true,
    beq_iff_eq] at hReplaced
  rcases hReplaced with (rfl | rfl) | rfl <;> cases hOwn

theorem isReplaced_of_not_isNewline
    (hNewline : isNewline c = false)
    (hZero : c ≠ '\x00') :
    isReplaced c = false := by
  rw [← Bool.not_eq_true, isNewline_iff, not_or, not_or]
    at hNewline
  simp [isReplaced, hNewline, hZero]

/- What stands in a legible row without zeros stays there. -/
theorem preprocess_attributeRow
    (hFacts :
      ∀ fact ∈ facts,
        IsLegible fact ∧ '\x00' ∉ fact.2.toList) :
    preprocess (attributeRow facts).toList =
      (attributeRow facts).toList := by
  rw [preprocess_eq_self_iff]
  intro c hc
  rw [attributeRow, String.toList_join, List.mem_flatMap]
    at hc
  rcases hc with ⟨text, hText, hc⟩
  rcases List.mem_map.mp hText with ⟨fact, hFact, rfl⟩
  have hOwn := hFacts fact hFact
  rcases mem_attributeSelector hc with hName | hValue | hMark
  · exact isReplaced_of_isIdentifierChar
      (hOwn.1.1.2 c hName)
  · refine isReplaced_of_not_isNewline
      (hOwn.1.2 c hValue) ?_
    rintro rfl
    exact hOwn.2 hValue
  · simp only [List.mem_cons, List.not_mem_nil, or_false]
      at hMark
    rcases hMark with rfl | rfl | rfl | rfl | rfl <;> rfl

/-
  In a style sheet, which is prepared before it is read, zeros
  must not stand in the values either.
-/
theorem readAttributes_preprocess_iff :
    readAttributes (preprocess (attributeRow facts).toList) =
        some facts ↔
      ∀ fact ∈ facts,
        IsLegible fact ∧ '\x00' ∉ fact.2.toList := by
  constructor
  · intro hRead
    rcases eq_or_length_lt_of_readAttributesFrom hRead with
      ⟨hSame, hLegible⟩ | hLess
    · intro fact hFact
      refine ⟨hLegible fact hFact, ?_⟩
      intro hZero
      have hWritten :
          '\x00' ∈ (attributeRow facts).toList := by
        rw [attributeRow, String.toList_join,
          List.mem_flatMap]
        refine ⟨_, List.mem_map_of_mem hFact, ?_⟩
        rw [toList_attributeSelector, escapeQuoted,
          String.toList_ofList]
        simp [mem_escapeQuotedChars_of_mem hZero]
      cases preprocess_eq_self_iff.mp hSame _ hWritten
    · exact absurd (length_preprocess_le _)
        (Nat.not_le_of_lt hLess)
  · intro hFacts
    rw [preprocess_attributeRow hFacts,
      readAttributes_attributeRow_iff]
    exact fun fact hFact => (hFacts fact hFact).1

end Css

end Clickstream
