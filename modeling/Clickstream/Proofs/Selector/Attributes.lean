import Clickstream.Selector.Basic
import Clickstream.Proofs.Css.Attributes

/-
  Selectors that look for the values of attributes. In the form
  for style sheets they stand for exactly the names and values
  that were recorded, as long as every name may stand as it is
  and no value has an end of line.

  Key definitions:
    * `Selector.Records`

  Key theorems:
    * `Selector.Records.toCss_eq`
    * `Selector.readAttributes_toCss_iff`
-/

namespace Clickstream

namespace Selector

open Text

------------------------------------------------------------
-- Recorded Attributes
------------------------------------------------------------

/-
  The names and values of attributes that a selector was made
  of. Ids are among them that do not fit behind a hash; paths
  are not, as they name no attributes.
-/
inductive Records :
    Selector → List (String × String) → Prop where
  | testId {s : Selector} (hKind : s.kind = .testId) :
      Records s
        [(s.aux.getD defaultTestIdAttribute, s.value)]
  | role {s : Selector} (hKind : s.kind = .role)
      (hAux : s.aux = none) :
      Records s [("role", s.value)]
  | namedRole {s : Selector} (hKind : s.kind = .role)
      {name : String} (hAux : s.aux = some name) :
      Records s [("role", s.value), ("aria-label", name)]
  | label {s : Selector} (hKind : s.kind = .label) :
      Records s [("aria-label", s.value)]
  | placeholder {s : Selector}
      (hKind : s.kind = .placeholder) :
      Records s [("placeholder", s.value)]
  | altText {s : Selector} (hKind : s.kind = .altText) :
      Records s [("alt", s.value)]
  | title {s : Selector} (hKind : s.kind = .title) :
      Records s [("title", s.value)]
  | name {s : Selector} (hKind : s.kind = .name) :
      Records s [("name", s.value)]
  | classAttribute (value : String) :
      Records (.classAttribute value) [("class", value)]
  | uniqueId {id : String}
      (hPlain : Css.isPlainIdentifier id.toList = false) :
      Records (.uniqueId id) [("id", id)]

/- Their form for style sheets is the row of what they record. -/
theorem Records.toCss_eq
    {s : Selector}
    {facts : List (String × String)}
    (hRecords : s.Records facts) :
    s.toCss = Css.attributeRow facts := by
  unfold toCss Css.attributeRow
  cases hRecords with
  | role hKind hAux => simp [hKind, hAux]
  | namedRole hKind hAux => simp [hKind, hAux]
  | classAttribute value => simp [Selector.classAttribute]
  | uniqueId hPlain =>
      simp [Selector.uniqueId, Css.idSelector, hPlain]
  | _ hKind => simp [hKind]

------------------------------------------------------------
-- What Selectors Stand For
------------------------------------------------------------

/-
  Whatever value is written between the quotes of an attribute
  selector, the string ends at its own quote. It is read as the
  value just if the value has no end of line. So a selector
  stands for what it was made of just if no value has one, and
  in a style sheet no zero character.
-/
theorem readAttributes_toCss_iff (value : String) :
    (∀ after : List Char,
        Css.closeQuoted
            ((Css.escapeQuoted value).toList ++ '"' :: after) =
          some ((Css.escapeQuoted value).toList, after)) ∧
      (Css.readQuoted (Css.escapeQuoted value).toList =
          some value.toList ↔
        Avoids Css.isNewline value) ∧
      ∀ (s : Selector) (facts : List (String × String)),
        s.Records facts →
          (Css.readAttributes s.toCss.toList = some facts ↔
            ∀ fact ∈ facts, Css.IsLegible fact) ∧
          (Css.readAttributes (Css.preprocess s.toCss.toList) =
              some facts ↔
            ∀ fact ∈ facts,
              Css.IsLegible fact ∧
                '\x00' ∉ fact.2.toList) := by
  refine ⟨?_, Css.readQuoted_escapeQuoted_iff value, ?_⟩
  · intro after
    rw [Css.escapeQuoted, String.toList_ofList]
    exact Css.closeQuoted_escapeQuotedChars _ after
  · intro s facts hRecords
    rw [hRecords.toCss_eq]
    exact ⟨Css.readAttributes_attributeRow_iff,
      Css.readAttributes_preprocess_iff⟩

/- A tab is found by its role and its name, quotes and all. -/
theorem readAttributes_toCss_tab :
    (role "tab" (some "Save \"all\"")).Records
        [("role", "tab"), ("aria-label", "Save \"all\"")] ∧
      Css.readAttributes
          (role "tab" (some "Save \"all\"")).toCss.toList =
        some
          [("role", "tab"), ("aria-label", "Save \"all\"")] := by
  have hRecords :
      (role "tab" (some "Save \"all\"")).Records
        [("role", "tab"), ("aria-label", "Save \"all\"")] :=
    .namedRole rfl rfl
  have hRole : Css.IsLegible ("role", "tab") := by
    decide +kernel
  have hName :
      Css.IsLegible ("aria-label", "Save \"all\"") := by
    decide +kernel
  refine ⟨hRecords, ?_⟩
  have hRead := (readAttributes_toCss_iff "Save \"all\"").2.2
  apply (hRead _ _ hRecords).1.mpr
  simp [hRole, hName]

/- Classes on two lines make a selector that cannot be read. -/
theorem readAttributes_toCss_twoLines :
    (classAttribute "card\nwide").Records
        [("class", "card\nwide")] ∧
      Css.readQuoted (Css.escapeQuoted "card\nwide").toList =
        none ∧
      Css.readAttributes
          (classAttribute "card\nwide").toCss.toList =
        none := by
  refine ⟨.classAttribute _, ?_, ?_⟩ <;> decide +kernel

end Selector

end Clickstream
