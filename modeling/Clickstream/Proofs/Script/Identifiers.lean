import Clickstream.Script.Dialects
import Clickstream.Proofs.Text.Alphanumeric

/-
  Identifiers: what becomes of the name of a test where a
  language needs a name for a function, a class or a method.
  Functions and classes always get a legal name. A method does
  so too, unless the whole name of the test is one word and
  that word is reserved.

  Key definitions:
    * `isForeign`, `IsIdentifier`
    * `pythonKeywords`, `javaReserved`

  Key theorems:
    * `isIdentifier_snakeName`, `isIdentifier_pascalName`,
      `isIdentifier_camelName`
    * `camelName_mem_javaReserved_iff`
    * `isIdentifier_names`
-/

namespace Clickstream

namespace Script

open Text

------------------------------------------------------------
-- Identifiers
------------------------------------------------------------

/-
  Whether a character has no place in an identifier. Both
  languages know more letters than those of ASCII, but these
  are the ones they have in common.
-/
def isForeign (c : Char) : Bool :=
  !(isAlphanumeric c || c == '_')

/- Letters, digits and underscores, and no digit first. -/
def IsIdentifier (s : String) : Prop :=
  s.toList.head?.any (fun c => !isDigit c) = true ∧
    Avoids isForeign s

instance (s : String) : Decidable (IsIdentifier s) := by
  unfold IsIdentifier
  infer_instance

/- The keywords of Python. -/
def pythonKeywords : List String :=
  ["False", "None", "True", "and", "as", "assert", "async",
    "await", "break", "class", "continue", "def", "del",
    "elif", "else", "except", "finally", "for", "from",
    "global", "if", "import", "in", "is", "lambda",
    "nonlocal", "not", "or", "pass", "raise", "return", "try",
    "while", "with", "yield"]

/- The keywords of Java, and its three words for values. -/
def javaReserved : List String :=
  ["abstract", "assert", "boolean", "break", "byte", "case",
    "catch", "char", "class", "const", "continue", "default",
    "do", "double", "else", "enum", "extends", "final",
    "finally", "float", "for", "goto", "if", "implements",
    "import", "instanceof", "int", "interface", "long",
    "native", "new", "package", "private", "protected",
    "public", "return", "short", "static", "strictfp",
    "super", "switch", "synchronized", "this", "throw",
    "throws", "transient", "try", "void", "volatile",
    "while", "_", "true", "false", "null"]

variable {s t : String}
variable {cs : List Char}

/- What follows an identifier may belong to it. -/
theorem IsIdentifier.append
    (hIdentifier : IsIdentifier s)
    (hRest : Avoids isForeign t) :
    IsIdentifier (s ++ t) := by
  refine ⟨?_, hIdentifier.2.append hRest⟩
  have hFirst := hIdentifier.1
  rw [String.toList_append]
  cases hChars : s.toList with
  | nil =>
      rw [hChars] at hFirst
      cases hFirst
  | cons first rest =>
      rw [hChars] at hFirst
      exact hFirst

/- Letters and digits have a place in identifiers. -/
theorem avoids_isForeign_ofList
    (hChars : ∀ c ∈ cs, isAlphanumeric c = true) :
    Avoids isForeign (String.ofList cs) := by
  refine Avoids.ofList fun c hc => ?_
  simp [isForeign, hChars c hc]

/- A row of letters and digits that begins with a letter. -/
theorem isIdentifier_ofList
    (hSome : cs ≠ [])
    (hStart : startsWithDigit cs = false)
    (hChars : ∀ c ∈ cs, isAlphanumeric c = true) :
    IsIdentifier (String.ofList cs) := by
  refine ⟨?_, avoids_isForeign_ofList hChars⟩
  cases cs with
  | nil => exact absurd rfl hSome
  | cons first rest =>
      have hFirst : isDigit first = false := hStart
      rw [String.toList_ofList, List.head?_cons,
        Option.any_some, hFirst, Bool.not_false]

theorem exists_of_startsWithDigit
    (hStart : startsWithDigit cs = true) :
    ∃ digit ∈ cs, isDigit digit = true := by
  cases cs with
  | nil => cases hStart
  | cons digit rest => exact ⟨digit, List.mem_cons_self, hStart⟩

/- Reserved words of Java are written in small letters. -/
theorem isLower_of_mem_javaReserved
    (hReserved : s ∈ javaReserved) :
    ∀ c ∈ s.toList, isLower c = true ∨ c = '_' := by
  have hAll :
      ∀ word ∈ javaReserved,
        word.toList.all
          (fun c => isLower c || c == '_') = true := by
    decide +kernel
  simpa using hAll s hReserved

/- So they hold no other letter and no digit. -/
theorem not_mem_javaReserved
    {c : Char}
    (hc : c ∈ s.toList)
    (hSmall : isLower c = false)
    (hAlphanumeric : isAlphanumeric c = true) :
    s ∉ javaReserved := by
  intro hReserved
  rcases isLower_of_mem_javaReserved hReserved c hc with
    hLower | rfl
  · rw [hSmall] at hLower
    cases hLower
  · cases hAlphanumeric

------------------------------------------------------------
-- Words in a Row
------------------------------------------------------------

variable {testName : String}
variable {wordList : List (List Char)}

/- Capitalised words in a row hold letters and digits. -/
theorem isAlphanumeric_of_mem_capitalized
    (hWords :
      ∀ word ∈ wordList, ∀ c ∈ word,
        isAlphanumeric c = true) :
    ∀ c ∈ (wordList.map capitalize).flatten,
      isAlphanumeric c = true := by
  intro c hc
  rcases List.mem_flatten.mp hc with ⟨word, hWord, hc⟩
  rcases List.mem_map.mp hWord with ⟨raw, hRaw, rfl⟩
  exact isAlphanumeric_of_mem_capitalize
    (hWords raw hRaw) c hc

/- So does what a method is named with. -/
theorem isAlphanumeric_of_mem_camel
    {first : List Char}
    {others : List (List Char)}
    (hSplit : words testName = first :: others) :
    ∀ c ∈ first ++ (others.map capitalize).flatten,
      isAlphanumeric c = true := by
  have hWords :
      ∀ word ∈ first :: others, ∀ c ∈ word,
        isAlphanumeric c = true := by
    rw [← hSplit]
    exact fun _ hWord => isAlphanumeric_of_mem_words hWord
  intro c hc
  rcases List.mem_append.mp hc with hc | hc
  · exact hWords first List.mem_cons_self c hc
  · exact isAlphanumeric_of_mem_capitalized
      (fun word hWord =>
        hWords word (List.mem_cons_of_mem _ hWord)) c hc

/-
  A capitalised word is seen in a row: its first character is
  no small letter any more.
-/
theorem exists_mem_capitalized
    {word : List Char}
    (hWord : word ∈ wordList)
    (hSome : word ≠ [])
    (hChars : ∀ c ∈ word, isAlphanumeric c = true) :
    ∃ c ∈ (wordList.map capitalize).flatten,
      isLower c = false ∧ isAlphanumeric c = true := by
  cases word with
  | nil => exact absurd rfl hSome
  | cons first rest =>
      have hFirst := hChars first List.mem_cons_self
      refine ⟨first.toUpper, ?_, isLower_toUpper hFirst,
        isAlphanumeric_toUpper hFirst⟩
      exact List.mem_flatten.mpr
        ⟨_, List.mem_map_of_mem hWord, List.mem_cons_self⟩

------------------------------------------------------------
-- Names of Tests
------------------------------------------------------------

variable (testName)

/- The name of a function is an identifier. -/
theorem isIdentifier_snakeName :
    IsIdentifier (snakeName testName) := by
  unfold snakeName
  split
  · decide
  · have hStart : IsIdentifier "test_" := by decide
    have hSeparator : Avoids isForeign "_" := by decide
    refine hStart.append (hSeparator.intercalate ?_)
    intro text hText
    rcases List.mem_map.mp hText with ⟨word, hWord, rfl⟩
    exact avoids_isForeign_ofList
      (isAlphanumeric_of_mem_words hWord)

/- It begins as no keyword does. -/
theorem snakeName_not_mem_pythonKeywords :
    snakeName testName ∉ pythonKeywords := by
  have hKeywords :
      ∀ word ∈ pythonKeywords,
        ¬ "test_".toList <+: word.toList := by
    decide +kernel
  intro hMem
  apply hKeywords _ hMem
  unfold snakeName
  split
  · decide
  · rw [String.toList_append]
    exact List.prefix_append _ _

/- The name of a class is an identifier. -/
theorem isIdentifier_pascalName :
    IsIdentifier (pascalName testName) := by
  have hChars :=
    isAlphanumeric_of_mem_capitalized
      fun word (hWord : word ∈ words testName) =>
        isAlphanumeric_of_mem_words hWord
  have hTest : Avoids isForeign "Test" := by decide
  have hRecorded : IsIdentifier "Recorded" := by decide
  unfold pascalName
  dsimp only
  split
  · decide
  · rename_i hSome
    split
    · exact (hRecorded.append
        (avoids_isForeign_ofList hChars)).append hTest
    · rename_i hStart
      refine (isIdentifier_ofList ?_ ?_ hChars).append hTest
      · simpa using hSome
      · simpa using hStart

/- It ends with a word that has a capital. -/
theorem pascalName_not_mem_javaReserved :
    pascalName testName ∉ javaReserved := by
  have hCapital : 'T' ∈ (pascalName testName).toList := by
    unfold pascalName
    dsimp only
    split
    · decide
    · split <;> simp
  exact not_mem_javaReserved hCapital (by decide) (by decide)

/- The name of a method is an identifier. -/
theorem isIdentifier_camelName :
    IsIdentifier (camelName testName) := by
  unfold camelName
  split
  · decide
  · rename_i first others hSplit
    have hChars := isAlphanumeric_of_mem_camel hSplit
    have hFirst : first ∈ words testName := by
      rw [hSplit]
      exact List.mem_cons_self
    have hSome := ne_nil_of_mem_words hFirst
    have hTest : IsIdentifier "test" := by decide
    dsimp only
    split
    · exact hTest.append (avoids_isForeign_ofList hChars)
    · rename_i hStart
      refine isIdentifier_ofList ?_ ?_ hChars
      · simp [hSome]
      · simpa using hStart

/-
  The name of a method is reserved just if the name of the test
  is a single reserved word: a digit or the capital of a second
  word sets every other name apart.
-/
theorem camelName_mem_javaReserved_iff :
    camelName testName ∈ javaReserved ↔
      ∃ word,
        words testName = [word] ∧
          String.ofList word ∈ javaReserved := by
  constructor
  · intro hReserved
    unfold camelName at hReserved
    split at hReserved
    · exact absurd hReserved (by decide)
    · rename_i first others hSplit
      have hChars := isAlphanumeric_of_mem_camel hSplit
      dsimp only at hReserved
      split at hReserved
      · rename_i hStart
        rcases exists_of_startsWithDigit hStart with
          ⟨digit, hMem, hDigit⟩
        refine absurd hReserved
          (not_mem_javaReserved (c := digit) ?_
            (isLower_of_isDigit hDigit)
            (isAlphanumeric_of_isDigit hDigit))
        simp [hMem]
      · cases others with
        | nil =>
            refine ⟨first, hSplit, ?_⟩
            simpa using hReserved
        | cons second more =>
            have hSecond : second ∈ words testName := by
              rw [hSplit]
              exact List.mem_cons_of_mem _ List.mem_cons_self
            have hHead : second ∈ second :: more :=
              List.mem_cons_self
            rcases exists_mem_capitalized hHead
                (ne_nil_of_mem_words hSecond)
                (isAlphanumeric_of_mem_words hSecond) with
              ⟨c, hMem, hSmall, hAlphanumeric⟩
            refine absurd hReserved
              (not_mem_javaReserved (c := c) ?_ hSmall
                hAlphanumeric)
            rw [String.toList_ofList]
            exact List.mem_append_right _ hMem
  · rintro ⟨word, hSplit, hReserved⟩
    have hStart : startsWithDigit word = false := by
      by_contra hDigit
      rw [Bool.not_eq_false] at hDigit
      rcases exists_of_startsWithDigit hDigit with
        ⟨digit, hMem, hDigit⟩
      refine absurd hReserved
        (not_mem_javaReserved (c := digit) ?_
          (isLower_of_isDigit hDigit)
          (isAlphanumeric_of_isDigit hDigit))
      rwa [String.toList_ofList]
    unfold camelName
    rw [hSplit]
    simpa [hStart] using hReserved

/-
  Functions and classes get legal names that no language keeps
  for itself. The names of methods are legal too, but a test
  that is called by a single reserved word hands it on.
-/
theorem isIdentifier_names :
    (IsIdentifier (snakeName testName) ∧
        snakeName testName ∉ pythonKeywords) ∧
      (IsIdentifier (pascalName testName) ∧
        pascalName testName ∉ javaReserved) ∧
      IsIdentifier (camelName testName) ∧
      (camelName testName ∈ javaReserved ↔
        ∃ word,
          words testName = [word] ∧
            String.ofList word ∈ javaReserved) :=
  ⟨⟨isIdentifier_snakeName testName,
      snakeName_not_mem_pythonKeywords testName⟩,
    ⟨isIdentifier_pascalName testName,
      pascalName_not_mem_javaReserved testName⟩,
    isIdentifier_camelName testName,
    camelName_mem_javaReserved_iff testName⟩

/- A test of classes has a method that cannot be compiled. -/
theorem camelName_class :
    camelName "Class" = "class" ∧
      "class" ∈ javaReserved ∧
      "    void class() \x7b" ∈ javaDialect.header "Class" := by
  have hName : camelName "Class" = "class" := by
    decide +kernel
  refine ⟨hName, by decide, ?_⟩
  simp [javaDialect, hName]

end Script

end Clickstream
