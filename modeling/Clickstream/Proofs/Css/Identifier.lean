import Mathlib.Data.Nat.Digits.Defs
import Clickstream.Css.Identifier
import Clickstream.Proofs.Css.Quoted

/-
  Identifiers of style sheets. What is written for a class is
  one identifier from its first character to its last, and it
  is read as the class, unless the class is empty or has a
  U+0000. So rows of class selectors are read as the rows of
  classes that they were written for.

  Key definitions:
    * `readBack`: what an escaped character is read as
    * `EndsName`: texts that no name goes on in
    * `IsClassName`

  Key theorems:
    * `readEscape_hexEscape`
    * `startsIdentifier_escapeIdentifier`
    * `readIdentifier_escapeIdentifier`
    * `readClassesFrom_classRow`
    * `readClasses_classSelector_iff`
-/

namespace Clickstream

namespace Css

open Text

variable {c d : Char}
variable {cs rest tail after name digits : List Char}
variable {fuel : Nat}

------------------------------------------------------------
-- Hexadecimal Escapes
------------------------------------------------------------

theorem isHexDigit_digitChar
    {n : Nat}
    (hn : n < 16) :
    isHexDigit (Nat.digitChar n) = true :=
  (by decide : ∀ n < 16, isHexDigit (Nat.digitChar n) = true)
    n hn

theorem hexValue_digitChar
    {n : Nat}
    (hn : n < 16) :
    hexValue (Nat.digitChar n) = n :=
  (by decide : ∀ n < 16, hexValue (Nat.digitChar n) = n) n hn

/- The last digit counts once and the others sixteenfold. -/
theorem ofHexDigits_append_singleton
    (cs : List Char)
    (c : Char) :
    ofHexDigits (cs ++ [c]) =
      16 * ofHexDigits cs + hexValue c := by
  unfold ofHexDigits
  rw [List.foldl_append]
  rfl

/- The digits of a number mean the number. -/
theorem ofHexDigits_toDigits (n : Nat) :
    ofHexDigits (Nat.toDigits 16 n) = n := by
  induction n using Nat.strongRecOn with
  | ind n ih =>
      by_cases hSmall : n < 16
      · have hDigit := ofHexDigits_append_singleton [] n.digitChar
        rw [hexValue_digitChar hSmall] at hDigit
        rw [Nat.toDigits_of_lt_base hSmall]
        exact hDigit.trans (Nat.zero_add n)
      · have hRest := ih (n / 16) (by omega)
        have hLast :=
          hexValue_digitChar (Nat.mod_lt n (by omega : 0 < 16))
        rw [Nat.toDigits_of_base_le (by omega) (by omega),
          ofHexDigits_append_singleton, hRest, hLast]
        omega

theorem isHexDigit_of_mem_toDigits
    {n : Nat}
    (hc : c ∈ Nat.toDigits 16 n) :
    isHexDigit c = true := by
  induction n using Nat.strongRecOn with
  | ind n ih =>
      by_cases hSmall : n < 16
      · rw [Nat.toDigits_of_lt_base hSmall,
          List.mem_singleton] at hc
        rw [hc]
        exact isHexDigit_digitChar hSmall
      · rw [Nat.toDigits_of_base_le (by omega) (by omega),
          List.mem_append, List.mem_singleton] at hc
        rcases hc with hc | hc
        · exact ih (n / 16) (by omega) hc
        · rw [hc]
          exact isHexDigit_digitChar
            (Nat.mod_lt n (by omega : 0 < 16))

/- U+0000 is in no style sheet and cannot be escaped. -/
def readBack (c : Char) : Char :=
  if c = '\x00' then '\ufffd' else c

theorem hexChar_toDigits (c : Char) :
    hexChar (Nat.toDigits 16 c.toNat) = readBack c := by
  have hNull : c.toNat = 0 ↔ c = '\x00' := by
    rw [← Char.toNat_inj]
    rfl
  have hValid : c.toNat.isValidChar := c.valid
  unfold hexChar readBack
  rw [ofHexDigits_toDigits]
  by_cases hc : c = '\x00'
  · rw [if_pos (Or.inl (hNull.mpr hc)), if_pos hc]
  · rw [if_neg hc, if_neg]
    · exact Char.ofNat_toNat c
    · rintro (hZero | hInvalid)
      · exact hc (hNull.mp hZero)
      · exact hInvalid hValid

/- Up to six digits are read, and the space behind them. -/
theorem readEscape_digits
    (hDigits : ∀ c ∈ d :: digits, isHexDigit c = true)
    (hLength : digits.length ≤ 5) :
    readEscape (d :: digits ++ ' ' :: rest) =
      some (hexChar (d :: digits), rest) := by
  have hHex : isHexDigit d = true :=
    hDigits d List.mem_cons_self
  have hStop :
      ((' ' :: rest).take (5 - digits.length)).takeWhile
          isHexDigit = [] := by
    cases 5 - digits.length <;> rfl
  have hTaken :
      ((digits ++ ' ' :: rest).take 5).takeWhile isHexDigit =
        digits := by
    rw [List.take_append, List.take_of_length_le hLength,
      List.takeWhile_append_of_pos, hStop, List.append_nil]
    intro c hc
    exact hDigits c (List.mem_cons_of_mem d hc)
  rw [List.cons_append, readEscape, if_pos hHex, hTaken]
  dsimp only
  rw [List.length_cons, Nat.add_sub_cancel, List.drop_left]
  rfl

/- The space ends the escape and is gone with it. -/
theorem readEscape_hexEscape (c : Char) (rest : List Char) :
    readEscape (Nat.toDigits 16 c.toNat ++ ' ' :: rest) =
      some (readBack c, rest) := by
  have hLength : (Nat.toDigits 16 c.toNat).length ≤ 6 := by
    apply Nat.toDigits_length 16 c.toNat 6 (by omega)
    have hValid : c.toNat.isValidChar := c.valid
    unfold Nat.isValidChar at hValid
    omega
  rw [← hexChar_toDigits]
  cases hDigits : Nat.toDigits 16 c.toNat with
  | nil => exact absurd hDigits Nat.toDigits_ne_nil
  | cons d digits =>
      rw [hDigits, List.length_cons] at hLength
      apply readEscape_digits _ (by omega)
      intro e he
      rw [← hDigits] at he
      exact isHexDigit_of_mem_toDigits he

/- All but digits and ends of lines stand for themselves. -/
theorem readEscape_of_not_isHexDigit
    (hHex : isHexDigit c = false)
    (hNewline : isNewline c = false) :
    readEscape (c :: rest) = some (c, rest) := by
  rw [← Bool.not_eq_true, isNewline_iff] at hNewline
  rw [readEscape, if_neg (by simp [hHex]), if_neg hNewline]

------------------------------------------------------------
-- Characters of Names
------------------------------------------------------------

theorem readName_of_isIdentifierChar
    (hOwn : isIdentifierChar c = true) :
    readName (fuel + 1) (c :: rest) =
      (c :: (readName fuel rest).1,
        (readName fuel rest).2) := by
  rw [readName, if_pos hOwn]

theorem readName_of_readEscape
    (hEscape : readEscape rest = some (c, tail)) :
    readName (fuel + 1) ('\\' :: rest) =
      (c :: (readName fuel tail).1,
        (readName fuel tail).2) := by
  rw [readName, if_neg (by decide), if_pos rfl, hEscape]

theorem readBack_of_not_isControl
    (hControl : isControl c = false) :
    readBack c = c := by
  apply if_neg
  rintro rfl
  cases hControl

theorem isHexDigit_eq_false
    (hName : isNameChar c = false) :
    isHexDigit c = false := by
  by_contra hHex
  rw [Bool.not_eq_false] at hHex
  rw [isNameChar, isAlphanumeric_of_isHexDigit hHex] at hName
  cases hName

/- Ends of lines are control characters. -/
theorem isNewline_eq_false
    (hControl : isControl c = false) :
    isNewline c = false := by
  by_contra hNewline
  rw [Bool.not_eq_false, isNewline_iff] at hNewline
  rcases hNewline with rfl | rfl | rfl <;> cases hControl

/-
  The three ways in which a character is written inside a
  name: as hexadecimal escape, as it is, or behind a
  backslash.
-/
theorem escapeInner_cases (c : Char) :
    escapeInner c = hexEscape c ∨
      (escapeInner c = [c] ∧ isIdentifierChar c = true ∧
        readBack c = c) ∨
      (escapeInner c = ['\\', c] ∧ readBack c = c ∧
        ∀ rest, readEscape (c :: rest) = some (c, rest)) := by
  unfold escapeInner
  by_cases hControl : isControl c = true
  · exact Or.inl (if_pos hControl)
  · have hBack : readBack c = c :=
      readBack_of_not_isControl (by simpa using hControl)
    rw [if_neg hControl]
    by_cases hOwn : isIdentifierChar c = true
    · exact Or.inr (Or.inl ⟨if_pos hOwn, hOwn, hBack⟩)
    · refine Or.inr (Or.inr ⟨if_neg hOwn, hBack, ?_⟩)
      unfold isIdentifierChar at hOwn
      rw [Bool.not_eq_true, Bool.or_eq_false_iff] at hOwn
      intro rest
      exact readEscape_of_not_isHexDigit
        (isHexDigit_eq_false hOwn.1)
        (isNewline_eq_false (by simpa using hControl))

theorem readName_hexEscape (c : Char) (tail : List Char) :
    readName (fuel + 1) (hexEscape c ++ tail) =
      (readBack c :: (readName fuel tail).1,
        (readName fuel tail).2) := by
  have hText :
      hexEscape c ++ tail =
        '\\' :: (Nat.toDigits 16 c.toNat ++ ' ' :: tail) := by
    simp [hexEscape]
  rw [hText]
  exact readName_of_readEscape (readEscape_hexEscape c tail)

/- However it is written, one character is read. -/
theorem readName_escapeInner (c : Char) (tail : List Char) :
    readName (fuel + 1) (escapeInner c ++ tail) =
      (readBack c :: (readName fuel tail).1,
        (readName fuel tail).2) := by
  rcases escapeInner_cases c with
    hHex | ⟨hText, hOwn, hBack⟩ | ⟨hText, hBack, hEscape⟩
  · rw [hHex]
    exact readName_hexEscape c tail
  · rw [hText, hBack]
    exact readName_of_isIdentifierChar hOwn
  · rw [hText, hBack]
    exact readName_of_readEscape (hEscape tail)

theorem readName_escapeLeading (c : Char) (tail : List Char) :
    readName (fuel + 1) (escapeLeading c ++ tail) =
      (readBack c :: (readName fuel tail).1,
        (readName fuel tail).2) := by
  unfold escapeLeading
  split
  · exact readName_hexEscape c tail
  · exact readName_escapeInner c tail

------------------------------------------------------------
-- Names
------------------------------------------------------------

/- Whether a text does not go on with a name. -/
def EndsName (after : List Char) : Prop :=
  ∀ c,
    after.head? = some c →
      isIdentifierChar c = false ∧ c ≠ '\\'

theorem endsName_nil : EndsName [] := by
  intro c hc
  cases hc

theorem readName_of_endsName
    (hEnds : EndsName after) :
    readName fuel after = ([], after) := by
  cases after with
  | nil => rw [readName]
  | cons c after =>
      cases fuel with
      | zero => rfl
      | succ fuel =>
          rcases hEnds c rfl with ⟨hOwn, hSlash⟩
          rw [readName, if_neg (by simp [hOwn]),
            if_neg hSlash]

/- What comes after the beginning of a name is read. -/
theorem readName_flatMap_escapeInner
    (hEnds : EndsName after)
    (hFuel : name.length ≤ fuel) :
    readName fuel (name.flatMap escapeInner ++ after) =
      (name.map readBack, after) := by
  induction name generalizing fuel with
  | nil => exact readName_of_endsName hEnds
  | cons c name ih =>
      rw [List.length_cons] at hFuel
      obtain ⟨fuel, rfl⟩ :=
        Nat.exists_eq_succ_of_ne_zero (n := fuel) (by omega)
      rw [List.flatMap_cons, List.append_assoc,
        readName_escapeInner, ih (by omega)]
      rfl

/- With it the first character where no digit may stand. -/
theorem readName_leading
    (hEnds : EndsName after)
    (hFuel : name.length ≤ fuel) :
    readName (fuel + 1)
        (escapeLeading c ++ name.flatMap escapeInner ++
          after) =
      (readBack c :: name.map readBack, after) := by
  rw [List.append_assoc, readName_escapeLeading,
    readName_flatMap_escapeInner hEnds hFuel]

theorem readName_escapeIdentifier
    (hEnds : EndsName after)
    (hFuel : name.length ≤ fuel) :
    readName fuel (escapeIdentifier name ++ after) =
      (name.map readBack, after) := by
  unfold escapeIdentifier
  split
  · exact readName_of_endsName hEnds
  · rw [List.length_singleton] at hFuel
    obtain ⟨fuel, rfl⟩ :=
      Nat.exists_eq_succ_of_ne_zero (n := fuel) (by omega)
    have hEscape :
        readEscape ('-' :: after) = some ('-', after) :=
      readEscape_of_not_isHexDigit (by decide) (by decide)
    exact (readName_of_readEscape hEscape).trans
      (by rw [readName_of_endsName hEnds]; rfl)
  · rw [List.length_cons, List.length_cons] at hFuel
    obtain ⟨fuel, rfl⟩ := Nat.exists_eq_add_of_le' hFuel
    rw [List.cons_append, List.cons_append, ← Nat.add_assoc,
      ← Nat.add_assoc,
      readName_of_isIdentifierChar (by decide),
      readName_leading hEnds (by omega)]
    rfl
  · rw [List.length_cons] at hFuel
    obtain ⟨fuel, rfl⟩ := Nat.exists_eq_add_of_le' hFuel
    rw [← Nat.add_assoc, readName_leading hEnds (by omega)]
    rfl

------------------------------------------------------------
-- Beginnings
------------------------------------------------------------

/- Whether an identifier may start here without a hyphen. -/
def startsHere (c : Char) (rest : List Char) : Bool :=
  isLetter c || c == '_' || !isAscii c ||
    (c == '\\' && (readEscape rest).isSome)

theorem startsHere_of_readEscape
    (hEscape : readEscape rest = some (c, tail)) :
    startsHere '\\' rest = true := by
  simp [startsHere, hEscape]

theorem startsIdentifier_of_startsHere
    (hStarts : startsHere c rest = true) :
    startsIdentifier (c :: rest) = true := by
  have hHyphen : c ≠ '-' := by
    rintro rfl
    cases hStarts
  rw [startsIdentifier.eq_4 _ _ hHyphen]
  exact hStarts

theorem startsIdentifier_hyphen
    (hStarts : c = '-' ∨ startsHere c rest = true) :
    startsIdentifier ('-' :: c :: rest) = true := by
  rw [startsIdentifier]
  rcases hStarts with rfl | hStarts
  · rfl
  · unfold startsHere at hStarts
    simp only [Bool.or_eq_true] at hStarts ⊢
    tauto

theorem startsHere_hexEscape (c : Char) (tail : List Char) :
    ∃ rest,
      hexEscape c ++ tail = '\\' :: rest ∧
        startsHere '\\' rest = true := by
  refine ⟨Nat.toDigits 16 c.toNat ++ ' ' :: tail, ?_,
    startsHere_of_readEscape (readEscape_hexEscape c tail)⟩
  simp [hexEscape]

/- A character that is no digit starts a name, or escapes do. -/
theorem startsHere_escapeInner
    (hHyphen : c ≠ '-')
    (hDigit : isDigit c = false)
    (tail : List Char) :
    ∃ first rest,
      escapeInner c ++ tail = first :: rest ∧
        startsHere first rest = true := by
  rcases escapeInner_cases c with
    hHex | ⟨hText, hOwn, _⟩ | ⟨hText, _, hEscape⟩
  · rw [hHex]
    exact ⟨'\\', startsHere_hexEscape c tail⟩
  · refine ⟨c, tail, by rw [hText]; rfl, ?_⟩
    simp only [isIdentifierChar, isNameChar, isAlphanumeric,
      hDigit, beq_eq_false_iff_ne.mpr hHyphen,
      Bool.or_false] at hOwn
    simp only [startsHere, Bool.or_eq_true] at hOwn ⊢
    tauto
  · exact ⟨'\\', c :: tail, by rw [hText]; rfl,
      startsHere_of_readEscape (hEscape tail)⟩

theorem startsHere_escapeLeading
    (hHyphen : c ≠ '-')
    (tail : List Char) :
    ∃ first rest,
      escapeLeading c ++ tail = first :: rest ∧
        startsHere first rest = true := by
  unfold escapeLeading
  by_cases hDigit : isDigit c = true
  · rw [if_pos hDigit]
    exact ⟨'\\', startsHere_hexEscape c tail⟩
  · rw [if_neg hDigit]
    exact startsHere_escapeInner hHyphen
      (by simpa using hDigit) tail

/- What is written for any name but the empty one starts one. -/
theorem startsIdentifier_escapeIdentifier
    (hSome : name ≠ [])
    (after : List Char) :
    startsIdentifier (escapeIdentifier name ++ after) =
      true := by
  unfold escapeIdentifier
  split
  · exact absurd rfl hSome
  · have hEscape :
        readEscape ('-' :: after) = some ('-', after) :=
      readEscape_of_not_isHexDigit (by decide) (by decide)
    exact startsIdentifier_of_startsHere
      (startsHere_of_readEscape hEscape)
  · rename_i c rest
    rw [List.cons_append, List.cons_append, List.append_assoc]
    by_cases hHyphen : c = '-'
    · rw [hHyphen]
      exact startsIdentifier_hyphen (Or.inl rfl)
    · rcases startsHere_escapeLeading hHyphen
          (rest.flatMap escapeInner ++ after) with
        ⟨first, more, hText, hStarts⟩
      rw [hText]
      exact startsIdentifier_hyphen (Or.inr hStarts)
  · rename_i c rest hAlone hMore
    have hHyphen : c ≠ '-' := by
      rintro rfl
      cases rest with
      | nil => exact hAlone rfl rfl
      | cons second rest => exact hMore second rest rfl rfl
    rw [List.append_assoc]
    rcases startsHere_escapeLeading hHyphen
        (rest.flatMap escapeInner ++ after) with
      ⟨first, more, hText, hStarts⟩
    rw [hText]
    exact startsIdentifier_of_startsHere hStarts

------------------------------------------------------------
-- Identifiers
------------------------------------------------------------

theorem length_pos_escapeInner (c : Char) :
    0 < (escapeInner c).length := by
  rcases escapeInner_cases c with
    hText | ⟨hText, _⟩ | ⟨hText, _⟩ <;>
    simp [hText, hexEscape]

theorem length_pos_escapeLeading (c : Char) :
    0 < (escapeLeading c).length := by
  unfold escapeLeading
  split
  · simp [hexEscape]
  · exact length_pos_escapeInner c

theorem length_le_flatMap_escapeInner (name : List Char) :
    name.length ≤ (name.flatMap escapeInner).length := by
  induction name with
  | nil => exact Nat.le_refl 0
  | cons c name ih =>
      have hFirst := length_pos_escapeInner c
      rw [List.flatMap_cons, List.length_append,
        List.length_cons]
      omega

theorem length_le_leading (c : Char) (name : List Char) :
    (c :: name).length ≤
      (escapeLeading c ++ name.flatMap escapeInner).length := by
  have hFirst := length_pos_escapeLeading c
  have hRest := length_le_flatMap_escapeInner name
  rw [List.length_append, List.length_cons]
  omega

/- No character is written as nothing. -/
theorem length_le_escapeIdentifier (name : List Char) :
    name.length ≤ (escapeIdentifier name).length := by
  unfold escapeIdentifier
  split
  · exact Nat.le_refl 0
  · exact Nat.le_succ 1
  · exact Nat.succ_le_succ (length_le_leading _ _)
  · exact length_le_leading _ _

/- What is written for a name is read as one identifier. -/
theorem readIdentifier_escapeIdentifier
    (hSome : name ≠ [])
    (hEnds : EndsName after) :
    readIdentifier (escapeIdentifier name ++ after) =
      some (name.map readBack, after) := by
  have hFuel :
      name.length ≤
        (escapeIdentifier name ++ after).length := by
    have hLength := length_le_escapeIdentifier name
    rw [List.length_append]
    omega
  unfold readIdentifier
  rw [if_pos (startsIdentifier_escapeIdentifier hSome after),
    readName_escapeIdentifier hEnds hFuel]

/- No escape is read as U+0000. -/
theorem readBack_ne_null (c : Char) : readBack c ≠ '\x00' := by
  unfold readBack
  split
  · decide
  · assumption

theorem map_readBack_eq_self_iff :
    name.map readBack = name ↔ '\x00' ∉ name := by
  constructor
  · intro hSame hNull
    rw [← hSame] at hNull
    rcases List.mem_map.mp hNull with ⟨c, _, hc⟩
    exact readBack_ne_null c hc
  · intro hNull
    have hSame : name.map readBack = name.map id := by
      apply List.map_congr_left
      rintro c hc
      apply if_neg
      rintro rfl
      exact hNull hc
    rw [hSame, List.map_id]

/-
  Just the names that a style sheet can have are read back as
  they are.
-/
theorem readIdentifier_escapeIdentifier_iff :
    readIdentifier (escapeIdentifier name) =
        some (name, []) ↔
      name ≠ [] ∧ '\x00' ∉ name := by
  by_cases hSome : name = []
  · subst hSome
    exact iff_of_false nofun fun hName => hName.1 rfl
  · have hRead :=
      readIdentifier_escapeIdentifier hSome endsName_nil
    rw [List.append_nil] at hRead
    rw [hRead, Option.some.injEq, Prod.mk.injEq,
      map_readBack_eq_self_iff]
    exact ⟨fun hName => ⟨hSome, hName.1⟩,
      fun hName => ⟨hName.2, rfl⟩⟩

------------------------------------------------------------
-- Class Selectors
------------------------------------------------------------

/- A row of class selectors. -/
def classRow (names : List (List Char)) : List Char :=
  names.flatMap fun name => '.' :: escapeIdentifier name

theorem classRow_cons
    (name : List Char)
    (names : List (List Char)) :
    classRow (name :: names) =
      '.' :: (escapeIdentifier name ++ classRow names) :=
  List.flatMap_cons

/- The next class selector of a row ends the name before it. -/
theorem endsName_classRow (names : List (List Char)) :
    EndsName (classRow names) := by
  cases names with
  | nil => exact endsName_nil
  | cons name names =>
      intro c hc
      rw [classRow_cons, List.head?_cons] at hc
      cases hc
      decide

/- It does not go on with one of its own either. -/
theorem readIdentifier_classRow (names : List (List Char)) :
    readIdentifier (classRow names) = none := by
  cases names with
  | nil => rfl
  | cons name names =>
      rw [classRow_cons]
      rfl

/-
  A row of class selectors is read one by one, if none of the
  classes is empty. The fuel is enough for the whole row.
-/
theorem readClassesFrom_classRow
    {names : List (List Char)}
    (hFuel : (classRow names).length ≤ fuel) :
    readClassesFrom fuel (classRow names) =
      if [] ∈ names then none
      else some (names.map (·.map readBack)) := by
  induction names generalizing fuel with
  | nil => cases fuel <;> rfl
  | cons name names ih =>
      rw [classRow_cons, List.length_cons,
        List.length_append] at hFuel
      obtain ⟨fuel, rfl⟩ :=
        Nat.exists_eq_succ_of_ne_zero (n := fuel) (by omega)
      have hRest :
          readClassesFrom fuel (classRow names) =
            if [] ∈ names then none
            else some (names.map (·.map readBack)) :=
        ih (by omega)
      rw [classRow_cons, readClassesFrom, if_pos rfl]
      by_cases hSome : name = []
      · subst hSome
        rw [if_pos List.mem_cons_self]
        have hNone :
            readIdentifier
                (escapeIdentifier [] ++ classRow names) =
              none :=
          readIdentifier_classRow names
        rw [hNone]
      · have hMem :
            [] ∈ name :: names ↔ [] ∈ names := by
          simp [Ne.symm hSome]
        rw [readIdentifier_escapeIdentifier hSome
          (endsName_classRow names)]
        dsimp only
        rw [hRest, if_congr hMem rfl rfl]
        split <;> rfl

theorem readClasses_classRow_iff {names : List (List Char)} :
    readClasses (classRow names) = some names ↔
      ∀ name ∈ names, name ≠ [] ∧ '\x00' ∉ name := by
  have hRead :=
    readClassesFrom_classRow (Nat.le_refl (classRow names).length)
  have hSame :
      names.map (·.map readBack) = names ↔
        ∀ name ∈ names, '\x00' ∉ name := by
    conv =>
      lhs
      rhs
      rw [← List.map_id names]
    rw [List.map_inj_left]
    exact forall₂_congr fun _ _ => map_readBack_eq_self_iff
  unfold readClasses
  rw [hRead]
  by_cases hEmpty : [] ∈ names
  · rw [if_pos hEmpty]
    exact iff_of_false nofun fun hNames =>
      (hNames [] hEmpty).1 rfl
  · rw [if_neg hEmpty, Option.some.injEq, hSame]
    constructor
    · intro hNull name hName
      exact ⟨fun hNil => hEmpty (hNil ▸ hName), hNull name hName⟩
    · intro hNames name hName
      exact (hNames name hName).2

/- Whether a class can be named by a style sheet. -/
def IsClassName (name : String) : Prop :=
  name ≠ "" ∧ '\x00' ∉ name.toList

theorem isClassName_iff {name : String} :
    IsClassName name ↔
      name.toList ≠ [] ∧ '\x00' ∉ name.toList := by
  unfold IsClassName
  rw [Ne, ← String.toList_eq_nil_iff]

theorem toList_classSelector (name : String) :
    (classSelector name).toList =
      '.' :: escapeIdentifier name.toList := by
  unfold classSelector
  rw [String.toList_ofList]

theorem toList_join_classSelector (names : List String) :
    (String.join (names.map classSelector)).toList =
      classRow (names.map String.toList) := by
  simp [classRow, String.toList_join, List.flatMap_map,
    toList_classSelector]

/-
  The classes that a style sheet can name are just the texts
  whose class selector is a dot and one identifier, to its
  end, that stands for the text. And just the rows of such
  classes come back from what is written for them.
-/
theorem readClasses_classSelector_iff :
    (∀ name : String,
      IsClassName name ↔
        ∃ written,
          (classSelector name).toList = '.' :: written ∧
            readIdentifier written =
              some (name.toList, [])) ∧
    ∀ names : List String,
      (∀ name ∈ names, IsClassName name) ↔
        readClasses
            (String.join (names.map classSelector)).toList =
          some (names.map String.toList) := by
  constructor
  · intro name
    rw [isClassName_iff, ← readIdentifier_escapeIdentifier_iff,
      toList_classSelector]
    simp
  · intro names
    rw [toList_join_classSelector, readClasses_classRow_iff,
      List.forall_mem_map]
    exact forall₂_congr fun _ _ => isClassName_iff

/-
  Classes with digits where no digit may stand, with signs,
  and a lone hyphen.
-/
def utilityClasses : List String :=
  ["2xl", "md:flex", "-5 a", "-"]

theorem readClasses_classSelector_utilityClasses :
    (∀ name ∈ utilityClasses, IsClassName name) ∧
      String.join (utilityClasses.map classSelector) =
        ".\\32 xl.md\\:flex.-\\35 \\ a.\\-" ∧
      readClasses
          ".\\32 xl.md\\:flex.-\\35 \\ a.\\-".toList =
        some (utilityClasses.map String.toList) := by
  have hNames : ∀ name ∈ utilityClasses, IsClassName name := by
    unfold utilityClasses IsClassName
    decide
  have hText :
      String.join (utilityClasses.map classSelector) =
        ".\\32 xl.md\\:flex.-\\35 \\ a.\\-" := by
    decide +kernel
  have hRead :=
    (readClasses_classSelector_iff.2 utilityClasses).mp hNames
  rw [hText] at hRead
  exact ⟨hNames, hText, hRead⟩

end Css

end Clickstream
