import Std.Data.String.ToInt
import Clickstream.Proofs.Text.Apart
import Clickstream.Proofs.Script.Composed
import Clickstream.Proofs.Script.Sketch

/-
  Statements read back. In every dialect the sketch of an
  operation is known from its statement: no two words of the
  vocabulary start alike, and literals end where they close.

  Key definitions:
    * `Opener`: what a statement can start with
    * `Dialect.IsLegible`
    * `Dialect.forks`

  Key theorems:
    * `Dialect.IsLegible.readable_look`
    * `Dialect.IsLegible.looks_append_inj`
    * `Dialect.IsLegible.sketch_inj`
    * `Language.dialect_isLegible`
-/

namespace Clickstream

namespace Script

open Text

------------------------------------------------------------
-- Legible Dialects
------------------------------------------------------------

/- What a statement can start with, its opening apart. -/
inductive Opener where
  | page (link : Link)
  | keyboard
  | mouse

/- Every opener. -/
def Opener.all : List Opener :=
  Link.all.map page ++ [keyboard, mouse]

@[simp] theorem Opener.mem_all (opener : Opener) :
    opener ∈ Opener.all := by
  cases opener <;> simp [Opener.all]

/- The opener of an object with a link behind it. -/
def Opener.of : PageObject → Link → Opener
  | .page, link => page link
  | .keyboard, _ => keyboard
  | .mouse, _ => mouse

namespace Dialect

/- An opener, as far as every text with it agrees. -/
def opener (d : Dialect) : Opener → String
  | .page link => d.objectName .page ++ d.link link
  | .keyboard => d.objectName .keyboard ++ "."
  | .mouse => d.objectName .mouse ++ "."

/-
  What is needed to read files of a dialect. The fields say of
  all places where a file can go on in two ways that the two
  can be told apart.
-/
structure IsLegible (d : Dialect) : Prop where
  mark : Quoted.IsMark d.mark
  opener : Readable d.opener
  roleNameOpen :
    ∀ scope, ∃ rest, d.roleNameOpen scope = "," ++ rest
  listOpen : Apart (String.singleton d.mark) d.listOpen
  listClose : Apart (String.singleton d.mark) d.listClose
  listComma : Apart ", " d.listClose
  filesOpen :
    Apart (d.fileOpen ++ String.singleton d.mark) d.filesOpen
  filesClose :
    Apart (d.fileOpen ++ String.singleton d.mark) d.filesClose
  filesComma : Apart ", " d.filesClose
  button : Apart (d.buttonOption .left) (d.buttonOption .right)
  commentOpen :
    ∀ object,
      Apart d.commentOpen
        (d.statementOpen ++ d.objectName object)
  filler :
    ∀ text ∈ d.filler, ∀ object,
      Apart text (d.statementOpen ++ d.objectName object)
  indentUnit : d.indentUnit ≠ ""
  bodyDepth : 0 < d.bodyDepth

/-
  The places of `IsLegible` where two fixed texts are in
  question, as one list.
-/
def forks (d : Dialect) : List (String × String) :=
  let mark := String.singleton d.mark
  [(mark, d.listOpen), (mark, d.listClose),
    (", ", d.listClose), (d.fileOpen ++ mark, d.filesOpen),
    (d.fileOpen ++ mark, d.filesClose), (", ", d.filesClose),
    (d.buttonOption .left, d.buttonOption .right)] ++
  (d.commentOpen :: d.filler.toList).flatMap fun text =>
    PageObject.all.map fun object =>
      (text, d.statementOpen ++ d.objectName object)

/-
  It is enough to look at the lists of openers and of forks,
  and at the few texts that are in neither.
-/
theorem IsLegible.of_forks
    {d : Dialect}
    (hMark : Quoted.IsMark d.mark)
    (hOpeners :
      Opener.all.Pairwise fun a b =>
        Apart (d.opener a) (d.opener b))
    (hForks : ∀ fork ∈ d.forks, Apart fork.1 fork.2)
    (hRole :
      ∀ scope, ∃ rest, d.roleNameOpen scope = "," ++ rest)
    (hUnit : d.indentUnit ≠ "")
    (hDepth : 0 < d.bodyDepth) :
    d.IsLegible := by
  have hPair :
      ∀ s t, (s, t) ∈ d.forks → Apart s t :=
    fun s t hFork => hForks (s, t) hFork
  have hStart :
      ∀ text ∈ d.commentOpen :: d.filler.toList, ∀ object,
        Apart text
          (d.statementOpen ++ d.objectName object) := by
    intro text hText object
    apply hPair
    apply List.mem_append_right
    refine List.mem_flatMap.mpr ⟨text, hText, ?_⟩
    exact List.mem_map.mpr ⟨object, object.mem_all, rfl⟩
  exact
    { mark := hMark
      opener := Readable.of_pairwise Opener.mem_all hOpeners
      roleNameOpen := hRole
      listOpen := hPair _ _ (by simp [forks])
      listClose := hPair _ _ (by simp [forks])
      listComma := hPair _ _ (by simp [forks])
      filesOpen := hPair _ _ (by simp [forks])
      filesClose := hPair _ _ (by simp [forks])
      filesComma := hPair _ _ (by simp [forks])
      button := hPair _ _ (by simp [forks])
      commentOpen := hStart _ List.mem_cons_self
      filler := by
        intro text hText
        exact hStart text
          (List.mem_cons_of_mem _ (Option.mem_toList.mpr hText))
      indentUnit := hUnit
      bodyDepth := hDepth }

variable {d : Dialect}

namespace IsLegible

------------------------------------------------------------
-- Words
------------------------------------------------------------

theorem readable_quote (hLegible : d.IsLegible) :
    Readable d.quote := by
  intro a b r s hText
  exact Quoted.write_append_inj hLegible.mark hText

/- Links are read behind the page, so they can be read. -/
theorem readable_link (hLegible : d.IsLegible) :
    Readable d.link := by
  intro a b r s hText
  have hOpener :
      d.opener (.page a) ++ r = d.opener (.page b) ++ s := by
    simp only [Dialect.opener, String.append_assoc, hText]
  rcases hLegible.opener.append_inj hOpener with ⟨hSame, hRest⟩
  exact ⟨Opener.page.inj hSame, hRest⟩

/-
  The object of a text is known where a link follows it.
-/
theorem object_append_inj
    (hLegible : d.IsLegible)
    {a b : PageObject}
    {k l : Link}
    {r s : String}
    (hText :
      d.objectName a ++ (d.link k ++ r) =
        d.objectName b ++ (d.link l ++ s)) :
    a = b := by
  have hOpener :
      ∀ (object : PageObject) (link : Link) (rest : String),
        ∃ more,
          d.objectName object ++ (d.link link ++ rest) =
            d.opener (Opener.of object link) ++ more := by
    intro object link rest
    unfold Dialect.opener Dialect.link
    cases object <;>
      simp only [Opener.of, String.append_assoc,
        String.append_right_inj, exists_eq']
  rcases hOpener a k r with ⟨more, hMore⟩
  rcases hOpener b l s with ⟨more', hMore'⟩
  rw [hMore, hMore'] at hText
  have hSame := (hLegible.opener.append_inj hText).1
  cases a <;> cases b <;>
    simp_all [Opener.of]

------------------------------------------------------------
-- Looks
------------------------------------------------------------

/-
  A role is known where no letter follows it. As a literal it
  is known anyway.
-/
theorem roleWord_append_inj
    (hLegible : d.IsLegible)
    {a b : String}
    (ha : a ∈ knownRoles)
    (hb : b ∈ knownRoles)
    {r s : String}
    (hr : ∀ c ∈ r.toList.head?, isAlphanumeric c = false)
    (hs : ∀ c ∈ s.toList.head?, isAlphanumeric c = false)
    (hText : d.roleWord a ++ r = d.roleWord b ++ s) :
    a = b ∧ r = s := by
  unfold roleWord at hText
  cases hConstant : d.roleConstant with
  | none =>
      rw [hConstant] at hText
      exact hLegible.readable_quote.append_inj hText
  | some opening =>
      rw [hConstant] at hText
      simp only [String.append_assoc,
        String.append_right_inj] at hText
      rcases append_inj_of_forall
          (isAlphanumeric_of_mem_upper ha)
          (isAlphanumeric_of_mem_upper hb)
          hr hs hText with ⟨hUpper, hRest⟩
      have hLower := congrArg Text.lower hUpper
      rw [lower_upper (isLower_of_mem_knownRoles a ha),
        lower_upper (isLower_of_mem_knownRoles b hb)] at hLower
      exact ⟨hLower, hRest⟩

end IsLegible

/- What stands behind a role: its name, if known. -/
def roleEnd
    (d : Dialect)
    (scope : Scope) :
    Option String → String
  | some name =>
      d.roleNameOpen scope ++
        (d.quote name ++ (d.roleNameClose ++ ")"))
  | none => ")"

/- Looking for a role in parts. -/
theorem look_role
    (scope : Scope)
    (role : String)
    (hRole : role ∈ knownRoles)
    (name : Option String) :
    d.look scope (.role role hRole name) =
      d.link .role ++
        (d.roleWord role ++ d.roleEnd scope name) := by
  unfold look Dialect.role link roleEnd
  cases name with
  | none => simp [linkName, String.append_assoc]
  | some name => simp [linkName, String.append_assoc]

/- Other looks in parts. -/
theorem look_access
    (scope : Scope)
    (accessor : Accessor)
    (text : String) :
    d.look scope (.access accessor text) =
      d.link (.access accessor) ++ (d.quote text ++ ")") := by
  unfold look access link
  simp [linkName, String.append_assoc]

namespace IsLegible

/- No letter stands right behind a role. -/
theorem isAlphanumeric_head_roleEnd
    (hLegible : d.IsLegible)
    (scope : Scope)
    (name : Option String)
    (r : String) :
    ∀ c ∈ (d.roleEnd scope name ++ r).toList.head?,
      isAlphanumeric c = false := by
  intro c hc
  cases name with
  | none =>
      have hClose : c = ')' := by
        simpa [roleEnd, eq_comm] using hc
      subst hClose
      decide
  | some name =>
      rcases hLegible.roleNameOpen scope with ⟨rest, hOpen⟩
      have hComma : c = ',' := by
        simpa [roleEnd, hOpen, eq_comm] using hc
      subst hComma
      decide

theorem readable_roleEnd
    (hLegible : d.IsLegible)
    (scope : Scope) :
    Readable (d.roleEnd scope) := by
  intro a b r s hText
  have hApart :
      ∀ name, Apart ")" (d.roleEnd scope (some name)) := by
    intro name
    rcases hLegible.roleNameOpen scope with ⟨rest, hOpen⟩
    have hComma : Apart ")" "," := by decide
    have hMore := hComma.append ""
      (rest ++ (d.quote name ++ (d.roleNameClose ++ ")")))
    simpa only [roleEnd, hOpen, String.append_assoc,
      String.append_empty] using hMore
  cases a with
  | none =>
      cases b with
      | none =>
          exact ⟨rfl, (String.append_right_inj _).mp hText⟩
      | some b =>
          exact absurd hText ((hApart b).append_ne r s)
  | some a =>
      cases b with
      | none =>
          exact absurd hText ((hApart a).symm.append_ne r s)
      | some b =>
          simp only [roleEnd, String.append_assoc,
            String.append_right_inj] at hText
          rcases hLegible.readable_quote.append_inj hText with
            ⟨hName, hRest⟩
          simp only [String.append_right_inj] at hRest
          exact ⟨congrArg some hName, hRest⟩

/- A look is known from any text it starts. -/
theorem readable_look
    (hLegible : d.IsLegible)
    (scope : Scope) :
    Readable (d.look scope) := by
  intro a b r s hText
  cases a with
  | access accessor text =>
      cases b with
      | access accessor' text' =>
          simp only [look_access,
            String.append_assoc] at hText
          rcases hLegible.readable_link.append_inj hText with
            ⟨hLink, hArgument⟩
          cases hLink
          rcases hLegible.readable_quote.append_inj hArgument with
            ⟨rfl, hRest⟩
          exact ⟨rfl, (String.append_right_inj _).mp hRest⟩
      | role role' hRole' name' =>
          simp only [look_access, look_role,
            String.append_assoc] at hText
          cases (hLegible.readable_link.append_inj hText).1
  | role role hRole name =>
      cases b with
      | access accessor' text' =>
          simp only [look_access, look_role,
            String.append_assoc] at hText
          cases (hLegible.readable_link.append_inj hText).1
      | role role' hRole' name' =>
          simp only [look_role, String.append_assoc] at hText
          have hWord := (hLegible.readable_link.append_inj hText).2
          rcases hLegible.roleWord_append_inj hRole hRole'
              (hLegible.isAlphanumeric_head_roleEnd _ _ _)
              (hLegible.isAlphanumeric_head_roleEnd _ _ _)
              hWord with ⟨rfl, hEnd⟩
          rcases (hLegible.readable_roleEnd scope).append_inj hEnd with
            ⟨rfl, hRest⟩
          exact ⟨rfl, hRest⟩

/- A look starts with a link that is no method. -/
theorem look_eq_link_append
    (scope : Scope)
    (look : Look) :
    ∃ link rest,
      d.look scope look = d.link link ++ rest ∧
        ∀ method, link ≠ .method method := by
  cases look with
  | access accessor text =>
      exact ⟨_, _, look_access scope accessor text,
        fun _ => Link.noConfusion⟩
  | role role hRole name =>
      exact ⟨_, _, look_role scope role hRole name,
        fun _ => Link.noConfusion⟩

/-
  The looks of a chain are known up to the method that ends
  it. Both chains start in one scope, and every look that they
  share leads to one scope again.
-/
theorem looks_append_inj
    (hLegible : d.IsLegible)
    {scope : Scope}
    {as bs : List Look}
    {m n : Method}
    {r s : String}
    (hText :
      d.looks scope as ++ (d.link (.method m) ++ r) =
        d.looks scope bs ++ (d.link (.method n) ++ s)) :
    as = bs ∧ m = n ∧ r = s := by
  induction as generalizing scope bs with
  | nil =>
      cases bs with
      | nil =>
          simp only [looks, String.empty_append] at hText
          rcases hLegible.readable_link.append_inj hText with
            ⟨hLink, hRest⟩
          exact ⟨rfl, Link.method.inj hLink, hRest⟩
      | cons b bs =>
          rcases look_eq_link_append (d := d) scope b with
            ⟨link, rest, hLook, hLink⟩
          simp only [looks, hLook, String.empty_append,
            String.append_assoc] at hText
          exact absurd (hLegible.readable_link.append_inj hText).1.symm
            (hLink m)
  | cons a as ih =>
      cases bs with
      | nil =>
          rcases look_eq_link_append (d := d) scope a with
            ⟨link, rest, hLook, hLink⟩
          simp only [looks, hLook, String.empty_append,
            String.append_assoc] at hText
          exact absurd (hLegible.readable_link.append_inj hText).1
            (hLink n)
      | cons b bs =>
          simp only [looks, String.append_assoc] at hText
          rcases (hLegible.readable_look scope).append_inj hText with
            ⟨rfl, hRest⟩
          rcases ih hRest with ⟨rfl, hEnd⟩
          exact ⟨rfl, hEnd⟩

------------------------------------------------------------
-- Arguments
------------------------------------------------------------

/- A literal is apart from all that its mark is apart from. -/
theorem apart_quote
    {t : String}
    (hApart : Apart (String.singleton d.mark) t)
    (s : String) :
    Apart (d.quote s) t := by
  rcases Quoted.write_eq_append d.mark s with ⟨rest, hQuote⟩
  have hMore := hApart.append rest ""
  rw [String.append_empty, ← hQuote] at hMore
  exact hMore

theorem apart_file
    {t : String}
    (hApart :
      Apart (d.fileOpen ++ String.singleton d.mark) t)
    (name : String) :
    Apart (d.file name) t := by
  rcases Quoted.write_eq_append d.mark name with
    ⟨rest, hQuote⟩
  have hMore := hApart.append (rest ++ d.fileClose) ""
  simpa only [file, quote, hQuote, String.append_assoc,
    String.append_empty] using hMore

theorem readable_file (hLegible : d.IsLegible) :
    Readable d.file := by
  intro a b r s hText
  simp only [file, String.append_assoc,
    String.append_right_inj] at hText
  rcases hLegible.readable_quote.append_inj hText with ⟨hName, hRest⟩
  exact ⟨hName, (String.append_right_inj _).mp hRest⟩

theorem readable_list (hLegible : d.IsLegible) :
    Readable d.list := by
  intro a b r s hText
  simp only [list, commas, String.append_assoc,
    String.append_right_inj] at hText
  have hStop : ∀ item, Apart (d.quote item) d.listClose :=
    apart_quote hLegible.listClose
  exact hLegible.readable_quote.separated hStop
    hLegible.listComma hText

/- A single file name stands alone, others in brackets. -/
theorem readable_files (hLegible : d.IsLegible) :
    Readable d.files := by
  have hStop : ∀ name, Apart (d.file name) d.filesClose :=
    apart_file hLegible.filesClose
  have hOpen : ∀ name, Apart (d.file name) d.filesOpen :=
    apart_file hLegible.filesOpen
  intro a b r s hText
  unfold files at hText
  split at hText
  · split at hText
    · rcases hLegible.readable_file.append_inj hText with ⟨rfl, hRest⟩
      exact ⟨rfl, hRest⟩
    · simp only [String.append_assoc] at hText
      exact absurd hText ((hOpen _).append_ne _ _)
  · split at hText
    · simp only [String.append_assoc] at hText
      exact absurd hText ((hOpen _).symm.append_ne _ _)
    · simp only [commas, String.append_assoc,
        String.append_right_inj] at hText
      exact hLegible.readable_file.separated hStop
        hLegible.filesComma hText

/- Code stands for itself, as a literal or without marks. -/
theorem code_inj
    (hLegible : d.IsLegible)
    {a b : String}
    (hText : d.code a = d.code b) :
    a = b := by
  unfold code at hText
  split at hText
  · exact hLegible.readable_quote.inj hText
  · exact hText

theorem buttonOption_inj
    (hLegible : d.IsLegible)
    {a b : MouseButton}
    (hText : d.buttonOption a = d.buttonOption b) :
    a = b := by
  cases a <;> cases b
  · rfl
  · exact absurd hText hLegible.button.ne
  · exact absurd hText hLegible.button.symm.ne
  · rfl

/- The option of a button is written with something. -/
theorem buttonOption_ne_empty
    (hLegible : d.IsLegible)
    (button : MouseButton) :
    d.buttonOption button ≠ "" := by
  have hEmpty : ∀ s, ¬ Apart "" s := by
    intro s hApart
    exact hApart.append_ne s "" (by simp)
  intro hText
  cases button with
  | left => exact hEmpty _ (hText ▸ hLegible.button)
  | right => exact hEmpty _ (hText ▸ hLegible.button.symm)

/-
  The arguments of a call are known from its method and their
  text. A method that takes two kinds of arguments has them
  written in ways that start differently.
-/
theorem arguments_inj
    (hLegible : d.IsLegible)
    {method : Method}
    {as bs : List Argument}
    (ha : method.Takes as)
    (hb : method.Takes bs)
    (hText :
      commas (as.map d.argument) =
        commas (bs.map d.argument)) :
    as = bs := by
  have hChoice :
      ∀ text items, d.quote text ≠ d.list items := by
    intro text items hSame
    have hApart := apart_quote hLegible.listOpen text
    refine hApart.append_ne ""
      (commas (items.map d.quote) ++ d.listClose) ?_
    simpa only [list, String.append_assoc,
      String.append_empty] using hSame
  cases ha with
  | nothing hMethod =>
      cases hb with
      | nothing => rfl
      | button button =>
          exact absurd (Eq.symm hText)
            (hLegible.buttonOption_ne_empty button)
      | text hOther text =>
          cases method <;> simp at hMethod hOther
      | _ => simp at hMethod
  | button button =>
      cases hb with
      | nothing hMethod =>
          exact absurd hText
            (hLegible.buttonOption_ne_empty button)
      | button other =>
          rw [hLegible.buttonOption_inj hText]
      | text hMethod text => simp at hMethod
  | text hMethod text =>
      cases hb with
      | nothing hOther =>
          cases method <;> simp at hMethod hOther
      | text hOther other =>
          rw [hLegible.readable_quote.inj hText]
      | _ => simp at hMethod
  | choice text =>
      cases hb with
      | nothing hMethod => simp at hMethod
      | text hMethod other => simp at hMethod
      | choice other =>
          rw [hLegible.readable_quote.inj hText]
      | choices items =>
          exact absurd hText (hChoice text items)
  | choices items =>
      cases hb with
      | nothing hMethod => simp at hMethod
      | text hMethod other => simp at hMethod
      | choice other =>
          exact absurd (Eq.symm hText) (hChoice other items)
      | choices others =>
          rw [hLegible.readable_list.inj hText]
  | files names =>
      cases hb with
      | nothing hMethod => simp at hMethod
      | text hMethod other => simp at hMethod
      | files others =>
          rw [hLegible.readable_files.inj hText]
  | code source =>
      cases hb with
      | nothing hMethod => simp at hMethod
      | text hMethod other => simp at hMethod
      | code other => rw [hLegible.code_inj hText]
  | number n =>
      cases hb with
      | nothing hMethod => simp at hMethod
      | text hMethod other => simp at hMethod
      | number k => rw [Int.repr_injective hText]

------------------------------------------------------------
-- Sketches
------------------------------------------------------------

/- The text of looks and a method starts with a link. -/
theorem looks_append_eq_link_append
    (scope : Scope)
    (row : List Look)
    (method : Method)
    (r : String) :
    ∃ link rest,
      d.looks scope row ++ (d.link (.method method) ++ r) =
        d.link link ++ rest := by
  cases row with
  | nil =>
      refine ⟨.method method, r, ?_⟩
      rw [looks, String.empty_append]
  | cons look row =>
      rcases look_eq_link_append (d := d) scope look with
        ⟨link, rest, hLook, _⟩
      simp only [looks, hLook, String.append_assoc]
      exact ⟨link, _, rfl⟩

/- A sketch is known from its expression. -/
theorem sketch_inj
    (hLegible : d.IsLegible)
    {a b : Sketch}
    (hText : d.sketch a = d.sketch b) :
    a = b := by
  unfold sketch at hText
  have hObject : a.object = b.object := by
    rcases looks_append_eq_link_append (d := d) .page a.looks
      a.method (commas (a.arguments.map d.argument) ++ ")")
      with ⟨k, r, ha⟩
    rcases looks_append_eq_link_append (d := d) .page b.looks
      b.method (commas (b.arguments.map d.argument) ++ ")")
      with ⟨l, s, hb⟩
    rw [ha, hb] at hText
    exact hLegible.object_append_inj hText
  rw [hObject, String.append_right_inj] at hText
  rcases hLegible.looks_append_inj hText with
    ⟨hLooks, hMethod, hArguments⟩
  rw [String.append_left_inj] at hArguments
  cases a with
  | mk object row method arguments hTakes =>
      cases b with
      | mk object' row' method' arguments' hTakes' =>
          dsimp only at hObject hLooks hMethod hArguments
          subst hObject hLooks hMethod
          have hSame := hLegible.arguments_inj hTakes hTakes'
            hArguments
          subst hSame
          rfl

end IsLegible

end Dialect

------------------------------------------------------------
-- The Four Languages
------------------------------------------------------------

/- The header of a file is no part of what is read back. -/
theorem scriptDialect_isLegible
    (importLine : String) :
    (scriptDialect importLine).IsLegible := by
  have hOpeners :
      Opener.all.Pairwise fun a b =>
        Apart ((scriptDialect "").opener a)
          ((scriptDialect "").opener b) := by
    decide +kernel
  have hForks :
      ∀ fork ∈ (scriptDialect "").forks,
        Apart fork.1 fork.2 := by
    decide +kernel
  refine Dialect.IsLegible.of_forks (Or.inl rfl) hOpeners
    hForks ?_ ?_ Nat.one_pos
  · intro scope
    exact ⟨" \x7b name: ", rfl⟩
  · simp [scriptDialect]

theorem pythonDialect_isLegible :
    pythonDialect.IsLegible := by
  apply Dialect.IsLegible.of_forks
  · exact Or.inr rfl
  · decide +kernel
  · decide +kernel
  · intro scope
    exact ⟨" name=", rfl⟩
  · simp [pythonDialect]
  · exact Nat.one_pos

theorem javaDialect_isLegible :
    javaDialect.IsLegible := by
  apply Dialect.IsLegible.of_forks
  · exact Or.inr rfl
  · decide +kernel
  · decide +kernel
  · intro scope
    refine
      ⟨" new " ++ optionsOwner scope ++
        ".GetByRoleOptions().setName(", ?_⟩
    cases scope <;> rfl
  · simp [javaDialect]
  · exact Nat.zero_lt_succ _

end Script

/- Every language has a legible dialect. -/
theorem Language.dialect_isLegible
    (language : Language) :
    language.dialect.IsLegible := by
  cases language with
  | javaScript => exact Script.scriptDialect_isLegible _
  | typeScript => exact Script.scriptDialect_isLegible _
  | python => exact Script.pythonDialect_isLegible
  | java => exact Script.javaDialect_isLegible

end Clickstream
