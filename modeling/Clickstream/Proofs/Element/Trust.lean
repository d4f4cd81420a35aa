import Clickstream.Element.Locate

/-
  The order of trust. An element is found by the most trusted
  strategy that it has something for, and what else is noted
  down about it can only lead to a more trusted one.

  Key definitions:
    * `Element.Shows`, `Element.Applies`
    * `Element.rule`: the rules by their strategies
    * `Element.Enriches`

  Key theorems:
    * `Element.isSome_rule_iff`
    * `Element.rule_locate`, `Element.not_applies_of_rank_lt`
    * `Element.Enriches.rank_locate_le`,
      `Element.Enriches.locate_eq`
    * `Element.locate_trusted`
-/

namespace Clickstream

open Selector (Kind)

namespace Selector.Kind

theorem mem_all (kind : Kind) : kind ∈ all := by
  cases kind <;> decide

/- The strategies are listed by their ranks. -/
theorem pairwise_rank_all :
    all.Pairwise (fun k l => k.rank < l.rank) := by
  decide

end Selector.Kind

namespace Element

variable {e f : Element}
variable {kind : Kind}
variable {name value : String}

------------------------------------------------------------
-- Strategies That Apply
------------------------------------------------------------

/- Whether an attribute is there and not blank. -/
def Shows (e : Element) (name : String) : Prop :=
  ∃ value,
    e.attributes.get? name = some value ∧
      Text.isBlankText value = false

/-
  Whether a strategy has something to find the element by. A
  role has to come with a name, an alternative text with an
  image, and an id with the knowledge that it is the only one.
-/
def Applies (e : Element) : Kind → Prop
  | .testId => ∃ name ∈ testIdAttributes, e.Shows name
  | .role =>
      e.Shows "role" ∧
        (e.Shows "aria-label" ∨
          ∃ text,
            e.trimmedText? = some text ∧
              text.toList.length < roleNameBound)
  | .label => ∃ text, e.labelText = some text ∧ text ≠ ""
  | .placeholder => e.Shows "placeholder"
  | .altText => e.tagName = "img" ∧ e.Shows "alt"
  | .title => e.Shows "title"
  | .uniqueId => e.idMatchCount = 1 ∧ e.Shows "id"
  | .name => e.Shows "name"
  | .classAttribute => e.Shows "class"
  | .cssPath => True

/- The rule of a strategy. -/
def rule (e : Element) : Kind → Option Selector
  | .testId => e.testId?
  | .role => e.namedRole?
  | .label => e.labelled?
  | .placeholder => e.placeholder?
  | .altText => e.alternative?
  | .title => e.titled?
  | .uniqueId => e.identified?
  | .name => e.named?
  | .classAttribute => e.className?
  | .cssPath => some (Selector.cssPath e.structuralPath)

theorem attr?_eq_some_iff :
    e.attr? name = some value ↔
      e.attributes.get? name = some value ∧
        Text.isBlankText value = false := by
  unfold attr?
  rw [Option.filter_eq_some_iff, Bool.not_eq_true']

theorem isSome_attr?_iff :
    (e.attr? name).isSome = true ↔ e.Shows name := by
  rw [Option.isSome_iff_exists]
  exact exists_congr fun _ => attr?_eq_some_iff

/- Strategies that look at one attribute need just that. -/
theorem isSome_map_attr?_iff
    (build : String → Selector) :
    ((e.attr? name).map build).isSome = true ↔
      e.Shows name := by
  rw [Option.isSome_map]
  exact isSome_attr?_iff

theorem isSome_testId?_iff :
    e.testId?.isSome = true ↔ e.Applies .testId := by
  unfold testId?
  rw [List.findSome?_isSome_iff]
  exact exists_congr fun name =>
    and_congr_right fun _ => isSome_map_attr?_iff _

theorem isSome_accessibleName?_iff :
    e.accessibleName?.isSome = true ↔
      e.Shows "aria-label" ∨
        ∃ text,
          e.trimmedText? = some text ∧
            text.toList.length < roleNameBound := by
  unfold accessibleName?
  rw [← isSome_attr?_iff]
  cases e.attr? "aria-label" with
  | some label => simp
  | none => cases e.trimmedText? <;> simp

theorem isSome_namedRole?_iff :
    e.namedRole?.isSome = true ↔ e.Applies .role := by
  have hRole : e.role?.isSome = true ↔ e.Shows "role" :=
    isSome_attr?_iff
  unfold Applies
  rw [← hRole, ← isSome_accessibleName?_iff]
  unfold namedRole?
  cases e.role? with
  | none => simp
  | some role => cases e.accessibleName? <;> simp

theorem isSome_labelled?_iff :
    e.labelled?.isSome = true ↔ e.Applies .label := by
  unfold labelled? Applies
  rw [Option.isSome_map]
  cases e.labelText <;> simp

/- Two rules look at an attribute only under a condition. -/
theorem alternative?_eq_some_iff
    {s : Selector} :
    e.alternative? = some s ↔
      e.tagName = "img" ∧
        (e.attr? "alt").map Selector.altText = some s := by
  have hTag :
      e.hasTag ["img"] = true ↔ e.tagName = "img" := by
    simp [hasTag]
  unfold alternative?
  rw [← hTag]
  split
  · rename_i hImage
    simp [hImage]
  · rename_i hImage
    simp [hImage]

theorem identified?_eq_some_iff
    {s : Selector} :
    e.identified? = some s ↔
      e.idMatchCount = 1 ∧
        (e.attr? "id").map Selector.uniqueId = some s := by
  unfold identified? uniqueId?
  split
  · rename_i hOnly
    simp [hOnly]
  · rename_i hOnly
    simp [hOnly]

theorem isSome_alternative?_iff :
    e.alternative?.isSome = true ↔ e.Applies .altText := by
  unfold Applies
  rw [Option.isSome_iff_exists]
  simp only [alternative?_eq_some_iff, exists_and_left]
  rw [← Option.isSome_iff_exists, isSome_map_attr?_iff]

theorem isSome_identified?_iff :
    e.identified?.isSome = true ↔ e.Applies .uniqueId := by
  unfold Applies
  rw [Option.isSome_iff_exists]
  simp only [identified?_eq_some_iff, exists_and_left]
  rw [← Option.isSome_iff_exists, isSome_map_attr?_iff]

/- A rule gives a selector just if its strategy applies. -/
theorem isSome_rule_iff :
    (e.rule kind).isSome = true ↔ e.Applies kind := by
  cases kind with
  | testId => exact isSome_testId?_iff
  | role => exact isSome_namedRole?_iff
  | label => exact isSome_labelled?_iff
  | altText => exact isSome_alternative?_iff
  | uniqueId => exact isSome_identified?_iff
  | cssPath => exact iff_of_true rfl trivial
  | _ => exact isSome_map_attr?_iff _

------------------------------------------------------------
-- The First Rule
------------------------------------------------------------

theorem exists_of_namedRole?
    {s : Selector}
    (hRule : e.namedRole? = some s) :
    ∃ role name,
      e.attr? "role" = some role ∧
        s = Selector.role role (some name) := by
  unfold namedRole? at hRule
  split at hRule
  · rename_i role name hRole hName
    cases hRule
    exact ⟨role, name, hRole, rfl⟩
  · cases hRule

/- The selector that a rule gives is one of its strategy. -/
theorem kind_of_rule
    {s : Selector}
    (hRule : e.rule kind = some s) :
    s.kind = kind := by
  cases kind with
  | testId =>
      rcases List.exists_of_findSome?_eq_some hRule with
        ⟨name, _, hName⟩
      rcases Option.map_eq_some_iff.mp hName with
        ⟨value, _, rfl⟩
      rfl
  | role =>
      rcases exists_of_namedRole? hRule with
        ⟨role, name, _, rfl⟩
      rfl
  | altText =>
      rcases Option.map_eq_some_iff.mp
          (alternative?_eq_some_iff.mp hRule).2 with
        ⟨value, _, rfl⟩
      rfl
  | cssPath =>
      cases hRule
      rfl
  | _ =>
      rcases Option.map_eq_some_iff.mp hRule with
        ⟨value, _, rfl⟩
      rfl

/- Locating an element is trying the rules by trust. -/
theorem findSome?_rule (e : Element) :
    Kind.all.findSome? e.rule = some e.locate := by
  have hLast :
      Kind.all =
        [.testId, .role, .label, .placeholder, .altText,
          .title, .uniqueId, .name, .classAttribute] ++
          [.cssPath] := rfl
  have hRules :
      List.findSome? e.rule
          [.testId, .role, .label, .placeholder, .altText,
            .title, .uniqueId, .name, .classAttribute] =
        rules.findSome? fun rule => rule e := rfl
  rw [hLast, List.findSome?_append, hRules]
  unfold locate
  cases rules.findSome? fun rule => rule e <;> rfl

/-
  An element is located by the rule of the strategy that is
  used, and no rule that is trusted more gives a selector.
-/
theorem rule_locate_and_of_rank_lt (e : Element) :
    e.rule e.locate.kind = some e.locate ∧
      ∀ kind : Kind,
        kind.rank < e.locate.kind.rank →
          e.rule kind = none := by
  rcases List.findSome?_eq_some_iff.mp (findSome?_rule e) with
    ⟨trusted, used, others, hAll, hUsed, hNone⟩
  have hKind := kind_of_rule hUsed
  subst hKind
  refine ⟨hUsed, fun kind hRank => ?_⟩
  have hSorted := Kind.pairwise_rank_all
  have hMem := kind.mem_all
  rw [hAll] at hSorted hMem
  rcases List.mem_append.mp hMem with hTrusted | hOther
  · exact hNone kind hTrusted
  · have hBehind :=
      (List.pairwise_append.mp hSorted).2.1
    rcases List.mem_cons.mp hOther with rfl | hOther
    · exact absurd hRank (Nat.lt_irrefl _)
    · have hAfter := (List.pairwise_cons.mp hBehind).1 kind hOther
      omega

theorem rule_locate (e : Element) :
    e.rule e.locate.kind = some e.locate :=
  (rule_locate_and_of_rank_lt e).1

theorem applies_locate (e : Element) :
    e.Applies e.locate.kind := by
  rw [← isSome_rule_iff, rule_locate]
  rfl

/- No strategy applies that is trusted more. -/
theorem not_applies_of_rank_lt
    (hRank : kind.rank < e.locate.kind.rank) :
    ¬ e.Applies kind := by
  rw [← isSome_rule_iff,
    (rule_locate_and_of_rank_lt e).2 kind hRank]
  exact Bool.false_ne_true

------------------------------------------------------------
-- Richer Elements
------------------------------------------------------------

/-
  Whether the same is noted down about an element as about
  another one, and perhaps more attributes or a label.
-/
structure Enriches (f e : Element) : Prop where
  attr? :
    ∀ name value,
      e.attr? name = some value → f.attr? name = some value
  labelled? :
    ∀ s, e.labelled? = some s → f.labelled? = some s
  tagName : f.tagName = e.tagName
  textContent : f.textContent = e.textContent
  idMatchCount : f.idMatchCount = e.idMatchCount
  path : f.path = e.path

/- What an attribute shows it still shows. -/
theorem Enriches.shows
    (hMore : f.Enriches e)
    (hShows : e.Shows name) :
    f.Shows name := by
  rw [← isSome_attr?_iff, Option.isSome_iff_exists] at *
  rcases hShows with ⟨value, hValue⟩
  exact ⟨value, hMore.attr? name value hValue⟩

/- A strategy that applies still applies. -/
theorem Enriches.applies
    (hMore : f.Enriches e)
    (hApplies : e.Applies kind) :
    f.Applies kind := by
  cases kind with
  | testId =>
      rcases hApplies with ⟨name, hName, hShows⟩
      exact ⟨name, hName, hMore.shows hShows⟩
  | role =>
      refine ⟨hMore.shows hApplies.1, ?_⟩
      unfold trimmedText?
      rw [hMore.textContent]
      exact hApplies.2.imp_left hMore.shows
  | label =>
      rw [← isSome_rule_iff, Option.isSome_iff_exists] at *
      rcases hApplies with ⟨s, hRule⟩
      exact ⟨s, hMore.labelled? s hRule⟩
  | altText =>
      exact ⟨hMore.tagName.trans hApplies.1,
        hMore.shows hApplies.2⟩
  | uniqueId =>
      exact ⟨hMore.idMatchCount.trans hApplies.1,
        hMore.shows hApplies.2⟩
  | cssPath => trivial
  | _ => exact hMore.shows hApplies

/- So the strategy that is used is trusted no less. -/
theorem Enriches.rank_locate_le
    (hMore : f.Enriches e) :
    f.locate.kind.rank ≤ e.locate.kind.rank := by
  refine Nat.le_of_not_lt fun hRank => ?_
  exact not_applies_of_rank_lt hRank
    (hMore.applies e.applies_locate)

theorem Enriches.map_attr?
    (hMore : f.Enriches e)
    {build : String → Selector}
    {s : Selector}
    (hRule : (e.attr? name).map build = some s) :
    (f.attr? name).map build = some s := by
  rcases Option.map_eq_some_iff.mp hRule with
    ⟨value, hValue, rfl⟩
  rw [hMore.attr? name value hValue]
  rfl

/-
  The rules give the same selector as before, except where a
  better one of several test ids or another name of a role may
  have come up.
-/
theorem Enriches.rule_eq
    (hMore : f.Enriches e)
    {s : Selector}
    (hTestId : kind ≠ .testId)
    (hRole : kind ≠ .role)
    (hRule : e.rule kind = some s) :
    f.rule kind = some s := by
  cases kind with
  | testId => exact absurd rfl hTestId
  | role => exact absurd rfl hRole
  | label => exact hMore.labelled? s hRule
  | altText =>
      rcases alternative?_eq_some_iff.mp hRule with
        ⟨hImage, hAlt⟩
      exact alternative?_eq_some_iff.mpr
        ⟨hMore.tagName.trans hImage, hMore.map_attr? hAlt⟩
  | uniqueId =>
      rcases identified?_eq_some_iff.mp hRule with
        ⟨hOnly, hId⟩
      exact identified?_eq_some_iff.mpr
        ⟨hMore.idMatchCount.trans hOnly, hMore.map_attr? hId⟩
  | cssPath =>
      have hPath : f.structuralPath = e.structuralPath := by
        unfold structuralPath
        rw [hMore.path, hMore.tagName]
      change some (Selector.cssPath f.structuralPath) = some s
      rw [hPath]
      exact hRule
  | _ => exact hMore.map_attr? hRule

/- The same strategy gives the same selector. -/
theorem Enriches.locate_eq
    (hMore : f.Enriches e)
    (hKind : f.locate.kind = e.locate.kind)
    (hTestId : e.locate.kind ≠ .testId)
    (hRole : e.locate.kind ≠ .role) :
    f.locate = e.locate := by
  have hRule := hMore.rule_eq hTestId hRole e.rule_locate
  rw [← hKind, f.rule_locate] at hRule
  exact Option.some_inj.mp hRule

------------------------------------------------------------
-- More Attributes and Labels
------------------------------------------------------------

/- The element with another attribute. -/
def withAttribute
    (e : Element)
    (name value : String) : Element :=
  { e with attributes := e.attributes.insert name value }

/- The element with this text as its label. -/
def withLabel
    (e : Element)
    (text : String) : Element :=
  { e with labelText := some text }

/- An attribute that was not there takes nothing away. -/
theorem enriches_withAttribute
    (hNew : e.hasAttr name = false)
    (value : String) :
    (e.withAttribute name value).Enriches e where
  attr? other found hFound := by
    rw [attr?_eq_some_iff] at hFound ⊢
    have hOther : other ≠ name := by
      rintro rfl
      unfold hasAttr Attributes.has at hNew
      rw [hFound.1] at hNew
      cases hNew
    refine ⟨?_, hFound.2⟩
    unfold withAttribute
    rw [Attributes.get?_insert_of_ne _ _ hOther]
    exact hFound.1
  labelled? _ hLabel := hLabel
  tagName := rfl
  textContent := rfl
  idMatchCount := rfl
  path := rfl

/- Nor does a label where there was none. -/
theorem enriches_withLabel
    (hNone : ¬ e.Applies .label)
    (text : String) :
    (e.withLabel text).Enriches e where
  attr? _ _ hFound := hFound
  labelled? s hLabel := by
    refine absurd (isSome_labelled?_iff.mp ?_) hNone
    rw [hLabel]
    rfl
  tagName := rfl
  textContent := rfl
  idMatchCount := rfl
  path := rfl

/- Only the rule for labels looks at the label. -/
theorem rule_withLabel
    (hKind : kind ≠ .label)
    (text : String) :
    (e.withLabel text).rule kind = e.rule kind := by
  cases kind with
  | label => exact absurd rfl hKind
  | _ => rfl

/-
  An element is located by a strategy that applies, and none
  that is trusted more does. Another attribute or a first label
  leads to a strategy that is trusted as much or more. If it
  leads to the same one the selector is the same, but for the
  other test ids and names of roles that an attribute can bring.
-/
theorem locate_trusted (e : Element) :
    (e.Applies e.locate.kind ∧
        ∀ kind : Kind,
          kind.rank < e.locate.kind.rank → ¬ e.Applies kind) ∧
      (∀ name value : String,
        e.hasAttr name = false →
        Text.isBlankText value = false →
          (e.withAttribute name value).locate.kind.rank ≤
              e.locate.kind.rank ∧
            ((e.withAttribute name value).locate.kind =
                e.locate.kind →
              e.locate.kind ≠ .testId →
              e.locate.kind ≠ .role →
              (e.withAttribute name value).locate =
                e.locate)) ∧
      ∀ text : String,
        ¬ e.Applies .label →
        text ≠ "" →
          (e.withLabel text).locate.kind.rank ≤
              e.locate.kind.rank ∧
            ((e.withLabel text).locate.kind = e.locate.kind →
              (e.withLabel text).locate = e.locate) := by
  refine ⟨⟨e.applies_locate,
    fun _ hRank => not_applies_of_rank_lt hRank⟩, ?_, ?_⟩
  · intro name value hNew _
    have hMore := enriches_withAttribute hNew value
    exact ⟨hMore.rank_locate_le, hMore.locate_eq⟩
  · intro text hNone _
    have hMore := enriches_withLabel hNone text
    refine ⟨hMore.rank_locate_le, fun hKind => ?_⟩
    have hUsed : e.locate.kind ≠ .label := by
      intro hLabel
      exact hNone (hLabel ▸ e.applies_locate)
    have hRule := (e.withLabel text).rule_locate
    rw [hKind, rule_withLabel hUsed, e.rule_locate] at hRule
    exact (Option.some_inj.mp hRule).symm

/- A field that is known by its name and its class. -/
def emailField : Element where
  tagName := "input"
  attributes :=
    Attributes.ofList
      [("class", "wide"), ("name", "email"), ("role", "textbox")]
  idMatchCount := 1

/-
  An id or a label leads to what is trusted no less. With an
  attribute that no rule looks at it is found as before.
-/
theorem locate_trusted_emailField :
    emailField.hasAttr "id" = false ∧
      emailField.hasAttr "data-kind" = false ∧
      Text.isBlankText "mail" = false ∧
      (emailField.withAttribute "id" "mail").locate.kind.rank ≤
        emailField.locate.kind.rank ∧
      (emailField.withAttribute "data-kind" "mail").locate =
        Selector.name "email" ∧
      ¬ emailField.Applies .label ∧
      (emailField.withLabel "Address").locate.kind.rank ≤
        emailField.locate.kind.rank := by
  have hId : emailField.hasAttr "id" = false := by decide +kernel
  have hData : emailField.hasAttr "data-kind" = false := by
    decide +kernel
  have hMail : Text.isBlankText "mail" = false := by decide
  have hLabel : ¬ emailField.Applies .label := by
    rintro ⟨label, hSome, _⟩
    cases hSome
  refine ⟨hId, hData, hMail,
    (emailField.locate_trusted.2.1 "id" "mail" hId hMail).1,
    ?_, hLabel,
    (emailField.locate_trusted.2.2 "Address" hLabel
      (by decide)).1⟩
  have hSame :=
    (emailField.locate_trusted.2.1 "data-kind" "mail" hData
      hMail).2
  have hName : emailField.locate = Selector.name "email" := by
    decide +kernel
  rw [hName] at hSame
  exact hSame (by decide +kernel) (by decide) (by decide)

end Element

end Clickstream
