import Mathlib.Data.List.Forall2
import Clickstream.Element.Normal
import Clickstream.Proofs.Css.Attributes
import Clickstream.Proofs.Element.Trust

/-
  What selectors of places and of hosts are put together from.
  There is always something to find an element by. A host can
  be left without anything if not even its tag is known, and
  only the classes of a shadow host can be empty ones.

  Key definitions:
    * `Css.Piece`, `Css.writeAll`
    * `Path.pieces`, `Element.pieces`, `Host.pieces`
    * `Host.IsNameless`

  Key theorems:
    * `Path.selector_eq`, `Element.structuralPath_eq`,
      `Host.value_locate`
    * `Element.value_locate_ne_empty`
    * `Host.value_locate_eq_empty_iff`
    * `Element.written_of_normalise`
-/

namespace Clickstream

------------------------------------------------------------
-- Pieces of Selectors
------------------------------------------------------------

namespace Css

/- A piece of a selector for style sheets. -/
inductive Piece where
  | any
  | tag (name : String)
  | id (text : String)
  | className (name : String)
  | attributeIs (name value : String)
  | attributeHas (name part : String)
  | place (index : Nat)
  | child
deriving DecidableEq, Repr

/- How a piece is written. -/
def Piece.write : Piece → String
  | .any => "*"
  | .tag name => name
  | .id text => idSelector text
  | .className name => classSelector name
  | .attributeIs name value => attributeSelector name value
  | .attributeHas name part =>
      "[" ++ name ++ "*=\"" ++ escapeQuoted part ++ "\"]"
  | .place index => ":nth-child(" ++ toString index ++ ")"
  | .child => " > "

/- Pieces written one behind the other. -/
def writeAll (pieces : List Piece) : String :=
  String.join (pieces.map Piece.write)

variable {pieces others : List Piece}

theorem writeAll_append :
    writeAll (pieces ++ others) =
      writeAll pieces ++ writeAll others := by
  unfold writeAll
  rw [List.map_append, String.join_append]

theorem writeAll_singleton (piece : Piece) :
    writeAll [piece] = piece.write := by
  simp [writeAll]

theorem writeAll_classNames (names : List String) :
    writeAll (names.map .className) =
      String.join (names.map classSelector) := by
  unfold writeAll
  rw [List.map_map]
  rfl

/- Levels are written with an arrow between them. -/
theorem writeAll_intercalate (levels : List (List Piece)) :
    writeAll ([.child].intercalate levels) =
      String.intercalate " > " (levels.map writeAll) := by
  induction levels with
  | nil => rfl
  | cons level levels ih =>
      cases levels with
      | nil => simp
      | cons next levels =>
          rw [List.intercalate_cons_cons, writeAll_append,
            writeAll_append, ih, writeAll_singleton,
            List.map_cons (l := next :: levels),
            String.intercalate_cons_of_ne_nil (by simp)]
          rfl

theorem attributeSelector_ne_empty (name value : String) :
    attributeSelector name value ≠ "" := by
  rw [← String.toList_inj.ne, toList_attributeSelector]
  exact nofun

theorem idSelector_ne_empty (id : String) :
    idSelector id ≠ "" := by
  unfold idSelector
  split
  · simp
  · exact attributeSelector_ne_empty _ _

theorem classSelector_ne_empty (name : String) :
    classSelector name ≠ "" := by
  simp [classSelector]

end Css

open Css (Piece)

------------------------------------------------------------
-- Paths
------------------------------------------------------------

namespace PathNode

/- The pieces of one level. -/
def pieces
    (filter : ClassFilter)
    (node : PathNode) : List Piece :=
  .tag node.tagName ::
    (filter.pick node.classes).map .className ++
      if 1 < node.sameTagCount ∧ 0 < node.childIndex then
        [.place node.childIndex]
      else
        []

/- Whether there is nothing to name a level by. -/
def IsBare (node : PathNode) : Prop :=
  node.id = none ∧ node.tagName = ""

instance (node : PathNode) : Decidable node.IsBare := by
  unfold IsBare
  infer_instance

theorem segment_eq
    (filter : ClassFilter)
    (node : PathNode) :
    node.segment filter = Css.writeAll (node.pieces filter) := by
  have hPlace :
      node.place =
        Css.writeAll
          (if 1 < node.sameTagCount ∧ 0 < node.childIndex then
            [.place node.childIndex]
          else
            []) := by
    unfold place
    split
    · rw [Css.writeAll_singleton]
      rfl
    · rfl
  unfold segment pieces
  rw [List.cons_append, ← List.singleton_append,
    Css.writeAll_append, Css.writeAll_append,
    Css.writeAll_singleton, Css.writeAll_classNames, ← hPlace,
    String.append_assoc]
  rfl

theorem segment_ne_empty
    {node : PathNode}
    (hTag : node.tagName ≠ "")
    (filter : ClassFilter) :
    node.segment filter ≠ "" := by
  simp [segment, hTag]

/- No class of a normal form is empty. -/
theorem not_mem_classes_normalise (node : PathNode) :
    "" ∉ node.normalise.classes := by
  intro hEmpty
  cases (List.mem_filter.mp hEmpty).2

/- Only classes of the level itself are picked. -/
theorem mem_classes_of_mem_pieces
    {filter : ClassFilter}
    {name : String}
    (node : PathNode)
    (hName : .className name ∈ node.pieces filter) :
    name ∈ node.classes := by
  have hPicked : name ∈ filter.pick node.classes := by
    unfold pieces at hName
    split at hName <;> simpa using hName
  cases filter with
  | stable =>
      exact (List.mem_filter.mp (List.mem_of_mem_take hPicked)).1
  | all => exact hPicked

end PathNode

namespace Path

variable {filter : ClassFilter}
variable {nodes : List PathNode}

/- The pieces of the levels, from the inside to the outside. -/
def levels
    (filter : ClassFilter) :
    List PathNode → List (List Piece)
  | [] => []
  | node :: rest =>
      match node.id with
      | some id => [[.id id]]
      | none =>
          if node.tagName = "" then levels filter rest
          else node.pieces filter :: levels filter rest

/- The pieces of a path. -/
def pieces
    (filter : ClassFilter)
    (nodes : List PathNode) : List Piece :=
  [.child].intercalate (levels filter nodes).reverse

theorem segments_eq
    (filter : ClassFilter)
    (nodes : List PathNode) :
    segments filter nodes =
      (levels filter nodes).map Css.writeAll := by
  induction nodes with
  | nil => rfl
  | cons node rest ih =>
      unfold segments levels
      cases node.id with
      | some id =>
          dsimp only
          rw [List.map_singleton, Css.writeAll_singleton]
          rfl
      | none =>
          dsimp only
          split
          · exact ih
          · rw [List.map_cons, ih, node.segment_eq]

/- A path is what its pieces are written as. -/
theorem selector_eq
    (filter : ClassFilter)
    (nodes : List PathNode) :
    selector filter nodes = Css.writeAll (pieces filter nodes) := by
  unfold selector pieces
  rw [segments_eq, Css.writeAll_intercalate, List.map_reverse]

theorem ne_empty_of_mem_segments
    {segment : String}
    (hSegment : segment ∈ segments filter nodes) :
    segment ≠ "" := by
  induction nodes with
  | nil => cases hSegment
  | cons node rest ih =>
      unfold segments at hSegment
      split at hSegment
      · rw [List.mem_singleton] at hSegment
        exact hSegment ▸ Css.idSelector_ne_empty _
      · split at hSegment
        · exact ih hSegment
        · rename_i hTag
          rcases List.mem_cons.mp hSegment with rfl | hRest
          · exact node.segment_ne_empty hTag filter
          · exact ih hRest

theorem segments_eq_nil_iff (filter : ClassFilter) :
    segments filter nodes = [] ↔
      ∀ node ∈ nodes, node.IsBare := by
  induction nodes with
  | nil => simp [segments]
  | cons node rest ih =>
      rw [segments, List.forall_mem_cons, ← ih]
      unfold PathNode.IsBare
      cases node.id with
      | some id => simp
      | none =>
          dsimp only
          split
          · rename_i hTag
            simp [hTag]
          · rename_i hTag
            simp [hTag]

theorem exists_of_className_mem_levels
    {level : List Piece}
    {name : String}
    (hLevel : level ∈ levels filter nodes)
    (hName : .className name ∈ level) :
    ∃ node ∈ nodes, name ∈ node.classes := by
  induction nodes with
  | nil => cases hLevel
  | cons node rest ih =>
      rw [levels] at hLevel
      have hRest :
          level ∈ levels filter rest →
            ∃ other ∈ node :: rest, name ∈ other.classes := by
        intro hOther
        rcases ih hOther with ⟨other, hMem, hClass⟩
        exact ⟨other, List.mem_cons_of_mem _ hMem, hClass⟩
      cases hId : node.id with
      | some id =>
          rw [hId] at hLevel
          rw [List.mem_singleton.mp hLevel] at hName
          cases List.mem_singleton.mp hName
      | none =>
          rw [hId] at hLevel
          dsimp only at hLevel
          split at hLevel
          · exact hRest hLevel
          · rcases List.mem_cons.mp hLevel with rfl | hOther
            · exact ⟨node, List.mem_cons_self,
                node.mem_classes_of_mem_pieces hName⟩
            · exact hRest hOther

/- A path is empty just if no level of it can be named. -/
theorem selector_eq_empty_iff (filter : ClassFilter) :
    selector filter nodes = "" ↔
      ∀ node ∈ nodes, node.IsBare := by
  rw [← segments_eq_nil_iff filter]
  unfold selector
  constructor
  · intro hEmpty
    cases hSegments : (segments filter nodes).reverse with
    | nil => exact List.reverse_eq_nil_iff.mp hSegments
    | cons outer others =>
        have hMem : outer ∈ segments filter nodes := by
          rw [← List.mem_reverse, hSegments]
          exact List.mem_cons_self
        have hOuter := ne_empty_of_mem_segments hMem
        rw [hSegments] at hEmpty
        refine absurd hEmpty ?_
        cases others with
        | nil =>
            rw [String.intercalate_singleton]
            exact hOuter
        | cons next others =>
            rw [String.intercalate_cons_of_ne_nil
              (List.cons_ne_nil _ _)]
            simp [hOuter]
  · intro hNone
    rw [hNone]
    rfl

/- The classes in a path are those of its levels. -/
theorem exists_of_className_mem_pieces
    {name : String}
    (hName : .className name ∈ pieces filter nodes) :
    ∃ node ∈ nodes, name ∈ node.classes := by
  rcases Text.mem_intercalate hName with hChild | hLevel
  · cases List.mem_singleton.mp hChild
  · rcases hLevel with ⟨level, hLevel, hName⟩
    rw [List.mem_reverse] at hLevel
    exact exists_of_className_mem_levels hLevel hName

/- The pieces of a path, or others if it has none. -/
def piecesOr
    (others : List Piece)
    (filter : ClassFilter)
    (nodes : List PathNode) : List Piece :=
  if ∀ node ∈ nodes, node.IsBare then others
  else pieces filter nodes

theorem writeAll_piecesOr
    (others : List Piece)
    (filter : ClassFilter)
    (nodes : List PathNode) :
    Css.writeAll (piecesOr others filter nodes) =
      if selector filter nodes = "" then Css.writeAll others
      else selector filter nodes := by
  unfold piecesOr
  simp only [← selector_eq_empty_iff filter]
  split
  · rfl
  · rw [selector_eq]

/- The classes in it are those of the levels all the same. -/
theorem exists_of_className_mem_piecesOr
    {others : List Piece}
    {name : String}
    (hOthers : .className name ∉ others)
    (hName : .className name ∈ piecesOr others filter nodes) :
    ∃ node ∈ nodes, name ∈ node.classes := by
  unfold piecesOr at hName
  split at hName
  · exact absurd hName hOthers
  · exact exists_of_className_mem_pieces hName

end Path

------------------------------------------------------------
-- Hosts
------------------------------------------------------------

namespace Host

variable {host : Host}

/- The pieces of an iframe without an id. -/
def iframePieces (host : Host) : List Piece :=
  match host.name, host.src.bind lastSegment? with
  | some name, _ => [.tag "iframe", .attributeIs "name" name]
  | none, some segment =>
      [.tag "iframe", .attributeHas "src" segment]
  | none, none =>
      Path.piecesOr [.tag host.tagName] .all host.path

/- The pieces of a shadow host without an id. -/
def shadowPieces (host : Host) : List Piece :=
  if host.classes.isEmpty then
    Path.piecesOr [.tag host.tagName] .stable
      (host.path.take Path.maxDepth)
  else
    host.classes.map .className

/- The pieces that a host is found by. -/
def pieces (host : Host) : List Piece :=
  match host.id with
  | some id => [.id id]
  | none =>
      match host.kind with
      | .iframe => host.iframePieces
      | .shadow => host.shadowPieces

/-
  Whether nothing is known that a host could be found by: no
  id, no tag, no level that can be named, and neither a name
  nor a source of an iframe, nor a class of a shadow host.
-/
def IsNameless (host : Host) : Prop :=
  host.id = none ∧
    match host.kind with
    | .iframe =>
        host.name = none ∧
          host.src.bind lastSegment? = none ∧
          (∀ node ∈ host.path, node.IsBare) ∧
          host.tagName = ""
    | .shadow =>
        host.classes = [] ∧
          (∀ node ∈ host.path.take Path.maxDepth,
            node.IsBare) ∧
          host.tagName = ""

theorem pathOrTag_selector
    (host : Host)
    (filter : ClassFilter)
    (nodes : List PathNode) :
    host.pathOrTag (Path.selector filter nodes) =
      Css.writeAll
        (Path.piecesOr [.tag host.tagName] filter nodes) := by
  rw [Path.writeAll_piecesOr, Css.writeAll_singleton]
  rfl

theorem pathOrTag_eq_empty_iff
    (filter : ClassFilter)
    (nodes : List PathNode) :
    host.pathOrTag (Path.selector filter nodes) = "" ↔
      (∀ node ∈ nodes, node.IsBare) ∧ host.tagName = "" := by
  rw [← Path.selector_eq_empty_iff filter]
  unfold pathOrTag
  split
  · rename_i hEmpty
    simp [hEmpty]
  · rename_i hSome
    simp [hSome]

theorem iframePath_eq (host : Host) :
    host.iframePath = Css.writeAll host.iframePieces := by
  unfold iframePath iframePieces
  cases host.name with
  | some name =>
      simp [Css.writeAll, Piece.write]
  | none =>
      cases host.src.bind lastSegment? with
      | some segment =>
          simp only [Css.writeAll, Piece.write, List.map_cons,
            List.map_nil, String.join_cons, String.join_nil,
            String.append_empty, ← String.append_assoc]
          rfl
      | none => exact host.pathOrTag_selector _ _

theorem iframePath_eq_empty_iff (host : Host) :
    host.iframePath = "" ↔
      host.name = none ∧
        host.src.bind lastSegment? = none ∧
        (∀ node ∈ host.path, node.IsBare) ∧
        host.tagName = "" := by
  unfold iframePath
  cases host.name with
  | some name => simp
  | none =>
      cases host.src.bind lastSegment? with
      | some segment => simp
      | none =>
          have hPath :=
            host.pathOrTag_eq_empty_iff .all host.path
          simpa [Path.full] using hPath

theorem shadowPath_eq (host : Host) :
    host.shadowPath = Css.writeAll host.shadowPieces := by
  unfold shadowPath shadowPieces
  split
  · exact host.pathOrTag_selector _ _
  · rw [Css.writeAll_classNames]

theorem shadowPath_eq_empty_iff (host : Host) :
    host.shadowPath = "" ↔
      host.classes = [] ∧
        (∀ node ∈ host.path.take Path.maxDepth,
          node.IsBare) ∧
        host.tagName = "" := by
  unfold shadowPath
  cases host.classes with
  | nil =>
      have hPath :=
        host.pathOrTag_eq_empty_iff .stable
          (host.path.take Path.maxDepth)
      simpa [Path.stable] using hPath
  | cons first others =>
      simp [Css.classSelector_ne_empty]

/- A host is located by what its pieces are written as. -/
theorem value_locate (host : Host) :
    host.locate.value = Css.writeAll host.pieces := by
  unfold locate pieces
  cases host.id with
  | some id => exact (Css.writeAll_singleton (.id id)).symm
  | none =>
      cases host.kind with
      | iframe => exact host.iframePath_eq
      | shadow => exact host.shadowPath_eq

/- Nothing is written just where nothing is known. -/
theorem value_locate_eq_empty_iff (host : Host) :
    host.locate.value = "" ↔ host.IsNameless := by
  unfold locate IsNameless
  cases host.id with
  | some id =>
      simp [Selector.uniqueId, Css.idSelector_ne_empty]
  | none =>
      rw [eq_self, true_and]
      cases host.kind with
      | iframe => exact host.iframePath_eq_empty_iff
      | shadow => exact host.shadowPath_eq_empty_iff

/-
  Among the pieces of a host without blank classes on its path
  there are empty classes just where they are its own.
-/
theorem className_empty_mem_pieces_iff
    (hPath :
      ∀ node ∈ host.path, "" ∉ node.classes) :
    .className "" ∈ host.pieces ↔
      host.id = none ∧ host.kind = .shadow ∧
        "" ∈ host.classes := by
  have hNone :
      ∀ (filter : ClassFilter) (nodes : List PathNode),
        (∀ node ∈ nodes, node ∈ host.path) →
          .className "" ∉
            Path.piecesOr [.tag host.tagName] filter nodes := by
    intro filter nodes hNodes hEmpty
    rcases Path.exists_of_className_mem_piecesOr (by simp)
        hEmpty with ⟨node, hNode, hClass⟩
    exact hPath node (hNodes node hNode) hClass
  unfold pieces
  cases host.id with
  | some id => simp
  | none =>
      cases host.kind with
      | iframe =>
          have hIframe : .className "" ∉ host.iframePieces := by
            unfold iframePieces
            split
            · simp
            · simp
            · exact hNone _ _ fun _ hNode => hNode
          simp [hIframe]
      | shadow =>
          have hShadow :
              .className "" ∈ host.shadowPieces ↔
                "" ∈ host.classes := by
            unfold shadowPieces
            split
            · rename_i hClasses
              rw [List.isEmpty_iff.mp hClasses]
              refine iff_of_false
                (hNone _ _ fun _ => List.mem_of_mem_take) ?_
              exact List.not_mem_nil
            · simp
          simp [hShadow]

/- Normal forms have no blank classes on their paths. -/
theorem not_mem_classes_normalise
    {node : PathNode}
    (hNode : node ∈ host.normalise.path) :
    "" ∉ node.classes := by
  rcases List.mem_map.mp hNode with ⟨raw, _, rfl⟩
  exact raw.not_mem_classes_normalise

end Host

------------------------------------------------------------
-- Elements
------------------------------------------------------------

namespace Element

/- The pieces of the place of an element. -/
def pieces (e : Element) : List Piece :=
  Path.piecesOr
    (if e.tagName = "" then [.any] else [.tag e.tagName])
    .stable (e.path.take Path.maxDepth)

theorem structuralPath_eq (e : Element) :
    e.structuralPath = Css.writeAll e.pieces := by
  unfold structuralPath pieces
  rw [Path.writeAll_piecesOr]
  dsimp only [Path.stable]
  by_cases hPath :
      Path.selector .stable (e.path.take Path.maxDepth) = ""
  · rw [if_neg (not_not.mpr hPath), if_pos hPath]
    by_cases hTag : e.tagName = ""
    · rw [if_neg (not_not.mpr hTag), if_pos hTag]
      rfl
    · rw [if_pos hTag, if_neg hTag, Css.writeAll_singleton]
      rfl
  · rw [if_pos hPath, if_neg hPath]

/- There is always a place to find an element at. -/
theorem structuralPath_ne_empty (e : Element) :
    e.structuralPath ≠ "" := by
  unfold structuralPath
  dsimp only
  split
  · assumption
  · split
    · assumption
    · decide

/- What is not blank is not empty. -/
theorem ne_empty_of_attr?
    {e : Element}
    {name value : String}
    (hValue : e.attr? name = some value) :
    value ≠ "" := by
  rintro rfl
  cases (attr?_eq_some_iff.mp hValue).2

theorem exists_of_map_attr?
    {e : Element}
    {name : String}
    {build : String → Selector}
    {s : Selector}
    (hRule : (e.attr? name).map build = some s) :
    ∃ value, value ≠ "" ∧ s = build value := by
  rcases Option.map_eq_some_iff.mp hRule with
    ⟨value, hValue, rfl⟩
  exact ⟨value, ne_empty_of_attr? hValue, rfl⟩

/- Every rule gives something to look for. -/
theorem value_ne_empty_of_rule
    {e : Element}
    {kind : Selector.Kind}
    {s : Selector}
    (hRule : e.rule kind = some s) :
    s.value ≠ "" := by
  cases kind with
  | testId =>
      rcases List.exists_of_findSome?_eq_some hRule with
        ⟨name, _, hName⟩
      rcases exists_of_map_attr? hName with ⟨value, hSome, rfl⟩
      exact hSome
  | role =>
      rcases exists_of_namedRole? hRule with
        ⟨role, name, hRole, rfl⟩
      exact ne_empty_of_attr? hRole
  | label =>
      rcases Option.map_eq_some_iff.mp hRule with
        ⟨text, hText, rfl⟩
      simpa [Selector.label] using
        (Option.filter_eq_some_iff.mp hText).2
  | altText =>
      rcases exists_of_map_attr?
          (alternative?_eq_some_iff.mp hRule).2 with
        ⟨value, hSome, rfl⟩
      exact hSome
  | uniqueId =>
      rcases Option.map_eq_some_iff.mp hRule with
        ⟨id, _, rfl⟩
      exact Css.idSelector_ne_empty id
  | classAttribute =>
      rcases Option.map_eq_some_iff.mp hRule with
        ⟨value, _, rfl⟩
      exact Css.attributeSelector_ne_empty "class" value
  | cssPath =>
      cases hRule
      exact e.structuralPath_ne_empty
  | _ =>
      rcases exists_of_map_attr? hRule with
        ⟨value, hSome, rfl⟩
      exact hSome

/- An element is always located by something. -/
theorem value_locate_ne_empty (e : Element) :
    e.locate.value ≠ "" :=
  value_ne_empty_of_rule e.rule_locate

/- No class in the place of a normal form is empty. -/
theorem className_empty_not_mem_pieces_normalise
    (e : Element) :
    .className "" ∉ e.normalise.pieces := by
  intro hEmpty
  have hOthers :
      .className "" ∉
        (if e.normalise.tagName = "" then [Piece.any]
        else [.tag e.normalise.tagName]) := by
    split <;> simp
  rcases Path.exists_of_className_mem_piecesOr hOthers hEmpty
    with ⟨node, hNode, hClass⟩
  rcases List.mem_map.mp (List.mem_of_mem_take hNode) with
    ⟨raw, _, rfl⟩
  exact raw.not_mem_classes_normalise hClass

/-
  In its normal form an element is located by something. What
  names its place names no empty class. The frames on the way
  to it are found by what is known of their hosts: by nothing
  just if a host is nameless, and by an empty class just if a
  shadow host without an id has one.
-/
theorem written_of_normalise (e : Element) :
    e.normalise.locate.value ≠ "" ∧
      (e.normalise.locate.kind = .cssPath →
        e.normalise.locate.value =
          Css.writeAll e.normalise.pieces) ∧
      (∀ name,
        .className name ∈ e.normalise.pieces → name ≠ "") ∧
      List.Forall₂
        (fun host frame =>
          frame.selector.value = Css.writeAll host.pieces ∧
            (frame.selector.value = "" ↔ host.IsNameless) ∧
            (.className "" ∈ host.pieces ↔
              host.id = none ∧ host.kind = .shadow ∧
                "" ∈ host.classes))
        e.normalise.hosts e.normalise.frames := by
  refine ⟨e.normalise.value_locate_ne_empty, ?_, ?_, ?_⟩
  · intro hKind
    have hRule := e.normalise.rule_locate
    rw [hKind] at hRule
    have hPath :
        e.normalise.locate =
          Selector.cssPath e.normalise.structuralPath :=
      (Option.some_inj.mp hRule).symm
    rw [hPath, structuralPath_eq]
    rfl
  · rintro name hName rfl
    exact e.className_empty_not_mem_pieces_normalise hName
  · unfold frames
    rw [List.forall₂_map_right_iff, List.forall₂_same]
    intro host hHost
    rcases List.mem_map.mp hHost with ⟨raw, _, rfl⟩
    exact ⟨raw.normalise.value_locate,
      raw.normalise.value_locate_eq_empty_iff,
      Host.className_empty_mem_pieces_iff fun _ hNode =>
        Host.not_mem_classes_normalise hNode⟩

/- A button in the second part of a page in a frame. -/
def payButton : Element where
  tagName := "BUTTON"
  path :=
    [{ tagName := "button", classes := [" ", "pay"] },
      { tagName := "div", childIndex := 2, sameTagCount := 2 }]
  hosts := [{ kind := .iframe, name := some " checkout " }]

/- It is found by its part and its class, in that frame. -/
theorem written_of_normalise_payButton :
    payButton.normalise.locate.kind = .cssPath ∧
      payButton.normalise.locate.value =
        "div:nth-child(2) > button.pay" ∧
      .className "pay" ∈ payButton.normalise.pieces ∧
      "pay" ≠ "" ∧
      payButton.normalise.frames.map
          (fun frame => frame.selector.value) =
        ["iframe[name=\"checkout\"]"] := by
  rcases payButton.written_of_normalise with
    ⟨_, hPath, hClass, _⟩
  have hKind : payButton.normalise.locate.kind = .cssPath := by
    decide +kernel
  have hPay : .className "pay" ∈ payButton.normalise.pieces := by
    decide +kernel
  refine ⟨hKind, ?_, hPay, hClass "pay" hPay, ?_⟩
  · rw [hPath hKind]
    decide +kernel
  · decide +kernel

/- Two shadow hosts: one without a tag, one with a lost class. -/
def shadowed : Element where
  tagName := "button"
  hosts :=
    [{ kind := .shadow, tagName := " " },
      { kind := .shadow, tagName := "x-card", classes := [""] }]

/- Neither of the hosts can be found again. -/
theorem value_frames_shadowed :
    shadowed.normalise.frames.map
        (fun frame => frame.selector.value) =
      ["", "."] := by
  decide +kernel

end Element

end Clickstream
