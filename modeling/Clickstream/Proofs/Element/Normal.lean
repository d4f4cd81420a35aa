import Mathlib.Data.List.Basic
import Clickstream.Event.Basic
import Clickstream.Proofs.Text.Trimmed

/-
  Normal forms. What normalising makes is normal, and what is
  normal is left alone, so that normalising once is enough.
  Where two names of attributes become one, a single entry
  stays, and its name is in its place already.

  Key definitions:
    * `IsNormalName`
    * `PathNode.IsNormal`, `Host.IsNormal`
    * `Attributes.IsNormal`
    * `Element.IsNormal`

  Key theorems:
    * `Attributes.ofList_entries`, `Attributes.mem_ofList`
    * `Element.isNormal_normalise`,
      `Element.normalise_eq_self_iff`
    * `Element.normalise_normalise`
    * `Event.normalise_normalise`
-/

namespace Clickstream

------------------------------------------------------------
-- Names and Texts
------------------------------------------------------------

/- A name without blanks around it and without capitals. -/
structure IsNormalName (s : String) : Prop where
  isTrimmed : Text.IsTrimmed s
  isSmall : Text.Avoids Text.isUpper s

theorem isNormalName_normalName (s : String) :
    IsNormalName (normalName s) where
  isTrimmed := (Text.isTrimmed_trim s).lower
  isSmall := by
    intro c hc
    unfold normalName Text.lower at hc
    rw [String.toList_ofList] at hc
    rcases List.mem_map.mp hc with ⟨d, _, rfl⟩
    exact Text.isUpper_toLower d

theorem normalName_of_isNormalName
    {s : String}
    (hName : IsNormalName s) :
    normalName s = s := by
  unfold normalName
  rw [Text.trim_of_isTrimmed hName.isTrimmed,
    Text.lower_of_not_isUpper hName.isSmall]

theorem isBlankText_normalName (s : String) :
    Text.isBlankText (normalName s) = Text.isBlankText s := by
  unfold normalName
  rw [Text.isBlankText_lower, Text.isBlankText_trim]

theorem isTold_of_bind_nonBlank
    {text : Option String}
    {t : String}
    (hText : text.bind Text.nonBlank = some t) :
    Text.IsTold t := by
  rcases Option.bind_eq_some_iff.mp hText with ⟨raw, _, hRaw⟩
  exact Text.isTold_of_nonBlank hRaw

/- A text that tells something stays as it is. -/
theorem bind_nonBlank_of_isTold
    {text : Option String}
    (hTold : ∀ t, text = some t → Text.IsTold t) :
    text.bind Text.nonBlank = text := by
  cases text with
  | none => rfl
  | some t => exact Text.nonBlank_of_isTold (hTold t rfl)

------------------------------------------------------------
-- Paths
------------------------------------------------------------

namespace PathNode

variable {node : PathNode}
variable {nodes : List PathNode}

/- Whether one level of a path has nothing blank about it. -/
structure IsNormal (node : PathNode) : Prop where
  tagName : IsNormalName node.tagName
  id : ∀ id, node.id = some id → Text.IsTold id
  classes : ∀ name ∈ node.classes, Text.isBlankText name = false

theorem isNormal_normalise (node : PathNode) :
    node.normalise.IsNormal where
  tagName := isNormalName_normalName node.tagName
  id := fun _ hId => isTold_of_bind_nonBlank hId
  classes := by
    intro name hName
    have hKept := (List.mem_filter.mp hName).2
    simpa using hKept

theorem normalise_of_isNormal
    (hNormal : node.IsNormal) :
    node.normalise = node := by
  have hClasses :
      node.classes.filter (fun c => !Text.isBlankText c) =
        node.classes := by
    rw [List.filter_eq_self]
    intro name hName
    rw [hNormal.classes name hName]
    rfl
  unfold normalise
  rw [normalName_of_isNormalName hNormal.tagName,
    bind_nonBlank_of_isTold hNormal.id, hClasses]

/- A path of normal levels stays as it is. -/
theorem map_normalise_of_isNormal
    (hNormal : ∀ node ∈ nodes, node.IsNormal) :
    nodes.map normalise = nodes := by
  have hSame :
      nodes.map normalise = nodes.map fun node => node :=
    List.map_congr_left fun node hNode =>
      normalise_of_isNormal (hNormal node hNode)
  rw [hSame, List.map_id']

theorem isNormal_of_mem_map_normalise
    (hNode : node ∈ nodes.map normalise) :
    node.IsNormal := by
  rcases List.mem_map.mp hNode with ⟨raw, _, rfl⟩
  exact raw.isNormal_normalise

end PathNode

namespace Host

variable {host : Host}

/- Whether a host has nothing blank about it but classes. -/
structure IsNormal (host : Host) : Prop where
  tagName : IsNormalName host.tagName
  id : ∀ id, host.id = some id → Text.IsTold id
  name : ∀ name, host.name = some name → Text.IsTold name
  src : ∀ src, host.src = some src → Text.IsTold src
  path : ∀ node ∈ host.path, node.IsNormal

theorem isNormal_normalise (host : Host) :
    host.normalise.IsNormal where
  tagName := isNormalName_normalName host.tagName
  id := fun _ hId => isTold_of_bind_nonBlank hId
  name := fun _ hName => isTold_of_bind_nonBlank hName
  src := fun _ hSrc => isTold_of_bind_nonBlank hSrc
  path := fun _ hNode =>
    PathNode.isNormal_of_mem_map_normalise hNode

theorem normalise_of_isNormal
    (hNormal : host.IsNormal) :
    host.normalise = host := by
  unfold normalise
  rw [normalName_of_isNormalName hNormal.tagName,
    bind_nonBlank_of_isTold hNormal.id,
    bind_nonBlank_of_isTold hNormal.name,
    bind_nonBlank_of_isTold hNormal.src,
    PathNode.map_normalise_of_isNormal hNormal.path]

end Host

------------------------------------------------------------
-- Attributes
------------------------------------------------------------

namespace Attributes

variable {name value : String}
variable {entry raw : String × String}
variable {entries : List (String × String)}

/- A name behind all others goes to the end. -/
theorem insertEntry_of_forall_lt
    (hLess : ∀ entry ∈ entries, entry.1 < name) :
    insertEntry name value entries =
      entries ++ [(name, value)] := by
  induction entries with
  | nil => rfl
  | cons first rest ih =>
      have hFirst : first.1 < name :=
        hLess first List.mem_cons_self
      have hNotLess : ¬ name < first.1 := fun hBack =>
        String.lt_irrefl name (String.lt_trans hBack hFirst)
      have hNe : name ≠ first.1 := by
        intro hSame
        rw [hSame] at hFirst
        exact String.lt_irrefl _ hFirst
      have hRest :=
        ih fun entry hEntry =>
          hLess entry (List.mem_cons_of_mem _ hEntry)
      rw [insertEntry, if_neg hNotLess, if_neg hNe, hRest,
        List.cons_append]

/- Entries in order are put behind one another. -/
theorem entries_foldl_insert
    (table : Attributes)
    (hSorted : Sorted (table.entries ++ entries)) :
    (entries.foldl (fun table e => table.insert e.1 e.2)
        table).entries =
      table.entries ++ entries := by
  induction entries generalizing table with
  | nil => exact (List.append_nil _).symm
  | cons entry rest ih =>
      have hLess : ∀ e ∈ table.entries, e.1 < entry.1 := by
        intro e he
        exact (List.pairwise_append.mp hSorted).2.2 e he entry
          List.mem_cons_self
      have hInsert :
          (table.insert entry.1 entry.2).entries =
            table.entries ++ [entry] :=
        insertEntry_of_forall_lt hLess
      rw [List.foldl_cons, ih, hInsert, List.append_assoc]
      · rfl
      · rw [hInsert, List.append_assoc]
        exact hSorted

/- A table is the table of its entries. -/
theorem ofList_entries (table : Attributes) :
    ofList table.entries = table := by
  have hEntries :
      (ofList table.entries).entries = table.entries :=
    entries_foldl_insert empty table.sorted
  cases table
  unfold ofList at hEntries ⊢
  generalize List.foldl _ _ _ = folded at hEntries ⊢
  cases folded
  cases hEntries
  rfl

/- Every entry of a table of entries is one of them. -/
theorem mem_ofList
    (hEntry : entry ∈ (ofList entries).entries) :
    entry ∈ entries := by
  suffices hFold :
      ∀ (given : List (String × String)) (table : Attributes),
        entry ∈
            (given.foldl (fun table e => table.insert e.1 e.2)
              table).entries →
          entry ∈ table.entries ∨ entry ∈ given by
    rcases hFold entries empty hEntry with hNone | hGiven
    · cases hNone
    · exact hGiven
  intro given
  induction given with
  | nil => exact fun table hTable => Or.inl hTable
  | cons first rest ih =>
      intro table hTable
      rcases ih _ hTable with hInsert | hRest
      · rcases mem_insertEntry hInsert with hSame | hOld
        · exact Or.inr (hSame ▸ List.mem_cons_self)
        · exact Or.inl hOld
      · exact Or.inr (List.mem_cons_of_mem _ hRest)

/- Whether neither part of an entry is blank or has blanks. -/
structure IsNormalEntry (entry : String × String) : Prop where
  name : IsNormalName entry.1
  ne_empty : entry.1 ≠ ""
  value : Text.IsTold entry.2

/- Whether all entries are normal. -/
def IsNormal (table : Attributes) : Prop :=
  ∀ entry ∈ table.entries, IsNormalEntry entry

theorem isNormalEntry_of_normalEntry
    (hEntry : normalEntry raw = some entry) :
    IsNormalEntry entry := by
  unfold normalEntry at hEntry
  split at hEntry
  · cases hEntry
  · rename_i hSome
    have hSame := Option.some.inj hEntry
    subst hSame
    rw [Bool.not_eq_true, Bool.or_eq_false_iff] at hSome
    refine ⟨isNormalName_normalName raw.1, ?_,
      Text.isTold_of_not_isBlankText hSome.2⟩
    intro hEmpty
    have hName := isBlankText_normalName raw.1
    dsimp only at hEmpty
    rw [hSome.1, hEmpty] at hName
    exact Bool.noConfusion hName

theorem normalEntry_of_isNormalEntry
    (hNormal : IsNormalEntry entry) :
    normalEntry entry = some entry := by
  have hTold : Text.IsTold entry.1 :=
    ⟨hNormal.ne_empty, hNormal.name.isTrimmed⟩
  unfold normalEntry
  rw [hTold.isBlankText_eq_false,
    hNormal.value.isBlankText_eq_false,
    normalName_of_isNormalName hNormal.name,
    Text.trim_of_isTrimmed hNormal.value.isTrimmed]
  rfl

theorem isNormal_normalise (table : Attributes) :
    table.normalise.IsNormal := by
  intro entry hEntry
  rcases List.mem_filterMap.mp (mem_ofList hEntry) with
    ⟨raw, _, hRaw⟩
  exact isNormalEntry_of_normalEntry hRaw

theorem normalise_of_isNormal
    {table : Attributes}
    (hNormal : table.IsNormal) :
    table.normalise = table := by
  have hEntries :
      table.entries.filterMap normalEntry =
        table.entries.filterMap some := by
    apply List.filterMap_congr
    intro entry hEntry
    exact normalEntry_of_isNormalEntry (hNormal entry hEntry)
  unfold normalise
  rw [hEntries, List.filterMap_some, ofList_entries]

-- Two names that become one: the later one has the value.
example :
    (ofList [(" ID", "go"), ("id ", "stop")]).normalise.entries =
      [("id", "stop")] := by
  decide

end Attributes

------------------------------------------------------------
-- Elements
------------------------------------------------------------

namespace Element

variable {e : Element}

/- Whether an element is in normal form. -/
structure IsNormal (e : Element) : Prop where
  tagName : IsNormalName e.tagName
  attributes : e.attributes.IsNormal
  textContent :
    ∀ text, e.textContent = some text → Text.IsTold text
  labelText :
    ∀ text, e.labelText = some text → Text.IsTold text
  path : ∀ node ∈ e.path, node.IsNormal
  hosts : ∀ host ∈ e.hosts, host.IsNormal

theorem isNormal_normalise (e : Element) :
    e.normalise.IsNormal where
  tagName := isNormalName_normalName e.tagName
  attributes := e.attributes.isNormal_normalise
  textContent := fun _ hText => isTold_of_bind_nonBlank hText
  labelText := fun _ hText => isTold_of_bind_nonBlank hText
  path := fun _ hNode =>
    PathNode.isNormal_of_mem_map_normalise hNode
  hosts := by
    intro host hHost
    rcases List.mem_map.mp hHost with ⟨raw, _, rfl⟩
    exact raw.isNormal_normalise

theorem normalise_of_isNormal
    (hNormal : e.IsNormal) :
    e.normalise = e := by
  have hHosts :
      e.hosts.map Host.normalise = e.hosts.map id :=
    List.map_congr_left fun host hHost =>
      Host.normalise_of_isNormal (hNormal.hosts host hHost)
  rw [List.map_id] at hHosts
  unfold normalise
  rw [normalName_of_isNormalName hNormal.tagName,
    Attributes.normalise_of_isNormal hNormal.attributes,
    bind_nonBlank_of_isTold hNormal.textContent,
    bind_nonBlank_of_isTold hNormal.labelText,
    PathNode.map_normalise_of_isNormal hNormal.path, hHosts]

/- Just the elements in normal form are left alone. -/
theorem normalise_eq_self_iff :
    e.normalise = e ↔ e.IsNormal := by
  constructor
  · intro hSame
    rw [← hSame]
    exact e.isNormal_normalise
  · exact normalise_of_isNormal

theorem normalise_normalise (e : Element) :
    e.normalise.normalise = e.normalise :=
  normalise_of_isNormal e.isNormal_normalise

end Element

------------------------------------------------------------
-- Events
------------------------------------------------------------

theorem Event.normalise_normalise (event : Event) :
    event.normalise.normalise = event.normalise := by
  cases event with
  | mk occurrence timestamp =>
      unfold normalise mapTarget Occurrence.mapTarget
      cases occurrence with
      | scroll target x y =>
          cases target <;> simp [Element.normalise_normalise]
      | _ => simp [Element.normalise_normalise]

end Clickstream
