/-
  The attributes of an element: a table from names to values
  with the names in increasing order, so that two tables with
  the same entries are equal.

  Key definitions:
    * `Attributes`
    * `Attributes.get?`, `Attributes.has`
    * `Attributes.insert`, with `get?_insert_self` and
      `get?_insert_of_ne` for what it does to `get?`
    * `Attributes.ofList`: of two values the later one counts
-/

namespace Clickstream

------------------------------------------------------------
-- Sorted Entries
------------------------------------------------------------

/- Entries with strictly increasing names. -/
def Attributes.Sorted
    (entries : List (String × String)) : Prop :=
  entries.Pairwise (fun a b => a.1 < b.1)

/- A table from attribute names to values. -/
structure Attributes where
  entries : List (String × String)
  sorted : Attributes.Sorted entries
deriving Repr

namespace Attributes

/- The table without entries. -/
def empty : Attributes :=
  ⟨[], List.Pairwise.nil⟩

instance : Inhabited Attributes := ⟨empty⟩

instance : DecidableEq Attributes := fun a b =>
  decidable_of_iff (a.entries = b.entries) (by
    cases a
    cases b
    simp)

------------------------------------------------------------
-- Looking Up
------------------------------------------------------------

/- The value under a name. -/
def get?
    (table : Attributes)
    (name : String) : Option String :=
  (table.entries.find? (fun entry => entry.1 = name)).map
    (·.2)

/- Whether there is a value under a name. -/
def has
    (table : Attributes)
    (name : String) : Bool :=
  (table.get? name).isSome

------------------------------------------------------------
-- Insertion
------------------------------------------------------------

/- Put a value into its place, in place of an older one. -/
def insertEntry
    (name value : String) :
    List (String × String) → List (String × String)
  | [] => [(name, value)]
  | entry :: rest =>
      if name < entry.1 then (name, value) :: entry :: rest
      else if name = entry.1 then (name, value) :: rest
      else entry :: insertEntry name value rest

/- An inserted entry brings no other names along. -/
theorem mem_insertEntry
    {name value : String}
    {entry : String × String}
    {entries : List (String × String)}
    (h : entry ∈ insertEntry name value entries) :
    entry = (name, value) ∨ entry ∈ entries := by
  induction entries with
  | nil =>
      simpa [insertEntry] using h
  | cons first rest ih =>
      unfold insertEntry at h
      split at h
      · simpa using h
      · split at h
        · rcases List.mem_cons.mp h with h | h
          · exact Or.inl h
          · exact Or.inr (List.mem_cons_of_mem _ h)
        · rcases List.mem_cons.mp h with h | h
          · exact Or.inr (h ▸ List.mem_cons_self)
          · rcases ih h with h | h
            · exact Or.inl h
            · exact Or.inr (List.mem_cons_of_mem _ h)

/- Insertion keeps the names in increasing order. -/
theorem sorted_insertEntry
    (name value : String)
    {entries : List (String × String)}
    (h : Sorted entries) :
    Sorted (insertEntry name value entries) := by
  induction entries with
  | nil =>
      simp [insertEntry, Sorted]
  | cons first rest ih =>
      have hFirst := (List.pairwise_cons.mp h).1
      have hRest := (List.pairwise_cons.mp h).2
      unfold insertEntry
      split
      next hLess =>
        refine List.pairwise_cons.mpr ⟨?_, h⟩
        intro entry hMem
        rcases List.mem_cons.mp hMem with hEq | hMem
        · exact hEq ▸ hLess
        · exact String.lt_trans hLess (hFirst entry hMem)
      next hNotLess =>
        split
        next hEq =>
          refine List.pairwise_cons.mpr ⟨?_, hRest⟩
          intro entry hMem
          exact hEq ▸ hFirst entry hMem
        next hNe =>
          refine List.pairwise_cons.mpr ⟨?_, ih hRest⟩
          intro entry hMem
          rcases mem_insertEntry hMem with hEq | hMem
          · subst hEq
            have hLe := String.not_lt.mp hNotLess
            rcases Decidable.em (first.1 < name) with hLt | hGe
            · exact hLt
            · exact absurd
                (String.le_antisymm (String.not_lt.mp hGe) hLe)
                hNe
          · exact hFirst entry hMem

/- Put a value under a name. -/
def insert
    (table : Attributes)
    (name value : String) : Attributes :=
  ⟨insertEntry name value table.entries,
    sorted_insertEntry name value table.sorted⟩

/- A value that was put under a name is found there. -/
theorem get?_insert_self
    (table : Attributes)
    (name value : String) :
    (table.insert name value).get? name = some value := by
  suffices h : ∀ entries : List (String × String),
      ((insertEntry name value entries).find?
        (fun entry => entry.1 = name)).map (·.2) = some value by
    exact h table.entries
  intro entries
  induction entries with
  | nil =>
      simp [insertEntry]
  | cons first rest ih =>
      unfold insertEntry
      split
      next => simp
      next =>
        split
        next => simp
        next hNe =>
          simp [Ne.symm hNe, ih]

/- Putting a value under a name leaves other names alone. -/
theorem get?_insert_of_ne
    (table : Attributes)
    {name other : String}
    (value : String)
    (hOther : other ≠ name) :
    (table.insert name value).get? other = table.get? other := by
  suffices h : ∀ entries : List (String × String),
      (insertEntry name value entries).find?
        (fun entry => entry.1 = other) =
      entries.find? (fun entry => entry.1 = other) by
    exact congrArg (Option.map (·.2)) (h table.entries)
  intro entries
  induction entries with
  | nil =>
      simp [insertEntry, Ne.symm hOther]
  | cons first rest ih =>
      unfold insertEntry
      split
      next => simp [Ne.symm hOther]
      next =>
        split
        next hEq =>
          simp [Ne.symm hOther, ← hEq]
        next =>
          simp [List.find?_cons, ih]

/-
  The table of a list of entries. Where a name is given more
  than once, the last value counts.
-/
def ofList
    (entries : List (String × String)) : Attributes :=
  entries.foldl (fun table e => table.insert e.1 e.2) empty

end Attributes

end Clickstream
