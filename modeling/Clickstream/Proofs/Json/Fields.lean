import Mathlib.Data.List.Count
import Mathlib.Data.List.Nodup
import Clickstream.Json.Shape

/-
  Fields that were written are found again. A record writes
  its slots one after the other and leaves some of them out;
  as long as no two slots have one name, every slot is read
  back under its own.

  Key definitions:
    * `Fields.Slot`
    * `Fields.written`: the fields of a row of slots

  Key theorems:
    * `Fields.find?_written`
    * `Fields.record?_written`
    * `Fields.required_written`, `Fields.optional_written`,
      `Fields.withDefault_written`
    * `Json.listOf?_ofList`
-/

namespace Clickstream

namespace Json

namespace Fields

------------------------------------------------------------
-- Slots
------------------------------------------------------------

/- A name, and what is written under it, if anything. -/
abbrev Slot :=
  String × Option Json

/- The fields of a row of slots; empty ones are left out. -/
def written (slots : List Slot) : Fields :=
  slots.filterMap fun slot => slot.2.map (slot.1, ·)

variable {slots : List Slot}
variable {fields : Fields}
variable {key : String}

theorem written_cons_none
    (key : String)
    (slots : List Slot) :
    written ((key, none) :: slots) = written slots :=
  List.filterMap_cons_none rfl

theorem written_cons_some
    (key : String)
    (value : Json)
    (slots : List Slot) :
    written ((key, some value) :: slots) =
      (key, value) :: written slots :=
  List.filterMap_cons_some rfl

theorem written_append (before after : List Slot) :
    written (before ++ after) =
      written before ++ written after :=
  List.filterMap_append

theorem one_eq_written
    (key : String)
    (value : Json) :
    one key value = written [(key, some value)] := rfl

theorem ifSome_eq_written
    {α : Type}
    (key : String)
    (write : α → Json)
    (value : Option α) :
    ifSome key write value =
      written [(key, value.map write)] := by
  cases value with
  | none => exact (written_cons_none key []).symm
  | some a => exact (written_cons_some key (write a) []).symm

theorem ifTrue_eq_written
    (key : String)
    (value : Bool) :
    ifTrue key value =
      written
        [(key, if value then some (.bool true) else none)] := by
  cases value with
  | false => exact (written_cons_none key []).symm
  | true => exact (written_cons_some key _ []).symm

/- The names of the fields are some of those of the slots. -/
theorem map_fst_written_sublist (slots : List Slot) :
    List.Sublist ((written slots).map (·.1))
      (slots.map (·.1)) := by
  induction slots with
  | nil => exact List.Sublist.refl []
  | cons slot slots ih =>
      rcases slot with ⟨key, value⟩
      cases value with
      | none =>
          rw [written_cons_none, List.map_cons]
          exact ih.cons key
      | some value =>
          rw [written_cons_some, List.map_cons, List.map_cons]
          exact ih.cons_cons key

------------------------------------------------------------
-- Finding Fields
------------------------------------------------------------

theorem find?_eq_none
    (hKey : key ∉ fields.map (·.1)) :
    find? fields key = none := by
  induction fields with
  | nil => rfl
  | cons field fields ih =>
      rw [List.map_cons, List.mem_cons, not_or] at hKey
      unfold find?
      rw [if_neg (Ne.symm hKey.1)]
      exact ih hKey.2

/- A field is found under its name as it was written. -/
theorem find?_written
    {value : Option Json}
    (hNames : (slots.map (·.1)).Nodup)
    (hSlot : (key, value) ∈ slots) :
    find? (written slots) key = value := by
  induction slots with
  | nil => exact absurd hSlot List.not_mem_nil
  | cons slot slots ih =>
      rw [List.map_cons, List.nodup_cons] at hNames
      rcases List.mem_cons.mp hSlot with rfl | hSlot
      · -- No later field has the name of this slot.
        have hLater : key ∉ (written slots).map (·.1) := by
          intro hKey
          exact hNames.1
            ((map_fst_written_sublist slots).subset hKey)
        cases value with
        | none =>
            rw [written_cons_none]
            exact find?_eq_none hLater
        | some value =>
            rw [written_cons_some, find?, if_pos rfl]
      · have hRest := ih hNames.2 hSlot
        have hOther : slot.1 ≠ key := by
          intro hSame
          apply hNames.1
          rw [hSame]
          exact List.mem_map_of_mem hSlot
        rcases slot with ⟨name, other⟩
        cases other with
        | none =>
            rw [written_cons_none]
            exact hRest
        | some other =>
            rw [written_cons_some, find?, if_neg hOther]
            exact hRest

/- Counting fields is counting names. -/
theorem occurrences_eq_count
    (fields : Fields)
    (key : String) :
    occurrences fields key =
      (fields.map (·.1)).count key := by
  unfold occurrences
  rw [List.count_eq_length_filter, List.filter_map,
    List.length_map]
  congr 1

/- What was written is a record. -/
theorem record?_written
    {σ : Type}
    (members : List (Member σ))
    (hNames : (slots.map (·.1)).Nodup) :
    Member.record? members (.object (written slots)) =
      some (written slots) := by
  have hOnce :
      ∀ key, occurrences (written slots) key ≤ 1 := by
    intro key
    rw [occurrences_eq_count]
    apply List.nodup_iff_count_le_one.mp
    exact hNames.sublist (map_fst_written_sublist slots)
  unfold Member.record? Json.record?
  apply if_pos
  rw [List.all_eq_true]
  intro key _
  exact decide_eq_true (hOnce key)

------------------------------------------------------------
-- Reading Fields
------------------------------------------------------------

variable {α : Type}
variable {read : Json → Option α}

theorem required_written
    {a : α}
    (value : Json)
    (hNames : (slots.map (·.1)).Nodup)
    (hSlot : (key, some value) ∈ slots)
    (hRead : read value = some a) :
    required (written slots) key read = some a := by
  unfold required
  rw [find?_written hNames hSlot]
  exact hRead

theorem optional_written
    {value : Option α}
    (write : α → Json)
    (hNames : (slots.map (·.1)).Nodup)
    (hSlot : (key, value.map write) ∈ slots)
    (hNull : ∀ a, write a ≠ .null)
    (hRead : ∀ a, value = some a → read (write a) = some a) :
    optional (written slots) key read = some value := by
  unfold optional
  rw [find?_written hNames hSlot]
  cases value with
  | none => rfl
  | some a =>
      have hValue := hRead a rfl
      rw [Option.map_some]
      split
      · contradiction
      · rename_i hNone
        exact absurd (Option.some.inj hNone) (hNull a)
      · rename_i hSome
        rw [← Option.some.inj hSome, hValue, Option.map_some]

/- A field is left out only where its default says the same. -/
theorem withDefault_written
    {a fallback : α}
    {value : Option Json}
    (hNames : (slots.map (·.1)).Nodup)
    (hSlot : (key, value) ∈ slots)
    (hNone : value = none → fallback = a)
    (hSome : ∀ v, value = some v → read v = some a) :
    withDefault (written slots) key fallback read =
      some a := by
  unfold withDefault
  rw [find?_written hNames hSlot]
  cases value with
  | none => exact congrArg some (hNone rfl)
  | some v => exact hSome v rfl

theorem text_written
    {value : Option String}
    (hNames : (slots.map (·.1)).Nodup)
    (hSlot : (key, value.map Json.string) ∈ slots) :
    optional (written slots) key text? = some value :=
  optional_written Json.string hNames hSlot
    (fun _ => Json.noConfusion) (fun _ _ => rfl)

theorem flag_written
    {value : Option Bool}
    (hNames : (slots.map (·.1)).Nodup)
    (hSlot : (key, value.map Json.bool) ∈ slots) :
    optional (written slots) key flag? = some value :=
  optional_written Json.bool hNames hSlot
    (fun _ => Json.noConfusion) (fun _ _ => rfl)

/- A flag that is written only where it is true. -/
theorem ifTrue_written
    {value : Bool}
    (hNames : (slots.map (·.1)).Nodup)
    (hSlot :
      (key, if value then some (.bool true) else none) ∈
        slots) :
    withDefault (written slots) key false flag? =
      some value := by
  apply withDefault_written hNames hSlot
  · intro hNone
    cases value with
    | false => rfl
    | true => contradiction
  · intro v hSome
    cases value with
    | false => contradiction
    | true => rw [← Option.some.inj hSome, flag?]

end Fields

------------------------------------------------------------
-- Single Values
------------------------------------------------------------

variable {α : Type}
variable {read : Json → Option α}
variable {write : α → Json}

theorem mapM_map_eq_some
    (hRead : ∀ a, read (write a) = some a)
    (items : List α) :
    (items.map write).mapM read = some items := by
  induction items with
  | nil => rfl
  | cons a items ih =>
      rw [List.map_cons, List.mapM_cons, hRead, ih]
      rfl

/- A list is read back item by item. -/
theorem listOf?_ofList
    (hRead : ∀ a, read (write a) = some a)
    (items : List α) :
    listOf? read (ofList write items) = some items :=
  mapM_map_eq_some hRead items

end Json

end Clickstream
