import Clickstream.Action.Record
import Clickstream.Proofs.Json.Fields

/-
  Saved actions: an action that was read can be written and
  read again, and nothing of it is lost. The actions that can
  be read are those with numbers that fit 64 bits and with no
  unknown kind that has the name of a known one.

  Key definitions:
    * `Action.IsReadable`
    * `Action.IsReadFrom`: where each part of an action comes
      from
    * `Action.slots`: what is written under each name

  Key theorems:
    * `Selector.ofJson?_toJson`, `Frame.ofJson?_toJson`,
      `Modifiers.ofJson?_toJson`
    * `Action.ofJson?_eq_some_iff`
    * `Action.ofJson?_toJson_iff`
    * `Action.ofJson?_toJson_of_ofJson?`
-/

namespace Clickstream

open Json

------------------------------------------------------------
-- Selectors and Frames
------------------------------------------------------------

namespace Selector

theorem Kind.ofJson?_wireName (kind : Kind) :
    Kind.ofJson? (.string kind.wireName) = some kind := by
  cases kind <;> decide

/- What is written under each name. -/
def slots (s : Selector) : List Fields.Slot :=
  [("kind", some (.string s.kind.wireName)),
    ("value", some (.string s.value)),
    ("auxName", s.aux.map Json.string)]

theorem toJson_eq_slots (s : Selector) :
    s.toJson = .object (Fields.written s.slots) := by
  unfold toJson
  rw [Fields.one_eq_written, Fields.one_eq_written,
    Fields.ifSome_eq_written, ← Fields.written_append,
    ← Fields.written_append]
  rfl

/- Every selector is read back. -/
theorem ofJson?_toJson (s : Selector) :
    ofJson? s.toJson = some s := by
  have hNames : (s.slots.map (·.1)).Nodup := by
    simp [slots]
  have hKind :
      (Fields.written s.slots).required "kind"
          Kind.ofJson? = some s.kind :=
    Fields.required_written (.string s.kind.wireName) hNames
      (by simp [slots]) (Kind.ofJson?_wireName s.kind)
  have hText :
      (Fields.written s.slots).required "value" text? =
        some s.value :=
    Fields.required_written (.string s.value) hNames
      (by simp [slots]) rfl
  have hAux :
      (Fields.written s.slots).optional "auxName" text? =
        some s.aux :=
    Fields.text_written hNames (by simp [slots])
  unfold ofJson?
  rw [toJson_eq_slots, Fields.record?_written members hNames]
  simp only [Option.bind_eq_bind, Option.bind_some, hKind,
    hText, hAux]
  rfl

end Selector

namespace Frame

theorem Kind.ofJson?_wireName (kind : Kind) :
    Kind.ofJson? (.string kind.wireName) = some kind := by
  cases kind <;> decide

/- What is written under each name. -/
def slots (frame : Frame) : List Fields.Slot :=
  [("kind", some (.string frame.kind.wireName)),
    ("selector", some frame.selector.toJson)]

/- Every frame is read back. -/
theorem ofJson?_toJson (frame : Frame) :
    ofJson? frame.toJson = some frame := by
  have hNames : (frame.slots.map (·.1)).Nodup := by
    simp [slots]
  have hKind :
      (Fields.written frame.slots).required "kind"
          Kind.ofJson? = some frame.kind :=
    Fields.required_written (.string frame.kind.wireName)
      hNames (by simp [slots])
      (Kind.ofJson?_wireName frame.kind)
  have hSelector :
      (Fields.written frame.slots).required "selector"
          Selector.ofJson? = some frame.selector :=
    Fields.required_written frame.selector.toJson hNames
      (by simp [slots]) frame.selector.ofJson?_toJson
  have hWritten :
      frame.toJson = .object (Fields.written frame.slots) :=
    rfl
  unfold ofJson?
  rw [hWritten, Fields.record?_written members hNames]
  simp only [Option.bind_eq_bind, Option.bind_some, hKind,
    hSelector]
  rfl

end Frame

------------------------------------------------------------
-- Values and Modifiers
------------------------------------------------------------

namespace Action.Value

theorem toJson_ne_null (value : Value) :
    value.toJson ≠ .null := by
  cases value <;> exact Json.noConfusion

/- Every value is read back as what it was. -/
theorem ofJson?_toJson (value : Value) :
    ofJson? value.toJson = some value := by
  cases value with
  | text t => rfl
  | flag on => rfl
  | list items =>
      have hText : ∀ t, Json.text? (Json.string t) = some t :=
        fun _ => rfl
      have hItems := mapM_map_eq_some hText items
      calc ofJson? (toJson (.list items))
          = ((items.map Json.string).mapM Json.text?).map
              .list := rfl
        _ = some (.list items) := by
            rw [hItems, Option.map_some]

end Action.Value

namespace Modifiers

/- What is written under each name. -/
def slots (m : Modifiers) : List Fields.Slot :=
  [("ctrl", some (.bool m.ctrl)),
    ("shift", some (.bool m.shift)),
    ("alt", some (.bool m.alt)),
    ("meta", some (.bool m.metaKey))]

/- Modifiers are read back, held or not. -/
theorem ofJson?_toJson (m : Modifiers) :
    ofJson? m.toJson = some m := by
  have hNames : (m.slots.map (·.1)).Nodup := by
    simp [slots]
  have hFlag :
      ∀ key value, (key, some (.bool value)) ∈ m.slots →
        (Fields.written m.slots).withDefault key false
            flag? = some value := by
    intro key value hSlot
    apply Fields.withDefault_written hNames hSlot
    · exact nofun
    · intro v hSome
      rw [← Option.some.inj hSome, flag?]
  have hWritten :
      m.toJson = .object (Fields.written m.slots) := rfl
  unfold ofJson?
  rw [hWritten, Fields.record?_written members hNames]
  simp only [Option.bind_eq_bind, Option.bind_some,
    hFlag "ctrl" m.ctrl (by simp [slots]),
    hFlag "shift" m.shift (by simp [slots]),
    hFlag "alt" m.alt (by simp [slots]),
    hFlag "meta" m.metaKey (by simp [slots])]
  rfl

end Modifiers

------------------------------------------------------------
-- Numbers
------------------------------------------------------------

namespace Json

theorem time?_ofNat
    {n : Nat}
    (hFits : n < UInt64.size) :
    time? (Json.ofNat n) = some n := by
  unfold time? natBelow? Json.ofNat Json.ofInt
  dsimp only
  rw [if_pos (by omega), Int.toNat_natCast]

theorem lt_of_time?_eq_some
    {value : Json}
    {n : Nat}
    (hRead : time? value = some n) :
    n < UInt64.size := by
  unfold time? natBelow? at hRead
  split at hRead
  · split at hRead
    · rename_i hFits
      have hSame := Option.some.inj hRead
      omega
    · contradiction
  · contradiction

/- Whether a distance fits a signed number of 64 bits. -/
def IsOffset (n : Int) : Prop :=
  -0x8000000000000000 ≤ n ∧ n ≤ 0x7FFFFFFFFFFFFFFF

theorem offset?_ofInt
    {n : Int}
    (hFits : IsOffset n) :
    offset? (Json.ofInt n) = some n := by
  unfold offset? intWithin? Json.ofInt
  exact if_pos hFits

theorem isOffset_of_offset?_eq_some
    {value : Json}
    {n : Int}
    (hRead : offset? value = some n) :
    IsOffset n := by
  unfold offset? intWithin? at hRead
  split at hRead
  · split at hRead
    · rename_i hFits
      rw [← Option.some.inj hRead]
      exact hFits
    · contradiction
  · contradiction

/- What is read from a field was read from some value. -/
theorem Fields.exists_of_optional
    {α : Type}
    {fields : Fields}
    {key : String}
    {read : Json → Option α}
    {a : α}
    (hRead : fields.optional key read = some (some a)) :
    ∃ value, read value = some a := by
  unfold Fields.optional at hRead
  split at hRead
  · cases hRead
  · cases hRead
  · rename_i value _ _
    rcases Option.map_eq_some_iff.mp hRead with
      ⟨b, hValue, hSame⟩
    rw [Option.some.inj hSame] at hValue
    exact ⟨value, hValue⟩

end Json

------------------------------------------------------------
-- Kinds
------------------------------------------------------------

namespace Action

/- A kind that was read keeps its name. -/
theorem Kind.wireName_ofWireName (name : String) :
    (Kind.ofWireName name).wireName = name := by
  unfold Kind.ofWireName
  cases hFind :
      Kind.known.find? (fun kind => kind.wireName = name) with
  | none => rfl
  | some kind =>
      have hName := List.find?_some hFind
      rw [Option.getD_some]
      exact of_decide_eq_true hName

theorem Kind.exists_ofJson?_iff
    {kind : Kind} :
    (∃ value, Kind.ofJson? value = some kind) ↔
      Kind.ofWireName kind.wireName = kind := by
  constructor
  · rintro ⟨value, hRead⟩
    rcases Option.map_eq_some_iff.mp hRead with
      ⟨name, _, rfl⟩
    rw [Kind.wireName_ofWireName]
  · intro hSame
    refine ⟨.string kind.wireName, ?_⟩
    exact congrArg some hSame

------------------------------------------------------------
-- Reading
------------------------------------------------------------

/-
  Whether the parts of an action are what the fields of a
  record tell.
-/
structure IsReadFrom
    (fields : Fields)
    (a : Action) : Prop where
  kind : fields.required "type" Kind.ofJson? = some a.kind
  selector :
    fields.optional "selector" Selector.ofJson? =
      some a.selector
  frames :
    fields.withDefault "framePath" []
      (Json.listOf? Frame.ofJson?) = some a.frames
  value :
    fields.optional "value" Value.ofJson? = some a.value
  url : fields.optional "url" Json.text? = some a.url
  previousUrl :
    fields.optional "previousUrl" Json.text? =
      some a.previousUrl
  timestamp :
    fields.withDefault "timestamp" 0 Json.time? =
      some a.timestamp
  checked :
    fields.optional "checked" Json.flag? = some a.checked
  inputType :
    fields.optional "inputType" Json.text? = some a.inputType
  multiple :
    fields.optional "multiple" Json.flag? = some a.multiple
  key : fields.optional "key" Json.text? = some a.key
  modifiers :
    fields.optional "modifiers" Modifiers.ofJson? =
      some a.modifiers
  scrollX :
    fields.optional "scrollX" Json.offset? = some a.scrollX
  scrollY :
    fields.optional "scrollY" Json.offset? = some a.scrollY
  tagName :
    fields.optional "tagName" Json.text? = some a.tagName
  text : fields.optional "text" Json.text? = some a.text
  elementId :
    fields.optional "elementId" Json.text? = some a.elementId
  hasTooltip :
    fields.withDefault "hasTooltip" false Json.flag? =
      some a.hasTooltip
  isImportant :
    fields.withDefault "isImportant" false Json.flag? =
      some a.isImportant

/- An action is read part by part from the fields. -/
theorem ofJson?_eq_some_iff
    {value : Json}
    {a : Action} :
    ofJson? value = some a ↔
      ∃ fields,
        Member.record? members value = some fields ∧
          a.IsReadFrom fields := by
  constructor
  · intro h
    unfold ofJson? at h
    rcases Option.bind_eq_some_iff.mp h with
      ⟨fields, hFields, h⟩
    rcases Option.bind_eq_some_iff.mp h with ⟨_, hKind, h⟩
    rcases Option.bind_eq_some_iff.mp h with ⟨_, hSelector, h⟩
    rcases Option.bind_eq_some_iff.mp h with ⟨_, hFrames, h⟩
    rcases Option.bind_eq_some_iff.mp h with ⟨_, hValue, h⟩
    rcases Option.bind_eq_some_iff.mp h with ⟨_, hUrl, h⟩
    rcases Option.bind_eq_some_iff.mp h with ⟨_, hPreviousUrl, h⟩
    rcases Option.bind_eq_some_iff.mp h with ⟨_, hTimestamp, h⟩
    rcases Option.bind_eq_some_iff.mp h with ⟨_, hChecked, h⟩
    rcases Option.bind_eq_some_iff.mp h with ⟨_, hInputType, h⟩
    rcases Option.bind_eq_some_iff.mp h with ⟨_, hMultiple, h⟩
    rcases Option.bind_eq_some_iff.mp h with ⟨_, hKey, h⟩
    rcases Option.bind_eq_some_iff.mp h with ⟨_, hModifiers, h⟩
    rcases Option.bind_eq_some_iff.mp h with ⟨_, hScrollX, h⟩
    rcases Option.bind_eq_some_iff.mp h with ⟨_, hScrollY, h⟩
    rcases Option.bind_eq_some_iff.mp h with ⟨_, hTagName, h⟩
    rcases Option.bind_eq_some_iff.mp h with ⟨_, hText, h⟩
    rcases Option.bind_eq_some_iff.mp h with ⟨_, hElementId, h⟩
    rcases Option.bind_eq_some_iff.mp h with ⟨_, hHasTooltip, h⟩
    rcases Option.bind_eq_some_iff.mp h with ⟨_, hIsImportant, h⟩
    cases h
    exact ⟨fields, hFields,
      ⟨hKind, hSelector, hFrames, hValue, hUrl, hPreviousUrl,
        hTimestamp, hChecked, hInputType, hMultiple, hKey,
        hModifiers, hScrollX, hScrollY, hTagName, hText,
        hElementId, hHasTooltip, hIsImportant⟩⟩
  · rintro ⟨fields, hFields, h⟩
    refine Option.bind_eq_some_iff.mpr ⟨fields, hFields, ?_⟩
    refine Option.bind_eq_some_iff.mpr ⟨_, h.kind, ?_⟩
    refine Option.bind_eq_some_iff.mpr ⟨_, h.selector, ?_⟩
    refine Option.bind_eq_some_iff.mpr ⟨_, h.frames, ?_⟩
    refine Option.bind_eq_some_iff.mpr ⟨_, h.value, ?_⟩
    refine Option.bind_eq_some_iff.mpr ⟨_, h.url, ?_⟩
    refine Option.bind_eq_some_iff.mpr ⟨_, h.previousUrl, ?_⟩
    refine Option.bind_eq_some_iff.mpr ⟨_, h.timestamp, ?_⟩
    refine Option.bind_eq_some_iff.mpr ⟨_, h.checked, ?_⟩
    refine Option.bind_eq_some_iff.mpr ⟨_, h.inputType, ?_⟩
    refine Option.bind_eq_some_iff.mpr ⟨_, h.multiple, ?_⟩
    refine Option.bind_eq_some_iff.mpr ⟨_, h.key, ?_⟩
    refine Option.bind_eq_some_iff.mpr ⟨_, h.modifiers, ?_⟩
    refine Option.bind_eq_some_iff.mpr ⟨_, h.scrollX, ?_⟩
    refine Option.bind_eq_some_iff.mpr ⟨_, h.scrollY, ?_⟩
    refine Option.bind_eq_some_iff.mpr ⟨_, h.tagName, ?_⟩
    refine Option.bind_eq_some_iff.mpr ⟨_, h.text, ?_⟩
    refine Option.bind_eq_some_iff.mpr ⟨_, h.elementId, ?_⟩
    refine Option.bind_eq_some_iff.mpr ⟨_, h.hasTooltip, ?_⟩
    refine Option.bind_eq_some_iff.mpr ⟨_, h.isImportant, ?_⟩
    rfl

/-
  Whether an action can stand in a record: its numbers fit,
  and no kind that has a meaning goes as an unknown one.
-/
structure IsReadable (a : Action) : Prop where
  kind : Kind.ofWireName a.kind.wireName = a.kind
  timestamp : a.timestamp < UInt64.size
  scrollX : ∀ x, a.scrollX = some x → IsOffset x
  scrollY : ∀ y, a.scrollY = some y → IsOffset y

variable {a : Action}

theorem isReadable_of_isReadFrom
    {fields : Fields}
    (hRead : a.IsReadFrom fields) :
    a.IsReadable where
  kind := by
    have hKind := hRead.kind
    unfold Fields.required at hKind
    split at hKind
    · contradiction
    · exact Kind.exists_ofJson?_iff.mp ⟨_, hKind⟩
  timestamp := by
    have hTimestamp := hRead.timestamp
    unfold Fields.withDefault at hTimestamp
    split at hTimestamp
    · rw [← Option.some.inj hTimestamp]
      decide
    · exact lt_of_time?_eq_some hTimestamp
  scrollX := by
    intro x hX
    have hOffset := hRead.scrollX
    rw [hX] at hOffset
    rcases Fields.exists_of_optional hOffset with
      ⟨value, hValue⟩
    exact isOffset_of_offset?_eq_some hValue
  scrollY := by
    intro y hY
    have hOffset := hRead.scrollY
    rw [hY] at hOffset
    rcases Fields.exists_of_optional hOffset with
      ⟨value, hValue⟩
    exact isOffset_of_offset?_eq_some hValue

------------------------------------------------------------
-- Writing
------------------------------------------------------------

/- What is written under each name. -/
def slots (a : Action) : List Fields.Slot :=
  [("type", some (.string a.kind.wireName)),
    ("selector", a.selector.map Selector.toJson),
    ("framePath",
      if a.frames = [] then none
      else some (Json.ofList Frame.toJson a.frames)),
    ("value", a.value.map Value.toJson),
    ("url", a.url.map Json.string),
    ("previousUrl", a.previousUrl.map Json.string),
    ("timestamp", some (Json.ofNat a.timestamp)),
    ("checked", a.checked.map Json.bool),
    ("inputType", a.inputType.map Json.string),
    ("multiple", a.multiple.map Json.bool),
    ("key", a.key.map Json.string),
    ("modifiers", a.modifiers.map Modifiers.toJson),
    ("scrollX", a.scrollX.map Json.ofInt),
    ("scrollY", a.scrollY.map Json.ofInt),
    ("tagName", a.tagName.map Json.string),
    ("text", a.text.map Json.string),
    ("elementId", a.elementId.map Json.string),
    ("hasTooltip",
      if a.hasTooltip then some (.bool true) else none),
    ("isImportant",
      if a.isImportant then some (.bool true) else none)]

/- No two parts of an action are written under one name. -/
theorem nodup_slots (a : Action) :
    (a.slots.map (·.1)).Nodup := by
  have hNames : a.slots.map (·.1) = members.map (·.name) :=
    rfl
  rw [hNames]
  decide

theorem framesField_eq_written (frames : FramePath) :
    framesField frames =
      Fields.written
        [("framePath",
          if frames = [] then none
          else some (Json.ofList Frame.toJson frames))] := by
  cases frames with
  | nil => rfl
  | cons frame frames =>
      rw [if_neg (List.cons_ne_nil frame frames)]
      rfl

theorem toFields_eq_slots (a : Action) :
    a.toFields = Fields.written a.slots := by
  unfold toFields
  simp only [Fields.one_eq_written, Fields.ifSome_eq_written,
    Fields.ifTrue_eq_written, framesField_eq_written,
    ← Fields.written_append, List.cons_append,
    List.nil_append, slots]

theorem isReadFrom_slots
    (hReadable : a.IsReadable) :
    a.IsReadFrom (Fields.written a.slots) where
  kind :=
    Fields.required_written (.string a.kind.wireName)
      a.nodup_slots (by simp [slots])
      (congrArg some hReadable.kind)
  selector :=
    Fields.optional_written Selector.toJson a.nodup_slots
      (by simp [slots]) (fun _ => Json.noConfusion)
      (fun s _ => s.ofJson?_toJson)
  frames := by
    have hSlot :
        ("framePath",
            if a.frames = [] then none
            else some (Json.ofList Frame.toJson a.frames)) ∈
          a.slots := by
      simp [slots]
    apply Fields.withDefault_written a.nodup_slots hSlot
    · intro hNone
      by_contra hSome
      rw [if_neg (Ne.symm hSome)] at hNone
      contradiction
    · intro v hSome
      split at hSome
      · contradiction
      · rw [← Option.some.inj hSome]
        exact listOf?_ofList Frame.ofJson?_toJson a.frames
  value :=
    Fields.optional_written Value.toJson a.nodup_slots
      (by simp [slots]) Value.toJson_ne_null
      (fun v _ => v.ofJson?_toJson)
  url := Fields.text_written a.nodup_slots (by simp [slots])
  previousUrl :=
    Fields.text_written a.nodup_slots (by simp [slots])
  timestamp := by
    have hSlot :
        ("timestamp", some (Json.ofNat a.timestamp)) ∈
          a.slots := by
      simp [slots]
    apply Fields.withDefault_written a.nodup_slots hSlot
    · exact nofun
    · intro v hSome
      rw [← Option.some.inj hSome]
      exact time?_ofNat hReadable.timestamp
  checked :=
    Fields.flag_written a.nodup_slots (by simp [slots])
  inputType :=
    Fields.text_written a.nodup_slots (by simp [slots])
  multiple :=
    Fields.flag_written a.nodup_slots (by simp [slots])
  key := Fields.text_written a.nodup_slots (by simp [slots])
  modifiers :=
    Fields.optional_written Modifiers.toJson a.nodup_slots
      (by simp [slots]) (fun _ => Json.noConfusion)
      (fun m _ => m.ofJson?_toJson)
  scrollX :=
    Fields.optional_written Json.ofInt a.nodup_slots
      (by simp [slots]) (fun _ => Json.noConfusion)
      (fun x hX => offset?_ofInt (hReadable.scrollX x hX))
  scrollY :=
    Fields.optional_written Json.ofInt a.nodup_slots
      (by simp [slots]) (fun _ => Json.noConfusion)
      (fun y hY => offset?_ofInt (hReadable.scrollY y hY))
  tagName :=
    Fields.text_written a.nodup_slots (by simp [slots])
  text := Fields.text_written a.nodup_slots (by simp [slots])
  elementId :=
    Fields.text_written a.nodup_slots (by simp [slots])
  hasTooltip :=
    Fields.ifTrue_written a.nodup_slots (by simp [slots])
  isImportant :=
    Fields.ifTrue_written a.nodup_slots (by simp [slots])

theorem ofJson?_toJson
    (hReadable : a.IsReadable) :
    ofJson? a.toJson = some a := by
  apply ofJson?_eq_some_iff.mpr
  unfold toJson
  rw [toFields_eq_slots]
  exact ⟨_, Fields.record?_written members a.nodup_slots,
    isReadFrom_slots hReadable⟩

theorem isReadable_of_ofJson?
    {value : Json}
    (hRead : ofJson? value = some a) :
    a.IsReadable := by
  rcases ofJson?_eq_some_iff.mp hRead with ⟨fields, _, hFrom⟩
  exact isReadable_of_isReadFrom hFrom

/- The actions that come back from what they are written as. -/
theorem ofJson?_toJson_iff :
    ofJson? a.toJson = some a ↔ a.IsReadable :=
  ⟨isReadable_of_ofJson?, ofJson?_toJson⟩

------------------------------------------------------------
-- Reading Again
------------------------------------------------------------

/-
  Whatever an action was read from, it is read again from what
  it is written as, and then it is written the same again.
-/
theorem ofJson?_toJson_of_ofJson?
    {value : Json}
    (hRead : ofJson? value = some a) :
    ofJson? a.toJson = some a ∧
      (ofJson? a.toJson).map toJson = some a.toJson := by
  have hAgain : ofJson? a.toJson = some a :=
    ofJson?_toJson_iff.mpr (isReadable_of_ofJson? hRead)
  refine ⟨hAgain, ?_⟩
  rw [hAgain, Option.map_some]

/-
  An action of an unknown kind, with an old name for a shadow
  tree, a field that nobody knows and defaults in full.
-/
def pinchRecord : Json :=
  .object
    [("timestamp", Json.ofNat 5), ("type", .string "pinch"),
      ("framePath",
        .array
          [.array
            [.string "ShadowHost",
              .object
                [("kind", .string "CssPath"),
                  ("value", .string "x-card")]]]),
      ("value", .array [.string "in", .string ""]),
      ("url", .null), ("fingers", Json.ofNat 2),
      ("modifiers", .object [("shift", .bool true)]),
      ("hasTooltip", .bool false)]

/- What is read of it. -/
def pinch : Action where
  kind := .other "pinch"
  frames := [⟨.shadow, Selector.cssPath "x-card"⟩]
  value := some (.list ["in", ""])
  timestamp := 5
  modifiers := some { shift := true }

theorem ofJson?_toJson_of_pinchRecord :
    ofJson? pinchRecord = some pinch ∧
      ofJson? pinch.toJson = some pinch ∧
      (ofJson? pinch.toJson).map toJson =
        some pinch.toJson := by
  have hRead : ofJson? pinchRecord = some pinch := by
    decide
  exact ⟨hRead, ofJson?_toJson_of_ofJson? hRead⟩

end Action

end Clickstream
