import Mathlib.Data.List.Infix
import Clickstream.Script.Dialects
import Clickstream.Proofs.Text.UnicodeEscape

/-
  Literals and listings of literals as the languages read
  them. A literal is read back as the text it stands for, and
  a listing as the list of its items, whatever the texts are.

  Key definitions:
    * `Listing`: how a language writes a list
    * `Listing.read`, `Listing.readFiles`
    * `Language.quotationMark`, `Language.textListing`,
      `Language.fileListing`

  Key theorems:
    * `Listing.readItem_append`
    * `Listing.read_row`
    * `Language.readFiles_files`
    * `Language.read_quote`
-/

namespace Clickstream

namespace Script

open Text

------------------------------------------------------------
-- Listings
------------------------------------------------------------

/-
  How a language writes a list of texts: what stands around
  the whole list, and around the literal of each item.
-/
structure Listing where
  mark : Char
  rowOpen : String
  itemOpen : String
  itemClose : String
  rowClose : String

/- The sign between two items. -/
def comma : String := ", "

namespace Listing

variable (listing : Listing)

/- An item as it is written. -/
def item (s : String) : String :=
  listing.itemOpen ++ Quoted.write listing.mark s ++
    listing.itemClose

theorem item_eq_write
    {listing : Listing}
    (hOpen : listing.itemOpen = "")
    (hClose : listing.itemClose = "")
    (s : String) :
    listing.item s = Quoted.write listing.mark s := by
  unfold item
  rw [hOpen, hClose, String.empty_append,
    String.append_empty]

/- A list as it is written. -/
def row (items : List String) : String :=
  listing.rowOpen ++
    String.intercalate comma (items.map listing.item) ++
    listing.rowClose

------------------------------------------------------------
-- Reading Listings
------------------------------------------------------------

/- Read one item at the front of a text. -/
def readItem
    (cs : List Char) : Option (String × List Char) := do
  let inside ← cs.dropPrefix? listing.itemOpen.toList
  let (body, after) ← Quoted.readFront listing.mark inside
  let rest ← after.dropPrefix? listing.itemClose.toList
  return (String.ofList body, rest)

theorem length_le_of_dropPrefix?
    {cs part rest : List Char}
    (hDrop : cs.dropPrefix? part = some rest) :
    rest.length ≤ cs.length := by
  rcases List.dropPrefix?_eq_some_iff.mp hDrop with
    ⟨part, rfl, _⟩
  rw [List.length_append]
  omega

/- An item takes at least one character. -/
theorem length_lt_of_readItem
    {listing : Listing}
    {cs rest : List Char}
    {s : String}
    (hRead : listing.readItem cs = some (s, rest)) :
    rest.length < cs.length := by
  unfold readItem at hRead
  simp only [Option.bind_eq_bind, Option.bind_eq_some_iff,
    Option.pure_def] at hRead
  rcases hRead with
    ⟨inside, hInside, ⟨body, after⟩, hLiteral, more, hMore,
      hItem⟩
  cases hItem
  rcases Quoted.exists_of_readFront hLiteral with
    ⟨literal, hText, _⟩
  have hOpen := length_le_of_dropPrefix? hInside
  have hClose : rest.length ≤ after.length :=
    length_le_of_dropPrefix? hMore
  rw [hText, List.length_append, List.length_cons] at hOpen
  omega

/- Read items, with commas between them, up to the end. -/
def readItems (cs : List Char) : Option (List String) :=
  match _hItem : listing.readItem cs with
  | none => none
  | some (item, rest) =>
      if rest = listing.rowClose.toList then some [item]
      else
        match _hComma : rest.dropPrefix? comma.toList with
        | none => none
        | some more => (readItems more).map (item :: ·)
termination_by cs.length
decreasing_by
  have hItem := length_lt_of_readItem _hItem
  have hComma := length_le_of_dropPrefix? _hComma
  omega

/- The list that a text is, if it is exactly one. -/
def read (text : String) : Option (List String) := do
  let inside ← text.toList.dropPrefix? listing.rowOpen.toList
  if inside = listing.rowClose.toList then some []
  else listing.readItems inside

/- The same, where a single item may stand alone. -/
def readFiles (text : String) : Option (List String) :=
  match listing.readItem text.toList with
  | some (name, []) => some [name]
  | _ => listing.read text

/-
  Whether the parts of a listing can be told apart: where an
  item stands, neither the list starts nor ends, and no comma
  ends it.
-/
structure IsClear : Prop where
  mark : Quoted.IsMark listing.mark
  rowOpen :
    ∀ rest,
      listing.readItem (listing.rowOpen.toList ++ rest) = none
  rowClose : listing.readItem listing.rowClose.toList = none
  comma :
    ∀ rest, comma.toList ++ rest ≠ listing.rowClose.toList

------------------------------------------------------------
-- Reading What Was Written
------------------------------------------------------------

variable {listing : Listing}

theorem dropPrefix?_append (part rest : List Char) :
    (part ++ rest).dropPrefix? part = some rest :=
  List.dropPrefix?_append_of_beq rest (beq_self_eq_true part)

/- An item is read back, whatever follows it. -/
theorem readItem_append
    (hMark : Quoted.IsMark listing.mark)
    (s : String)
    (rest : List Char) :
    listing.readItem ((listing.item s).toList ++ rest) =
      some (s, rest) := by
  unfold readItem item Quoted.write
  simp only [String.toList_append, String.toList_ofList,
    List.append_assoc, Option.bind_eq_bind,
    dropPrefix?_append, Option.bind_some,
    Quoted.readFront_writeChars hMark, String.ofList_toList]
  rfl

/- Items are read back one after the other. -/
theorem readItems_append
    (hClear : listing.IsClear)
    (first : String)
    (items : List String) :
    listing.readItems
        ((String.intercalate comma
            ((first :: items).map listing.item)).toList ++
          listing.rowClose.toList) =
      some (first :: items) := by
  induction items generalizing first with
  | nil =>
      rw [List.map_singleton, String.intercalate_singleton,
        readItems, readItem_append hClear.mark]
      exact if_pos rfl
  | cons second items ih =>
      have hOthers :
          (second :: items).map listing.item ≠ [] :=
        List.cons_ne_nil _ _
      rw [List.map_cons,
        String.intercalate_cons_of_ne_nil hOthers,
        String.toList_append, String.toList_append,
        List.append_assoc, List.append_assoc, readItems,
        readItem_append hClear.mark]
      dsimp only
      rw [if_neg (hClear.comma _), dropPrefix?_append]
      dsimp only
      rw [ih second, Option.map_some]

/- A list is read back item by item. -/
theorem read_row
    (hClear : listing.IsClear)
    (items : List String) :
    listing.read (listing.row items) = some items := by
  unfold read row
  simp only [String.toList_append, List.append_assoc,
    Option.bind_eq_bind, dropPrefix?_append,
    Option.bind_some]
  cases items with
  | nil =>
      apply if_pos
      rw [List.map_nil, String.intercalate_nil]
      rfl
  | cons first items =>
      have hItems := readItems_append hClear first items
      -- No item can be read where the list ends.
      have hNone :
          listing.readItems listing.rowClose.toList = none := by
        rw [readItems, hClear.rowClose]
      rw [if_neg]
      · exact hItems
      · intro hSame
        rw [hSame, hNone] at hItems
        cases hItems

/- So is a list of files, whether or not it has one item. -/
theorem readFiles_item
    (hClear : listing.IsClear)
    (name : String) :
    listing.readFiles (listing.item name) = some [name] := by
  have hItem := readItem_append hClear.mark name []
  rw [List.append_nil] at hItem
  unfold readFiles
  rw [hItem]

theorem readFiles_row
    (hClear : listing.IsClear)
    (names : List String) :
    listing.readFiles (listing.row names) = some names := by
  have hItem :
      listing.readItem (listing.row names).toList = none := by
    unfold row
    rw [String.append_assoc, String.toList_append]
    exact hClear.rowOpen _
  unfold readFiles
  rw [hItem]
  exact read_row hClear names

end Listing

end Script

------------------------------------------------------------
-- The Four Languages
------------------------------------------------------------

namespace Language

open Script Text

/- The mark around the literals of a language. -/
def quotationMark : Language → Char
  | .javaScript | .typeScript => '\''
  | .python | .java => '"'

/- How a language writes a list of texts. -/
def textListing : Language → Listing
  | .java =>
      ⟨'"', "new String[] \x7b", "", "", "\x7d"⟩
  | language => ⟨language.quotationMark, "[", "", "", "]"⟩

/- How a language writes a list of files. -/
def fileListing : Language → Listing
  | .java =>
      ⟨'"', "new Path[] \x7b", "Paths.get(", ")", "\x7d"⟩
  | language => language.textListing

theorem isMark_quotationMark (language : Language) :
    Quoted.IsMark language.quotationMark := by
  cases language with
  | javaScript => exact Or.inl rfl
  | typeScript => exact Or.inl rfl
  | python => exact Or.inr rfl
  | java => exact Or.inr rfl

theorem mark_dialect (language : Language) :
    language.dialect.mark = language.quotationMark := by
  cases language <;> rfl

/- A list between brackets is clear. -/
theorem isClear_brackets
    {mark : Char}
    (hMark : Quoted.IsMark mark) :
    Listing.IsClear ⟨mark, "[", "", "", "]"⟩ := by
  rcases hMark with rfl | rfl
  · constructor
    · exact Or.inl rfl
    · exact fun _ => rfl
    · rfl
    · simp [comma]
  · constructor
    · exact Or.inr rfl
    · exact fun _ => rfl
    · rfl
    · simp [comma]

theorem isClear_textListing (language : Language) :
    language.textListing.IsClear := by
  have hMark := language.isMark_quotationMark
  cases language with
  | javaScript => exact isClear_brackets hMark
  | typeScript => exact isClear_brackets hMark
  | python => exact isClear_brackets hMark
  | java =>
      constructor
      · exact hMark
      · exact fun _ => rfl
      · rfl
      · simp [textListing, comma]

theorem isClear_fileListing (language : Language) :
    language.fileListing.IsClear := by
  have hText := language.isClear_textListing
  cases language with
  | javaScript => exact hText
  | typeScript => exact hText
  | python => exact hText
  | java =>
      constructor
      · exact hText.mark
      · exact fun _ => rfl
      · rfl
      · simp [fileListing, comma]

/- A list is written as the language writes lists. -/
theorem list_eq_row
    (language : Language)
    (items : List String) :
    language.dialect.list items =
      language.textListing.row items := by
  have hItem :
      language.textListing.item = language.dialect.quote := by
    funext s
    cases language <;> exact Listing.item_eq_write rfl rfl s
  unfold Dialect.list Listing.row
  rw [hItem]
  cases language <;> rfl

/- So is a list of files, unless a single one stands alone. -/
theorem files_eq_row_or_item
    (language : Language)
    (names : List String) :
    language.dialect.files names =
        language.fileListing.row names ∨
      ∃ name,
        names = [name] ∧
          language.dialect.files names =
            language.fileListing.item name := by
  have hItem :
      language.fileListing.item = language.dialect.file := by
    funext name
    cases language <;> rfl
  have hRow :
      language.dialect.filesOpen ++
            Dialect.commas
              (names.map language.dialect.file) ++
          language.dialect.filesClose =
        language.fileListing.row names := by
    unfold Listing.row
    rw [hItem]
    cases language <;> rfl
  unfold Dialect.files
  split
  · rename_i name
    right
    exact ⟨name, rfl, congrFun hItem.symm name⟩
  · left
    exact hRow

theorem readFiles_files
    (language : Language)
    (names : List String) :
    language.fileListing.readFiles
        (language.dialect.files names) =
      some names := by
  have hClear := language.isClear_fileListing
  rcases language.files_eq_row_or_item names with
    hRow | ⟨name, rfl, hItem⟩
  · rw [hRow]
    exact Listing.readFiles_row hClear names
  · rw [hItem]
    exact Listing.readFiles_item hClear name

/-
  A text is written as exactly one literal of the language: it
  is read back as the text, and no shorter front of it is a
  literal. The literal has no raw break in it and no Unicode
  escape. Lists of texts and of files are read back item by
  item.
-/
theorem read_quote
    (language : Language)
    (s : String)
    (items : List String) :
    Quoted.read language.quotationMark
          (language.dialect.quote s).toList =
        some s.toList ∧
      (∀ n : Fin (language.dialect.quote s).toList.length,
        Quoted.readFront language.quotationMark
            ((language.dialect.quote s).toList.take n) =
          none) ∧
      Avoids isBreak (language.dialect.quote s) ∧
      ¬ HasUnicodeEscape
          (Language.java.dialect.quote s).toList ∧
      language.textListing.read
          (language.dialect.list items) = some items ∧
      language.fileListing.readFiles
          (language.dialect.files items) = some items := by
  have hMark := language.isMark_quotationMark
  have hWritten :
      (language.dialect.quote s).toList =
        Quoted.writeChars language.quotationMark s.toList := by
    unfold Dialect.quote Quoted.write
    rw [mark_dialect, String.toList_ofList]
  refine ⟨?_, ?_, ?_, ?_, ?_, ?_⟩
  · have hFront :=
      Quoted.readFront_writeChars hMark s.toList []
    rw [List.append_nil, ← hWritten] at hFront
    unfold Quoted.read
    rw [hFront]
  · intro n
    have hParts :=
      List.take_append_drop n
        (language.dialect.quote s).toList
    apply Quoted.readFront_eq_none hMark
    · exact hWritten.symm.trans hParts.symm
    · rw [Ne, List.drop_eq_nil_iff, not_le]
      exact n.isLt
  · unfold Dialect.quote
    rw [mark_dialect]
    exact Quoted.avoids_isBreak_write hMark s
  · apply not_hasUnicodeEscape_of_scan
    exact settled_write Language.java.isMark_quotationMark s
  · rw [list_eq_row]
    exact Listing.read_row language.isClear_textListing items
  · exact language.readFiles_files items

end Language

end Clickstream
