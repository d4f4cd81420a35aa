import Clickstream.Text.Ascii
import Clickstream.Action.Basic

/-
  Keys in words, for the titles of steps, and as chords, for
  the calls that press them.

  Key definitions:
    * `Keys.shortcutName?`, `Keys.keyName`
    * `Keys.describe`
    * `Keys.chord`
-/

namespace Clickstream

namespace Keys

------------------------------------------------------------
-- Wording
------------------------------------------------------------

/- What a key does together with a shortcut key. -/
def shortcutName? (key : String) : Option String :=
  match Text.lower key with
  | "c" => some "Copy"
  | "v" => some "Paste"
  | "x" => some "Cut"
  | "a" => some "Select All"
  | _ => none

/- The name of a key; a key without one names itself. -/
def keyName (key : String) : String :=
  match Text.lower key with
  | "enter" => "Enter"
  | "escape" => "Escape"
  | "tab" => "Tab"
  | "arrowup" => "Up Arrow"
  | "arrowdown" => "Down Arrow"
  | "arrowleft" => "Left Arrow"
  | "arrowright" => "Right Arrow"
  | _ => key

/- The modifiers in words, each followed by a plus sign. -/
def held (m : Modifiers) : String :=
  (if m.alt then "Alt+" else "") ++
    (if m.shift then "Shift+" else "") ++
    (if m.shortcut then "Ctrl+" else "")

/- A key press in words. -/
def describe
    (key : String)
    (m : Modifiers) : String :=
  let pressed := "Press " ++ held m ++ keyName key
  if m.shortcut then (shortcutName? key).getD pressed
  else pressed

------------------------------------------------------------
-- Chords
------------------------------------------------------------

/- A key press as a chord: modifiers, then the key. -/
def chord
    (key : String)
    (m : Modifiers) : String :=
  String.intercalate "+"
    ((if m.ctrl then ["Control"] else []) ++
      (if m.metaKey then ["Meta"] else []) ++
      (if m.alt then ["Alt"] else []) ++
      (if m.shift then ["Shift"] else []) ++ [key])

end Keys

end Clickstream
