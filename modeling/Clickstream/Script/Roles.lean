/-
  The roles that test frameworks can look for by name. They
  are the roles of WAI-ARIA.

  Key definitions:
    * `Script.knownRoles`
-/

namespace Clickstream

namespace Script

/- The roles an element can be looked for by. -/
def knownRoles : List String :=
  ["alert", "alertdialog", "application", "article", "banner",
    "blockquote", "button", "caption", "cell", "checkbox",
    "code", "columnheader", "combobox", "complementary",
    "contentinfo", "definition", "deletion", "dialog",
    "directory", "document", "emphasis", "feed", "figure",
    "form", "generic", "grid", "gridcell", "group", "heading",
    "img", "insertion", "link", "list", "listbox", "listitem",
    "log", "main", "marquee", "math", "meter", "menu",
    "menubar", "menuitem", "menuitemcheckbox",
    "menuitemradio", "navigation", "none", "note", "option",
    "paragraph", "presentation", "progressbar", "radio",
    "radiogroup", "region", "row", "rowgroup", "rowheader",
    "scrollbar", "search", "searchbox", "separator", "slider",
    "spinbutton", "status", "strong", "subscript",
    "superscript", "switch", "tab", "table", "tablist",
    "tabpanel", "term", "textbox", "time", "timer", "toolbar",
    "tooltip", "tree", "treegrid", "treeitem"]

end Script

end Clickstream
