namespace GuardErasure

/-!
# Outlines

An outline is a tree of headings.  It is drawn with one line for each heading, parents
before children, and with rules down the left that connect a heading to its parent:

* `Outline` — the trees;
* `Outline.rows` — the lines under one parent;
* `Outline.draw` — the whole drawing.
-/

/-- A heading, with an optional remark in parentheses, and the headings under it. -/
inductive Outline where
  | node (name : String) (remark : Option String) (under : List Outline)

namespace Outline

/-- The text of a heading. -/
def header (name : String) : Option String → String
  | some remark => name ++ " (" ++ remark ++ ")"
  | none => name

mutual

/-- The lines of a heading below the top and of all under it.  A heading that has a later
    sibling passes the rule on to what is under it. -/
def branch (columns : String) (last : Bool) : Outline → List String
  | node name remark under =>
    (columns ++ (if last then "└─ " else "├─ ") ++ header name remark) ::
      rows (columns ++ if last then "   " else "│  ") under

/-- The lines of the headings under one parent. -/
def rows (columns : String) : List Outline → List String
  | [] => []
  | t :: rest => branch columns rest.isEmpty t ++ rows columns rest

end

/-- The lines of an outline; those directly under the top start at the left margin. -/
def lines : Outline → List String
  | node name remark under => header name remark :: rows "" under

/-- The drawing of an outline: its lines, each ended by a line feed. -/
def draw (t : Outline) : String := String.join (t.lines.map (· ++ "\n"))

end Outline

end GuardErasure
