import Flowline.Text

/-!
# Lines of the generated script

A script is a list of lines, each with its depth.  Comments are lines of their own kind: their text is
kept on one line.
-/

namespace Flowline.Script

inductive Line
  | blank
  | code (depth : Nat) (text : String)
  | comment (depth : Nat) (text : String)

namespace Line

/-- One level deeper. -/
def deeper : Line → Line
  | blank => blank
  | code depth text => code (depth + 1) text
  | comment depth text => comment (depth + 1) text

/-- Two spaces a level. -/
def indentation (depth : Nat) : String := String.join (List.replicate depth "  ")

/-- The text of a line, without the line feed after it.  A blank line is never indented. -/
def render : Line → String
  | blank => ""
  | code depth text => indentation depth ++ text
  | comment depth text => indentation depth ++ "// " ++ Text.flatten text

end Line

/-- A line of code at depth zero. -/
def line (text : String) : Line := .code 0 text

def indent (lines : List Line) : List Line := lines.map Line.deeper

/-- An opening line, lines one level deeper, and a closing line. -/
def block (opening : String) (body : List Line) (closing : String) : List Line :=
  line opening :: (indent body ++ [line closing])

/-- The text of a script: every line is ended by a line feed. -/
def renderLines (lines : List Line) : String := String.join (lines.map fun l => l.render ++ "\n")

end Flowline.Script
