import DenseSketch.Text.Basic

/-!
# Lines of code

Code is a list of lines, each with a depth of indentation; a blank line has none.
-/

namespace DenseSketch

inductive Line where
  | blank
  | code (depth : Nat) (text : String)
  deriving DecidableEq, Repr

namespace Line

/-- The line as it is written: two blanks for each level of depth. -/
def render : Line → String
  | .blank => ""
  | .code depth text => String.ofList (List.replicate (2 * depth) ' ') ++ text

def deeper : Line → Line
  | .blank => .blank
  | .code depth text => .code (depth + 1) text

end Line

abbrev Code := List Line

namespace Code

def ofTexts (lines : List String) : Code := lines.map (.code 0)

def line (text : String) : Code := [.code 0 text]

def blank : Code := [.blank]

/-- A head, a body one level deeper in braces, and perhaps more behind the closing brace. -/
def block (head : String) (body : Code) (tail : String) : Code :=
  .code 0 (head ++ " \x7b") :: body.map Line.deeper ++ [.code 0 ("\x7d" ++ tail)]

def render (code : Code) : String := Text.unlines (code.map Line.render)

end Code

end DenseSketch
