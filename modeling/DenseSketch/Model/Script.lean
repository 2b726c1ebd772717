import DenseSketch.Literal.Reader

/-!
# Scripts

A model file that is a text consists of statements, one a line.  Those that are known are
expressions, imports of whole modules, assignments of an expression to names, and names with a type;
a text with any other is no script.  The whole text is read before the first statement is carried
out, and all that a statement leaves behind is the name that it binds.
-/

namespace DenseSketch

open Literal (Token)

structure Statement where
  /-- The names whose values it needs, as far as they are certain to be asked for. -/
  uses : List String
  value : Option Literal.Expression
  binds : List String

namespace Statement

/-- The words behind which a name need not have a value. -/
def escapes : List String := ["and", "or", "if", "else", "lambda", "for", "await", "yield"]

/-- The names whose values some tokens need.  Names of members and of arguments are none. -/
def namesIn : List Token → List String
  | [] => []
  | .punctuation "." :: .name _ :: rest => namesIn rest
  | .name _ :: .punctuation "=" :: rest => namesIn rest
  | .name name :: rest => name :: namesIn rest
  | .keyword word :: rest => if escapes.contains word then [] else namesIn rest
  | _ :: rest => namesIn rest

/-- Do the tokens hold names that they bind themselves? -/
def bindsWithin (ts : List Token) : Bool :=
  ts.any fun
    | .keyword word => word == "for" || word == "lambda"
    | .punctuation mark => mark == ":="
    | _ => false

/-- The names in front of equality signs, and the tokens behind them. -/
def assigned : List Token → List String × List Token
  | .name name :: .punctuation "=" :: rest =>
    let (names, rest) := assigned rest
    (name :: names, rest)
  | ts => ([], ts)

def ofExpression (ts : List Token) (binds : List String) : Except Fault Statement := do
  return {
    uses := if bindsWithin ts then [] else namesIn ts
    value := some (← Literal.readWithin Literal.templateLevels ts)
    binds := binds }

def ofTokens : List Token → Except Fault Statement
  | [] | [.keyword "pass"] => .ok ⟨[], none, []⟩
  | [.keyword "import", .name name] => .ok ⟨[], none, [name]⟩
  | .name _ :: .punctuation ":" :: type => ofExpression type []
  | ts => ofExpression (assigned ts).2 (assigned ts).1

/-- The names that have a value before anything binds them. -/
def knownNames : List String :=
  ["ArithmeticError", "AssertionError", "AttributeError", "BaseException", "EOFError", "Ellipsis",
    "Exception", "ImportError", "IndentationError", "IndexError", "KeyError", "KeyboardInterrupt",
    "LookupError", "MemoryError", "NameError", "NotImplemented", "NotImplementedError", "OSError",
    "OverflowError", "RecursionError", "ReferenceError", "RuntimeError", "StopIteration",
    "SyntaxError", "SystemError", "SystemExit", "TabError", "TimeoutError", "TypeError",
    "UnicodeError", "UserWarning", "ValueError", "Warning", "ZeroDivisionError", "__build_class__",
    "__builtins__", "__cached__", "__debug__", "__doc__", "__file__", "__import__", "__loader__",
    "__name__", "__package__", "__spec__", "abs", "all", "any", "ascii", "bin", "bool", "bytearray",
    "bytes", "callable", "chr", "classmethod", "compile", "complex", "delattr", "dict", "dir",
    "divmod", "enumerate", "eval", "exec", "exit", "filter", "float", "format", "frozenset",
    "getattr", "globals", "hasattr", "hash", "help", "hex", "id", "input", "int", "isinstance",
    "issubclass", "iter", "len", "list", "locals", "map", "max", "memoryview", "min", "next",
    "object", "oct", "open", "ord", "pow", "print", "property", "quit", "range", "repr", "reversed",
    "round", "set", "setattr", "slice", "sorted", "staticmethod", "str", "sum", "super", "tuple",
    "type", "vars", "zip"]

def run (bound : List String) (s : Statement) : Except Fault (List String) :=
  if !s.uses.all fun name => bound.contains name || knownNames.contains name then
    .error .unboundName
  else
    match s.value.map Literal.Expression.value with
    | some (.error .wrongType) => .error .wrongType
    | _ => .ok (bound ++ s.binds)

end Statement

namespace Script

def linesOf : List Token → List (List Token)
  | [] => [[]]
  | .lineEnd :: rest => [] :: linesOf rest
  | t :: rest =>
    match linesOf rest with
    | line :: lines => (t :: line) :: lines
    | [] => [[t]]

/-- Does the line need indented ones behind it? -/
def isHeading : List Token → Bool
  | .keyword "class" :: .name _ :: .punctuation "(" :: rest =>
    match Literal.Expression.arguments (Literal.Expression.fuelFor rest.length) .plain rest with
    | some [.punctuation ":"] => true
    | _ => false
  | [.keyword "class", .name _, .punctuation ":"] => true
  | [.keyword "def", .name _, .punctuation "(", .punctuation ")", .punctuation ":"] => true
  | [.keyword "try", .punctuation ":"] => true
  | .keyword word :: rest =>
    (word == "if" || word == "while") && isCondition rest
  | _ => false
where
  /-- Are the tokens an expression and a colon? -/
  isCondition (ts : List Token) : Bool :=
    match Literal.Expression.expression (Literal.Expression.fuelFor ts.length) ts with
    | some (_, [.punctuation ":"]) => true
    | _ => false

def statements : List (List Token) → Except Fault (List Statement)
  | [] => .ok []
  | [.indentation] :: _ => .error .malformedIndentation
  | line :: rest => do
    if isHeading line && !((rest.find? (!·.isEmpty)).getD []).any isIndentation then
      throw .malformedIndentation
    return (← Statement.ofTokens line) :: (← statements rest)
where
  /-- Is the token one of a line that is indented? -/
  isIndentation : Token → Bool
    | .indentation => true
    | _ => false

/-- The text with the end of its last line, and without a mark of its byte order. -/
def completed (s : String) : String :=
  let cs := match s.toList with
    | '\ufeff' :: rest => rest
    | cs => cs
  String.ofList (if cs.getLast? == some '\n' then cs else cs ++ ['\n'])

/-- The names that a script binds, each one once for every statement that binds it. -/
def boundNames (s : String) : Except Fault (List String) := do
  if !Text.isEncodable s then throw .unencodable
  if s.toList.contains '\x00' then throw .badValue
  match Token.ofText (completed s) with
  | none => throw .malformedSource
  | some ts => (← statements (linesOf ts)).foldlM Statement.run []

end Script

end DenseSketch
