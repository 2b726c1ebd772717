import DenseSketch.Literal.Basic
import DenseSketch.Literal.Template
import DenseSketch.Number.Format
import DenseSketch.Text.Identifier

/-!
# Tokens of literals

The text of a literal falls into tokens: numbers and texts with their values, names, keywords, marks
and, outside of brackets, ends of lines.  Blanks and comments separate tokens and are dropped.
-/

namespace DenseSketch.Literal

inductive Token where
  /-- A number, or one of the words that denote a value. -/
  | constant (v : Literal)
  | text (s : String)
  | bytes (values : List UInt8)
  /-- A text with places to be filled in, and the expressions in them. -/
  | template (places : List String)
  | name (s : String)
  | keyword (s : String)
  | punctuation (s : String)
  | lineEnd
  /-- Blanks at the start of a line outside of brackets; nothing is read behind them. -/
  | indentation
  deriving Repr

namespace Token

open Text

/-! ### Characters -/

/-- Can `c` stand in a word?  Outside of ASCII every character can; whether the word is one is seen
    when it ends. -/
def isWordCharacter (c : Char) : Bool :=
  c.isAlphanum || c == '_' || 0x80 ≤ c.toNat

def startsWord (c : Char) : Bool := isWordCharacter c && !isDigit c

/-- The words that name nothing. -/
def keywords : List String :=
  ["and", "as", "assert", "async", "await", "break", "class", "continue", "def", "del", "elif",
    "else", "except", "finally", "for", "from", "global", "if", "import", "in", "is", "lambda",
    "nonlocal", "not", "or", "pass", "raise", "return", "try", "while", "with", "yield"]

def ofWord (word : String) : Token :=
  if word == "None" then .constant .nothing
  else if word == "True" then .constant (.truth true)
  else if word == "False" then .constant (.truth false)
  else if keywords.contains word then .keyword word
  else .name word

/-! ### Numbers -/

/-- The digits of a base behind another digit, each one possibly after an underscore, and what
    follows. -/
def moreDigits (base : Nat) : List Char → List Nat × List Char
  | [] => ([], [])
  | '_' :: c :: rest =>
    match digitBelow? base c with
    | some d =>
      let tail := moreDigits base rest
      (d :: tail.1, tail.2)
    | none => ([], '_' :: c :: rest)
  | c :: rest =>
    match digitBelow? base c with
    | some d =>
      let tail := moreDigits base rest
      (d :: tail.1, tail.2)
    | none => ([], c :: rest)

def decimalDigits : List Char → List Nat × List Char
  | [] => ([], [])
  | c :: rest => if isDigit c then moreDigits 10 (c :: rest) else ([], c :: rest)

/-- The words that may follow a number without a blank. -/
def wordsAfterNumber : List String := ["and", "else", "for", "if", "in", "is", "not", "or"]

def endsNumber : List Char → Bool
  | [] => true
  | c :: rest =>
    !isWordCharacter c ||
      wordsAfterNumber.any fun word => word.toList.isPrefixOf (c :: rest)

def exponentOf : List Char → Option Int × List Char
  | mark :: rest =>
    if mark == 'e' || mark == 'E' then
      let (negative, body) : Bool × List Char := match rest with
        | '-' :: body => (true, body)
        | '+' :: body => (false, body)
        | body => (false, body)
      match decimalDigits body with
      | ([], _) => (none, mark :: rest)
      | (digits, after) =>
        let n : Int := (valueIn 10 digits : Nat)
        (some (if negative then -n else n), after)
    else (none, mark :: rest)
  | [] => (none, [])

def basedNumber (base : Nat) (cs : List Char) : Option (Literal × List Char) :=
  match moreDigits base cs with
  | ([], _) => none
  | (digits, rest) => some (.integer (valueIn base digits), rest)

/-- A decimal number: a real with a point or an exponent, imaginary with its mark. -/
def decimalNumber (cs : List Char) : Option (Literal × List Char) := do
  let (whole, rest) := decimalDigits cs
  let (hasPoint, fraction, rest) : Bool × List Nat × List Char := match rest with
    | '.' :: rest => (true, decimalDigits rest)
    | rest => (false, [], rest)
  let (exponent, rest) := exponentOf rest
  if whole.isEmpty && fraction.isEmpty then none
  else
    let double :=
      Format.binary64.ofDecimal false (valueIn 10 (whole ++ fraction))
        (exponent.getD 0 - fraction.length)
    match rest with
    | c :: rest' =>
      if c == 'j' || c == 'J' then return (.complex .zero double, rest')
    | [] => pure ()
    if hasPoint || exponent.isSome then return (.real double, rest)
    else if whole.all (· == 0) then return (.integer 0, rest)
    else if whole.head? == some 0 || whole.length > Numeral.maxIntegerDigits then none
    else return (.integer (valueIn 10 whole), rest)

def readNumber (cs : List Char) : Option (Literal × List Char) := do
  let (value, rest) ← match cs with
    | '0' :: mark :: rest =>
      if mark == 'x' || mark == 'X' then basedNumber 16 rest
      else if mark == 'o' || mark == 'O' then basedNumber 8 rest
      else if mark == 'b' || mark == 'B' then basedNumber 2 rest
      else decimalNumber cs
    | _ => decimalNumber cs
  if endsNumber rest then some (value, rest) else none

/-! ### Texts -/

/-- The characters up to the closing quotes, escapes as they stand, and what follows. -/
def quotedBody (quote : Char) (triple : Bool) : List Char → Option (List Char × List Char)
  | [] => none
  | '\\' :: c :: rest => do
    let (body, rest) ← quotedBody quote triple rest
    some ('\\' :: c :: body, rest)
  | c :: rest =>
    if triple && [quote, quote, quote].isPrefixOf (c :: rest) then some ([], rest.drop 2)
    else if !triple && c == quote then some ([], rest)
    else if !triple && c == '\n' then none
    else do
      let (body, rest) ← quotedBody quote triple rest
      some (c :: body, rest)

def quotePrefixes : List String := ["", "r", "u", "b", "br", "rb", "f", "fr", "rf"]

/-- A text from behind its letters, which are given in lower case. -/
def readQuoted (letters : String) (cs : List Char) : Option (Token × List Char) := do
  let quote ← cs.head?
  let triple := [quote, quote, quote].isPrefixOf cs
  let (body, rest) ← quotedBody quote triple (cs.drop (if triple then 3 else 1))
  let has (letter : Char) := letters.toList.contains letter
  let isBytes := has 'b'
  if isBytes && body.any fun c => c.toNat ≥ 0x80 then none
  else
    if has 'f' then return (.template (← Template.places? (!has 'r') body), rest)
    else do
      let value ← if has 'r' then some body else Escape.resolve? isBytes body
      if isBytes then return (.bytes (value.map fun c => UInt8.ofNat c.toNat), rest)
      else return (.text (String.ofList value), rest)

/-! ### Marks -/

/-- The marks, longer ones before those that they begin with. -/
def marks : List String :=
  ["...", "**=", "//=", ">>=", "<<=", "->", ":=", "==", "!=", "<=", ">=", "<<", ">>", "**", "//",
    "+=", "-=", "*=", "/=", "%=", "&=", "|=", "^=", "@=", "+", "-", "*", "/", "%", "@", "&", "|",
    "^", "~", "<", ">", "(", ")", "[", "]", "\x7b", "\x7d", ",", ":", ".", ";", "="]

def openings : List String := ["(", "[", "\x7b"]

def closings : List String := [")", "]", "\x7d"]

def maxDepth : Nat := 200

/-- The depth behind a mark; none below the outermost level and above the deepest. -/
def depthAfter (depth : Nat) (mark : String) : Option Nat :=
  if openings.contains mark then if depth < maxDepth then some (depth + 1) else none
  else if closings.contains mark then if depth = 0 then none else some (depth - 1)
  else some depth

/-! ### Splitting -/

/-- A word, or a text with letters in front of it, and what follows. -/
def readWord (cs : List Char) : Option (Token × List Char) :=
  let word := cs.takeWhile isWordCharacter
  let rest := cs.drop word.length
  let letters := String.ofList (word.map Char.toLower)
  if (rest.head? == some '\'' || rest.head? == some '"') && quotePrefixes.contains letters then
    readQuoted letters rest
  else if isIdentifier word then some (ofWord (String.ofList word), rest)
  else none

/-- The token at the start, which is no blank, and what follows. -/
def readToken (cs : List Char) : Option (Token × List Char) := do
  let c ← cs.head?
  if startsWord c then readWord cs
  else if c == '\'' || c == '"' then readQuoted "" cs
  else if isDigit c || (c == '.' && (cs[1]?.map isDigit).getD false) then do
    let (value, rest) ← readNumber cs
    some (.constant value, rest)
  else do
    let mark ← marks.find? fun m => m.toList.isPrefixOf cs
    some (.punctuation mark, cs.drop mark.length)

/-- What follows a line break behind a backslash, which does not end the text. -/
def continued? : List Char → Option (List Char)
  | '\n' :: c :: rest => some (c :: rest)
  | _ => none

/-- The start of a line outside of brackets: is it indented, and what follows the blanks?  A form
    feed starts the count anew, and a line that is continued is as far indented as at its first
    backslash, if it is so there. -/
def lineStart (isIndented isSettled : Bool) : List Char → Option (Bool × List Char)
  | [] => some (isSettled || isIndented, [])
  | c :: rest =>
    if c == ' ' || c == '\t' then lineStart true isSettled rest
    else if c == '\x0c' then lineStart false isSettled rest
    else if c == '\\' then
      match rest with
      | '\n' :: d :: behind => lineStart isIndented (isSettled || isIndented) (d :: behind)
      | _ => none
    else some (isSettled || isIndented, c :: rest)

/-- Splits a text at a depth of brackets, where a line may start.  Each step uses fuel; twice the
    length of the text and one are enough. -/
def split : Nat → Bool → Nat → List Char → Option (List Token)
  | 0, _, _, _ => none
  | fuel + 1, true, depth, cs => do
    match ← lineStart false false cs with
    | (isIndented, []) => return if isIndented then [.indentation] else []
    | (isIndented, c :: rest) =>
      if c == '\n' then split fuel true depth rest
      else if c == '#' then
        match rest.dropWhile (· != '\n') with
        | [] => return []
        | _ :: rest => split fuel true depth rest
      else if isIndented then return [.indentation]
      else split fuel false depth (c :: rest)
  | _ + 1, false, _, [] => some []
  | fuel + 1, false, depth, c :: rest =>
    if c == ' ' || c == '\t' || c == '\x0c' then split fuel false depth rest
    else if c == '#' then split fuel false depth (rest.dropWhile (· != '\n'))
    else if c == '\n' then
      if depth = 0 then (split fuel true depth rest).map (.lineEnd :: ·)
      else split fuel false depth rest
    else if c == '\\' then do split fuel false depth (← continued? rest)
    else do
      let (token, rest) ← readToken (c :: rest)
      let depth ← match token with
        | .punctuation mark => depthAfter depth mark
        | _ => some depth
      return token :: (← split fuel false depth rest)

def unifyBreaks : List Char → List Char
  | [] => []
  | '\r' :: '\n' :: rest => '\n' :: unifyBreaks rest
  | '\r' :: rest => '\n' :: unifyBreaks rest
  | c :: rest => c :: unifyBreaks rest

/-- The tokens of a text, up to the first line that is indented. -/
def ofText (s : String) : Option (List Token) :=
  let cs := unifyBreaks s.toList
  split (2 * cs.length + 2) true 0 cs

end Token

end DenseSketch.Literal
