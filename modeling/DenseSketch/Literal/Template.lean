import DenseSketch.Literal.Escape

/-!
# Templates

A template is a text with places to be filled in.  A place stands in braces: an expression, perhaps
an equality sign that shows it, perhaps a conversion and perhaps a format, which is a template
again, one level deeper.  Doubled braces stand for themselves on the outermost level.  The reader
finds the expressions and leaves them to be read as such.
-/

namespace DenseSketch.Literal.Template

/-! ### Between the places -/

/-- What ends a stretch of text between places. -/
inductive Ending where
  /-- A doubled brace, behind which the text goes on. -/
  | doubled
  /-- A single brace, which is left to be read, or the end. -/
  | single
  deriving DecidableEq

def isBrace (c : Char) : Bool := c == '\x7b' || c == '\x7d'

/-- A stretch of text up to a brace, how it ends, and what follows.  Where `escapes` is set, the
    braces around the name of a character belong to the text.  `level` is the depth of the
    format. -/
def stretch (escapes : Bool) (level : Nat) : List Char → Option (List Char × Ending × List Char)
  | [] => some ([], .single, [])
  | c :: rest =>
    let more (taken : List Char) (found : Option (List Char × Ending × List Char)) :=
      found.map fun f => (taken ++ f.1, f.2)
    if escapes && c == '\\' && !rest.isEmpty then
      match rest with
      | 'N' :: '\x7b' :: named =>
        let name := named.takeWhile (· != '\x7d')
        more ('\\' :: 'N' :: '\x7b' :: named.take (name.length + 1))
          (stretch escapes level (named.drop (name.length + 1)))
      | d :: behind =>
        if isBrace d then more [c] (stretch escapes level (d :: behind))
        else more [c, d] (stretch escapes level behind)
      | [] => none
    else if isBrace c then
      if level = 0 && rest.head? == some c then some ([c], .doubled, rest.drop 1)
      else if level = 0 && c == '\x7d' then none
      else some ([], .single, c :: rest)
    else more [c] (stretch escapes level rest)
termination_by cs => cs.length

/-! ### The expression of a place -/

/-- Where a reader stands within an expression: in a quoted text, with one quote or three, or in the
    brackets that are open, the innermost first. -/
structure Position where
  quote : Option (Char × Bool) := none
  brackets : List Char := []

def maxBrackets : Nat := 200

def closing (c : Char) : Char :=
  if c == '(' then ')' else if c == '[' then ']' else '\x7d'

/-- Do these characters form a comparison that does not end the expression? -/
def isComparison (c : Char) (rest : List Char) : Bool :=
  "!=<>".toList.contains c && rest.head? == some '='

/-- The characters of an expression up to the sign that ends it, and what follows from that sign on.
    No backslash and no comment may stand in it. -/
def expression (position : Position) : List Char → Option (List Char × List Char)
  | [] => none
  | c :: rest =>
    let more (taken : List Char) (found : Option (List Char × List Char)) :=
      found.map fun f => (taken ++ f.1, f.2)
    if c == '\\' then none
    else
      match position.quote with
      | some (quote, isTriple) =>
        if c != quote then more [c] (expression position rest)
        else if !isTriple then more [c] (expression { position with quote := none } rest)
        else if rest.take 2 == [quote, quote] then
          more [c, c, c] (expression { position with quote := none } (rest.drop 2))
        else more [c] (expression position rest)
      | none =>
        if c == '\'' || c == '"' then
          if rest.take 2 == [c, c] then
            more [c, c, c] (expression { position with quote := some (c, true) } (rest.drop 2))
          else more [c] (expression { position with quote := some (c, false) } rest)
        else if "([\x7b".toList.contains c then
          if position.brackets.length < maxBrackets then
            more [c] (expression { position with brackets := c :: position.brackets } rest)
          else none
        else if c == '#' then none
        else
          match position.brackets with
          | [] =>
            if isComparison c rest then more [c, '='] (expression position (rest.drop 1))
            else if "!:\x7d=".toList.contains c then some ([], c :: rest)
            else if ")]".toList.contains c then none
            else more [c] (expression position rest)
          | opened :: outer =>
            if ")]\x7d".toList.contains c then
              if closing opened == c then
                more [c] (expression { position with brackets := outer } rest)
              else none
            else more [c] (expression position rest)
termination_by cs => cs.length

def isBlank (c : Char) : Bool := c == ' ' || c == '\t' || c == '\n' || c == '\x0c'

def behindEquality : List Char → List Char
  | '=' :: rest => rest.dropWhile fun c => isBlank c || c == '\x0b' || c == '\r'
  | cs => cs

/-- What follows a conversion; none if there is no conversion of that letter. -/
def behindConversion? : List Char → Option (List Char)
  | '!' :: c :: rest => if "sra".toList.contains c then some rest else none
  | ['!'] => none
  | cs => some cs

/-! ### Places -/

mutual

/-- The expressions of all places from here on, and what follows a template at the end of its
    level. -/
def placesWithin (escapes : Bool) : Nat → Nat → List Char → Option (List String × List Char)
  | 0, _, _ => none
  | fuel + 1, level, cs => do
    let (between, ending, rest) ← stretch escapes level cs
    if escapes && (Escape.resolve? false between).isNone then none
    match ending, rest with
    | .doubled, rest => placesWithin escapes fuel level rest
    | .single, '\x7b' :: rest => do
      let (first, rest) ← place escapes fuel level rest
      let (more, rest) ← placesWithin escapes fuel level rest
      return (first ++ more, rest)
    | .single, rest => return ([], rest)

/-- The expression of a place and those in its format, from behind the brace. -/
def place (escapes : Bool) : Nat → Nat → List Char → Option (List String × List Char)
  | 0, _, _ => none
  | fuel + 1, level, cs => do
    if level ≥ 2 then none
    let (own, rest) ← expression {} cs
    if own.all isBlank then none
    let rest ← behindConversion? (behindEquality rest)
    let (inner, rest) ← match rest with
      | ':' :: rest => placesWithin escapes fuel (level + 1) rest
      | rest => some ([], rest)
    match rest with
    | '\x7d' :: rest => return (String.ofList own :: inner, rest)
    | _ => none

end

/-- The expressions of all places of a template; none if it is malformed. -/
def places? (escapes : Bool) (body : List Char) : Option (List String) := do
  let (found, rest) ← placesWithin escapes (2 * body.length + 2) 0 body
  if rest.isEmpty then some found else none

end DenseSketch.Literal.Template
