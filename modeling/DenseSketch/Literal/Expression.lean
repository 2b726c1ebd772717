import DenseSketch.Literal.Token

/-!
# Expressions

A literal is an expression made of values, brackets and signs only.  The reader knows all other
expressions too, so that a text that is no literal can be told from one that is no expression; of
those others it keeps nothing.

Binary operators have ten levels, `or` at level 0 and products at level 9.  Every step of the reader
uses fuel; `fuelFor` the number of tokens is enough.
-/

namespace DenseSketch.Literal

/-- An expression, as far as literals are made of it. -/
inductive Expression where
  | constant (v : Literal)
  | signed (negative : Bool) (operand : Expression)
  | sum (negative : Bool) (left right : Expression)
  | tuple (items : List Expression)
  | list (items : List Expression)
  | set (items : List Expression)
  | dictionary (entries : List (Expression × Expression))
  /-- The call that makes an empty set. -/
  | emptySet
  | named (name : String)
  /-- Any other expression. -/
  | composite
  deriving Inhabited

namespace Expression

def behind (mark : String) : List Token → Option (List Token)
  | .punctuation m :: rest => if m == mark then some rest else none
  | _ => none

def behindWord (word : String) : List Token → Option (List Token)
  | .keyword w :: rest => if w == word then some rest else none
  | _ => none

def isNext (mark : String) (ts : List Token) : Bool := (behind mark ts).isSome

def isWordNext (word : String) (ts : List Token) : Bool := (behindWord word ts).isSome

def isEnd : Token → Bool
  | .punctuation m => Token.closings.contains m
  | _ => false

inductive Form where
  | plain
  /-- Spread out with a star. -/
  | spread
  /-- Given a name on the way. -/
  | assigned
  deriving DecidableEq

/-- The kinds of arguments in the order in which they may stand. -/
inductive ArgumentKind where
  | plain
  | withName
  | spreadNames
  deriving DecidableEq

inductive ParameterPlace where
  /-- No parameter yet. -/
  | start
  /-- Behind a parameter: has a slash been met, and had a parameter a value of its own? -/
  | middle (hasSlash hasDefault : Bool)
  /-- Behind a star, where parameters are given by name: has one to follow? -/
  | byName (needsOne : Bool)
  /-- Behind two stars, where no parameter follows. -/
  | last

namespace ParameterPlace

def mayEnd : ParameterPlace → Bool
  | .byName needsOne => !needsOne
  | _ => true

/-- Behind one more name, perhaps with a value of its own.  In front of a star all names behind one
    with a value have one too. -/
def behindName (isDefault : Bool) : ParameterPlace → Option ParameterPlace
  | .start => some (.middle false isDefault)
  | .middle hasSlash hasDefault =>
    if hasDefault && !isDefault then none else some (.middle hasSlash isDefault)
  | .byName _ => some (.byName false)
  | .last => none

/-- Behind the slash, of which there is one at most, with a name in front of it. -/
def behindSlash : ParameterPlace → Option ParameterPlace
  | .middle false hasDefault => some (.middle true hasDefault)
  | _ => none

/-- Behind the star, of which there is one at most, with its name or without one. -/
def behindStar (isNamed : Bool) : ParameterPlace → Option ParameterPlace
  | .start | .middle .. => some (.byName (!isNamed))
  | _ => none

def behindStars (place : ParameterPlace) : Option ParameterPlace :=
  match place with
  | .last => none
  | place => if place.mayEnd then some .last else none

end ParameterPlace

/-- What a chain of members, calls and accesses ends in. -/
inductive ChainEnd where
  /-- Nothing but an atom. -/
  | atom
  /-- A member or an access, which can be given a value. -/
  | assignable
  | call
  deriving DecidableEq

def isLineEnd : Token → Bool
  | .lineEnd => true
  | _ => false

def startsComprehension (ts : List Token) : Bool := isWordNext "for" ts || isWordNext "async" ts

/-- Does anything but an argument without a name come next: the end, a star or a name with its
    value? -/
def startsNamedArgument : List Token → Bool
  | .name _ :: .punctuation "=" :: _ => true
  | .punctuation mark :: _ => [")", "*", "**"].contains mark
  | _ => false

/-! ### Operators -/

/-- The marks of the binary operators by level; `not` has level 2 to itself. -/
def operatorMarks : Nat → List String
  | 3 => ["<", ">", "==", "!=", "<=", ">="]
  | 4 => ["|"]
  | 5 => ["^"]
  | 6 => ["&"]
  | 7 => ["<<", ">>"]
  | 8 => ["+", "-"]
  | 9 => ["*", "/", "//", "%", "@"]
  | _ => []

def operandLevel : Nat := 10

def operator? (level : Nat) : List Token → Option (String × List Token)
  | .punctuation m :: rest => if (operatorMarks level).contains m then some (m, rest) else none
  | .keyword "or" :: rest => if level = 0 then some ("or", rest) else none
  | .keyword "and" :: rest => if level = 1 then some ("and", rest) else none
  | .keyword "in" :: rest => if level = 3 then some ("in", rest) else none
  | .keyword "not" :: .keyword "in" :: rest => if level = 3 then some ("not in", rest) else none
  | .keyword "is" :: .keyword "not" :: rest => if level = 3 then some ("is not", rest) else none
  | .keyword "is" :: rest => if level = 3 then some ("is", rest) else none
  | _ => none

def joined (operator : String) (left right : Expression) : Expression :=
  if operator == "+" then .sum false left right
  else if operator == "-" then .sum true left right
  else .composite

/-! ### Texts -/

def isText : Token → Bool
  | .text _ | .bytes _ | .template _ => true
  | _ => false

def bytesOf? : Token → Option (List UInt8)
  | .bytes values => some values
  | _ => none

def textOf? : Token → Option String
  | .text s => some s
  | _ => none

/-- Neighbouring texts as one expression: all of them bytes, or none. -/
def adjacent (ts : List Token) : Option Expression :=
  match ts.mapM bytesOf?, ts.mapM textOf? with
  | some parts, _ => some (.constant (.bytes parts.flatten))
  | none, some parts => some (.constant (.text (String.join parts)))
  | none, none => if ts.any fun t => (bytesOf? t).isSome then none else some .composite

/-! ### Reading -/

mutual

/-- An expression: an operation, one with an alternative, or a function. -/
def expression : Nat → List Token → Option (Expression × List Token)
  | 0, _ => none
  | fuel + 1, .keyword "lambda" :: rest => do
    let rest ← parameters fuel .start rest
    let (_, rest) ← expression fuel rest
    some (.composite, rest)
  | fuel + 1, ts => do
    let (first, rest) ← operation fuel 0 ts
    match behindWord "if" rest with
    | none => some (first, rest)
    | some rest => do
      let (_, rest) ← operation fuel 0 rest
      let (_, rest) ← expression fuel (← behindWord "else" rest)
      some (.composite, rest)

def parameters : Nat → ParameterPlace → List Token → Option (List Token)
  | 0, _, _ => none
  | _ + 1, place, .punctuation ":" :: rest => if place.mayEnd then some rest else none
  | fuel + 1, place, .name _ :: .punctuation "=" :: rest => do
    let (_, rest) ← expression fuel rest
    furtherParameters fuel (← place.behindName true) rest
  | fuel + 1, place, .name _ :: rest => do
    furtherParameters fuel (← place.behindName false) rest
  | fuel + 1, place, .punctuation "/" :: rest => do
    furtherParameters fuel (← place.behindSlash) rest
  | fuel + 1, place, .punctuation "*" :: .name _ :: rest => do
    furtherParameters fuel (← place.behindStar true) rest
  | fuel + 1, place, .punctuation "*" :: rest => do
    let _ ← behind "," rest
    furtherParameters fuel (← place.behindStar false) rest
  | fuel + 1, place, .punctuation "**" :: .name _ :: rest => do
    furtherParameters fuel (← place.behindStars) rest
  | _ + 1, _, _ => none

/-- The end of the parameters, or more of them behind a comma. -/
def furtherParameters : Nat → ParameterPlace → List Token → Option (List Token)
  | 0, _, _ => none
  | _ + 1, place, .punctuation ":" :: rest => if place.mayEnd then some rest else none
  | fuel + 1, place, .punctuation "," :: rest => parameters fuel place rest
  | _ + 1, _, _ => none

/-- Operands and operators of a level and those above it. -/
def operation : Nat → Nat → List Token → Option (Expression × List Token)
  | 0, _, _ => none
  | fuel + 1, level, ts =>
    if level ≥ operandLevel then operand fuel ts
    else if level = 2 then
      match behindWord "not" ts with
      | some rest => (operation fuel level rest).map fun found => (.composite, found.2)
      | none => operation fuel (level + 1) ts
    else do
      let (first, rest) ← operation fuel (level + 1) ts
      furtherOperands fuel level first rest

def furtherOperands : Nat → Nat → Expression → List Token → Option (Expression × List Token)
  | 0, _, _, _ => none
  | fuel + 1, level, left, ts =>
    match operator? level ts with
    | none => some (left, ts)
    | some (operator, rest) => do
      let (right, rest) ← operation fuel (level + 1) rest
      furtherOperands fuel level (joined operator left right) rest

def operand : Nat → List Token → Option (Expression × List Token)
  | 0, _ => none
  | fuel + 1, .punctuation "-" :: rest =>
    (operand fuel rest).map fun found => (.signed true found.1, found.2)
  | fuel + 1, .punctuation "+" :: rest =>
    (operand fuel rest).map fun found => (.signed false found.1, found.2)
  | fuel + 1, .punctuation "~" :: rest =>
    (operand fuel rest).map fun found => (.composite, found.2)
  | fuel + 1, .keyword "await" :: rest => do
    let (_, rest) ← primary fuel rest
    powerOf fuel .composite rest
  | fuel + 1, ts => do
    let (base, rest) ← primary fuel ts
    powerOf fuel base rest

/-- The base itself, or its power if an exponent follows. -/
def powerOf : Nat → Expression → List Token → Option (Expression × List Token)
  | 0, _, _ => none
  | fuel + 1, base, ts =>
    match behind "**" ts with
    | some rest => (operand fuel rest).map fun found => (.composite, found.2)
    | none => some (base, ts)

/-- An atom with members, calls and accesses. -/
def primary : Nat → List Token → Option (Expression × List Token)
  | 0, _ => none
  | fuel + 1, ts => do
    let (first, rest) ← atom fuel ts
    let (found, _, rest) ← trailers fuel first .atom rest
    some (found, rest)

def trailers :
    Nat → Expression → ChainEnd → List Token → Option (Expression × ChainEnd × List Token)
  | 0, _, _, _ => none
  | fuel + 1, .named "set", _, .punctuation "(" :: .punctuation ")" :: rest =>
    trailers fuel .emptySet .call rest
  | fuel + 1, _, _, .punctuation "." :: .name _ :: rest => trailers fuel .composite .assignable rest
  | _ + 1, _, _, .punctuation "." :: _ => none
  | fuel + 1, _, _, .punctuation "(" :: rest => do
    trailers fuel .composite .call (← callBody fuel rest)
  | fuel + 1, _, _, .punctuation "[" :: rest => do
    trailers fuel .composite .assignable (← places fuel rest)
  | _ + 1, e, chainEnd, ts => some (e, chainEnd, ts)

def atom : Nat → List Token → Option (Expression × List Token)
  | 0, _ => none
  | _ + 1, .constant v :: rest => some (.constant v, rest)
  | _ + 1, .name s :: rest => some (.named s, rest)
  | _ + 1, .punctuation "..." :: rest => some (.constant .ellipsis, rest)
  | _ + 1, .punctuation "(" :: .punctuation ")" :: rest => some (.tuple [], rest)
  | fuel + 1, .punctuation "(" :: .keyword "yield" :: rest => do
    let rest ← match behindWord "from" rest with
      | some rest => (expression fuel rest).map (·.2)
      | none => if isNext ")" rest then some rest else results fuel rest
    some (.composite, ← behind ")" rest)
  | fuel + 1, .punctuation "(" :: rest => do
    let (first, rest) ← element fuel rest
    if startsComprehension rest then
      if first.1 = .spread then none
      some (.composite, ← behind ")" (← comprehension fuel rest))
    else if isNext "," rest then do
      let (more, rest) ← furtherItems fuel rest
      some (.tuple (first.2 :: more), ← behind ")" rest)
    else if first.1 = .spread then none
    else some (first.2, ← behind ")" rest)
  | _ + 1, .punctuation "[" :: .punctuation "]" :: rest => some (.list [], rest)
  | fuel + 1, .punctuation "[" :: rest => do
    let (first, rest) ← element fuel rest
    if startsComprehension rest then
      if first.1 = .spread then none
      some (.composite, ← behind "]" (← comprehension fuel rest))
    else do
      let (more, rest) ← furtherItems fuel rest
      some (.list (first.2 :: more), ← behind "]" rest)
  | _ + 1, .punctuation "\x7b" :: .punctuation "\x7d" :: rest => some (.dictionary [], rest)
  | fuel + 1, .punctuation "\x7b" :: rest => braced fuel rest
  | _ + 1, t :: rest =>
    if isText t then do
      let texts := (t :: rest).takeWhile isText
      some (← adjacent texts, (t :: rest).drop texts.length)
    else none
  | _ + 1, [] => none

/-- One or more results with commas between them and perhaps one at the end; a star spreads one. -/
def results : Nat → List Token → Option (List Token)
  | 0, _ => none
  | fuel + 1, ts => do
    let rest ← match behind "*" ts with
      | some rest => (operation fuel 4 rest).map (·.2)
      | none => (expression fuel ts).map (·.2)
    match behind "," rest with
    | none => some rest
    | some rest => if rest.head?.any isEnd then some rest else results fuel rest

/-- A set or a dictionary from behind its brace, with at least one item. -/
def braced : Nat → List Token → Option (Expression × List Token)
  | 0, _ => none
  | fuel + 1, .punctuation "**" :: rest => do
    let (_, rest) ← operation fuel 4 rest
    let (more, rest) ← furtherEntries fuel rest
    some (.dictionary ((.composite, .composite) :: more), ← behind "\x7d" rest)
  | fuel + 1, ts => do
    let (first, rest) ← element fuel ts
    match behind ":" rest with
    | some rest => do
      if first.1 ≠ .plain then none
      let (value, rest) ← expression fuel rest
      if startsComprehension rest then
        some (.composite, ← behind "\x7d" (← comprehension fuel rest))
      else do
        let (more, rest) ← furtherEntries fuel rest
        some (.dictionary ((first.2, value) :: more), ← behind "\x7d" rest)
    | none =>
      if startsComprehension rest then
        if first.1 = .spread then none
        some (.composite, ← behind "\x7d" (← comprehension fuel rest))
      else do
        let (more, rest) ← furtherItems fuel rest
        some (.set (first.2 :: more), ← behind "\x7d" rest)

def furtherEntries : Nat → List Token → Option (List (Expression × Expression) × List Token)
  | 0, _ => none
  | fuel + 1, ts =>
    match behind "," ts with
    | none => some ([], ts)
    | some rest =>
      if isNext "\x7d" rest then some ([], rest)
      else
        match behind "**" rest with
        | some rest => do
          let (_, rest) ← operation fuel 4 rest
          let (more, rest) ← furtherEntries fuel rest
          some ((.composite, .composite) :: more, rest)
        | none => do
          let (key, rest) ← expression fuel rest
          let (value, rest) ← expression fuel (← behind ":" rest)
          let (more, rest) ← furtherEntries fuel rest
          some ((key, value) :: more, rest)

def element : Nat → List Token → Option ((Form × Expression) × List Token)
  | 0, _ => none
  | fuel + 1, .punctuation "*" :: rest =>
    (operation fuel 4 rest).map fun found => ((.spread, .composite), found.2)
  | fuel + 1, .name _ :: .punctuation ":=" :: rest =>
    (expression fuel rest).map fun found => ((.assigned, .composite), found.2)
  | fuel + 1, ts => (expression fuel ts).map fun found => ((.plain, found.1), found.2)

def items : Nat → List Token → Option (List Expression × List Token)
  | 0, _ => none
  | fuel + 1, ts => do
    let (first, rest) ← element fuel ts
    let (more, rest) ← furtherItems fuel rest
    some (first.2 :: more, rest)

/-- More items, a comma before each and perhaps one at the end. -/
def furtherItems : Nat → List Token → Option (List Expression × List Token)
  | 0, _ => none
  | fuel + 1, ts =>
    match behind "," ts with
    | none => some ([], ts)
    | some [] => some ([], [])
    | some (t :: rest) =>
      if isEnd t then some ([], t :: rest) else items fuel (t :: rest)

def comprehension : Nat → List Token → Option (List Token)
  | 0, _ => none
  | fuel + 1, .keyword "async" :: .keyword "for" :: rest => clause fuel rest
  | fuel + 1, .keyword "for" :: rest => clause fuel rest
  | _ + 1, _ => none

/-- A clause from behind its first word, and more of them. -/
def clause : Nat → List Token → Option (List Token)
  | 0, _ => none
  | fuel + 1, ts => do
    let rest ← targets fuel ts
    let (_, rest) ← operation fuel 0 (← behindWord "in" rest)
    conditions fuel rest

def conditions : Nat → List Token → Option (List Token)
  | 0, _ => none
  | fuel + 1, .keyword "if" :: rest => do
    let (_, rest) ← operation fuel 0 rest
    conditions fuel rest
  | fuel + 1, ts => if startsComprehension ts then comprehension fuel ts else some ts

def targets : Nat → List Token → Option (List Token)
  | 0, _ => none
  | fuel + 1, ts => do
    let rest ← starredTarget fuel ts
    match behind "," rest with
    | none => some rest
    | some rest => some ((targets fuel rest).getD rest)

def starredTarget : Nat → List Token → Option (List Token)
  | 0, _ => none
  | fuel + 1, ts => target fuel ((behind "*" ts).getD ts)

/-- What a value can be given to: a member or an access, a name, or several targets in brackets. -/
def target : Nat → List Token → Option (List Token)
  | 0, _ => none
  | fuel + 1, ts =>
    match (atom fuel ts).bind fun found => trailers fuel found.1 .atom found.2 with
    | some (_, .assignable, rest) => some rest
    | _ =>
      match ts with
      | .name _ :: rest => some rest
      | .punctuation "(" :: rest => bracketedTarget fuel rest
      | .punctuation "[" :: .punctuation "]" :: rest => some rest
      | .punctuation "[" :: rest => do behind "]" (← targets fuel rest)
      | _ => none

/-- Targets from behind a round bracket, and the bracket that closes it: none, one without a star,
    or some with a comma. -/
def bracketedTarget : Nat → List Token → Option (List Token)
  | 0, _ => none
  | _ + 1, .punctuation ")" :: rest => some rest
  | fuel + 1, ts => do
    let rest ← starredTarget fuel ts
    match behind "," rest with
    | none => if isNext "*" ts then none else behind ")" rest
    | some rest => behind ")" ((targets fuel rest).getD rest)

/-- The arguments of a call and the bracket behind them.  An argument without a name does not follow
    one with a name, and a star does not follow two stars; `latest` is the latest kind so far. -/
def arguments : Nat → ArgumentKind → List Token → Option (List Token)
  | 0, _, _ => none
  | _ + 1, _, .punctuation ")" :: rest => some rest
  | fuel + 1, latest, .punctuation "*" :: rest => do
    if latest = .spreadNames then none
    let (_, rest) ← expression fuel rest
    furtherArguments fuel latest rest
  | fuel + 1, _, .punctuation "**" :: rest => do
    let (_, rest) ← expression fuel rest
    furtherArguments fuel .spreadNames rest
  | fuel + 1, latest, .name _ :: .punctuation "=" :: rest => do
    let (_, rest) ← expression fuel rest
    furtherArguments fuel (if latest = .spreadNames then latest else .withName) rest
  | fuel + 1, latest, ts => do
    if latest ≠ .plain then none
    let (_, rest) ← element fuel ts
    furtherArguments fuel latest rest

/-- The bracket behind the arguments, or more of them behind a comma. -/
def furtherArguments : Nat → ArgumentKind → List Token → Option (List Token)
  | 0, _, _ => none
  | fuel + 1, latest, .punctuation "," :: rest => arguments fuel latest rest
  | _ + 1, _, ts => behind ")" ts

/-- What a call holds between its brackets: arguments, or one comprehension. -/
def callBody : Nat → List Token → Option (List Token)
  | 0, _ => none
  | fuel + 1, ts =>
    if startsNamedArgument ts then arguments fuel .plain ts
    else do
      let (_, rest) ← element fuel ts
      if startsComprehension rest then behind ")" (← comprehension fuel rest)
      else furtherArguments fuel .plain rest

def places : Nat → List Token → Option (List Token)
  | 0, _ => none
  | fuel + 1, ts => do
    let rest ← place fuel ts
    match behind "," rest with
    | none => behind "]" rest
    | some rest => if isNext "]" rest then behind "]" rest else places fuel rest

/-- One place: an item, one that is spread out, or a range. -/
def place : Nat → List Token → Option (List Token)
  | 0, _ => none
  | fuel + 1, .punctuation ":" :: rest => rangeEnd fuel rest
  | fuel + 1, .punctuation "*" :: rest => (expression fuel rest).map (·.2)
  | fuel + 1, ts => do
    let (first, rest) ← element fuel ts
    match behind ":" rest with
    | some rest => if first.1 = .plain then rangeEnd fuel rest else none
    | none => some rest

def rangeEnd : Nat → List Token → Option (List Token)
  | 0, _ => none
  | fuel + 1, ts => do
    let rest ← bound fuel ts
    match behind ":" rest with
    | some rest => bound fuel rest
    | none => some rest

def bound : Nat → List Token → Option (List Token)
  | 0, _ => none
  | fuel + 1, ts =>
    if isNext ":" ts || isNext "," ts || isNext "]" ts then some ts
    else (expression fuel ts).map (·.2)

end

/-- How much fuel is enough for a number of tokens. -/
def fuelFor (count : Nat) : Nat := 40 * (count + 1)

/-- One or more expressions with commas between them and perhaps one at the end: a single one, or a
    tuple of them. -/
def expressions (ts : List Token) : Option (Expression × List Token) := do
  let fuel := fuelFor ts.length
  let (first, rest) ← expression fuel ts
  match behind "," rest with
  | none => some (first, rest)
  | some _ => do
    let (more, rest) ← bare fuel rest
    some (.tuple (first :: more), rest)
where
  /-- More expressions without brackets around them. -/
  bare : Nat → List Token → Option (List Expression × List Token)
    | 0, _ => none
    | fuel + 1, ts =>
      match behind "," ts with
      | none => some ([], ts)
      | some rest =>
        match expression (fuelFor rest.length) rest with
        | none => some ([], rest)
        | some (next, rest) => do
          let (more, rest) ← bare fuel rest
          some (next :: more, rest)

/-- The expression of a whole text.  Behind it stand ends of lines only; blanks at the start of a
    line are a fault of their own. -/
def whole (ts : List Token) : Except Fault Expression :=
  match ts with
  | [.indentation] => .error .malformedIndentation
  | ts =>
    match expressions ts with
    | none => .error .malformedSource
    | some (found, rest) =>
      match rest.dropWhile isLineEnd with
      | [] => .ok found
      | [.indentation] =>
        if rest.head?.any isLineEnd then .error .malformedIndentation else .error .malformedSource
      | _ => .error .malformedSource

end Expression

end DenseSketch.Literal
