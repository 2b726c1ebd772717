import DenseSketch.Document.Display
import DenseSketch.Number.Numeral

/-!
# Options

A command line is read in two passes.  The first one classifies every argument: an option, perhaps
with a value attached to it, or a value.  An option may be shortened as long as only one name begins
like that; behind two dashes there are values only.  The second pass takes the options in order,
each with the value behind it.  Both programs read their arguments like this; the text of the help
that they print is left out.
-/

namespace DenseSketch.CommandLine

/-! ### Grammars -/

inductive Expects where
  /-- Nothing: the option is a switch. -/
  | nothing
  /-- Nothing: the option asks for help and ends the reading. -/
  | help
  | text
  | number
  | oneOf (choices : List String)
  deriving DecidableEq, Repr

/-- An option by its name with the dashes in front. -/
structure OptionRule where
  name : String
  expects : Expects
  deriving DecidableEq, Repr

structure Grammar where
  rules : List OptionRule
  /-- The options of which exactly one has to be given. -/
  alternatives : List String

inductive Stop where
  | help
  | misuse
  deriving DecidableEq, Repr

/-- The options that are given, in order, with their values. -/
abbrev Given := List (String × Document)

namespace Given

def latest? (given : Given) (name : String) : Option Document :=
  lookup? name given.reverse

def latestOr (given : Given) (name : String) (default : Document) : Document :=
  (given.latest? name).getD default

def values (given : Given) (name : String) : List Document :=
  (given.filter fun option => option.1 == name).map (·.2)

def text? (given : Given) (name : String) : Option String :=
  match given.latest? name with
  | some (.text s) => some s
  | _ => none

/-- The latest value of an option as a text; a list without items says as little as an empty
    text. -/
def textOrEmpty? (given : Given) (name : String) : Option String :=
  (given.latest? name).map fun value => if value.isTruthy then value.shown else ""

def has (given : Given) (name : String) : Bool := (given.latest? name).isSome

end Given

/-! ### Classifying -/

inductive Piece where
  | option (rule : OptionRule) (attached : Option String)
  /-- An option of one letter and more letters behind it. -/
  | letters (rule : OptionRule) (more : List Char)
  /-- It looks like an option and is none. -/
  | stranger
  | value (text : String)
  | separator
  deriving DecidableEq, Repr

/-- The argument behind which there are values only. -/
def separatorText : String := "--"

/-- Does the argument look like a negative number?  One line break may follow it. -/
def looksNegative (s : String) : Bool :=
  match s.toList with
  | '-' :: rest =>
    let body := if rest.getLast? == some '\n' then rest.dropLast else rest
    let fraction := body.dropWhile Text.isDigit
    match body, fraction with
    | _ :: _, [] => true
    | _, '.' :: c :: digits => (c :: digits).all Text.isDigit
    | _, _ => false
  | _ => false

namespace Grammar

def rule? (g : Grammar) (name : String) : Option OptionRule :=
  g.rules.find? (·.name == name)

def splitValue (argument : String) : String × Option String :=
  match argument.toList.span (· != '=') with
  | (name, _ :: value) => (String.ofList name, some (String.ofList value))
  | (_, []) => (argument, none)

/-- What an argument may be that starts with a dash and is no option by its full name: a shortened
    option behind two dashes, an option of one letter behind one. -/
def readings (g : Grammar) (argument : String) : List Piece :=
  if separatorText.isPrefixOf argument then
    let (name, attached) := splitValue argument
    (g.rules.filter fun r => name.isPrefixOf r.name).map fun r => .option r attached
  else
    let letter := String.ofList (argument.toList.take 2)
    (g.rules.filter fun r => r.name == letter).map fun r => .letters r (argument.toList.drop 2)

def classifyOther (g : Grammar) (argument : String) : Except Stop Piece :=
  match g.readings argument with
  | [piece] => .ok piece
  | _ :: _ :: _ => .error .misuse
  | [] =>
    if looksNegative argument || argument.toList.contains ' ' then .ok (.value argument)
    else .ok .stranger

def classify (g : Grammar) (argument : String) : Except Stop Piece :=
  if argument == separatorText then .ok .separator
  else if argument.toList.head? != some '-' then .ok (.value argument)
  else
    match g.rule? argument with
    | some rule => .ok (.option rule none)
    | none =>
      if argument == "-" then .ok (.value argument)
      else
        match splitValue argument with
        | (name, some value) =>
          match g.rule? name with
          | some rule => .ok (.option rule (some value))
          | none => g.classifyOther argument
        | (_, none) => g.classifyOther argument

def classifyAll (g : Grammar) : List String → Except Stop (List Piece)
  | [] => .ok []
  | argument :: rest => do
    match ← g.classify argument with
    | .separator => return .separator :: rest.map .value
    | piece => return piece :: (← g.classifyAll rest)

/-! ### Taking options -/

def valueOf (expects : Expects) (text : String) : Except Stop Document :=
  match expects with
  | .nothing | .help => .error .misuse
  | .text => .ok (.text text)
  | .number =>
    match Numeral.readInt? text with
    | some n => .ok (.integer n)
    | none => .error .misuse
  | .oneOf choices => if choices.contains text then .ok (.text text) else .error .misuse

/-- The value that an option takes from a text that is attached to it.  An attached separator says
    that the value is a list without items. -/
def attachedValue (expects : Expects) (text : String) : Except Stop Document :=
  match expects with
  | .nothing | .help => .error .misuse
  | _ => if text == separatorText then .ok (.list []) else valueOf expects text

/-- Where letters behind a switch lead to that asks for help: to help, if they all repeat it. -/
def stopBehind (letter : Char) (letters : List Char) : Stop :=
  if !letters.isEmpty && letters.all (· == letter) then .help else .misuse

def isShort (name : String) : Bool := !separatorText.isPrefixOf name

/-- Adds an option, unless one that excludes it is given. -/
def add (g : Grammar) (given : Given) (name : String) (value : Document) : Except Stop Given :=
  if g.alternatives.contains name &&
      g.alternatives.any fun other => other != name && given.has other then .error .misuse
  else .ok (given ++ [(name, value)])

/-- Takes the options one after the other.  A value that belongs to no option makes the command line
    unusable, but only at its end: a call for help comes first. -/
def take (g : Grammar) (hasStray : Bool) (given : Given) : List Piece → Except Stop Given
  | [] =>
    if hasStray || !g.alternatives.any given.has then .error .misuse else .ok given
  | .option rule (some text) :: rest =>
    if isShort rule.name then .error (stopBehind (rule.name.toList.getLast?.getD '-') text.toList)
    else
      match attachedValue rule.expects text with
      | .error stop => .error stop
      | .ok value =>
        match g.add given rule.name value with
        | .error stop => .error stop
        | .ok given => g.take hasStray given rest
  | .option rule none :: rest =>
    match rule.expects, rest with
    | .help, _ => .error .help
    | .nothing, rest => g.take hasStray (given ++ [(rule.name, .truth true)]) rest
    | expects, .value text :: rest =>
      match valueOf expects text with
      | .error stop => .error stop
      | .ok value =>
        match g.add given rule.name value with
        | .error stop => .error stop
        | .ok given => g.take hasStray given rest
    | _, _ => .error .misuse
  | .letters rule more :: _ => .error (stopBehind (rule.name.toList.getLast?.getD '-') more)
  | _ :: rest => g.take true given rest

def read (g : Grammar) (arguments : List String) : Except Stop Given := do
  g.take false [] (← g.classifyAll arguments)

end Grammar

end DenseSketch.CommandLine
