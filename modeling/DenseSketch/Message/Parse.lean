import DenseSketch.Message.Label
import DenseSketch.Number.Numeral

/-!
# Reading prediction messages

A received line without its line end is a regression message if it starts with the tag and a
separator; otherwise its last separator divides the label from the confidence.  Digits of every
script count, and a field may end with one line feed.  This is the decoder on the side of the host
(SPEC_FULL, section 4.3).
-/

namespace DenseSketch

inductive Message where
  | classification (label : String) (confidence : Datum)
  | regression (values : List Datum)
  deriving DecidableEq, Repr

namespace Message

def dropLineFeed (cs : List Char) : List Char :=
  if cs.getLast? = some '\n' then cs.dropLast else cs

def dropReturns (cs : List Char) : List Char :=
  (cs.reverse.dropWhile (· == '\r')).reverse

def payload (line : String) : List Char :=
  dropReturns (dropLineFeed line.toList)

/-- Is the field a decimal with the given number of places whose whole part passes a test? -/
def isDecimal (whole : List Char → Bool) (places : Nat) (field : List Char) : Bool :=
  let body := dropLineFeed field
  let fraction := (body.dropWhile (· != '.')).drop 1
  whole (body.takeWhile (· != '.')) && fraction.length == places && fraction.all Text.isDigit

def isConfidence : List Char → Bool :=
  isDecimal (fun whole => !whole.isEmpty && whole.all Text.isDigit) 2

def isValue : List Char → Bool :=
  isDecimal (fun whole => whole == ['0'] || whole == ['1']) 3

def fields (cs : List Char) : List (List Char) :=
  cs.splitOn separator

def fieldValue (field : List Char) : Except Fault Datum :=
  match Numeral.readReal? (String.ofList field) with
  | some x => .ok x
  | none => .error .badValue

def splitAtLast (cs : List Char) : Option (List Char × List Char) :=
  let reversed := cs.reverse
  match reversed.dropWhile (· != separator) with
  | [] => none
  | _ :: label => some (label.reverse, (reversed.takeWhile (· != separator)).reverse)

def parseRegression (line : String) (cs : List Char) : Except Fault Message := do
  let raw := (fields cs).drop 1
  if !raw.all isValue then throw (.message (.regression line))
  let values ← raw.mapM fieldValue
  if values.any (Datum.lt .one) then throw (.message (.range line))
  return .regression values

def parseClassification (line : String) (cs : List Char) : Except Fault Message :=
  match splitAtLast cs with
  | none => .error (.message (.classification line))
  | some (label, confidence) =>
    if label.isEmpty || !isConfidence confidence then
      .error (.message (.classification line))
    else do return .classification (String.ofList label) (← fieldValue confidence)

def parse (line : String) : Except Fault Message :=
  let cs := payload line
  if cs.isEmpty then .error (.message .empty)
  else if (regressionTag.toList ++ [separator]).isPrefixOf cs then parseRegression line cs
  else parseClassification line cs

end Message

end DenseSketch
