import DenseSketch.Variant
import DenseSketch.Fault

/-!
# Output labels

A label is accepted if a message can carry it and a string literal of the sketch can hold it: it is
not blank and has no line break, quote, backslash or field separator, and a class is not called like
the tag of a regression message.  The Protocol Framer (SPEC_FULL, section 4.3) names the tag, empty
labels and line breaks only; the rest guards the sketch.
-/

namespace DenseSketch.Message

def separator : Char := ','

def regressionTag : String := "R"

/-- The labels that a text lists between separators, without the blanks around them. -/
def labelsOfText (s : String) : List String :=
  (s.toList.splitOn separator).map fun cs => Text.strip (String.ofList cs)

def checkLabel (variant : Variant) (label : String) : Except Fault Unit := do
  if (Text.strip label).isEmpty then throw (.label .blank)
  if label.toList.contains '\n' || label.toList.contains '\r' then
    throw (.label (.lineBreak label))
  if label.toList.contains '\\' || label.toList.contains '"' then
    throw (.label (.quote label))
  if label.toList.contains separator then throw (.label (.separator label))
  if variant = .classification ∧ label = regressionTag then throw (.label .regressionTag)

def checkLabels (variant : Variant) (labels : List String) : Except Fault Unit := do
  if labels.isEmpty then throw (.label .none)
  labels.forM (checkLabel variant)

/-- Checks one label that may be no text: what says nothing is blank. -/
def checkLabelOf (variant : Variant) (label : Document) : Except Fault Unit :=
  match label with
  | .text s => checkLabel variant s
  | d => if d.isTruthy then .error .noSuchMember else .error (.label .blank)

/-- Checks labels that may be no list of texts. -/
def checkLabelsOf (variant : Variant) (labels : Document) : Except Fault Unit := do
  if !labels.isTruthy then throw (.label .none)
  (← labels.items?).forM (checkLabelOf variant)

end DenseSketch.Message
