import DenseSketch.Document.Display
import DenseSketch.Text.CharacterClass
import DenseSketch.Text.Case

/-!
# Variants

A network either picks one of several classes or reports a value for each output.  The two variants
are those of the data model (SPEC_FULL, section 3).
-/

namespace DenseSketch

/-- What the outputs of a network mean. -/
inductive Variant where
  | classification
  | regression
  deriving DecidableEq, Repr, Inhabited

namespace Variant

def name : Variant → String
  | .classification => "classification"
  | .regression => "regression"

def all : List Variant := [.classification, .regression]

/-- The variant of a name; case and blanks around it do not count. -/
def ofName? (name : String) : Option Variant :=
  let canonical := Text.lower (Text.strip name)
  all.find? (·.name == canonical)

def ofDocument (d : Document) : Except Fault Variant :=
  let unknown := .error (.setting (.variant d.shown))
  match d with
  | .text s => (ofName? s).elim unknown .ok
  | d => if d.isTruthy then .error .noSuchMember else unknown

end Variant

/-- The name under which boards and sensors are registered; what is empty in any way is no name. -/
def canonicalName (d : Document) : Except Fault String :=
  match d with
  | .text s => .ok (Text.lower (Text.strip s))
  | d => if d.isTruthy then .error .noSuchMember else .ok ""

end DenseSketch
