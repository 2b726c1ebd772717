import DenseSketch.Proofs.Project.WholeLines
import DenseSketch.Proofs.Table.Decoding

/-!
# The network in the description

The description has a table with one row for each layer and, below it, the number of all parameters
and the bytes that they take.  The header says how many bytes these are as well, and its tables hold
that many values.  The description is that of SPEC_FULL, section 4.5.
-/

namespace DenseSketch

open Text

/-! ### The total of the rows -/

namespace Readme

/-- The parameters of all rows. -/
def total (rows : List Row) : Nat := (rows.map Row.parameters).sum

end Readme

/-! ### The header -/

namespace Header

variable {p : Project} {d : Draft}

end Header

/-! ### The files -/

namespace Project

variable {p : Project} {artifact : Artifact} {bench : Workbench}

end Project

end DenseSketch
