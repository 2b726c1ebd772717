import DenseSketch.Proofs.Project.WholeLines

/-!
# The pins of the outputs in the files

A regressor drives one pin for each output, from the first dimmed pin of the board on.  The sketch
lists the pins in an array of as many places as the header defines outputs to be, and the
description names each output with its pin.  SPEC_FULL, section 4.2, counts from pin 2, which is the
first dimmed pin of both registered boards.
-/

namespace DenseSketch

open Text

/-! ### The pins in the sketch -/

namespace Readme

variable {p : Project} {d : Draft}

end Readme

/-! ### The files of a regressor -/

namespace Project

open Code

variable {p : Project} {artifact : Artifact} {bench : Workbench}

end Project

end DenseSketch
