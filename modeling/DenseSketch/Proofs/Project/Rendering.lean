import DenseSketch.Proofs.Project.Labels
import DenseSketch.Proofs.Sketch.Constants

/-!
# The lines of the files

The files of a compilation are put together line by line.  Some lines take up texts that may hold
line breaks of their own; as long as none of them does, the lines of the files are found again in
their texts.
-/

namespace DenseSketch

open Text

/-- The lines of a text, with what stands behind the last line break at the end. -/
def Text.linesOf (text : String) : List String := (text.toList.splitOn '\n').map String.ofList

namespace Readme

variable {variant : Variant} {flashReader : Document} {net : Network}

end Readme

/-! ### The lines of the files -/

/-- What the files of a project are rendered from. -/
structure Rendering (p : Project) extends Findings p where
  code : Code
  surroundings : Project.Surroundings
  reading : Project.FrameReading
  channels : List String
  libraries : List Document
  message : String
  code_eq : p.sketchCode toFindings.draft = .ok code
  surroundings_eq : p.surroundings = .ok surroundings
  reading_eq : p.frameReading = .ok reading
  channels_eq : p.sensor.channels.texts = .ok channels
  libraries_eq : p.board.requiredLibraries p.sensor.familyKey = .ok libraries
  message_eq : Message.exampleMessage p.metadata = .ok message

namespace Rendering

variable {p : Project} (r : Rendering p)

/-- The lines of the sketch. -/
def sketch : List String := r.code.lines

/-- The lines of the header. -/
def header : List String := Header.front p r.draft ++ r.tables ++ ["", "#endif // MODEL_DATA_H"]

/-- The lines of the description. -/
def readme : List String :=
  Readme.lines p r.draft r.surroundings r.channels r.libraries (Readme.withoutLineFeeds r.message)

/-- The lines make up the files of the artifact. -/
structure Makes (artifact : Artifact) : Prop where
  sketch : artifact.text p.sketchName = .ok (unlines r.sketch)
  header : artifact.text Project.headerName = .ok (unlines r.header)
  readme : artifact.text Project.readmeName = .ok (unlines r.readme)

end Rendering

namespace Project

variable {p : Project} {bench : Workbench} {artifact : Artifact}

/-- Whatever is compiled is made up of lines. -/
theorem exists_rendering (hcompiled : (Job.runOn p.generateAll bench).1 = .ok artifact) :
    ∃ r : Rendering p, r.Makes artifact := by
  obtain ⟨c, hfiles⟩ := exists_compilation hcompiled
  obtain ⟨code, hcode, hsketch⟩ := exists_of_sketch_eq_ok c.sketch_eq
  have hheader := eq_of_header_eq_ok c.header_eq
  have hreadme := c.readme_eq
  simp only [readme, bind_eq_ok, pure_eq_ok] at hreadme
  obtain ⟨libraries, hlibraries, message, hmessage, s, hs, channels, hchannels, hreadme⟩ := hreadme
  have hreading := hcode
  simp only [sketchCode, bind_eq_ok] at hreading
  obtain ⟨_, -, reading, hreading, -⟩ := hreading
  refine ⟨⟨c.toFindings, code, s, reading, channels, libraries, message, hcode, hs, hreading,
    hchannels, hlibraries, hmessage⟩, ?_, ?_, ?_⟩
  · rw [c.text_eq_ok hfiles List.mem_cons_self, hsketch]
    rfl
  · rw [c.text_eq_ok hfiles (List.mem_cons_of_mem _ List.mem_cons_self), hheader]
    rfl
  · have hthird : (readmeName, c.readme) ∈ c.files := by simp [Compilation.files]
    rw [c.text_eq_ok hfiles hthird, ← hreadme]
    rfl

end Project

end DenseSketch
