import DenseSketch.Proofs.Project.LayerNames
import DenseSketch.Proofs.Text.StringLiteral

/-!
# The device name in the sketch

The sketch gives the device its name twice, in two calls whose argument is a string literal.  The
name is written there as it is, and nothing asks whether it may be.  So the literal means the name
exactly if the name has no quote, no backslash and no line break.
-/

namespace DenseSketch

open Text

/-! ### Calls in code -/

/-- The text of a line without its indentation. -/
def Line.text : Line → String
  | .blank => ""
  | .code _ text => text

theorem Line.exists_render_eq (line : Line) :
    ∃ indentation, line.render.toList = indentation ++ line.text.toList := by
  cases line with
  | blank => exact ⟨[], rfl⟩
  | code depth text => exact ⟨List.replicate (2 * depth) ' ', by simp [render, Line.text]⟩

namespace Code

variable {function : String} {code front : Code} {argument : List Char}

/-- What stands behind the bracket of the first statement that is a call of the function: its
    argument, and the rest of the code. -/
def argument? (function : String) : Code → Option (List Char)
  | [] => none
  | line :: rest =>
    if (function ++ "(").toList <+: line.text.toList then
      some (line.text.toList.drop (function ++ "(").toList.length ++ '\n' :: (render rest).toList)
    else argument? function rest

theorem toList_render_cons (line : Line) (rest : Code) :
    (render (line :: rest)).toList = line.render.toList ++ '\n' :: (render rest).toList := by
  rw [render, List.map_cons, toList_unlines_cons]
  rfl

/-- The argument is the end of the text, with the call in front of it. -/
theorem exists_of_argument? (h : argument? function code = some argument) :
    ∃ before, (render code).toList = before ++ (function ++ "(").toList ++ argument := by
  induction code with
  | nil => cases h
  | cons line rest ih =>
    rw [toList_render_cons]
    rw [argument?] at h
    split_ifs at h with hcall
    · cases h
      obtain ⟨tail, htail⟩ := hcall
      obtain ⟨indentation, hrender⟩ := line.exists_render_eq
      refine ⟨indentation, ?_⟩
      rw [hrender, ← htail, List.drop_left]
      simp only [List.append_assoc]
    · obtain ⟨before, hbefore⟩ := ih h
      refine ⟨line.render.toList ++ '\n' :: before, ?_⟩
      rw [hbefore]
      simp

/-- Lines that start in another way hold no call. -/
theorem argument?_append (hfront : ∀ line ∈ front, ¬ (function ++ "(").toList <+: line.text.toList)
    (code : Code) : argument? function (front ++ code) = argument? function code := by
  induction front with
  | nil => rfl
  | cons line front ih =>
    obtain ⟨hline, hfront⟩ := List.forall_mem_cons.1 hfront
    rw [List.cons_append, argument?, if_neg hline, ih hfront]

end Code

/-! ### The name in the sketch -/

/-- The functions that take the name. -/
def namingFunctions : List String := ["BLE.setLocalName", "BLE.setDeviceName"]

namespace Sketch

open Code

variable {function : String} {p : Project}

/-- No line of the code starts like a call that gives the device its name. -/
def NamesNothing (code : Code) : Prop := ∀ line ∈ code, ¬ "BLE.set".toList <+: line.text.toList

theorem NamesNothing.append {first rest : Code} (hfirst : NamesNothing first)
    (hrest : NamesNothing rest) : NamesNothing (first ++ rest) :=
  List.forall_mem_append.2 ⟨hfirst, hrest⟩

theorem NamesNothing.argument?_append (hfunction : function ∈ namingFunctions) {front : Code}
    (hfront : NamesNothing front) (code : Code) :
    argument? function (front ++ code) = argument? function code := by
  have hstart : "BLE.set".toList <+: (function ++ "(").toList := by
    rcases List.mem_pair.1 hfunction with rfl | rfl
    · exact ⟨"LocalName(".toList, by decide⟩
    · exact ⟨"DeviceName(".toList, by decide⟩
  exact Code.argument?_append (fun line hline hcall => hfront line hline (hstart.trans hcall)) code

theorem namesNothing_blank : NamesNothing blank := by
  simp [NamesNothing, blank, Line.text]

theorem namesNothing_banner (p : Project) (title kind message : String) :
    NamesNothing (banner p title kind message) := by
  cases hbanner : p.banner <;>
    simp [NamesNothing, banner, hbanner, Code.line, ofTexts, Line.text]

theorem namesNothing_includes (p : Project) (sensorHeader : Document) :
    NamesNothing (includes p sensorHeader) := by
  simp [NamesNothing, includes, ofTexts, Line.text]

theorem namesNothing_prototypes : NamesNothing prototypes := by
  simp [NamesNothing, prototypes, ofTexts, Line.text]

theorem namesNothing_pinDeclaration (pins : List Document) :
    NamesNothing (pinDeclaration pins) := by
  simp [NamesNothing, pinDeclaration, Code.line, Line.text]

theorem argument?_bluetooth (hfunction : function ∈ namingFunctions) (t : Transport) (rest : Code) :
    ∃ more, argument? function (bluetooth t ++ rest) =
      some ('"' :: (t.deviceName.shown.toList ++ '"' :: ')' :: ';' :: '\n' :: more)) := by
  rcases List.mem_pair.1 hfunction with rfl | rfl
  · simp [argument?, bluetooth, block, Code.line, blank, ofTexts, Line.text, Line.deeper]
  · simp [argument?, bluetooth, block, Code.line, blank, ofTexts, Line.text, Line.deeper]

/-- What stands between the two brackets of the call, and that the line ends behind them. -/
theorem argument?_sketchCode (hfunction : function ∈ namingFunctions) {d : Draft} {code : Code}
    (hcode : p.sketchCode d = .ok code) :
    ∃ more, argument? function code =
      some ('"' :: (p.transport.deviceName.shown.toList ++ '"' :: ')' :: ';' :: '\n' :: more)) := by
  simp only [Project.sketchCode, bind_eq_ok] at hcode
  obtain ⟨s, -, reading, -, hcode⟩ := hcode
  -- Both sketches have the same parts in front of the block, and none of them names the device.
  have hbanner := fun title kind message =>
    (namesNothing_banner p title kind message).argument?_append hfunction
  have hblank := namesNothing_blank.argument?_append hfunction
  have hincludes := (namesNothing_includes p s.sensorHeader).argument?_append hfunction
  have hprototypes := namesNothing_prototypes.argument?_append hfunction
  have hpins := (namesNothing_pinDeclaration d.pins).argument?_append hfunction
  cases hvariant : p.metadata.variant with
  | classification =>
    simp only [hvariant, pure_eq_ok] at hcode
    subst hcode
    unfold classifier
    simp only [List.append_assoc, hbanner, hblank, hincludes, hprototypes]
    exact argument?_bluetooth hfunction _ _
  | regression =>
    simp only [hvariant, pure_eq_ok] at hcode
    subst hcode
    unfold regressor
    simp only [List.append_assoc, hbanner, hblank, hincludes, hprototypes, hpins]
    exact argument?_bluetooth hfunction _ _

end Sketch

/-! ### Compilations -/

namespace Project

open StringLiteral

variable {p : Project} {bench : Workbench} {artifact : Artifact}

/-- The name stands in the calls as it is. -/
theorem exists_naming_calls {name : String} (hname : p.transport.deviceName = .text name)
    (hcompiled : (Job.runOn p.generateAll bench).1 = .ok artifact) :
    ∃ d code, p.sketchCode d = .ok code ∧ artifact.text p.sketchName = .ok code.render ∧
      ∀ function ∈ namingFunctions, ∃ more, code.argument? function =
        some ('"' :: (name.toList ++ '"' :: ')' :: ';' :: '\n' :: more)) := by
  obtain ⟨c, hfiles⟩ := exists_compilation hcompiled
  obtain ⟨code, hcode, hsketch⟩ := exists_of_sketch_eq_ok c.sketch_eq
  refine ⟨c.draft, code, hcode, ?_, fun function hfunction => ?_⟩
  · rw [← hsketch]
    exact c.text_eq_ok hfiles List.mem_cons_self
  · obtain ⟨more, hargument⟩ := Sketch.argument?_sketchCode hfunction hcode
    rw [hname] at hargument
    exact ⟨more, hargument⟩

/-- **Which device names come through in the sketch.**  In every sketch that is compiled, the two
    calls that give the device its name have one string literal as their argument, and it stands for
    the name, exactly if the name has no quote, no backslash and no line break. -/
theorem deviceName_survives_iff {name : String} (hname : p.transport.deviceName = .text name)
    (hcompiled : (Job.runOn p.generateAll bench).1 = .ok artifact) :
    ∃ d code, p.sketchCode d = .ok code ∧ artifact.text p.sketchName = .ok code.render ∧
      ∀ function ∈ namingFunctions, ∃ before argument,
        code.argument? function = some argument ∧
        code.render.toList = before ++ (function ++ "(").toList ++ argument ∧
        (StringLiteral.argument? argument = some (bytes name.toList) ↔
          ('"' ∉ name.toList ∧ '\\' ∉ name.toList) ∧
            '\n' ∉ name.toList ∧ '\r' ∉ name.toList) := by
  obtain ⟨d, code, hcode, htext, hcalls⟩ := exists_naming_calls hname hcompiled
  refine ⟨d, code, hcode, htext, fun function hfunction => ?_⟩
  obtain ⟨more, hargument⟩ := hcalls function hfunction
  obtain ⟨before, hbefore⟩ := Code.exists_of_argument? hargument
  exact ⟨before, _, hargument, hbefore, (argument?_eq_iff _ more).trans isQuotable_iff⟩

/-! ### Names of the sample -/

/-- The project with a device name. -/
def named (p : Project) (name : String) : Project :=
  { p with transport := { p.transport with deviceName := .text name } }

theorem check_named (p : Project) (name : String) : (p.named name).check = p.check :=
  rfl

theorem exists_artifact_named_sample (name : String) (bench : Workbench) :
    ∃ artifact, (Job.runOn (sample.named name).generateAll bench).1 = .ok artifact := by
  have htyped : (sample.named name).WellTyped :=
    ⟨Board.wellTyped_of_registered (.head _), Sensor.wellTyped_color, rfl⟩
  have hfinite : ∀ x ∈ sample.network.layers.flatMap Layer.parameters, x.isFinite := by decide
  exact exists_artifact_of_check htyped ((check_named _ _).trans rfl) hfinite rfl bench

/-- A name with apostrophes comes through. -/
theorem deviceName_survives_iff_apostrophes :
    let p := sample.named "a 'quoted' board"
    ∃ artifact, (Job.runOn p.generateAll {}).1 = .ok artifact ∧
      ∃ d code, p.sketchCode d = .ok code ∧ artifact.text p.sketchName = .ok code.render ∧
        ∀ function ∈ namingFunctions, ∃ before argument,
          code.argument? function = some argument ∧
          code.render.toList = before ++ (function ++ "(").toList ++ argument ∧
          StringLiteral.argument? argument = some (bytes "a 'quoted' board".toList) := by
  intro p
  obtain ⟨artifact, hcompiled⟩ := exists_artifact_named_sample "a 'quoted' board" {}
  obtain ⟨d, code, hcode, htext, hcalls⟩ := deviceName_survives_iff (p := p) rfl hcompiled
  refine ⟨artifact, hcompiled, d, code, hcode, htext, fun function hfunction => ?_⟩
  obtain ⟨before, argument, hargument, hbefore, hiff⟩ := hcalls function hfunction
  exact ⟨before, argument, hargument, hbefore, hiff.2 (by decide)⟩

/-- A name with quotes is accepted, and what the calls have for an argument does not mean it. -/
theorem deviceName_lost_quotes :
    let name := "My \"Board\""
    let p := sample.named name
    create .sample .sample { sensorName := .text "color", transport := some p.transport } = .ok p ∧
    ∃ (artifact : Artifact) (code : Code), (Job.runOn p.generateAll {}).1 = .ok artifact ∧
      artifact.text p.sketchName = .ok code.render ∧
      ∀ function ∈ namingFunctions, ∃ argument, code.argument? function = some argument ∧
        StringLiteral.argument? argument ≠ some (bytes name.toList) := by
  intro name p
  obtain ⟨artifact, hcompiled⟩ := exists_artifact_named_sample name {}
  obtain ⟨d, code, -, htext, hcalls⟩ := exists_naming_calls (p := p) rfl hcompiled
  refine ⟨rfl, artifact, code, hcompiled, htext, fun function hfunction => ?_⟩
  obtain ⟨more, hargument⟩ := hcalls function hfunction
  exact ⟨_, hargument, (argument?_eq_iff name.toList more).not.2 (by decide)⟩

end Project

end DenseSketch
