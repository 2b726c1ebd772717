import DenseSketch.Proofs.Model.Extraction
import DenseSketch.Proofs.Pipeline.Compilation
import DenseSketch.Proofs.Table.RoundTrip
import DenseSketch.Proofs.Text.Comments

/-!
# Names of layers in the files

The name of a layer stands in a comment of the header and in one of the sketch, and nowhere else in
them.  It is written there as it is, so two networks that differ in names only are compiled to the
same code as long as each further line of a name is a comment of its own.
-/

namespace DenseSketch

open Text

/-! ### Networks that differ in names -/

theorem Layer.eq_renamed {layer other : Layer} (h : layer.unnamed = other.unnamed) :
    other = { layer with name := other.name } := by
  cases layer
  cases other
  simp only [Layer.unnamed, Layer.mk.injEq] at h
  obtain ⟨-, rfl, rfl, rfl, rfl⟩ := h
  rfl

/-- The names of layers as they are shown. -/
def Layer.shownNames (layers : List Layer) : List String := layers.map fun layer => layer.name.shown

namespace Network

variable {net other : Network}

theorem map_eq_of_unnamed {α : Type} {f : Layer → α} (hf : ∀ layer, f layer.unnamed = f layer)
    (h : net.unnamed = other.unnamed) : net.layers.map f = other.layers.map f := by
  have hunnamed : ∀ layers : List Layer, (layers.map Layer.unnamed).map f = layers.map f := by
    intro layers
    rw [List.map_map]
    exact List.map_congr_left fun layer _ => hf layer
  rw [← hunnamed net.layers, ← hunnamed other.layers]
  exact congrArg (List.map f) h

theorem inputs_eq_of_unnamed (h : net.unnamed = other.unnamed) : net.inputs = other.inputs := by
  have hinputs := map_eq_of_unnamed (f := Layer.inputs) (fun _ => rfl) h
  have hhead : ∀ n : Network, (n.layers.map Layer.inputs).head? = some n.inputs := by
    intro n
    rw [List.head?_map, List.head?_eq_some_head n.layers_ne_nil]
    rfl
  rw [← Option.some.injEq, ← hhead, ← hhead, hinputs]

theorem shape_eq_of_unnamed (h : net.unnamed = other.unnamed) : net.shape = other.shape := by
  have houtputs := map_eq_of_unnamed (f := Layer.outputs) (fun _ => rfl) h
  rw [shape, shape, widths, widths, inputs_eq_of_unnamed h, houtputs]

theorem sizeInBytes_eq_of_unnamed (h : net.unnamed = other.unnamed) :
    Table.sizeInBytes net = Table.sizeInBytes other := by
  have hcount : ∀ n : Network, n.parameterCount =
      n.unnamed.foldr (fun layer count => layer.parameterCount + count) 0 := by
    intro n
    rw [unnamed, List.foldr_map]
    rfl
  rw [Table.sizeInBytes, Table.sizeInBytes, hcount, hcount, h]

theorem hiddenDefines_eq_of_unnamed (h : net.unnamed = other.unnamed) :
    net.hiddenDefines = other.hiddenDefines := by
  have hdefines : ∀ n : Network, n.hiddenDefines =
      n.unnamed.zipIdx.dropLast.map fun entry =>
        (Plan.symbolAt n.unnamed.length (entry.2 + 1), entry.1.outputs) := by
    intro n
    rw [unnamed, List.zipIdx_map, ← List.map_dropLast, List.map_map, List.length_map]
    rfl
  rw [hdefines, hdefines, h]

end Network

/-! ### The tables -/

theorem isComment_of_slashes (front : String) : isComment ("// Layer " ++ front).toList = true := by
  have hslashes : isComment "// Layer ".toList = true := by decide
  rw [String.toList_append]
  exact isComment_append hslashes _

namespace Table

variable {perLine qualifier : Document} {index : Nat} {suffix : String} {layer other : Layer}
  {lines more : List String} {layers others : List Layer}

theorem isFrame_layerComment (index inputs outputs : Nat) :
    IsFrame ("// Layer " ++ (toString index ++ ": "))
      (" (" ++ toString inputs ++ " -> " ++ toString outputs ++ ")") where
  front_break := by simp [break_not_mem_toDigits]
  front_comment := isComment_of_slashes _
  back_break := by simp [break_not_mem_toDigits]
  back_bracket := by simp

theorem layerComment_eq_frame (index : Nat) (layer : Layer) :
    layerComment (toString index) layer =
      "// Layer " ++ (toString index ++ ": ") ++ layer.name.shown ++
        (" (" ++ toString layer.inputs ++ " -> " ++ toString layer.outputs ++ ")") := by
  simp only [layerComment_eq, String.append_assoc]

/-- The lines of a layer are its comment and lines in which its name does not stand. -/
theorem exists_layerLines (h : layerLines suffix layer perLine qualifier = .ok lines) :
    ∃ body, ∀ name, layerLines suffix { layer with name := name } perLine qualifier =
      .ok (layerComment suffix { layer with name := name } :: body) := by
  simp only [layerLines, bind_eq_ok] at h
  obtain ⟨weights, hweights, h⟩ := h
  split at h
  · next hbias =>
    refine ⟨weights, fun name => ?_⟩
    simp only [layerLines, hweights, hbias, bind, Except.bind]
    rfl
  · next bias hbias =>
    obtain ⟨table, htable, -⟩ := bind_eq_ok.1 h
    refine ⟨weights ++ "" :: table, fun name => ?_⟩
    simp only [layerLines, hweights, hbias, htable, bind, Except.bind]
    rfl

/-- The tables of layers that differ in names only are the same but for the comments. -/
theorem alike_layerLines (hsame : layer.unnamed = other.unnamed)
    (h : layerLines (toString index) layer perLine qualifier = .ok lines)
    (hother : layerLines (toString index) other perLine qualifier = .ok more) :
    Alike [layer.name.shown] lines [other.name.shown] more := by
  obtain ⟨body, hbody⟩ := exists_layerLines h
  obtain ⟨name, rfl⟩ : ∃ name, other = { layer with name := name } :=
    ⟨other.name, Layer.eq_renamed hsame⟩
  obtain rfl := Except.ok.inj ((hbody layer.name).symm.trans h)
  obtain rfl := Except.ok.inj ((hbody name).symm.trans hother)
  rw [layerComment_eq_frame, layerComment_eq_frame]
  exact (Alike.comment (isFrame_layerComment ..) _ _).append (.refl body)

theorem alike_layersLines (hsame : layers.map Layer.unnamed = others.map Layer.unnamed)
    (h : layersLines perLine qualifier index layers = .ok lines)
    (hother : layersLines perLine qualifier index others = .ok more) :
    Alike (Layer.shownNames layers) lines (Layer.shownNames others) more := by
  -- Both lists are taken apart together; the last layer has no empty line behind it.
  induction layers generalizing others index lines more with
  | nil =>
    obtain rfl := List.map_eq_nil_iff.1 hsame.symm
    cases h
    cases hother
    exact .refl []
  | cons layer layers ih =>
    obtain ⟨other, others, rfl, hfirst, hrest⟩ := List.map_eq_cons_iff.1 hsame.symm
    cases layers with
    | nil =>
      obtain rfl := List.map_eq_nil_iff.1 hrest
      exact alike_layerLines hfirst.symm h hother
    | cons next layers =>
      obtain ⟨nextOther, others, rfl, -, -⟩ := List.map_eq_cons_iff.1 hrest
      simp only [layersLines, bind_eq_ok, pure_eq_ok] at h hother
      obtain ⟨here, hhere, below, hbelow, rfl⟩ := h
      obtain ⟨hereOther, hhereOther, belowOther, hbelowOther, rfl⟩ := hother
      have hfront := alike_layerLines hfirst.symm hhere hhereOther
      have hbehind := ih hrest.symm hbelow hbelowOther
      exact hfront.append ((Alike.refl [""]).append hbehind)

end Table

/-! ### The sketch -/

namespace Sketch

variable {layers others : List Layer}

/-- The code as lines, one level deeper. -/
def bodyLines (code : Code) : List String := code.map fun line => line.deeper.render

theorem bodyLines_append (code more : Code) :
    bodyLines (code ++ more) = bodyLines code ++ bodyLines more :=
  List.map_append

theorem isFrame_stepComment (step : DenseStep) :
    IsFrame ("  " ++ ("// Layer " ++ (toString step.index ++ ": ")))
      (" (" ++ (toString step.inUnits ++ " -> " ++ toString step.outUnits ++ ", " ++
        step.activation.name ++ ")")) where
  front_break := by simp [break_not_mem_toDigits]
  front_comment := by
    have hblank : isBlank ' ' = true := by decide
    rw [String.toList_append]
    exact ((isComment_blank_cons hblank _).trans (isComment_blank_cons hblank _)).trans
      (isComment_of_slashes _)
  back_break := by
    have hname : '\n' ∉ step.activation.name.toList := by cases step.activation <;> decide
    simp [break_not_mem_toDigits, hname]
  back_bracket := by simp

/-- The code of a step has the name of its layer in one comment only. -/
theorem alike_denseCode (step : DenseStep) (name : Document) :
    Alike [step.name.shown] (bodyLines (denseCode step)) [name.shown]
      (bodyLines (denseCode { step with name := name })) := by
  have hlines : ∀ name, bodyLines (denseCode { step with name := name }) =
      [""] ++ ["  " ++ ("// Layer " ++ (toString step.index ++ ": ")) ++ name.shown ++
        (" (" ++ (toString step.inUnits ++ " -> " ++ toString step.outUnits ++ ", " ++
          step.activation.name ++ ")"))] ++ bodyLines ((denseCode step).drop 2) := by
    intro name
    have hcode : denseCode { step with name := name } =
        .blank :: .code 0 ("// Layer " ++ toString step.index ++ ": " ++ name.shown ++ " (" ++
          toString step.inUnits ++ " -> " ++ toString step.outUnits ++ ", " ++
          step.activation.name ++ ")") :: (denseCode step).drop 2 :=
      rfl
    have hline : ∀ text, (Line.code 0 text).deeper.render = "  " ++ text := fun _ => rfl
    rw [hcode, bodyLines, List.map_cons, List.map_cons, hline]
    simp only [String.append_assoc]
    rfl
  rw [hlines name, show denseCode step = denseCode { step with name := step.name } from rfl, hlines]
  exact (Alike.comment (isFrame_stepComment step) step.name.shown name.shown).surround _ _

theorem alike_stepCode (variant : Variant) (flashReader : Document) (count k : Nat)
    (hsame : layers.map Layer.unnamed = others.map Layer.unnamed) :
    Alike
      (Layer.shownNames layers)
      (bodyLines ((layers.zipIdx k).flatMap fun entry =>
        denseCode (Plan.stepAt variant flashReader count entry.2 entry.1)))
      (Layer.shownNames others)
      (bodyLines ((others.zipIdx k).flatMap fun entry =>
        denseCode (Plan.stepAt variant flashReader count entry.2 entry.1))) := by
  induction layers generalizing others k with
  | nil =>
    obtain rfl := List.map_eq_nil_iff.1 hsame.symm
    exact .refl []
  | cons layer layers ih =>
    obtain ⟨other, others, rfl, hfirst, hrest⟩ := List.map_eq_cons_iff.1 hsame.symm
    have hstep := alike_denseCode (Plan.stepAt variant flashReader count k layer) other.name
    have hother : Plan.stepAt variant flashReader count k other =
        { Plan.stepAt variant flashReader count k layer with name := other.name } := by
      rw [Layer.eq_renamed hfirst.symm]
      rfl
    rw [← hother] at hstep
    simp only [List.zipIdx_cons, List.flatMap_cons, bodyLines_append]
    exact hstep.append (ih (k + 1) hrest.symm)

/-- What stands behind the dense steps has no name in its code. -/
theorem stepCode_ending (variant : Variant) (layer other : Layer) :
    (Plan.ending variant layer).flatMap stepCode =
      (Plan.ending variant other).flatMap stepCode := by
  cases variant <;> rfl

/-- The steps stand between lines that are always the same. -/
theorem exists_forwardPass_eq :
    ∃ front back, ∀ steps, (forwardPass steps).map Line.render =
      front ++ bodyLines (steps.flatMap stepCode) ++ back := by
  refine ⟨["void predict() \x7b"] ++
      bodyLines (Code.line s!"const float* {Plan.inputBuffer} = sampleBuffer;"),
    bodyLines (Code.blank ++ Code.line s!"reportPrediction({Plan.outputBuffer});") ++ ["\x7d"],
    fun steps => ?_⟩
  simp only [forwardPass, Code.block, bodyLines, List.map_cons, List.map_append, List.map_map,
    List.map_nil, List.cons_append, List.nil_append, List.append_assoc]
  rfl

theorem alike_forwardPass (variant : Variant) (flashReader : Document) {net other : Network}
    (hsame : net.unnamed = other.unnamed) :
    Alike
      (Layer.shownNames net.layers)
      ((forwardPass ((net.denseSteps variant flashReader).map .dense ++
        Plan.ending variant net.last)).map Line.render)
      (Layer.shownNames other.layers)
      ((forwardPass ((other.denseSteps variant flashReader).map .dense ++
        Plan.ending variant other.last)).map Line.render) := by
  obtain ⟨front, back, hforward⟩ := exists_forwardPass_eq
  have hlength : net.layers.length = other.layers.length := by
    have hlengths := congrArg List.length hsame
    rwa [Network.unnamed, Network.unnamed, List.length_map, List.length_map] at hlengths
  have hdense : ∀ n : Network, ((n.denseSteps variant flashReader).map .dense).flatMap stepCode =
      n.layers.zipIdx.flatMap fun entry =>
        denseCode (Plan.stepAt variant flashReader n.layers.length entry.2 entry.1) := by
    intro n
    rw [Network.denseSteps, List.flatMap_map, List.flatMap_map]
    rfl
  have hsteps := alike_stepCode variant flashReader net.layers.length 0 hsame
  rw [hforward, hforward, List.flatMap_append, List.flatMap_append, hdense, hdense, ← hlength,
    stepCode_ending variant other.last net.last, bodyLines_append, bodyLines_append]
  simpa only [List.append_nil] using (hsteps.append (.refl _)).surround front back

end Sketch

namespace Project

variable {p q : Project} {d : Draft}

/-- Beside its steps a sketch does not depend on the network. -/
theorem sketch_network (p : Project) (network : Network) (d : Draft) :
    Project.sketch { p with network := network } d = p.sketch d :=
  rfl

theorem exists_classifier_eq (p : Project) (s : Surroundings) (reading : FrameReading) :
    ∃ front : Code, ∀ d : Draft, Sketch.classifier p d s reading =
      front ++ Sketch.forwardPass d.steps ++ Code.blank ++ Sketch.classReport := by
  unfold Sketch.classifier
  exact ⟨_, fun _ => rfl⟩

theorem exists_regressor_eq (p : Project) (s : Surroundings) (reading : FrameReading)
    (pins : List Document) :
    ∃ front : Code, ∀ steps defines tableBytes,
      Sketch.regressor p ⟨steps, defines, pins, tableBytes⟩ s reading =
        front ++ Sketch.forwardPass steps ++ Code.blank ++ Sketch.valueReport := by
  unfold Sketch.regressor
  dsimp only
  exact ⟨_, fun _ _ _ => rfl⟩

theorem exists_sketchCode_eq {code : Code} (h : p.sketchCode d = .ok code) :
    ∃ front back, ∀ steps, p.sketchCode { d with steps := steps } =
      .ok (front ++ Sketch.forwardPass steps ++ back) := by
  simp only [sketchCode, bind_eq_ok] at h
  obtain ⟨s, hs, reading, hreading, -⟩ := h
  cases hvariant : p.metadata.variant with
  | classification =>
    obtain ⟨front, hcode⟩ := exists_classifier_eq p s reading
    refine ⟨front, Code.blank ++ Sketch.classReport, fun steps => ?_⟩
    simp only [sketchCode, hs, hreading, hvariant, bind, Except.bind, hcode, List.append_assoc]
    rfl
  | regression =>
    obtain ⟨front, hcode⟩ := exists_regressor_eq p s reading d.pins
    refine ⟨front, Code.blank ++ Sketch.valueReport, fun steps => ?_⟩
    simp only [sketchCode, hs, hreading, hvariant, bind, Except.bind,
      hcode steps d.unitDefines d.tableBytes, List.append_assoc]
    rfl

/-- The project with another network, as its settings do not depend on the network. -/
theorem create_network {network other : Network} {metadata : Metadata} {s : Settings}
    (hp : create network metadata s = .ok p) (hq : create other metadata s = .ok q) :
    q = { p with network := other } := by
  simp only [create, throw_bind, bind_eq_ok, refuse_eq_ok, pure_eq_ok] at hp hq
  obtain ⟨board, hboard, _, _, sensor, hsensor, _, _, _, _, _, _, _, _, _, interval, hinterval,
    prediction, hprediction, baud, hbaud, rfl⟩ := hp
  simp only [hboard, hsensor, hinterval, hprediction, hbaud, Except.ok.injEq, exists_eq_left'] at hq
  obtain ⟨_, _, _, _, _, _, _, _, _, _, _, rfl⟩ := hq
  rfl

/-- A header is made of lines, with those of the tables among them. -/
theorem eq_of_header_eq_ok {tables : List String} {text : String}
    (h : p.header d (unlines tables) = .ok text) :
    text = unlines (Header.front p d ++ tables ++ ["", "#endif // MODEL_DATA_H"]) := by
  rw [eq_text_of_header_eq_ok h, Header.text, unlines_append, unlines_append]

theorem exists_of_sketch_eq_ok {text : String} (h : p.sketch d = .ok text) :
    ∃ code, p.sketchCode d = .ok code ∧ text = code.render := by
  rw [sketch] at h
  cases hcode : p.sketchCode d with
  | error fault =>
    rw [hcode] at h
    cases h
  | ok code =>
    rw [hcode] at h
    cases h
    exact ⟨code, rfl, rfl⟩

end Project

/-! ### Two compilations -/

theorem Findings.plan_eq_denseSteps {p : Project} (found : Findings p) :
    found.plan = ⟨(p.network.denseSteps p.metadata.variant p.flashReader).map .dense ++
      Plan.ending p.metadata.variant p.network.last, p.network.hiddenDefines⟩ :=
  Except.ok.inj (found.plan_eq.symm.trans (Project.plan_of_check found.check_eq))

namespace Compilation

variable {p : Project} {other : Network}

/-- For networks that differ in names only, only the steps of the drafts differ. -/
theorem draft_eq_of_unnamed (c : Compilation p) (c' : Compilation { p with network := other })
    (hsame : p.network.unnamed = other.unnamed) :
    c'.draft = { c.draft with steps := c'.plan.steps } := by
  have hdefines : c'.plan.unitDefines = c.plan.unitDefines := by
    rw [c.plan_eq_denseSteps, c'.plan_eq_denseSteps]
    exact (Network.hiddenDefines_eq_of_unnamed hsame).symm
  have hpins : c'.pins = c.pins := Except.ok.inj (c'.pins_eq.symm.trans c.pins_eq)
  rw [Findings.draft, Findings.draft, hdefines, hpins, Network.sizeInBytes_eq_of_unnamed hsame]

theorem exists_alike_sketch (c : Compilation p) (c' : Compilation { p with network := other })
    (hsame : p.network.unnamed = other.unnamed) :
    ∃ lines more, c.sketch = unlines lines ∧ c'.sketch = unlines more ∧
      Alike (Layer.shownNames p.network.layers) lines (Layer.shownNames other.layers) more := by
  obtain ⟨code, hcode, -⟩ := Project.exists_of_sketch_eq_ok c.sketch_eq
  obtain ⟨front, back, hlines⟩ := Project.exists_sketchCode_eq hcode
  have hsketch : ∀ steps, p.sketch { c.draft with steps := steps } = .ok (unlines
      (front.map Line.render ++ (Sketch.forwardPass steps).map Line.render ++
        back.map Line.render)) := by
    intro steps
    rw [Project.sketch, hlines, ← List.map_append, ← List.map_append]
    rfl
  have hother : p.sketch { c.draft with steps := c'.plan.steps } = .ok c'.sketch := by
    rw [← draft_eq_of_unnamed c c' hsame, ← Project.sketch_network p other]
    exact c'.sketch_eq
  refine ⟨_, _, Except.ok.inj (c.sketch_eq.symm.trans (hsketch c.plan.steps)),
    Except.ok.inj (hother.symm.trans (hsketch c'.plan.steps)), Alike.surround _ _ ?_⟩
  rw [c.plan_eq_denseSteps, c'.plan_eq_denseSteps]
  exact Sketch.alike_forwardPass p.metadata.variant p.flashReader hsame

theorem exists_alike_header (c : Compilation p) (c' : Compilation { p with network := other })
    (hsame : p.network.unnamed = other.unnamed) :
    ∃ lines more, c.header = unlines lines ∧ c'.header = unlines more ∧
      Alike (Layer.shownNames p.network.layers) lines (Layer.shownNames other.layers) more := by
  have hfront : Header.front { p with network := other } c'.draft = Header.front p c.draft := by
    rw [draft_eq_of_unnamed c c' hsame]
    simp only [Header.front, Header.banner, Header.defines, Network.shape_eq_of_unnamed hsame,
      Network.inputs_eq_of_unnamed hsame]
  have hother := Project.eq_of_header_eq_ok c'.header_eq
  rw [hfront] at hother
  refine ⟨_, _, Project.eq_of_header_eq_ok c.header_eq, hother, Alike.surround _ _ ?_⟩
  exact Table.alike_layersLines hsame c.tables_eq c'.tables_eq

theorem codeLines_header_eq_iff (c : Compilation p) (c' : Compilation { p with network := other })
    (hsame : p.network.unnamed = other.unnamed)
    (hharmless : ∀ layer ∈ other.layers, IsHarmless layer.name.shown) :
    codeLines c.header = codeLines c'.header ↔
      ∀ layer ∈ p.network.layers, IsHarmless layer.name.shown := by
  obtain ⟨lines, more, hlines, hmore, halike⟩ := exists_alike_header c c' hsame
  rw [hlines, hmore, halike.codeLines_eq_iff (List.forall_mem_map.2 hharmless), Layer.shownNames,
    List.forall_mem_map]

theorem codeLines_sketch_eq_iff (c : Compilation p) (c' : Compilation { p with network := other })
    (hsame : p.network.unnamed = other.unnamed)
    (hharmless : ∀ layer ∈ other.layers, IsHarmless layer.name.shown) :
    codeLines c.sketch = codeLines c'.sketch ↔
      ∀ layer ∈ p.network.layers, IsHarmless layer.name.shown := by
  obtain ⟨lines, more, hlines, hmore, halike⟩ := exists_alike_sketch c c' hsame
  rw [hlines, hmore, halike.codeLines_eq_iff (List.forall_mem_map.2 hharmless), Layer.shownNames,
    List.forall_mem_map]

end Compilation

namespace Project

theorem exists_text_codeLines_iff {p : Project} {other : Network} {bench bench' : Workbench}
    {artifact artifact' : Artifact} (h : (Job.runOn p.generateAll bench).1 = .ok artifact)
    (h' : (Job.runOn (generateAll { p with network := other }) bench').1 = .ok artifact')
    (hsame : p.network.unnamed = other.unnamed)
    (hharmless : ∀ layer ∈ other.layers, IsHarmless layer.name.shown) {name : String}
    (hname : name ∈ [headerName, p.sketchName]) :
    ∃ text text', artifact.text name = .ok text ∧ artifact'.text name = .ok text' ∧
      (codeLines text = codeLines text' ↔
        ∀ layer ∈ p.network.layers, IsHarmless layer.name.shown) := by
  obtain ⟨c, hfiles⟩ := exists_compilation h
  obtain ⟨c', hfiles'⟩ := exists_compilation h'
  rcases List.mem_pair.1 hname with rfl | rfl
  · refine ⟨c.header, c'.header, c.text_eq_ok hfiles ?_, c'.text_eq_ok hfiles' ?_, ?_⟩
    · exact List.mem_cons_of_mem _ List.mem_cons_self
    · exact List.mem_cons_of_mem _ List.mem_cons_self
    · exact c.codeLines_header_eq_iff c' hsame hharmless
  · refine ⟨c.sketch, c'.sketch, c.text_eq_ok hfiles ?_, c'.text_eq_ok hfiles' ?_, ?_⟩
    · exact List.mem_cons_self
    · exact List.mem_cons_self
    · exact c.codeLines_sketch_eq_iff c' hsame hharmless

/-- Two compilations with the same settings, of networks that differ in the names of their layers
    only.  If each further line of each name in the one network is a comment, then the headers have
    the same code exactly if this is so in the other network, too, and so have the sketches. -/
theorem codeLines_text_eq_iff {network other : Network} {metadata : Metadata} {s : Settings}
    {p q : Project} {bench bench' : Workbench} {artifact artifact' : Artifact}
    (hp : create network metadata s = .ok p) (hq : create other metadata s = .ok q)
    (hsame : network.unnamed = other.unnamed)
    (h : (Job.runOn p.generateAll bench).1 = .ok artifact)
    (h' : (Job.runOn q.generateAll bench').1 = .ok artifact')
    (hharmless : ∀ layer ∈ other.layers, IsHarmless layer.name.shown) :
    q.sketchName = p.sketchName ∧
      ∀ name ∈ [headerName, p.sketchName], ∃ text text',
        artifact.text name = .ok text ∧ artifact'.text name = .ok text' ∧
          (codeLines text = codeLines text' ↔
            ∀ layer ∈ network.layers, IsHarmless layer.name.shown) := by
  obtain rfl := (madeOf_of_create hp).network
  obtain rfl := create_network hp hq
  exact ⟨rfl, fun name hname => exists_text_codeLines_iff h h' hsame hharmless hname⟩

/-- The project with one name for all layers of its network. -/
def renamed (p : Project) (name : String) : Project :=
  let layers := p.network.layers.map fun layer => { layer with name := .text name }
  { p with network := ⟨layers, by simp [layers, p.network.layers_ne_nil]⟩ }

theorem unnamed_renamed (p : Project) (name other : String) :
    (p.renamed name).network.unnamed = (p.renamed other).network.unnamed := by
  rw [renamed, renamed, Network.unnamed, Network.unnamed, List.map_map, List.map_map]
  rfl

theorem forall_isHarmless_renamed {p : Project} {name : String} :
    (∀ layer ∈ (p.renamed name).network.layers, IsHarmless layer.name.shown) ↔
      IsHarmless name := by
  rw [renamed, List.forall_mem_map]
  constructor
  · intro h
    exact h p.network.first (List.head_mem _)
  · intro h layer _
    exact h

theorem check_renamed_sample (name : String) : (sample.renamed name).check = .ok () := by
  refine check_eq_ok.2 ⟨rfl, rfl, ?_, rfl, rfl⟩
  exact checkCounts_eq_ok.2 ⟨rfl, rfl, 5, rfl, Nat.succ_ne_zero 4, Nat.mod_self 5⟩

/-- The sample is compiled whatever its layers are called. -/
theorem generateAll_renamed_sample (name : String) (bench : Workbench) :
    ∃ artifact, (Job.runOn (sample.renamed name).generateAll bench).1 = .ok artifact := by
  have htyped : (sample.renamed name).WellTyped :=
    ⟨Board.wellTyped_of_registered (.head _), Sensor.wellTyped_color, rfl⟩
  have hfinite : ∀ x ∈ sample.network.layers.flatMap Layer.parameters, x.isFinite := by decide
  exact exists_artifact_of_check htyped (check_renamed_sample name) hfinite rfl bench

/-- A name that goes on with a comment leaves the code as it is. -/
theorem codeLines_text_eq_iff_sample :
    ∃ artifact artifact',
      (Job.runOn (sample.renamed "hidden\n  // first").generateAll {}).1 = .ok artifact ∧
      (Job.runOn (sample.renamed "output").generateAll {}).1 = .ok artifact' ∧
      ∀ name ∈ [headerName, sample.sketchName], ∃ text text',
        artifact.text name = .ok text ∧ artifact'.text name = .ok text' ∧
          codeLines text = codeLines text' := by
  let s : Settings := { sensorName := .text "color" }
  have hp : create (sample.renamed "hidden\n  // first").network .sample s =
      .ok (sample.renamed "hidden\n  // first") := rfl
  have hq : create (sample.renamed "output").network .sample s = .ok (sample.renamed "output") :=
    rfl
  obtain ⟨artifact, h⟩ := generateAll_renamed_sample "hidden\n  // first" {}
  obtain ⟨artifact', h'⟩ := generateAll_renamed_sample "output" {}
  have hname : IsHarmless "hidden\n  // first" := by decide
  have hother : IsHarmless "output" := isHarmless_of_no_break (by decide)
  obtain ⟨-, htexts⟩ := codeLines_text_eq_iff hp hq (unnamed_renamed ..) h h'
    (forall_isHarmless_renamed.2 hother)
  refine ⟨artifact, artifact', h, h', ?_⟩
  intro name hmem
  obtain ⟨text, text', htext, htext', hiff⟩ := htexts name hmem
  exact ⟨text, text', htext, htext', hiff.2 (forall_isHarmless_renamed.2 hname)⟩

/-- A name that goes on with a directive adds it to the header and to the sketch. -/
theorem codeLines_text_ne_breaking :
    let p := sample.renamed "hidden\n#define NUM_OUTPUTS 9 //"
    let q := sample.renamed "hidden"
    p.network.unnamed = q.network.unnamed ∧ q = { p with network := q.network } ∧
    ∃ artifact artifact', (Job.runOn p.generateAll {}).1 = .ok artifact ∧
      (Job.runOn q.generateAll {}).1 = .ok artifact' ∧
      ∀ name ∈ [headerName, p.sketchName], ∃ text text',
        artifact.text name = .ok text ∧ artifact'.text name = .ok text' ∧
          codeLines text ≠ codeLines text' := by
  intro p q
  obtain ⟨artifact, h⟩ := generateAll_renamed_sample "hidden\n#define NUM_OUTPUTS 9 //" {}
  obtain ⟨artifact', h'⟩ := generateAll_renamed_sample "hidden" {}
  have hname : ¬ IsHarmless "hidden\n#define NUM_OUTPUTS 9 //" := by decide
  have hother : IsHarmless "hidden" := by decide
  have hsame : p.network.unnamed = q.network.unnamed := unnamed_renamed ..
  refine ⟨hsame, rfl, artifact, artifact', h, h', ?_⟩
  intro name hmem
  obtain ⟨text, text', htext, htext', hiff⟩ := exists_text_codeLines_iff h h' hsame
    (forall_isHarmless_renamed.2 hother) hmem
  refine ⟨text, text', htext, htext', ?_⟩
  intro heq
  exact hname (forall_isHarmless_renamed.1 (hiff.1 heq))

end Project

end DenseSketch
