import DenseSketch.Proofs.Document.Values
import DenseSketch.Proofs.Inference.Sigmoid
import DenseSketch.Proofs.Project.Files
import DenseSketch.Proofs.Report.Bounds
import DenseSketch.Proofs.Sample
import DenseSketch.Proofs.Workbench.Stages
import DenseSketch.Sketch.Basic

/-!
# No message is cut

The checks compare a bound for all messages with the capacity of the channel.  The host's messages
stay within the bound, and so does what the report of a sketch prints into its buffer.
-/

namespace DenseSketch

/-! ### The sketch -/

namespace Sketch

theorem capacity_mem_bluetooth (t : Transport) :
    Line.code 0 s!"const int TX_CAPACITY = {t.txCapacity.shown};" ∈ bluetooth t := by
  simp only [bluetooth, Code.ofTexts, List.map_cons, List.mem_append, List.mem_cons, true_or, or_true]

theorem regressor_emits (p : Project) (d : Draft) (s : Project.Surroundings)
    (reading : Project.FrameReading) :
    Line.code 0 s!"const int TX_CAPACITY = {p.transport.txCapacity.shown};" ∈
        regressor p d s reading ∧
      Report.function <:+ regressor p d s reading := by
  refine ⟨?_, ?_⟩
  · have hmem := capacity_mem_bluetooth p.transport
    delta regressor
    generalize bluetooth p.transport = part at hmem ⊢
    simp only [List.mem_append, hmem, true_or, or_true]
  · exact Report.function_suffix_valueReport.trans (List.suffix_append _ _)

end Sketch

namespace Project

variable {p : Project} {start : Workbench}

/-- What is known of the messages of a project whose channel holds `capacity` bytes. -/
structure MessagesFit (p : Project) (longest : Nat) (capacity : Int) : Prop where
  bound : Message.maxLength p.metadata = .ok longest
  longest_le : longest ≤ capacity
  isLongest : Message.IsLongest p.metadata longest
  /-- What a report depends on: its sketch declares the capacity, and the header the outputs. -/
  emitted : p.metadata.variant = .regression → ∀ d code, p.sketchCode d = .ok code →
    Line.code 0 s!"const int TX_CAPACITY = {capacity};" ∈ code ∧ Report.function <:+ code
  defined : ∀ d, ("NUM_OUTPUTS", p.metadata.outputCount) ∈ Header.defines p d
  /-- A report of values that are no negative zeros is never cut. -/
  complete : p.metadata.variant = .regression → ∀ call : Report.Call,
    call.capacity = capacity → call.outputs = p.metadata.outputCount → call.IsProper →
      ∃ final, call.run = some final ∧ Report.IsComplete call final
  /-- The logistic function has no negative zero among its values. -/
  plain : ∀ exp : Datum → Datum, (∀ x, (exp x).isNegative = false) →
    ∀ x, Report.IsPlain (Arithmetic.sigmoid { Arithmetic.binary32 with exp := exp } x)

theorem checkCapacity_eq_ok {capacity : Int} (hcapacity : p.transport.txCapacity = .integer capacity) :
    p.checkCapacity = .ok () ↔
      ∃ longest : Nat, Message.maxLength p.metadata = .ok longest ∧ longest ≤ capacity := by
  cases hvariant : p.metadata.variant
  all_goals simp [checkCapacity, hcapacity, Document.isBelow_integer, hvariant]

/-- No message is cut: for every project that passes its checks, all messages of the host and all
    reports of the sketch fit the channel. -/
theorem messages_fit {capacity : Int} (hvalid : (Job.runOn p.validate start).1 = .ok ())
    (hcapacity : p.transport.txCapacity = .integer capacity) :
    ∃ longest, MessagesFit p longest capacity := by
  obtain ⟨_, hvalidate⟩ := p.runOn_validate start
  have hcheck : p.check = .ok () := by rwa [hvalidate] at hvalid
  obtain ⟨-, hlabels, -, -, hroom⟩ := check_eq_ok.1 hcheck
  obtain ⟨longest, hlength, hle⟩ := (checkCapacity_eq_ok hcapacity).1 hroom
  have hnonempty := (Message.checkLabels_eq_ok.1 hlabels).1
  refine ⟨longest, ?_⟩
  constructor
  case bound => exact hlength
  case longest_le => exact hle
  case isLongest => exact Message.isLongest_of_maxLength hnonempty hlength
  case emitted =>
    intro hvariant d code hcode
    simp only [sketchCode, hvariant, bind_eq_ok, pure_eq_ok] at hcode
    obtain ⟨s, _, reading, _, rfl⟩ := hcode
    have hemits := Sketch.regressor_emits p d s reading
    rwa [hcapacity] at hemits
  case defined =>
    intro d
    simp [Header.defines, Plan.outputSymbol]
  case complete =>
    intro hvariant call hcall houtputs hproper
    simp only [Message.maxLength, hvariant, Except.ok.injEq] at hlength
    exact Report.run_isComplete hproper (by omega)
  case plain =>
    intro exp hexp x hzero
    rw [Arithmetic.isNegative_sigmoid hexp] at hzero
    exact Bool.false_ne_true hzero.2

theorem messages_fit_regressor : MessagesFit regressor 14 128 := by
  have hcheck : regressor.check = .ok () := rfl
  obtain ⟨_, hvalidate⟩ := regressor.runOn_validate {}
  have hvalid : (Job.runOn regressor.validate {}).1 = .ok () := by rw [hvalidate, hcheck]
  obtain ⟨longest, hfit⟩ := messages_fit hvalid rfl
  have hbound : Message.maxLength regressor.metadata = .ok 14 := rfl
  obtain rfl : longest = 14 := Except.ok.inj (hfit.bound.symm.trans hbound)
  exact hfit

end Project

end DenseSketch
