import DenseSketch.CommandLine.Compile
import DenseSketch.Proofs.List.Lookup

/-!
# Options that are read

What is read are options of the grammar, each with a value that it may have.  A switch that stands
before all other arguments is read as one more option that is given first: it excludes nothing, and
it hides no other option.
-/

namespace DenseSketch

theorem lookup?_append {α : Type} (key : String) (xs ys : List (String × α)) :
    lookup? key (xs ++ ys) = (lookup? key xs).or (lookup? key ys) := by
  induction xs with
  | nil => rfl
  | cons x xs ih =>
    obtain ⟨k, v⟩ := x
    by_cases hk : k = key
    · simp [lookup?, hk]
    · simp [lookup?, hk, ih]

namespace CommandLine

/-- What may be read as the value of an option.  An attached separator stands for a list without
    items, whatever the option expects. -/
inductive Expects.Admits : Expects → Document → Prop
  | switch : Admits .nothing (.truth true)
  | text (s : String) : Admits .text (.text s)
  | number (n : Int) : Admits .number (.integer n)
  | choice {choices : List String} {s : String} (hs : s ∈ choices) :
    Admits (.oneOf choices) (.text s)
  | separator {expects : Expects} : Admits expects (.list [])

theorem Expects.Admits.isNull_eq_false {expects : Expects} {value : Document}
    (h : expects.Admits value) : value.isNull = false := by
  cases h <;> rfl

/-! ### One more option -/

namespace Given

variable {given : Given} {name other : String} {value : Document}

theorem latest?_cons_of_ne (hother : name ≠ other) :
    latest? ((name, value) :: given) other = given.latest? other := by
  rw [latest?, List.reverse_cons, lookup?_append, latest?]
  simp [lookup?, hother]

theorem latestOr_cons_of_ne (hother : name ≠ other) (default : Document) :
    latestOr ((name, value) :: given) other default = given.latestOr other default := by
  rw [latestOr, latest?_cons_of_ne hother, latestOr]

theorem text?_cons_of_ne (hother : name ≠ other) :
    text? ((name, value) :: given) other = given.text? other := by
  rw [text?, latest?_cons_of_ne hother, text?]

theorem textOrEmpty?_cons_of_ne (hother : name ≠ other) :
    textOrEmpty? ((name, value) :: given) other = given.textOrEmpty? other := by
  rw [textOrEmpty?, latest?_cons_of_ne hother, textOrEmpty?]

theorem values_cons_of_ne (hother : name ≠ other) :
    values ((name, value) :: given) other = given.values other := by
  rw [values, List.filter_cons_of_neg (by simpa using hother), values]

theorem has_cons_of_ne (hother : name ≠ other) :
    has ((name, value) :: given) other = given.has other := by
  rw [has, latest?_cons_of_ne hother, has]

theorem has_cons_self : has ((name, value) :: given) name = true := by
  rw [has, latest?, List.reverse_cons, lookup?_append]
  cases lookup? name given.reverse <;> simp [lookup?]

end Given

namespace Grammar

variable {g : Grammar} {name : String} {value : Document}

theorem any_has_cons (value : Document) (hname : name ∉ g.alternatives) (given : Given)
    (keep : String → Bool) :
    (g.alternatives.any fun other => keep other && Given.has ((name, value) :: given) other) =
      g.alternatives.any fun other => keep other && given.has other := by
  rw [Bool.eq_iff_iff, List.any_eq_true, List.any_eq_true]
  refine exists_congr fun other => and_congr_right fun hother => ?_
  have hne : name ≠ other := fun heq => hname (heq ▸ hother)
  rw [Given.has_cons_of_ne hne]

theorem add_cons (hname : name ∉ g.alternatives) (given : Given) (other : String)
    (taken : Document) :
    g.add ((name, value) :: given) other taken =
      (g.add given other taken).map ((name, value) :: ·) := by
  rw [add, add, any_has_cons value hname]
  split <;> rfl

/-- An option that excludes nothing and is given already stays the first one. -/
theorem take_cons (hname : name ∉ g.alternatives) (hasStray : Bool) (given : Given)
    (pieces : List Piece) :
    g.take hasStray ((name, value) :: given) pieces =
      (g.take hasStray given pieces).map ((name, value) :: ·) := by
  have hany : ∀ given : Given, g.alternatives.any (Given.has ((name, value) :: given)) =
      g.alternatives.any given.has := fun given => by
    simpa using any_has_cons value hname given fun _ => true
  -- Each step of reading adds behind what is given, so the first option stays in front.
  fun_induction take g hasStray given pieces
  all_goals simp_all [take, add_cons, Except.map]

theorem read_cons {argument : String} (hname : name ∉ g.alternatives)
    (hswitch : g.classify argument = .ok (.option ⟨name, .nothing⟩ none))
    (arguments : List String) :
    g.read (argument :: arguments) =
      (g.read arguments).map ((name, .truth true) :: ·) := by
  have hclassified : g.classifyAll (argument :: arguments) =
      (g.classifyAll arguments).map (.option ⟨name, .nothing⟩ none :: ·) := by
    rw [classifyAll, hswitch]
    cases g.classifyAll arguments <;> rfl
  rw [read, read, hclassified]
  cases g.classifyAll arguments with
  | error stop => rfl
  | ok pieces => exact take_cons hname false [] pieces

/-! ### Rules of options -/

/-- The rule of a piece is one of the grammar. -/
def Knows (g : Grammar) : Piece → Prop
  | .option rule _ | .letters rule _ => rule ∈ g.rules
  | .stranger | .value _ | .separator => True

theorem knows_of_mem_readings {argument : String} {piece : Piece}
    (h : piece ∈ g.readings argument) : g.Knows piece := by
  unfold readings at h
  split at h
  all_goals
    obtain ⟨rule, hrule, rfl⟩ := List.mem_map.1 h
    exact List.mem_of_mem_filter hrule

theorem knows_of_classifyOther {argument : String} {piece : Piece}
    (h : g.classifyOther argument = .ok piece) : g.Knows piece := by
  unfold classifyOther at h
  split at h
  · next only hreadings =>
    cases h
    exact knows_of_mem_readings (hreadings ▸ List.mem_singleton_self _)
  · cases h
  · split at h <;> cases h <;> trivial

theorem knows_of_rule? {rule : OptionRule} {name : String} (attached : Option String)
    (h : g.rule? name = some rule) : g.Knows (.option rule attached) :=
  List.mem_of_find?_eq_some h

theorem knows_of_classify {argument : String} {piece : Piece}
    (h : g.classify argument = .ok piece) : g.Knows piece := by
  unfold classify at h
  repeat' split at h
  all_goals first
    | exact knows_of_classifyOther h
    | cases h; first | trivial | exact knows_of_rule? _ ‹_›

theorem knows_of_classifyAll {arguments : List String} {pieces : List Piece}
    (h : g.classifyAll arguments = .ok pieces) : ∀ piece ∈ pieces, g.Knows piece := by
  induction arguments generalizing pieces with
  | nil =>
    cases h
    exact List.forall_mem_nil _
  | cons argument rest ih =>
    rw [classifyAll] at h
    cases hfirst : g.classify argument with
    | error stop =>
      rw [hfirst] at h
      cases h
    | ok first =>
      rw [hfirst] at h
      simp only [bind, Except.bind] at h
      split at h
      -- Behind a separator there are values only.
      · cases h
        simp [Knows]
      · cases hrest : g.classifyAll rest with
        | error stop =>
          rw [hrest] at h
          cases h
        | ok more =>
          rw [hrest] at h
          cases h
          exact List.forall_mem_cons.2 ⟨knows_of_classify hfirst, ih hrest⟩

/-! ### Values of options -/

theorem admits_of_valueOf {expects : Expects} {text : String} {value : Document}
    (h : valueOf expects text = .ok value) : expects.Admits value := by
  unfold valueOf at h
  split at h
  · cases h
  · cases h
  · cases h
    exact .text text
  · split at h <;> cases h
    exact .number _
  · split at h <;> cases h
    next hmem => exact .choice (List.contains_iff_mem.1 hmem)

theorem admits_of_attachedValue {expects : Expects} {text : String} {value : Document}
    (h : attachedValue expects text = .ok value) : expects.Admits value := by
  unfold attachedValue at h
  split at h
  · cases h
  · cases h
  · split at h
    · cases h
      exact .separator
    · exact admits_of_valueOf h

/-- The options are options of the grammar, each with a value that it may have. -/
def Allows (g : Grammar) (given : Given) : Prop :=
  ∀ option ∈ given, ∃ rule ∈ g.rules, rule.name = option.1 ∧ rule.expects.Admits option.2

theorem Allows.append {given : Given} {rule : OptionRule} (hgiven : g.Allows given)
    (hrule : rule ∈ g.rules) (hvalue : rule.expects.Admits value) :
    g.Allows (given ++ [(rule.name, value)]) :=
  List.forall_mem_append.2
    ⟨hgiven, List.forall_mem_singleton.2 ⟨rule, hrule, rfl, hvalue⟩⟩

theorem Allows.add {given taken : Given} {rule : OptionRule} (hgiven : g.Allows given)
    (hrule : rule ∈ g.rules) (hvalue : rule.expects.Admits value)
    (h : g.add given rule.name value = .ok taken) : g.Allows taken := by
  unfold Grammar.add at h
  split at h
  · cases h
  · cases h
    exact hgiven.append hrule hvalue

theorem Allows.take {hasStray : Bool} {given taken : Given} {pieces : List Piece}
    (hgiven : g.Allows given) (hpieces : ∀ piece ∈ pieces, g.Knows piece)
    (h : g.take hasStray given pieces = .ok taken) : g.Allows taken := by
  fun_induction Grammar.take g hasStray given pieces with
  | case2 =>
    cases h
    exact hgiven
  | case6 hasStray given rule text rest _ value hvalue made hmade ih =>
    rw [List.forall_mem_cons] at hpieces
    exact ih (hgiven.add hpieces.1 (admits_of_attachedValue hvalue) hmade) hpieces.2 h
  | case8 hasStray given rule rest hexpects ih =>
    rw [List.forall_mem_cons] at hpieces
    exact ih (hgiven.append hpieces.1 (hexpects ▸ .switch)) hpieces.2 h
  | case11 hasStray given rule text rest value made hmade _ _ hvalue ih =>
    rw [List.forall_mem_cons, List.forall_mem_cons] at hpieces
    exact ih (hgiven.add hpieces.1 (admits_of_valueOf hvalue) hmade) hpieces.2.2 h
  | case14 hasStray given piece rest _ _ _ ih =>
    exact ih hgiven (List.forall_mem_cons.1 hpieces).2 h
  | _ => cases h

/-- Whatever is read is allowed. -/
theorem allows_of_read {arguments : List String} {given : Given}
    (h : g.read arguments = .ok given) : g.Allows given := by
  rw [read] at h
  cases hpieces : g.classifyAll arguments with
  | error stop =>
    rw [hpieces] at h
    cases h
  | ok pieces =>
    rw [hpieces] at h
    exact Allows.take (List.forall_mem_nil _) (knows_of_classifyAll hpieces) h

/-- An option has a value that is given and that it may have, or the one that stands for none, if no
    two options have one name. -/
theorem Allows.latestOr_cases {given : Given} {rule : OptionRule} (hgiven : g.Allows given)
    (hnames : (g.rules.map (·.name)).Nodup) (hrule : rule ∈ g.rules) (default : Document) :
    (rule.name, given.latestOr rule.name default) ∈ given ∧
        rule.expects.Admits (given.latestOr rule.name default) ∨
      given.latestOr rule.name default = default := by
  rw [Given.latestOr]
  cases hvalue : given.latest? rule.name with
  | none => exact .inr rfl
  | some value =>
    have hmem : (rule.name, value) ∈ given := List.mem_reverse.1 (mem_of_lookup?_eq_some hvalue)
    obtain ⟨other, hother, hname, hadmits⟩ := hgiven _ hmem
    rw [List.inj_on_of_nodup_map hnames hother hrule hname] at hadmits
    exact .inl ⟨hmem, hadmits⟩

end Grammar

/-! ### The switch that asks for a check only -/

/-- The switch that asks for a check only. -/
def checkSwitch : String := "--check-only"

theorem read_checkSwitch (arguments : List String) :
    compileGrammar.read (checkSwitch :: arguments) =
      (compileGrammar.read arguments).map ((checkSwitch, .truth true) :: ·) :=
  Grammar.read_cons (by decide) rfl arguments

/-- The switch changes nothing about the request but that it asks for a check only. -/
theorem CompileRequest.ofGiven_checkSwitch (given : Given) :
    ofGiven ((checkSwitch, .truth true) :: given) = { ofGiven given with isCheckOnly := true } := by
  simp (disch := decide) only [ofGiven, Given.latest?_cons_of_ne, Given.latestOr_cons_of_ne,
    Given.text?_cons_of_ne, Given.textOrEmpty?_cons_of_ne, Given.values_cons_of_ne]
  rw [show Given.has ((checkSwitch, .truth true) :: given) "--check-only" = true from
    Given.has_cons_self]

end CommandLine

end DenseSketch
