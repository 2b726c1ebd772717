import DenseSketch.Proofs.Project.Rendering
import DenseSketch.Proofs.Sketch.WholeLines

/-!
# Whole lines of the files

The header and the description take up the texts that a sketch does and a few more.  Where none of
them has a line break no line of the files is broken, so that the lines are found again in the texts
of the files.  The registered boards and sensors and the standard transports have no such text: a
project of these can only break a line by its stamp and by the names of its layers.
-/

namespace DenseSketch

open Text

/-! ### The header -/

namespace Readme

variable {p : Project} {d : Draft} {s : Project.Surroundings}

end Readme

/-! ### The message -/

namespace Message

end Message

/-! ### The files -/

namespace Rendering

variable {p : Project} (r : Rendering p)

/-- The texts that the files take up beside the labels, which are checked for line breaks. -/
def insertedTexts : List String :=
  p.banner.toList ++ p.board.texts ++ p.sensor.texts ++ p.transport.texts ++
    p.network.layers.map (·.name.shown) ++ r.surroundings.texts ++ r.reading.texts ++
    r.libraries.map Document.shown ++ r.pins.map Document.shown

end Rendering

/-! ### Projects of registered parts -/

theorem Board.isUnbroken_texts_of_registered {name : String} {board : Board}
    (hmem : (name, board) ∈ registry) : ∀ text ∈ board.texts, IsUnbroken text := by
  have hqualifier : IsUnbroken (Table.qualifierText (.text "PROGMEM")) :=
    (Table.isQualifying_of_registered _ List.mem_cons_self).no_break
  rcases eq_of_registered hmem with rfl | rfl
  all_goals
    simp [texts, nano33ble, nano33bleRev2, nanoCapabilities, flashQualifier, Document.isTruthy,
      hqualifier]
    and_intros <;> exact isUnbroken_ofList (by decide)

theorem Sensor.isUnbroken_texts_of_registered {name : String} {sensor : Sensor}
    (hmem : (name, sensor) ∈ registry) : ∀ text ∈ sensor.texts, IsUnbroken text := by
  have haxes : IsUnbroken (commaSeparated motionChannels) := by
    refine isUnbroken_commaSeparated ?_
    simp [motionChannels]
    and_intros <;> exact isUnbroken_ofList (by decide)
  rcases eq_of_registered hmem with rfl | rfl
  · simp [texts, color]
    and_intros <;> exact isUnbroken_ofList (by decide)
  · simp [texts, imu, haxes]
    and_intros <;> exact isUnbroken_ofList (by decide)

theorem Transport.isUnbroken_texts_forVariant (variant : Variant) :
    ∀ text ∈ (forVariant variant).texts, IsUnbroken text := by
  cases variant
  all_goals
    simp [texts, forVariant, standard]
    and_intros <;> exact isUnbroken_ofList (by decide)

namespace Project

variable {p : Project} {name sensorName : String}

theorem isUnbroken_title_of_registered {text : String}
    (hsensor : (sensorName, p.sensor) ∈ Sensor.registry) (htitle : p.title = .ok text) :
    Text.IsUnbroken text := by
  have hupper : Text.IsUnbroken (upper "color") ∧ Text.IsUnbroken (upper "imu") :=
    ⟨isUnbroken_ofList (by decide), isUnbroken_ofList (by decide)⟩
  unfold title at htitle
  rcases Sensor.eq_of_registered hsensor with heq | heq
  all_goals
    simp [heq, Sensor.color, Sensor.imu] at htitle
    rw [← htitle]
    cases p.metadata.variant
    all_goals
      simp [hupper]
      and_intros <;> exact isUnbroken_ofList (by decide)

theorem exists_sensorLibrary_of_registered (hboard : (name, p.board) ∈ Board.registry)
    (hsensor : (sensorName, p.sensor) ∈ Sensor.registry) : ∃ header library,
      p.board.sensorLibrary p.sensor.familyKey = .ok [.text header, .text library] ∧
      Text.IsUnbroken header ∧ Text.IsUnbroken library := by
  rcases Board.eq_of_registered hboard with hboard | hboard
  all_goals
    rcases Sensor.eq_of_registered hsensor with hsensor | hsensor
    all_goals
      rw [hboard, hsensor]
      exact ⟨_, _, rfl, isUnbroken_ofList (by decide), isUnbroken_ofList (by decide)⟩

theorem isUnbroken_surroundings_of_registered {s : Surroundings}
    (hboard : (name, p.board) ∈ Board.registry)
    (hsensor : (sensorName, p.sensor) ∈ Sensor.registry) (hs : p.surroundings = .ok s) :
    ∀ text ∈ s.texts, Text.IsUnbroken text := by
  obtain ⟨header, library, hlibrary, hheader, -⟩ :=
    exists_sensorLibrary_of_registered hboard hsensor
  simp only [surroundings, hlibrary, bind_eq_ok, pure_eq_ok, Except.ok.injEq, exists_eq_left'] at hs
  obtain ⟨title, htitle, frames, hframes, size, -, rfl⟩ := hs
  simp only [Surroundings.texts, List.forall_mem_cons]
  refine ⟨isUnbroken_title_of_registered hsensor htitle, hheader, ?_, List.forall_mem_nil _⟩
  rcases Sensor.eq_of_registered hsensor with heq | heq
  all_goals
    rw [heq] at hframes
    cases hframes
    exact isUnbroken_int_repr _

theorem isUnbroken_frameReading_of_registered {reading : FrameReading}
    (hsensor : (sensorName, p.sensor) ∈ Sensor.registry) (hreading : p.frameReading = .ok reading) :
    ∀ text ∈ reading.texts, Text.IsUnbroken text := by
  unfold frameReading at hreading
  rcases Sensor.eq_of_registered hsensor with heq | heq
  all_goals
    simp only [heq, Sensor.color, Sensor.imu, Sensor.motionChannels, Document.texts_ofTexts,
      Document.items?_ofTexts, bind_eq_ok, pure_eq_ok, Except.ok.injEq, exists_eq_left',
      List.map_map] at hreading
    rw [← hreading]
    simp [FrameReading.texts]
    and_intros <;> exact isUnbroken_ofList (by decide)

theorem isUnbroken_libraries_of_registered {libraries : List Document}
    (hboard : (name, p.board) ∈ Board.registry)
    (hsensor : (sensorName, p.sensor) ∈ Sensor.registry)
    (hlibraries : p.board.requiredLibraries p.sensor.familyKey = .ok libraries) :
    ∀ library ∈ libraries, Text.IsUnbroken library.shown := by
  obtain ⟨header, library, hlibrary, -, hname⟩ := exists_sensorLibrary_of_registered hboard hsensor
  have htransport : Text.IsUnbroken p.board.capabilities.transportLibrary.shown := by
    rcases Board.eq_of_registered hboard with heq | heq
    all_goals
      rw [heq]
      exact isUnbroken_ofList (by decide)
  simp only [Board.requiredLibraries, hlibrary, bind_eq_ok, Except.ok.injEq, exists_eq_left',
    pure_eq_ok] at hlibraries
  subst hlibraries
  simp [hname, htransport]

theorem isUnbroken_pins_of_registered {pins : List Document}
    (hboard : (name, p.board) ∈ Board.registry) (hpins : p.pins = .ok pins) :
    ∀ pin ∈ pins, Text.IsUnbroken pin.shown := by
  have hcounted : p.board.capabilities.firstPwmPin.wholeNumber = .ok 2 ∧
      p.board.capabilities.pwmPinCount.wholeNumber = .ok 12 := by
    rcases Board.eq_of_registered hboard with heq | heq
    all_goals
      rw [heq]
      exact ⟨rfl, rfl⟩
  unfold Project.pins at hpins
  cases hvariant : p.metadata.variant with
  | classification =>
    rw [hvariant] at hpins
    cases hpins
    exact List.forall_mem_nil _
  | regression =>
    rw [hvariant] at hpins
    rw [(Board.pwmPins_eq_ok hcounted.1 hcounted.2 hpins).2, List.forall_mem_map]
    exact fun i _ => isUnbroken_shown_integer _

end Project

/-- With a registered board and sensor and the transport of its variant only a stamp and the names of
    layers can bring line breaks into the files. -/
theorem Rendering.no_break_insertedTexts {p : Project} {name sensorName : String}
    (hboard : (name, p.board) ∈ Board.registry)
    (hsensor : (sensorName, p.sensor) ∈ Sensor.registry)
    (htransport : p.transport = .forVariant p.metadata.variant)
    (hbanner : ∀ stamp ∈ p.banner, '\n' ∉ stamp.toList)
    (hnames : ∀ layer ∈ p.network.layers, '\n' ∉ layer.name.shown.toList) (r : Rendering p) :
    ∀ text ∈ r.insertedTexts, '\n' ∉ text.toList := by
  simp only [insertedTexts, List.forall_mem_append, List.forall_mem_map]
  refine ⟨⟨⟨⟨⟨⟨⟨⟨?_, ?_⟩, ?_⟩, ?_⟩, hnames⟩, ?_⟩, ?_⟩, ?_⟩, ?_⟩
  · exact fun stamp hstamp => hbanner stamp (Option.mem_toList.1 hstamp)
  · exact Board.isUnbroken_texts_of_registered hboard
  · exact Sensor.isUnbroken_texts_of_registered hsensor
  · rw [htransport]
    exact Transport.isUnbroken_texts_forVariant _
  · exact Project.isUnbroken_surroundings_of_registered hboard hsensor r.surroundings_eq
  · exact Project.isUnbroken_frameReading_of_registered hsensor r.reading_eq
  · exact Project.isUnbroken_libraries_of_registered hboard hsensor r.libraries_eq
  · exact Project.isUnbroken_pins_of_registered hboard r.pins_eq

end DenseSketch
