import PolicyRuntime.DeviceNumbering
import PolicyRuntime.LoaderPairing

/-!
# Axis links in the host

The host looks up the actuator of each axis by the alias and position texts of
the actuators.  It has a number parser of its own, which reads a text as it
stands where the loader trims it first.
-/

namespace PolicyRuntime

/-- `std::from_chars` of the whole text into a number below a bound. -/
def fromCharsBelow (bound base : ℕ) : List Char → ℕ → Option ℕ
  | [], parsed => some parsed
  | character :: rest, parsed => do
      let digit ← digitValue base character
      let next := parsed * base + digit
      if next < bound then fromCharsBelow bound base rest next else none

def parseBusPosition (text : String) : Option ℕ :=
  let (base, digits) := splitBase text.toList
  acceptNumber (2 ^ 16 - 1) digits (fromCharsBelow (2 ^ 32) base digits 0)

section Names

variable {D : Type}

def matchesAxis (device : DeviceConfig) (axis : AxisProfile D)
    (path : String) : Bool :=
  match device.args.lookup "alias", device.args.lookup "position" with
  | some aliasText, some positionText =>
      device.type = "cia402" && device.path = path &&
        parseBusPosition aliasText = some axis.stationAlias &&
        parseBusPosition positionText = some axis.position
  | _, _ => false

/-- One turn of the loop in `axis_actuator_names`. -/
def axisActuatorName (sensors actuators : List DeviceConfig)
    (axis : AxisProfile D) : Except Error String :=
  match sensors.find? fun candidate =>
      candidate.type = "cia402" && candidate.name = axis.name with
  | none =>
      .error ⟨.invalidArgument,
        "cia402 axis has no matching sensor: " ++ axis.name⟩
  | some sensor =>
      match actuators.find? (matchesAxis · axis sensor.path) with
      | none =>
          .error ⟨.invalidArgument,
            "cia402 axis has no matching actuator: " ++ axis.name⟩
      | some actuator => .ok actuator.name

def axisActuatorNames (sensors actuators : List DeviceConfig) :
    List (AxisProfile D) → Except Error (List String)
  | [] => .ok []
  | axis :: rest =>
      match axisActuatorName sensors actuators axis with
      | .error error => .error error
      | .ok name =>
          match axisActuatorNames sensors actuators rest with
          | .error error => .error error
          | .ok names => .ok (name :: names)

end Names

/-! ## Digits -/

theorem fromChars_eq_below (base : ℕ) (digits : List Char) (parsed : ℕ) :
    fromChars base digits parsed =
      fromCharsBelow (2 ^ 64) base digits parsed := by
  induction digits generalizing parsed with
  | nil => rfl
  | cons character rest ih =>
      unfold fromChars fromCharsBelow
      cases digitValue base character with
      | none => rfl
      | some digit =>
          dsimp only [Option.bind_eq_bind, Option.bind_some]
          rw [ih]

/-- What reading a digit succeeded with. -/
theorem fromCharsBelow_cons {bound base parsed value : ℕ} {character : Char}
    {rest : List Char}
    (hread : fromCharsBelow bound base (character :: rest) parsed =
      some value) :
    ∃ digit, digitValue base character = some digit ∧
      parsed * base + digit < bound ∧
      fromCharsBelow bound base rest (parsed * base + digit) = some value := by
  unfold fromCharsBelow at hread
  cases hdigit : digitValue base character with
  | none =>
      rw [hdigit] at hread
      cases hread
  | some digit =>
      rw [hdigit] at hread
      dsimp only [Option.bind_eq_bind, Option.bind_some] at hread
      by_cases hbound : parsed * base + digit < bound
      · rw [if_pos hbound] at hread
        exact ⟨digit, rfl, hbound, hread⟩
      · rw [if_neg hbound] at hread
        cases hread

theorem fromCharsBelow_of_digit {bound base parsed digit : ℕ}
    {character : Char} (rest : List Char)
    (hdigit : digitValue base character = some digit)
    (hbound : parsed * base + digit < bound) :
    fromCharsBelow bound base (character :: rest) parsed =
      fromCharsBelow bound base rest (parsed * base + digit) := by
  rw [fromCharsBelow, hdigit]
  dsimp only [Option.bind_eq_bind, Option.bind_some]
  rw [if_pos hbound]

/-- A number is not below what was read of it. -/
theorem le_of_fromCharsBelow {bound base parsed value : ℕ}
    {digits : List Char} (hbase : 1 ≤ base)
    (hread : fromCharsBelow bound base digits parsed = some value) :
    parsed ≤ value := by
  induction digits generalizing parsed with
  | nil =>
      cases hread
      exact le_refl _
  | cons character rest ih =>
      obtain ⟨digit, -, -, hrest⟩ := fromCharsBelow_cons hread
      calc parsed ≤ parsed * base := Nat.le_mul_of_pos_right parsed hbase
        _ ≤ parsed * base + digit := Nat.le_add_right _ _
        _ ≤ value := ih hrest

/-- The bound matters only for numbers beyond it. -/
theorem fromCharsBelow_of_lt {bound other base parsed value : ℕ}
    {digits : List Char} (hbase : 1 ≤ base)
    (hread : fromCharsBelow bound base digits parsed = some value)
    (hvalue : value < other) :
    fromCharsBelow other base digits parsed = some value := by
  induction digits generalizing parsed with
  | nil =>
      cases hread
      rfl
  | cons character rest ih =>
      obtain ⟨digit, hdigit, -, hrest⟩ := fromCharsBelow_cons hread
      have hle := le_of_fromCharsBelow hbase hrest
      rw [fromCharsBelow_of_digit rest hdigit (by omega)]
      exact ih hrest

theorem digitValue_notSpace {base digit : ℕ} {character : Char}
    (hdigit : digitValue base character = some digit) :
    isSpace character = false := by
  by_contra hspace
  rw [Bool.not_eq_false] at hspace
  have hlow : character ≤ ' ' := by
    unfold isSpace at hspace
    rw [Bool.or_eq_true, Bool.and_eq_true, decide_eq_true_eq,
      decide_eq_true_eq, decide_eq_true_eq] at hspace
    cases hspace with
    | inl hblank => exact hblank ▸ Char.le_refl _
    | inr hcontrol => exact Char.le_trans hcontrol.2 (by decide)
  -- white space stands before the digits and the letters
  have hbelow (first : Char) (hfirst : ¬ first ≤ ' ') :
      decide (first ≤ character) = false := by
    apply decide_eq_false
    intro hle
    exact hfirst (Char.le_trans hle hlow)
  unfold digitValue at hdigit
  rw [hbelow '0' (by decide), hbelow 'a' (by decide),
    hbelow 'A' (by decide)] at hdigit
  simp at hdigit

theorem fromCharsBelow_notSpace {bound base parsed value : ℕ}
    {digits : List Char}
    (hread : fromCharsBelow bound base digits parsed = some value) :
    ∀ character ∈ digits, isSpace character = false := by
  induction digits generalizing parsed with
  | nil => simp
  | cons character rest ih =>
      obtain ⟨digit, hdigit, -, hrest⟩ := fromCharsBelow_cons hread
      rw [List.forall_mem_cons]
      exact ⟨digitValue_notSpace hdigit, ih hrest⟩

/-! ## Two readings of a text -/

/-- Whether the text has no white space around it. -/
def Bare (text : String) : Prop :=
  trim text = text.toList

instance (text : String) : Decidable (Bare text) :=
  inferInstanceAs (Decidable (_ = _))

theorem bare_of_notSpace {text : String}
    (hspace : ∀ character ∈ text.toList, isSpace character = false) :
    Bare text := by
  have hkept {list : List Char}
      (hlist : ∀ character ∈ list, isSpace character = false) :
      list.dropWhile isSpace = list := by
    cases list with
    | nil => rfl
    | cons character rest =>
        rw [List.dropWhile_cons_of_neg]
        simp [hlist character]
  unfold Bare trim
  rw [hkept hspace, hkept (by simpa using hspace), List.reverse_reverse]

theorem splitBase_base (value : List Char) : 1 ≤ (splitBase value).1 := by
  unfold splitBase
  split
  · simp
  · simp
  · simp

theorem splitBase_notSpace {value : List Char}
    (hdigits : ∀ character ∈ (splitBase value).2, isSpace character = false) :
    ∀ character ∈ value, isSpace character = false := by
  unfold splitBase at hdigits
  split at hdigits
  · simp only [List.forall_mem_cons] at hdigits ⊢
    exact ⟨by decide, by decide, hdigits⟩
  · simp only [List.forall_mem_cons] at hdigits ⊢
    exact ⟨by decide, by decide, hdigits⟩
  · exact hdigits

theorem parseBusPosition_eq_some_iff {text : String} {value : ℕ} :
    parseBusPosition text = some value ↔
      Bare text ∧ parseUnsigned (2 ^ 16 - 1) text = some value := by
  have hhost : parseBusPosition text = some value ↔
      (splitBase text.toList).2 ≠ [] ∧
        fromCharsBelow (2 ^ 32) (splitBase text.toList).1
          (splitBase text.toList).2 0 = some value ∧
        value ≤ 2 ^ 16 - 1 :=
    acceptNumber_eq_some_iff
  rw [hhost, parseUnsigned_eq_some_iff, fromChars_eq_below]
  have hbase := splitBase_base text.toList
  constructor
  · rintro ⟨hdigits, hread, hvalue⟩
    have hbare : Bare text := bare_of_notSpace
      (splitBase_notSpace (fromCharsBelow_notSpace hread))
    refine ⟨hbare, ?_⟩
    rw [hbare]
    exact ⟨hdigits, fromCharsBelow_of_lt hbase hread (by omega), hvalue⟩
  · rintro ⟨hbare, hdigits, hread, hvalue⟩
    rw [hbare] at hdigits hread
    exact ⟨hdigits, fromCharsBelow_of_lt hbase hread (by omega), hvalue⟩

/-! ## Names of the paired actuators -/

/-- The two texts by which the host knows an actuator. -/
def BareTexts (device : DeviceConfig) : Prop :=
  Bare ((device.args.lookup "alias").getD "") ∧
    Bare ((device.args.lookup "position").getD "")

instance (device : DeviceConfig) : Decidable (BareTexts device) :=
  inferInstanceAs (Decidable (_ ∧ _))

section Agreement

variable {D F : Type} [DoubleArithmetic D] [SinglePrecision F]
  (strtod : List Char → Option D) (toFloat : D → F)

theorem matchesAxis_iff {device : DeviceConfig} {parsed axis : AxisProfile D}
    {path : String} (hparsed : ParsedAxis device parsed) :
    matchesAxis device axis path = true ↔
      device.type = "cia402" ∧ device.path = path ∧ BareTexts device ∧
        parsed.number = axis.number := by
  obtain ⟨aliasText, halias⟩ := Option.isSome_iff_exists.mp
    (hparsed.argument "alias" (by simp [axisArguments]))
  obtain ⟨positionText, hposition⟩ := Option.isSome_iff_exists.mp
    (hparsed.argument "position" (by simp [axisArguments]))
  have hfirst := hparsed.stationAlias
  have hsecond := hparsed.position
  unfold matchesAxis BareTexts AxisProfile.number
  rw [halias, Option.getD_some] at hfirst
  rw [hposition, Option.getD_some] at hsecond
  rw [halias, hposition]
  simp only [Bool.and_eq_true, decide_eq_true_eq,
    parseBusPosition_eq_some_iff, hfirst, hsecond, Option.some.injEq,
    Option.getD_some, Prod.mk.injEq]
  tauto

omit [DoubleArithmetic D] in
theorem matchesAxis_type {device : DeviceConfig} {axis : AxisProfile D}
    {path : String} (hmatches : matchesAxis device axis path = true) :
    device.type = "cia402" := by
  unfold matchesAxis at hmatches
  split at hmatches
  · simp only [Bool.and_eq_true, decide_eq_true_eq] at hmatches
    exact hmatches.1.1.1
  · cases hmatches

/-- The host finds the paired actuator unless its texts have white space
around them. -/
theorem axisActuatorName_eq_ok_iff (profile : RobotProfile D F)
    {sensor actuator : DeviceConfig} {axis : AxisProfile D} {name : String}
    (hsensor : sensor ∈ (axisKind profile.strtod).devices profile.sensors)
    (hactuator : actuator ∈
      (axisKind profile.strtod).devices profile.actuators)
    (hentry : (axisKind profile.strtod).Entry AxisProfile.number sensor
      actuator axis) :
    axisActuatorName profile.sensors profile.actuators axis = .ok name ↔
      BareTexts actuator ∧ name = actuator.name := by
  have hderive := deriveAxes_links profile.strtod profile.derivedAxes
  obtain ⟨hpath, sensed, acted, hsensed, hacted, hnumber, -, hjoined⟩ := hentry
  have haxis : axis = sensed := hjoined
  have hname := (parsedAxis_of_ok profile.strtod hsensed).name
  rw [← haxis] at hname hnumber
  obtain ⟨hsensor, hsensorType⟩ := LinkKind.mem_devices.mp hsensor
  obtain ⟨hin, htype⟩ := LinkKind.mem_devices.mp hactuator
  have hfound : profile.sensors.find? (fun candidate =>
      candidate.type = "cia402" && candidate.name = axis.name) =
        some sensor := by
    apply find?_eq_some_of_unique hsensor
    · rw [hname, Bool.and_eq_true]
      exact ⟨decide_eq_true hsensorType, decide_eq_true rfl⟩
    · intro other hother hsame
      rw [Bool.and_eq_true, decide_eq_true_eq, decide_eq_true_eq] at hsame
      exact profile.sensor_of_name hother hsensor (hsame.2.trans hname)
  have hmatch : matchesAxis actuator axis sensor.path = true ↔
      BareTexts actuator := by
    rw [matchesAxis_iff (parsedAxis_of_ok profile.strtod hacted)]
    have hcia402 : actuator.type = "cia402" := htype
    tauto
  have hunique : ∀ other ∈ profile.actuators,
      matchesAxis other axis sensor.path = true → other = actuator := by
    intro other hother hmatched
    have hlisted : other ∈
        (axisKind profile.strtod).devices profile.actuators :=
      LinkKind.mem_devices.mpr ⟨hother, matchesAxis_type hmatched⟩
    obtain ⟨parsed, hparsed⟩ :=
      ((axisKind profile.strtod).derive_parsed hderive).2 other hlisted
    rw [matchesAxis_iff (parsedAxis_of_ok profile.strtod hparsed)] at hmatched
    exact LinkKind.actuator_of_number (axisKind_identifiedBy profile.strtod)
      hderive hlisted hactuator hparsed hacted
      (hmatched.2.1.trans hpath.symm) (hmatched.2.2.2.trans hnumber.symm)
  unfold axisActuatorName
  rw [hfound]
  dsimp only
  by_cases hbare : BareTexts actuator
  · rw [find?_eq_some_of_unique hin
      (hmatch.mpr hbare) hunique]
    simp [hbare, eq_comm]
  · have hnone : profile.actuators.find? (matchesAxis · axis sensor.path) =
        none := by
      apply List.find?_eq_none.mpr
      intro other hother hmatched
      rw [hunique other hother hmatched] at hmatched
      exact hbare (hmatch.mp hmatched)
    rw [hnone]
    simp [hbare]

/-- The host names every axis after the actuator the loader paired with it. -/
def AxisNamesAgree (loaded : LoadedProfile D F) : Prop :=
  ∃ names, axisActuatorNames loaded.sensors loaded.actuators loaded.axes =
      .ok names ∧
    names.length = loaded.axes.length ∧
    ∀ (index : ℕ) axis, loaded.axes[index]? = some axis →
      ∃ sensor actuator,
        ((axisKind strtod).devices loaded.sensors)[index]? = some sensor ∧
        actuator ∈ (axisKind strtod).devices loaded.actuators ∧
        (axisKind strtod).Entry AxisProfile.number sensor actuator axis ∧
        (∀ other ∈ (axisKind strtod).devices loaded.actuators,
          (axisKind strtod).Entry AxisProfile.number sensor other axis →
          other = actuator) ∧
        names[index]? = some actuator.name

omit [DoubleArithmetic D] in
theorem axisActuatorNames_eq_ok_iff {sensors actuators : List DeviceConfig}
    {axes : List (AxisProfile D)} {names : List String} :
    axisActuatorNames sensors actuators axes = .ok names ↔
      List.Forall₂ (fun axis name =>
        axisActuatorName sensors actuators axis = .ok name) axes names := by
  induction axes generalizing names with
  | nil =>
      rw [List.forall₂_nil_left_iff, axisActuatorNames]
      simp [eq_comm]
  | cons axis rest ih =>
      rw [List.forall₂_cons_left_iff, axisActuatorNames]
      cases hname : axisActuatorName sensors actuators axis with
      | error error => simp
      | ok name =>
          cases hrest : axisActuatorNames sensors actuators rest with
          | error error =>
              rw [hrest] at ih
              simp [← ih]
          | ok others =>
              rw [hrest] at ih
              simp only [← ih, Except.ok.injEq]
              constructor
              · rintro rfl
                exact ⟨name, others, rfl, rfl, rfl⟩
              · rintro ⟨_, _, rfl, rfl, rfl⟩
                rfl

/-- An axis with the devices of its link, at its place in the lists. -/
theorem axisLink_at (profile : RobotProfile D F) :
    ∃ partners : List DeviceConfig,
      partners.Perm ((axisKind profile.strtod).devices profile.actuators) ∧
      partners.length = profile.axes.length ∧
      ∀ (index : ℕ) axis, profile.axes[index]? = some axis →
        ∃ sensor actuator,
          ((axisKind profile.strtod).devices profile.sensors)[index]? =
            some sensor ∧
          partners[index]? = some actuator ∧
          (axisKind profile.strtod).Entry AxisProfile.number sensor actuator
            axis := by
  obtain ⟨partners, hperm, hpartners, hlength, hentries⟩ :=
    profile.axisPairs.entries
  refine ⟨partners, hperm, hpartners, ?_⟩
  intro index axis haxis
  obtain ⟨hlt, -⟩ := List.getElem?_eq_some_iff.mp haxis
  rw [← hlength] at hlt
  have hsensor := List.getElem?_eq_getElem hlt
  obtain ⟨actuator, other, hactuator, hother, hlinked⟩ :=
    hentries index _ hsensor
  rw [haxis, Option.some.injEq] at hother
  rw [← hother] at hlinked
  exact ⟨_, actuator, hsensor, hactuator, hlinked⟩

/-- The host and the loader agree exactly on the profiles whose actuators give
alias and position without white space around them. -/
theorem axisNames_agree_iff (dump : Json D → String) (root : Json D)
    (loaded : LoadedProfile D F)
    (hok : loadRobotProfile dump strtod toFloat root = .ok loaded) :
    AxisNamesAgree strtod loaded ↔
      ∀ actuator ∈ loaded.actuators, actuator.type = "cia402" →
        BareTexts actuator := by
  obtain ⟨profile, dds, rfl, rfl, rfl⟩ :=
    loadRobotProfile_ok dump strtod toFloat hok
  obtain ⟨partners, hperm, hlength, hlinks⟩ := axisLink_at profile
  have hdevice {index : ℕ} {actuator : DeviceConfig}
      (hactuator : partners[index]? = some actuator) :
      actuator ∈ (axisKind profile.strtod).devices profile.actuators :=
    hperm.mem_iff.mp (List.mem_of_getElem? hactuator)
  have hname (index : ℕ) (axis : AxisProfile D) (actuator : DeviceConfig)
      (name : String) (haxis : profile.axes[index]? = some axis)
      (hactuator : partners[index]? = some actuator) :
      axisActuatorName profile.sensors profile.actuators axis = .ok name ↔
        BareTexts actuator ∧ name = actuator.name := by
    obtain ⟨sensor, other, hsensor, hother, hentry⟩ := hlinks index axis haxis
    rw [hactuator, Option.some.injEq] at hother
    rw [← hother] at hentry
    exact axisActuatorName_eq_ok_iff profile (List.mem_of_getElem? hsensor)
      (hdevice hactuator) hentry
  constructor
  · rintro ⟨names, hnames, -, -⟩ actuator hin htype
    have hmem : actuator ∈ partners :=
      hperm.mem_iff.mpr (LinkKind.mem_devices.mpr ⟨hin, htype⟩)
    obtain ⟨index, hactuator⟩ := List.mem_iff_getElem?.mp hmem
    obtain ⟨hlt, -⟩ := List.getElem?_eq_some_iff.mp hactuator
    rw [hlength] at hlt
    obtain ⟨hsame, hnamed⟩ := List.forall₂_iff_get.mp
      (axisActuatorNames_eq_ok_iff.mp hnames)
    have hfound := hnamed index hlt (hsame ▸ hlt)
    exact ((hname index _ actuator _ (List.getElem?_eq_getElem hlt)
      hactuator).mp hfound).1
  · intro hbare
    refine ⟨partners.map DeviceConfig.name, ?_, ?_, ?_⟩
    · apply axisActuatorNames_eq_ok_iff.mpr
      apply List.forall₂_iff_get.mpr
      refine ⟨by rw [List.length_map]; exact hlength.symm, ?_⟩
      intro index haxis hpartner
      rw [List.length_map] at hpartner
      have hactuator := List.getElem?_eq_getElem hpartner
      obtain ⟨hin, htype⟩ := LinkKind.mem_devices.mp (hdevice hactuator)
      apply (hname index _ _ _ (List.getElem?_eq_getElem haxis) hactuator).mpr
      exact ⟨hbare _ hin htype, by simp⟩
    · rw [List.length_map]
      exact hlength
    · intro index axis haxis
      obtain ⟨sensor, actuator, hsensor, hactuator, hentry⟩ :=
        hlinks index axis haxis
      refine ⟨sensor, actuator, hsensor, hdevice hactuator, hentry, ?_, ?_⟩
      · intro other hother hsame
        have hsensorType :=
          (LinkKind.mem_devices.mp (List.mem_of_getElem? hsensor)).2
        obtain ⟨hin, htype⟩ := LinkKind.mem_devices.mp (hdevice hactuator)
        obtain ⟨hotherIn, hotherType⟩ := LinkKind.mem_devices.mp hother
        exact profile.axisMatched.actuatorOnce sensor other hotherIn actuator
          hin ⟨hsensorType, hotherType, axis, hsame⟩
          ⟨hsensorType, htype, axis, hentry⟩
      · rw [List.getElem?_map, hactuator]
        rfl

end Agreement

/-- One axis, with a text for the alias of its actuator. -/
def axisDocument (aliasText : String) : Json ℚ :=
  .object [("sensors", .array [axisEntry "joint_state" "1" "2"]),
    ("actuators", .array [axisEntry "joint_target" aliasText "0x2"])]

/-- The host reads the texts of an actuator in every base. -/
theorem bare_axis_named :
    loadRobotProfile dumpInteger wholeNumber id (axisDocument "0x01") =
        .ok (loadedOf (axisDocument "0x01")) ∧
      AxisNamesAgree wholeNumber (loadedOf (axisDocument "0x01")) := by
  have hok : loadRobotProfile dumpInteger wholeNumber id
      (axisDocument "0x01") = .ok (loadedOf (axisDocument "0x01")) :=
    eq_ok_of_isOk (by decide +kernel)
  refine ⟨hok, ?_⟩
  apply (axisNames_agree_iff wholeNumber id dumpInteger (axisDocument "0x01")
    (loadedOf (axisDocument "0x01")) hok).mpr
  decide +kernel

/-- A blank before the alias is accepted by the loader and not by the host. -/
theorem blank_alias_unnamed :
    loadRobotProfile dumpInteger wholeNumber id (axisDocument " 1") =
        .ok (loadedOf (axisDocument " 1")) ∧
      ¬ AxisNamesAgree wholeNumber (loadedOf (axisDocument " 1")) := by
  have hok : loadRobotProfile dumpInteger wholeNumber id
      (axisDocument " 1") = .ok (loadedOf (axisDocument " 1")) :=
    eq_ok_of_isOk (by decide +kernel)
  have hrefused : (axisActuatorNames (loadedOf (axisDocument " 1")).sensors
      (loadedOf (axisDocument " 1")).actuators
      (loadedOf (axisDocument " 1")).axes).isOk = false := by
    decide +kernel
  refine ⟨hok, ?_⟩
  rintro ⟨names, hnames, -, -⟩
  rw [hnames] at hrefused
  cases hrefused

end PolicyRuntime
