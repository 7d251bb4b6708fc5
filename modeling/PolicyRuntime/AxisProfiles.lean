import PolicyRuntime.TopicRegistry

/-!
# Axes of a robot profile

The loader pairs the CiA 402 sensors and actuators of a profile by their
physical link.  Every link needs exactly one of each, with the same static
configuration, and becomes one axis.
-/

namespace PolicyRuntime

open FloatingPoint

structure AxisProfile (D : Type) where
  name : String
  stationAlias : ℕ
  position : ℕ
  vendorId : ℕ
  productCode : ℕ
  revision : ℕ
  config : AxisConfig D

/-! ## Texts -/

/-- `std::isspace` in the C locale. -/
def isSpace (character : Char) : Bool :=
  character = ' ' || ('\x09' ≤ character && character ≤ '\x0d')

def isBlank (value : String) : Bool :=
  value.toList.all isSpace

def trim (value : String) : List Char :=
  ((value.toList.dropWhile isSpace).reverse.dropWhile isSpace).reverse

def digitValue (base : ℕ) (character : Char) : Option ℕ :=
  let value :=
    if '0' ≤ character && character ≤ '9' then
      character.toNat - '0'.toNat
    else if 'a' ≤ character && character ≤ 'z' then
      character.toNat - 'a'.toNat + 10
    else if 'A' ≤ character && character ≤ 'Z' then
      character.toNat - 'A'.toNat + 10
    else
      base
  if value < base then some value else none

/-- `std::from_chars` of the whole text into a 64-bit number. -/
def fromChars (base : ℕ) : List Char → ℕ → Option ℕ
  | [], parsed => some parsed
  | character :: rest, parsed => do
      let digit ← digitValue base character
      let next := parsed * base + digit
      if next < 2 ^ 64 then fromChars base rest next else none

def parseUnsigned (maximum : ℕ) (input : String) : Option ℕ :=
  let value := trim input
  let (base, digits) :=
    match value with
    | '0' :: 'x' :: digit :: rest => (16, digit :: rest)
    | '0' :: 'X' :: digit :: rest => (16, digit :: rest)
    | _ => (10, value)
  if digits.isEmpty then
    none
  else
    match fromChars base digits 0 with
    | some parsed => if maximum < parsed then none else some parsed
    | none => none

/-- The base of a number and its digits. -/
def splitBase (value : List Char) : ℕ × List Char :=
  match value with
  | '0' :: 'x' :: digit :: rest => (16, digit :: rest)
  | '0' :: 'X' :: digit :: rest => (16, digit :: rest)
  | _ => (10, value)

/-- The number read from the digits, if it is not too large. -/
def acceptNumber (maximum : ℕ) (digits : List Char) (read : Option ℕ) :
    Option ℕ :=
  if digits.isEmpty then
    none
  else
    match read with
    | some parsed => if maximum < parsed then none else some parsed
    | none => none

theorem acceptNumber_eq_some_iff {maximum value : ℕ} {digits : List Char}
    {read : Option ℕ} :
    acceptNumber maximum digits read = some value ↔
      digits ≠ [] ∧ read = some value ∧ value ≤ maximum := by
  unfold acceptNumber
  cases digits with
  | nil => simp
  | cons digit rest =>
      cases read with
      | none => simp
      | some parsed =>
          by_cases hlarge : maximum < parsed
          · simp only [List.isEmpty_cons, Bool.false_eq_true, if_false,
              if_pos hlarge, Option.some.injEq]
            constructor
            · intro h
              cases h
            · rintro ⟨-, rfl, hle⟩
              omega
          · simp only [List.isEmpty_cons, Bool.false_eq_true, if_false,
              if_neg hlarge, Option.some.injEq]
            constructor
            · rintro rfl
              exact ⟨by simp, rfl, not_lt.mp hlarge⟩
            · rintro ⟨-, rfl, -⟩
              rfl

theorem parseUnsigned_eq_some_iff {maximum value : ℕ} {input : String} :
    parseUnsigned maximum input = some value ↔
      (splitBase (trim input)).2 ≠ [] ∧
        fromChars (splitBase (trim input)).1 (splitBase (trim input)).2 0 =
          some value ∧
        value ≤ maximum := by
  have hunfold : parseUnsigned maximum input =
      acceptNumber maximum (splitBase (trim input)).2
        (fromChars (splitBase (trim input)).1
          (splitBase (trim input)).2 0) := by
    rfl
  rw [hunfold]
  exact acceptNumber_eq_some_iff

section Parsing

variable {D : Type} [FloatingPoint D] (strtod : List Char → Option D)

/-- The parameter is the value of a text which `std::strtod` reads to its
end. -/
def parseDouble (input : String) : Option D :=
  match trim input with
  | [] => none
  | value =>
      match strtod value with
      | some result => if isfinite result then some result else none
      | none => none

/-! ## Parsing one device -/

def axisArguments : List String :=
  ["alias", "position", "vendor_id", "product_code", "revision", "mode",
    "scale", "minimum", "maximum", "slew_limit", "following_error_limit",
    "command_timeout_ms", "safety_group"]

/-- Whether the key contains the part. -/
def containsText (part : List Char) : List Char → Bool
  | [] => part.isEmpty
  | character :: rest =>
      part.isPrefixOf (character :: rest) || containsText part rest

def switchesMode (key : String) : Bool :=
  key = "runtime_mode" || containsText "mode_switch".toList key.toList ||
    containsText "runtime_switch".toList key.toList

def parseMode (text : String) : Option Cia402Mode :=
  if text = "csp" then some .csp
  else if text = "csv" then some .csv
  else if text = "cst" then some .cst
  else none

/-- The numbers of an axis, `none` when one of them is invalid.  The mode is
checked after them. -/
def parseAxisNumbers (device : DeviceConfig) (mode : Cia402Mode) :
    Option (AxisProfile D) := do
  let text := fun key => (device.args.lookup key).getD ""
  let stationAlias ← parseUnsigned (2 ^ 16 - 1) (text "alias")
  let position ← parseUnsigned (2 ^ 16 - 1) (text "position")
  let vendor ← parseUnsigned (2 ^ 32 - 1) (text "vendor_id")
  let product ← parseUnsigned (2 ^ 32 - 1) (text "product_code")
  let revision ← parseUnsigned (2 ^ 32 - 1) (text "revision")
  let timeout ← parseUnsigned (2 ^ 63 - 1) (text "command_timeout_ms")
  let scale ← parseDouble strtod (text "scale")
  let minimum ← parseDouble strtod (text "minimum")
  let maximum ← parseDouble strtod (text "maximum")
  let slewLimit ← parseDouble strtod (text "slew_limit")
  let followingErrorLimit ← parseDouble strtod (text "following_error_limit")
  pure ⟨device.name, stationAlias, position, vendor, product, revision,
    ⟨mode, scale, minimum, maximum, timeout, text "safety_group", slewLimit,
      followingErrorLimit⟩⟩

def parseAxis (device : DeviceConfig) : Except String (AxisProfile D) :=
  if device.args.any (switchesMode ·.1) then
    .error (device.name ++ ".args must not configure runtime mode switching")
  else
    -- each missing key overwrites the error text of the one before
    match (axisArguments.filter
        fun key => (device.args.lookup key).isNone).getLast? with
    | some key => .error (device.name ++ ".args requires " ++ key)
    | none =>
        let mode := (parseMode ((device.args.lookup "mode").getD ""))
        match parseAxisNumbers strtod device (mode.getD .csp) with
        | none =>
            .error (device.name ++ ".args contains an invalid numeric value")
        | some axis =>
            if mode.isNone then
              .error (device.name ++ ".args.mode must be csp, csv, or cst")
            else if le axis.config.scale zero ||
                lt axis.config.maximum axis.config.minimum ||
                le axis.config.slewLimit zero ||
                le axis.config.followingErrorLimit zero then
              .error (device.name ++
                ".args requires positive scale/safety limits and minimum <= maximum")
            else if axis.config.commandTimeout = 0 ||
                isBlank axis.config.safetyGroup then
              .error (device.name ++
                ".args requires positive timeout and non-empty safety_group")
            else
              .ok axis

/-! ## Pairing sensors and actuators -/

def sameStaticConfig (left right : AxisProfile D) : Bool :=
  left.stationAlias = right.stationAlias && left.position = right.position &&
    left.vendorId = right.vendorId &&
    left.productCode = right.productCode &&
    left.revision = right.revision && left.config.mode = right.config.mode &&
    eq left.config.scale right.config.scale &&
    eq left.config.minimum right.config.minimum &&
    eq left.config.maximum right.config.maximum &&
    left.config.commandTimeout = right.config.commandTimeout &&
    left.config.safetyGroup = right.config.safetyGroup &&
    eq left.config.slewLimit right.config.slewLimit &&
    eq left.config.followingErrorLimit right.config.followingErrorLimit

/-- An entry of `derived`, with the key under which `indices` lists it. -/
structure DerivedAxis (D : Type) where
  identity : String
  axis : AxisProfile D
  hasSensor : Bool
  hasActuator : Bool

def axisIdentity (device : DeviceConfig) (axis : AxisProfile D) : String :=
  device.path ++ "\n" ++ toString axis.stationAlias ++ "\n" ++
    toString axis.position

/-- A second device of a link. -/
def joinLink (existing : DerivedAxis D) (device : DeviceConfig)
    (axis : AxisProfile D) (sensor : Bool) : Except String (DerivedAxis D) :=
  if (sensor && existing.hasSensor) || (!sensor && existing.hasActuator) then
    .error ("duplicate cia402 physical link: " ++ device.path)
  else if !sameStaticConfig existing.axis axis then
    .error ("inconsistent cia402 static configuration for: " ++ device.path)
  else
    .ok { existing with
      hasSensor := existing.hasSensor || sensor
      hasActuator := existing.hasActuator || !sensor
      axis :=
        if sensor then { existing.axis with name := axis.name }
        else existing.axis }

/-- The lambda `add` of `derive_axes`. -/
def addDevice (sensor : Bool) (derived : List (DerivedAxis D))
    (device : DeviceConfig) : Except String (List (DerivedAxis D)) :=
  if device.type ≠ "cia402" then
    .ok derived
  else do
    let axis ← parseAxis strtod device
    let identity := axisIdentity device axis
    let index := derived.findIdx (·.identity = identity)
    match derived[index]? with
    | none => pure (derived ++ [⟨identity, axis, sensor, !sensor⟩])
    | some existing =>
        let joined ← joinLink existing device axis sensor
        pure (derived.set index joined)

def addDevices (sensor : Bool) :
    List (DerivedAxis D) → List DeviceConfig →
      Except String (List (DerivedAxis D))
  | derived, [] => .ok derived
  | derived, device :: rest => do
      let next ← addDevice strtod sensor derived device
      addDevices sensor next rest

def deriveAxes (sensors actuators : List DeviceConfig) :
    Except String (List (AxisProfile D)) := do
  let sensed ← addDevices strtod true [] sensors
  let derived ← addDevices strtod false sensed actuators
  if kRobotIoMaximumAxes < derived.length then
    .error "robot profile supports at most 12 cia402 axes"
  else if derived.any fun entry => !entry.hasSensor || !entry.hasActuator then
    .error "cia402 physical link requires one sensor and one actuator"
  else
    .ok (derived.map DerivedAxis.axis)

/-! ## What a parsed axis keeps -/

theorem parseDouble_isfinite {text : String} {value : D}
    (hparse : parseDouble strtod text = some value) :
    isfinite value = true := by
  unfold parseDouble at hparse
  split at hparse
  · cases hparse
  · split at hparse
    · split at hparse
      · next hfinite =>
          cases hparse
          exact hfinite
      · cases hparse
    · cases hparse

/-- The numbers of an axis and the texts they are read from. -/
structure ParsedNumbers (device : DeviceConfig) (axis : AxisProfile D) :
    Prop where
  name : axis.name = device.name
  stationAlias : parseUnsigned (2 ^ 16 - 1)
    ((device.args.lookup "alias").getD "") = some axis.stationAlias
  position : parseUnsigned (2 ^ 16 - 1)
    ((device.args.lookup "position").getD "") = some axis.position
  commandTimeout : 0 ≤ axis.config.commandTimeout ∧
    axis.config.commandTimeout < 2 ^ 63
  finite : isfinite axis.config.scale = true ∧
    isfinite axis.config.minimum = true ∧
    isfinite axis.config.maximum = true ∧
    isfinite axis.config.slewLimit = true ∧
    isfinite axis.config.followingErrorLimit = true

theorem parsedNumbers_of_some {device : DeviceConfig} {mode : Cia402Mode}
    {axis : AxisProfile D}
    (hparse : parseAxisNumbers strtod device mode = some axis) :
    ParsedNumbers device axis ∧ axis.config.mode = mode := by
  unfold parseAxisNumbers at hparse
  obtain ⟨stationAlias, halias, hparse⟩ := Option.bind_eq_some_iff.mp hparse
  obtain ⟨position, hposition, hparse⟩ := Option.bind_eq_some_iff.mp hparse
  obtain ⟨_, -, hparse⟩ := Option.bind_eq_some_iff.mp hparse
  obtain ⟨_, -, hparse⟩ := Option.bind_eq_some_iff.mp hparse
  obtain ⟨_, -, hparse⟩ := Option.bind_eq_some_iff.mp hparse
  obtain ⟨timeout, htimeout, hparse⟩ := Option.bind_eq_some_iff.mp hparse
  obtain ⟨scale, hscale, hparse⟩ := Option.bind_eq_some_iff.mp hparse
  obtain ⟨minimum, hminimum, hparse⟩ := Option.bind_eq_some_iff.mp hparse
  obtain ⟨maximum, hmaximum, hparse⟩ := Option.bind_eq_some_iff.mp hparse
  obtain ⟨slewLimit, hslew, hparse⟩ := Option.bind_eq_some_iff.mp hparse
  obtain ⟨followingErrorLimit, hfollowing, hparse⟩ :=
    Option.bind_eq_some_iff.mp hparse
  cases hparse
  have hbound := (parseUnsigned_eq_some_iff.mp htimeout).2.2
  have hrange : 0 ≤ (timeout : ℤ) ∧ (timeout : ℤ) < 2 ^ 63 := by omega
  exact ⟨⟨rfl, halias, hposition, hrange,
    parseDouble_isfinite strtod hscale, parseDouble_isfinite strtod hminimum,
    parseDouble_isfinite strtod hmaximum, parseDouble_isfinite strtod hslew,
    parseDouble_isfinite strtod hfollowing⟩, rfl⟩

/-- What `parse_axis` has checked of an axis. -/
structure ParsedAxis (device : DeviceConfig) (axis : AxisProfile D) : Prop
    extends ParsedNumbers device axis where
  argument : ∀ key ∈ axisArguments, (device.args.lookup key).isSome
  mode : axis.config.mode = .csp ∨ axis.config.mode = .csv ∨
    axis.config.mode = .cst
  scale : le axis.config.scale zero = false
  range : lt axis.config.maximum axis.config.minimum = false
  slewLimit : le axis.config.slewLimit zero = false
  followingErrorLimit : le axis.config.followingErrorLimit zero = false
  timeout : axis.config.commandTimeout ≠ 0
  safetyGroup : isBlank axis.config.safetyGroup = false

theorem parseMode_cases {text : String} {mode : Cia402Mode}
    (hparse : parseMode text = some mode) :
    mode = .csp ∨ mode = .csv ∨ mode = .cst := by
  unfold parseMode at hparse
  split_ifs at hparse
  · cases hparse
    exact Or.inl rfl
  · cases hparse
    exact Or.inr (Or.inl rfl)
  · cases hparse
    exact Or.inr (Or.inr rfl)

theorem parsedAxis_of_ok {device : DeviceConfig} {axis : AxisProfile D}
    (hparse : parseAxis strtod device = .ok axis) : ParsedAxis device axis := by
  unfold parseAxis at hparse
  split at hparse
  · contradiction
  · split at hparse
    · contradiction
    · next hnone =>
        have harguments : ∀ key ∈ axisArguments,
            (device.args.lookup key).isSome := by
          rw [List.getLast?_eq_none_iff, List.filter_eq_nil_iff] at hnone
          intro key hkey
          have hpresent := hnone key hkey
          rw [Bool.not_eq_true, Option.isNone_eq_false_iff] at hpresent
          exact hpresent
        dsimp only at hparse
        split at hparse
        · contradiction
        · next parsed hnumbers =>
            obtain ⟨hparsed, hmode⟩ := parsedNumbers_of_some strtod hnumbers
            split at hparse
            · contradiction
            · next hknown =>
                rw [Bool.not_eq_true, Option.isNone_eq_false_iff,
                  Option.isSome_iff_exists] at hknown
                obtain ⟨mode, hmodeText⟩ := hknown
                rw [hmodeText, Option.getD_some] at hmode
                split at hparse
                · contradiction
                · next hlimits =>
                    split at hparse
                    · contradiction
                    · next hrest =>
                        cases hparse
                        simp only [Bool.or_eq_true, not_or, Bool.not_eq_true,
                          decide_eq_true_eq] at hlimits hrest
                        obtain ⟨⟨⟨hscale, hrange⟩, hslew⟩, hfollowing⟩ :=
                          hlimits
                        rw [← hmode] at hmodeText
                        exact ⟨hparsed, harguments,
                          parseMode_cases hmodeText, hscale, hrange, hslew,
                          hfollowing, hrest.1, hrest.2⟩

/-! ## One actuator per axis -/

/-- The actuators of the axes. -/
def cia402Devices (devices : List DeviceConfig) : List DeviceConfig :=
  devices.filter (·.type = "cia402")

def pairedActuators (derived : List (DerivedAxis D)) : ℕ :=
  derived.countP DerivedAxis.hasActuator

theorem joinLink_hasActuator
    {existing joined : DerivedAxis D} {device : DeviceConfig}
    {axis : AxisProfile D} {sensor : Bool}
    (hjoin : joinLink existing device axis sensor = .ok joined) :
    joined.hasActuator = (existing.hasActuator || !sensor) ∧
      (sensor = false → existing.hasActuator = false) := by
  unfold joinLink at hjoin
  split at hjoin
  · contradiction
  · rename_i hfree
    split at hjoin
    · contradiction
    · cases hjoin
      refine ⟨rfl, ?_⟩
      intro hsensor
      simpa [hsensor] using hfree

theorem addDevice_pairedActuators
    {sensor : Bool} {derived next : List (DerivedAxis D)}
    {device : DeviceConfig}
    (hadd : addDevice strtod sensor derived device = .ok next) :
    pairedActuators next = pairedActuators derived +
      if device.type = "cia402" ∧ sensor = false then 1 else 0 := by
  unfold addDevice at hadd
  by_cases htype : device.type = "cia402"
  · rw [if_neg (not_not.mpr htype)] at hadd
    cases hparse : parseAxis strtod device with
    | error message =>
        rw [hparse] at hadd
        contradiction
    | ok axis =>
        rw [hparse] at hadd
        change (match derived[derived.findIdx (·.identity =
          axisIdentity device axis)]? with
            | none => _ | some existing => _) = _ at hadd
        generalize derived.findIdx
          (·.identity = axisIdentity device axis) = index at hadd
        cases hfound : derived[index]? with
        | none =>
            rw [hfound] at hadd
            cases hadd
            cases sensor <;> simp [pairedActuators, htype]
        | some existing =>
            rw [hfound] at hadd
            dsimp only at hadd
            cases hjoin : joinLink existing device axis sensor with
            | error message =>
                rw [hjoin] at hadd
                contradiction
            | ok joined =>
                rw [hjoin] at hadd
                cases hadd
                obtain ⟨hlt, hvalue⟩ := List.getElem?_eq_some_iff.mp hfound
                obtain ⟨hjoined, hfree⟩ := joinLink_hasActuator hjoin
                unfold pairedActuators
                rw [List.countP_set hlt, hvalue, hjoined]
                have hpositive : existing.hasActuator = true →
                    0 < derived.countP DerivedAxis.hasActuator := by
                  intro hactuator
                  exact List.countP_pos_iff.mpr
                    ⟨existing, List.mem_of_getElem? hfound, hactuator⟩
                cases sensor with
                | false => simp [hfree rfl, htype]
                | true =>
                    cases hactuator : existing.hasActuator with
                    | false => simp
                    | true =>
                        have hpos := hpositive hactuator
                        simp
                        omega
  · rw [if_pos htype] at hadd
    cases hadd
    simp [htype]

theorem addDevices_pairedActuators
    {sensor : Bool} {derived next : List (DerivedAxis D)}
    {devices : List DeviceConfig}
    (hadd : addDevices strtod sensor derived devices = .ok next) :
    pairedActuators next = pairedActuators derived +
      if sensor = false then (cia402Devices devices).length else 0 := by
  induction devices generalizing derived with
  | nil =>
      cases hadd
      simp [cia402Devices]
  | cons device rest ih =>
      unfold addDevices at hadd
      cases hfirst : addDevice strtod sensor derived device with
      | error message =>
          rw [hfirst] at hadd
          contradiction
      | ok middle =>
          rw [hfirst] at hadd
          have hrest := ih hadd
          have hstep := addDevice_pairedActuators strtod hfirst
          rw [hrest, hstep]
          unfold cia402Devices
          cases sensor with
          | true => simp
          | false =>
              by_cases htype : device.type = "cia402"
              · simp [htype]
                omega
              · simp [htype]

/-- Every axis has exactly one actuator. -/
theorem deriveAxes_length
    {sensors actuators : List DeviceConfig} {axes : List (AxisProfile D)}
    (hderive : deriveAxes strtod sensors actuators = .ok axes) :
    axes.length = (cia402Devices actuators).length ∧
      axes.length ≤ kRobotIoMaximumAxes := by
  unfold deriveAxes at hderive
  cases hsensed : addDevices strtod true [] sensors with
  | error message =>
      rw [hsensed] at hderive
      contradiction
  | ok sensed =>
      rw [hsensed] at hderive
      change (addDevices strtod false sensed actuators >>= _) = _ at hderive
      cases hderived : addDevices strtod false sensed actuators with
      | error message =>
          rw [hderived] at hderive
          contradiction
      | ok derived =>
          rw [hderived] at hderive
          change (if _ then _ else _) = _ at hderive
          split at hderive
          · contradiction
          · rename_i hsize
            split at hderive
            · contradiction
            · rename_i hcomplete
              cases hderive
              rw [List.length_map]
              have hpaired : pairedActuators derived = derived.length := by
                unfold pairedActuators
                rw [List.countP_eq_length]
                intro entry hentry
                by_contra hmissing
                rw [Bool.not_eq_true] at hmissing
                refine hcomplete (List.any_eq_true.mpr ⟨entry, hentry, ?_⟩)
                simp [hmissing]
              have hsensors := addDevices_pairedActuators strtod hsensed
              have hactuators := addDevices_pairedActuators strtod hderived
              have hempty : pairedActuators ([] : List (DerivedAxis D)) = 0 :=
                rfl
              simp only [reduceCtorEq, if_false, if_true] at hsensors hactuators
              omega

end Parsing

end PolicyRuntime
