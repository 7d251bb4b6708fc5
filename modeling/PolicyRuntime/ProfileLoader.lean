import PolicyRuntime.RuntimeHost

/-!
# Loading a robot profile

The loader reads the device lists and the DDS section of a JSON document,
refuses a name which occurs twice, derives the physical links and checks the
topics of a robot on DDS.  Every document it accepts is a robot profile.
-/

namespace PolicyRuntime

/-! ## Texts of JSON values -/

section Texts

variable {D : Type}

def pythonStringRepr (value : String) : String :=
  "'" ++ String.join (value.toList.map fun character =>
    if character = '\x5c' || character = '\x27' then
      String.ofList ['\x5c', character]
    else if character = '\n' then "\\n"
    else if character = '\r' then "\\r"
    else if character = '\t' then "\\t"
    else String.singleton character) ++ "'"

section Repr

-- the text of a number in the JSON library
variable (dump : Json D → String)

mutual

def pythonRepr : Json D → String
  | .string value => pythonStringRepr value
  | .bool value => if value then "True" else "False"
  | .null => "None"
  | .integer value => dump (.integer value)
  | .number value => dump (.number value)
  | .array items => "[" ++ ", ".intercalate (pythonReprItems items) ++ "]"
  | .object fields =>
      "\x7b" ++ ", ".intercalate (pythonReprFields fields) ++ "\x7d"

def pythonReprItems : List (Json D) → List String
  | [] => []
  | item :: rest => pythonRepr item :: pythonReprItems rest

def pythonReprFields : List (String × Json D) → List String
  | [] => []
  | (key, value) :: rest =>
      (pythonStringRepr key ++ ": " ++ pythonRepr value) ::
        pythonReprFields rest

end

def pythonValueString (value : Json D) : String :=
  match value with
  | .string text => text
  | _ => pythonRepr dump value

def jsonArgValue (value : Json D) : String :=
  match value with
  | .string text => text
  | .bool flag => if flag then "true" else "false"
  | .null => "None"
  | _ => dump value

end Repr

/-! ## Device lists -/

section Devices

variable (dump : Json D → String)

def requiredRobotString (value : Json D) (key part : String) :
    Except String String :=
  match value.find key with
  | none => .error (part ++ " is missing " ++ key)
  | some text =>
      let normalized := trim (pythonValueString dump text)
      if normalized.isEmpty then .error (part ++ " is missing " ++ key)
      else .ok (String.ofList normalized)

def parseArgs (value : Json D) (name singular : String) :
    Except String (List (String × String)) :=
  match value.find "args" with
  | none => .ok []
  | some .null => .ok []
  | some (.object fields) =>
      .ok (fields.map fun field => (field.1, jsonArgValue dump field.2))
  | some _ => .error (singular ++ "." ++ name ++ ".args must be an object")

/-- The device of an entry.  Both texts are read before either is missed. -/
def parseTypeAndPath (device : Json D) : Except String (String × String) :=
  match requiredRobotString dump device "type" "device",
    requiredRobotString dump device "path" "device" with
  | .ok type, .ok path => .ok (type, path)
  | _, .error message => .error message
  | .error message, _ => .error message

/-- One entry of `parse_device_list`. -/
def parseDevice (singular : String) (value : Json D) :
    Except String DeviceConfig :=
  match value with
  | .object _ =>
      match requiredRobotString dump value "name" singular with
      | .error message => .error message
      | .ok name =>
          match value.find "device" with
          | some (.object fields) =>
              match parseTypeAndPath dump (.object fields) with
              | .error message => .error message
              | .ok (type, path) =>
                  match parseArgs dump value name singular with
                  | .error message => .error message
                  | .ok args => .ok ⟨name, type, path, args⟩
          | _ =>
              .error (singular ++ "." ++ name ++ ".device must be an object")
  | _ => .error (singular ++ " entry must be an object")

def parseDevices (singular : String) :
    List (Json D) → Except String (List DeviceConfig)
  | [] => .ok []
  | value :: rest =>
      match parseDevice dump singular value with
      | .error message => .error message
      | .ok device =>
          match parseDevices singular rest with
          | .error message => .error message
          | .ok devices => .ok (device :: devices)

def parseDeviceList (root : Json D) (plural singular : String) :
    Except String (List DeviceConfig) :=
  match root.find plural with
  | none => .ok []
  | some (.array values) => parseDevices dump singular values
  | some _ => .error (plural ++ " must be an array")

end Devices

/-! ## DDS section -/

inductive RobotIoBackend
  | unixShm
  | dds
  deriving DecidableEq

structure DdsExternalConfig where
  enabled : Bool := false
  domainId : ℕ := 0
  topics : List String := []

structure DdsConfig where
  backend : RobotIoBackend := .unixShm
  robotId : String := ""
  localDomainId : ℕ := 0
  cycloneConfig : String := "configs/cyclonedds-loopback.xml"
  sensorQueueCapacity : ℕ := 64
  external : DdsExternalConfig := {}

def onlyKeys (fields : Fields D) (allowed : List String) (part : String) :
    Except String Unit :=
  match fields.find? fun field => field.1 ∉ allowed with
  | none => .ok ()
  | some field => .error (part ++ " contains unknown key: " ++ field.1)

/-- `required_string` with a text that must not be blank -/
def requiredString (fields : Fields D) (key part : String) :
    Except String String :=
  match fields.lookup key with
  | some (.string text) =>
      if isBlank text then
        .error (part ++ "." ++ key ++ " must be non-empty")
      else .ok text
  | _ => .error (part ++ " requires string " ++ key)

/-- `is_number_unsigned` -/
def unsignedNumber : Json D → Option ℕ
  | .integer (.ofNat value) => some value
  | _ => none

def parseDomainId (fields : Fields D) (key part : String) (default : ℕ) :
    Except String ℕ :=
  match fields.lookup key with
  | none => .ok default
  | some value =>
      match unsignedNumber value with
      | none =>
          .error (part ++ "." ++ key ++ " must be an unsigned integer")
      | some parsed =>
          if 232 < parsed then
            .error (part ++ "." ++ key ++ " must be in [0, 232]")
          else .ok parsed

def parseBackend (fields : Fields D) : Except String RobotIoBackend :=
  match requiredString fields "backend" "dds" with
  | .error message => .error message
  | .ok text =>
      if text = "unix_shm" then .ok .unixShm
      else if text = "dds" then .ok .dds
      else .error "dds.backend must be 'unix_shm' or 'dds'"

def parseRobotId (fields : Fields D) (backend : RobotIoBackend) :
    Except String String :=
  match backend with
  | .unixShm => .ok ""
  | .dds =>
      match requiredString fields "robot_id" "dds" with
      | .error message => .error message
      | .ok text => .ok (String.ofList (trim text))

def parseCycloneConfig (fields : Fields D) : Except String String :=
  match fields.lookup "cyclone_config" with
  | none => .ok "configs/cyclonedds-loopback.xml"
  | some (.string text) =>
      if isBlank text then
        .error "dds.cyclone_config must be a nonempty string"
      else .ok text
  | some _ => .error "dds.cyclone_config must be a nonempty string"

def parseQueueCapacity (fields : Fields D) : Except String ℕ :=
  match fields.lookup "sensor_queue_capacity" with
  | none => .ok 64
  | some value =>
      match unsignedNumber value with
      | none =>
          .error "dds.sensor_queue_capacity must be an unsigned integer"
      | some parsed =>
          if parsed ∈ [16, 32, 64, 128, 256] then .ok parsed
          else
            .error
              "dds.sensor_queue_capacity must be one of 16, 32, 64, 128, or 256"

def parseTopics : List String → List (Json D) → Except String (List String)
  | seen, [] => .ok seen
  | seen, .string name :: rest =>
      if isBlank name then
        .error "dds.external.topics entries must be nonempty strings"
      else if name ∈ seen then
        .error "dds.external.topics contains a duplicate"
      else parseTopics (seen ++ [name]) rest
  | _, _ :: _ =>
      .error "dds.external.topics entries must be nonempty strings"

def parseExternalTopics (fields : Fields D) : Except String (List String) :=
  match fields.lookup "topics" with
  | none => .ok []
  | some (.array topics) => parseTopics [] topics
  | some _ => .error "dds.external.topics must be an array"

def parseExternalEnabled (fields : Fields D) : Except String Bool :=
  match fields.lookup "enabled" with
  | none => .ok false
  | some (.bool enabled) => .ok enabled
  | some _ => .error "dds.external.enabled must be a boolean"

def parseExternal (fields : Fields D) (localDomainId : ℕ) :
    Except String DdsExternalConfig :=
  match fields.lookup "external" with
  | none => .ok {}
  | some (.object members) => do
      onlyKeys members ["enabled", "domain_id", "topics"] "dds.external"
      let enabled ← parseExternalEnabled members
      let domainId ← parseDomainId members "domain_id" "dds.external" 0
      let topics ← parseExternalTopics members
      if enabled && domainId = localDomainId then
        .error "dds external and local domain IDs must differ"
      else .ok ⟨enabled, domainId, topics⟩
  | some _ => .error "dds.external must be an object"

def parseDdsConfig (root : Json D) : Except String DdsConfig :=
  match root.find "dds" with
  | none => .ok {}
  | some (.object fields) => do
      onlyKeys fields ["backend", "robot_id", "local_domain_id",
        "cyclone_config", "sensor_queue_capacity", "external"] "dds"
      let backend ← parseBackend fields
      let robotId ← parseRobotId fields backend
      let localDomainId ← parseDomainId fields "local_domain_id" "dds" 0
      let cycloneConfig ← parseCycloneConfig fields
      let capacity ← parseQueueCapacity fields
      let external ← parseExternal fields localDomainId
      .ok ⟨backend, robotId, localDomainId, cycloneConfig, capacity, external⟩
  | some _ => .error "dds must be an object"

/-- The first name which stands among those before it. -/
def firstRepeated : List String → List String → Option String
  | _, [] => none
  | seen, name :: rest =>
      if name ∈ seen then some name else firstRepeated (name :: seen) rest

end Texts

/-! ## The whole profile -/

structure LoadedProfile (D F : Type) where
  sensors : List DeviceConfig
  actuators : List DeviceConfig
  axes : List (AxisProfile D)
  servos : List ServoProfile
  motors : List (MotorProfile F)
  dds : DdsConfig

section Loader

variable {D F : Type} [DoubleArithmetic D] [SinglePrecision F]
  (dump : Json D → String) (strtod : List Char → Option D) (toFloat : D → F)

/-- The topics of a robot on DDS, and the externally published ones. -/
def checkTopics (sensors actuators : List DeviceConfig) (dds : DdsConfig) :
    Except String Unit :=
  match dds.backend with
  | .unixShm => .ok ()
  | .dds =>
      match buildDdsTopicRegistry sensors actuators dds.robotId with
      | .error error => .error error.message
      | .ok descriptors =>
          let publishable := (descriptors.filter fun descriptor =>
            descriptor.kind = .state || descriptor.kind = .health).map
              DdsTopicDescriptor.topicName
          if dds.external.topics.all (· ∈ publishable) then .ok ()
          else
            .error
              "dds.external.topics may contain only configured sensor or health topics"

/-- The checks of `load_robot_profile` on an object. -/
def loadObject (root : Json D) : Except String (LoadedProfile D F) := do
  let sensors ← parseDeviceList dump root "sensors" "sensor"
  let actuators ← parseDeviceList dump root "actuators" "actuator"
  let dds ← parseDdsConfig root
  match firstRepeated [] ((sensors ++ actuators).map DeviceConfig.name) with
  | some name => .error ("duplicate device name '" ++ name ++ "'")
  | none => do
      let axes ← deriveAxes strtod sensors actuators
      let servos ← deriveSt3215 strtod sensors actuators
      let motors ← deriveDamiaoMotors strtod toFloat sensors actuators
      checkTopics sensors actuators dds
      .ok ⟨sensors, actuators, axes, servos, motors, dds⟩

def loadRobotProfile (root : Json D) : Except Error (LoadedProfile D F) :=
  match root with
  | .object _ =>
      match loadObject dump strtod toFloat root with
      | .error message => .error ⟨.invalidArgument, message⟩
      | .ok profile => .ok profile
  | _ => .error ⟨.invalidArgument, "robot profile must be an object"⟩

theorem nodup_of_firstRepeated {seen names : List String}
    (hseen : seen.Nodup) (h : firstRepeated seen names = none) :
    (seen.reverse ++ names).Nodup := by
  induction names generalizing seen with
  | nil =>
      rw [List.append_nil, List.nodup_reverse]
      exact hseen
  | cons name rest ih =>
      unfold firstRepeated at h
      by_cases hmem : name ∈ seen
      · rw [if_pos hmem] at h
        cases h
      · rw [if_neg hmem] at h
        have hrest := ih (List.nodup_cons.mpr ⟨hmem, hseen⟩) h
        rw [List.reverse_cons, List.append_assoc,
          List.singleton_append] at hrest
        exact hrest

/-- What loading a document goes through. -/
structure Loaded (root : Json D) (loaded : LoadedProfile D F) : Prop where
  sensors : parseDeviceList dump root "sensors" "sensor" = .ok loaded.sensors
  actuators : parseDeviceList dump root "actuators" "actuator" =
    .ok loaded.actuators
  names : firstRepeated []
    ((loaded.sensors ++ loaded.actuators).map DeviceConfig.name) = none
  axes : deriveAxes strtod loaded.sensors loaded.actuators = .ok loaded.axes
  servos : deriveSt3215 strtod loaded.sensors loaded.actuators =
    .ok loaded.servos
  motors : deriveDamiaoMotors strtod toFloat loaded.sensors loaded.actuators =
    .ok loaded.motors

theorem loaded_of_ok {root : Json D} {loaded : LoadedProfile D F}
    (hok : loadRobotProfile dump strtod toFloat root = .ok loaded) :
    Loaded dump strtod toFloat root loaded := by
  have hobject : loadObject dump strtod toFloat root = .ok loaded := by
    unfold loadRobotProfile at hok
    cases root with
    | object fields =>
        dsimp only at hok
        cases hload : loadObject dump strtod toFloat (.object fields) with
        | error message =>
            rw [hload] at hok
            cases hok
        | ok profile =>
            rw [hload] at hok
            cases hok
            rfl
    | _ => cases hok
  unfold loadObject at hobject
  obtain ⟨sensors, hsensors, hobject⟩ := exists_of_bind_eq_ok hobject
  obtain ⟨actuators, hactuators, hobject⟩ := exists_of_bind_eq_ok hobject
  obtain ⟨dds, -, hobject⟩ := exists_of_bind_eq_ok hobject
  cases hrepeated : firstRepeated []
      ((sensors ++ actuators).map DeviceConfig.name) with
  | some name =>
      rw [hrepeated] at hobject
      cases hobject
  | none =>
      rw [hrepeated] at hobject
      obtain ⟨axes, haxes, hobject⟩ := exists_of_bind_eq_ok hobject
      obtain ⟨servos, hservos, hobject⟩ := exists_of_bind_eq_ok hobject
      obtain ⟨motors, hmotors, hobject⟩ := exists_of_bind_eq_ok hobject
      obtain ⟨-, -, hobject⟩ := exists_of_bind_eq_ok hobject
      cases hobject
      exact ⟨hsensors, hactuators, hrepeated, haxes, hservos, hmotors⟩

def RobotProfile.loaded (profile : RobotProfile D F) (dds : DdsConfig) :
    LoadedProfile D F :=
  ⟨profile.sensors, profile.actuators, profile.axes, profile.servos,
    profile.motors, dds⟩

/-- An accepted document is a robot profile. -/
theorem loadRobotProfile_ok {root : Json D} {loaded : LoadedProfile D F}
    (hok : loadRobotProfile dump strtod toFloat root = .ok loaded) :
    ∃ (profile : RobotProfile D F) (dds : DdsConfig),
      profile.strtod = strtod ∧ profile.toFloat = toFloat ∧
        loaded = profile.loaded dds := by
  have hloaded := loaded_of_ok dump strtod toFloat hok
  have hnames := nodup_of_firstRepeated List.nodup_nil hloaded.names
  rw [List.reverse_nil, List.nil_append] at hnames
  exact ⟨⟨strtod, toFloat, loaded.sensors, loaded.actuators, loaded.axes,
    loaded.servos, loaded.motors, hnames, hloaded.axes, hloaded.servos,
    hloaded.motors⟩, loaded.dds, rfl, rfl, rfl⟩

/-! ## Names and paths -/

/-- What the loader has checked of a device entry. -/
structure NamedDevice (device : DeviceConfig) : Prop where
  name : device.name.isEmpty = false
  path : device.path.isEmpty = false

omit [DoubleArithmetic D] in
theorem requiredRobotString_ok {value : Json D} {key part text : String}
    (hok : requiredRobotString dump value key part = .ok text) :
    text.isEmpty = false := by
  unfold requiredRobotString at hok
  split at hok
  · cases hok
  · dsimp only at hok
    split at hok
    · cases hok
    · next hsome =>
        cases hok
        rw [String.isEmpty_eq_false_iff, ne_eq, String.ofList_eq_empty_iff,
          ← List.isEmpty_iff]
        exact hsome

omit [DoubleArithmetic D] in
theorem parseDevice_named {singular : String} {value : Json D}
    {device : DeviceConfig}
    (hok : parseDevice dump singular value = .ok device) :
    NamedDevice device := by
  unfold parseDevice at hok
  split at hok
  · split at hok
    · cases hok
    · next name hname =>
        split at hok
        · next fields hfound =>
            split at hok
            · cases hok
            · next type path htexts =>
                have hpath : requiredRobotString dump (.object fields) "path"
                    "device" = .ok path := by
                  unfold parseTypeAndPath at htexts
                  split at htexts
                  · next first second htype hsecond =>
                      cases htexts
                      exact hsecond
                  · cases htexts
                  · cases htexts
                split at hok
                · cases hok
                · cases hok
                  exact ⟨requiredRobotString_ok dump hname,
                    requiredRobotString_ok dump hpath⟩
        · cases hok
  · cases hok

omit [DoubleArithmetic D] in
theorem parseDevices_named {singular : String} {values : List (Json D)}
    {devices : List DeviceConfig}
    (hok : parseDevices dump singular values = .ok devices) :
    ∀ device ∈ devices, NamedDevice device := by
  induction values generalizing devices with
  | nil =>
      cases hok
      simp
  | cons value rest ih =>
      unfold parseDevices at hok
      cases hfirst : parseDevice dump singular value with
      | error message =>
          rw [hfirst] at hok
          cases hok
      | ok device =>
          rw [hfirst] at hok
          dsimp only at hok
          cases hrest : parseDevices dump singular rest with
          | error message =>
              rw [hrest] at hok
              cases hok
          | ok others =>
              rw [hrest] at hok
              cases hok
              rw [List.forall_mem_cons]
              exact ⟨parseDevice_named dump hfirst, ih hrest⟩

omit [DoubleArithmetic D] in
theorem parseDeviceList_named {root : Json D} {plural singular : String}
    {devices : List DeviceConfig}
    (hok : parseDeviceList dump root plural singular = .ok devices) :
    ∀ device ∈ devices, NamedDevice device := by
  unfold parseDeviceList at hok
  split at hok
  · cases hok
    simp
  · exact parseDevices_named dump hok
  · cases hok

/-- Every device of an accepted document has a name and a path. -/
theorem loadRobotProfile_named {root : Json D} {loaded : LoadedProfile D F}
    (hok : loadRobotProfile dump strtod toFloat root = .ok loaded) :
    ∀ device ∈ loaded.sensors ++ loaded.actuators, NamedDevice device := by
  have hloaded := loaded_of_ok dump strtod toFloat hok
  rw [List.forall_mem_append]
  exact ⟨parseDeviceList_named dump hloaded.sensors,
    parseDeviceList_named dump hloaded.actuators⟩

end Loader

end PolicyRuntime
