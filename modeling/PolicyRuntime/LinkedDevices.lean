import PolicyRuntime.AxisProfiles
import PolicyRuntime.LinkTable

/-!
# Physical links of the device lists

The loader pairs the sensors and actuators of a device type by an identity text.
Axes, servos and motors follow one scheme: sensors open links, actuators join
them, and every link needs both.  The derived list has the order of the
sensors, whatever the order of the actuators is.
-/

namespace PolicyRuntime

/-- An entry of `derived`, with the key under which the map lists it. -/
structure DerivedLink (P : Type) where
  identity : String
  profile : P
  hasSensor : Bool
  hasActuator : Bool

/-- What a device type contributes to the scheme. -/
structure LinkKind (P : Type) where
  type : String
  /-- whether the device is a sensor -/
  parse : Bool → DeviceConfig → Except String P
  identity : DeviceConfig → P → String
  same : P → P → Bool
  /-- the existing profile with a second device -/
  join : Bool → P → P → P
  duplicate : String
  inconsistent : String

namespace LinkKind

variable {P : Type} (kind : LinkKind P)

/-- The devices of the type. -/
def devices (list : List DeviceConfig) : List DeviceConfig :=
  list.filter (·.type = kind.type)

def joinLink (sensor : Bool) (existing : DerivedLink P)
    (device : DeviceConfig) (parsed : P) : Except String (DerivedLink P) :=
  if (sensor && existing.hasSensor) || (!sensor && existing.hasActuator) then
    .error (kind.duplicate ++ device.path)
  else if !kind.same existing.profile parsed then
    .error (kind.inconsistent ++ device.path)
  else
    .ok ⟨existing.identity, kind.join sensor existing.profile parsed,
      existing.hasSensor || sensor, existing.hasActuator || !sensor⟩

/-- The link of a parsed device. -/
def addParsed (sensor : Bool) (derived : List (DerivedLink P))
    (device : DeviceConfig) (parsed : P) :
    Except String (List (DerivedLink P)) :=
  let index := derived.findIdx (·.identity = kind.identity device parsed)
  match derived[index]? with
  | none =>
      .ok (derived ++
        [⟨kind.identity device parsed, parsed, sensor, !sensor⟩])
  | some existing =>
      match kind.joinLink sensor existing device parsed with
      | .error message => .error message
      | .ok joined => .ok (derived.set index joined)

/-- The lambda `add` of the derivations. -/
def addLink (sensor : Bool) (derived : List (DerivedLink P))
    (device : DeviceConfig) : Except String (List (DerivedLink P)) :=
  if device.type ≠ kind.type then
    .ok derived
  else
    match kind.parse sensor device with
    | .error message => .error message
    | .ok parsed => kind.addParsed sensor derived device parsed

def addLinks (sensor : Bool) :
    List (DerivedLink P) → List DeviceConfig →
      Except String (List (DerivedLink P))
  | derived, [] => .ok derived
  | derived, device :: rest =>
      match kind.addLink sensor derived device with
      | .error message => .error message
      | .ok next => addLinks sensor next rest

/-- The end of a derivation. -/
def complete (limit : ℕ) (oversized unpaired : String)
    (derived : List (DerivedLink P)) : Except String (List P) :=
  if limit < derived.length then
    .error oversized
  else if derived.any fun entry => !entry.hasSensor || !entry.hasActuator then
    .error unpaired
  else
    .ok (derived.map DerivedLink.profile)

def derive (limit : ℕ) (oversized unpaired : String)
    (sensors actuators : List DeviceConfig) : Except String (List P) :=
  match kind.addLinks true [] sensors with
  | .error message => .error message
  | .ok sensed =>
      match kind.addLinks false sensed actuators with
      | .error message => .error message
      | .ok derived => complete limit oversized unpaired derived

/-- The identity text of a device of the type. -/
def key (sensor : Bool) (device : DeviceConfig) : String :=
  match kind.parse sensor device with
  | .ok parsed => kind.identity device parsed
  | .error _ => ""

theorem key_of_parse {sensor : Bool} {device : DeviceConfig} {parsed : P}
    (hparse : kind.parse sensor device = .ok parsed) :
    kind.key sensor device = kind.identity device parsed := by
  unfold key
  rw [hparse]

/-! ## The links as a table -/

def entry (link : DerivedLink P) : LinkEntry String :=
  ⟨link.identity, link.hasSensor, link.hasActuator⟩

/-- What adding a parsed device can do. -/
theorem addParsed_cases {sensor : Bool} {derived next : List (DerivedLink P)}
    {device : DeviceConfig} {parsed : P}
    (hadd : kind.addParsed sensor derived device parsed = .ok next) :
    (derived[derived.findIdx
        (·.identity = kind.identity device parsed)]? = none ∧
      next = derived ++
        [⟨kind.identity device parsed, parsed, sensor, !sensor⟩]) ∨
    ∃ existing, derived[derived.findIdx
        (·.identity = kind.identity device parsed)]? = some existing ∧
      existing.identity = kind.identity device parsed ∧
      (entry existing).taken sensor = false ∧
      kind.same existing.profile parsed = true ∧
      next = derived.set
        (derived.findIdx (·.identity = kind.identity device parsed))
        ⟨existing.identity, kind.join sensor existing.profile parsed,
          existing.hasSensor || sensor, existing.hasActuator || !sensor⟩ := by
  unfold addParsed at hadd
  simp only at hadd
  cases hfound : derived[derived.findIdx
      (·.identity = kind.identity device parsed)]? with
  | none =>
      rw [hfound] at hadd
      cases hadd
      exact Or.inl ⟨rfl, rfl⟩
  | some existing =>
      rw [hfound] at hadd
      obtain ⟨hlt, hvalue⟩ := List.getElem?_eq_some_iff.mp hfound
      have hidentity := List.findIdx_getElem (w := hlt)
      rw [hvalue] at hidentity
      simp only at hadd
      cases hjoin : kind.joinLink sensor existing device parsed with
      | error message =>
          rw [hjoin] at hadd
          contradiction
      | ok joined =>
          rw [hjoin] at hadd
          cases hadd
          unfold joinLink at hjoin
          split at hjoin
          · contradiction
          · next hfree =>
              split at hjoin
              · contradiction
              · next hsame =>
                  cases hjoin
                  exact Or.inr ⟨existing, rfl, by simpa using hidentity,
                    by simpa [entry, LinkEntry.taken] using hfree,
                    by simpa using hsame, rfl⟩

theorem addParsed_table {sensor : Bool} {derived next : List (DerivedLink P)}
    {device : DeviceConfig} {parsed : P}
    (hadd : kind.addParsed sensor derived device parsed = .ok next) :
    LinkTable.add sensor (derived.map entry) (kind.identity device parsed) =
      some (next.map entry) := by
  have hindex : (derived.map entry).findIdx
      (·.key = kind.identity device parsed) =
      derived.findIdx (·.identity = kind.identity device parsed) := by
    rw [List.findIdx_map]
    rfl
  unfold LinkTable.add
  simp only [hindex, List.getElem?_map]
  obtain ⟨hnone, rfl⟩ | ⟨existing, hfound, hidentity, hfree, _, rfl⟩ :=
    kind.addParsed_cases hadd
  · rw [hnone]
    simp [entry]
  · rw [hfound]
    simp only [Option.map_some, hfree, Bool.false_eq_true, if_false]
    rw [List.map_set]
    rfl

theorem addLink_of_ne {sensor : Bool} {derived : List (DerivedLink P)}
    {device : DeviceConfig} (htype : device.type ≠ kind.type) :
    kind.addLink sensor derived device = .ok derived :=
  if_pos htype

theorem addLink_of_parse {sensor : Bool} {derived : List (DerivedLink P)}
    {device : DeviceConfig} {parsed : P} (htype : device.type = kind.type)
    (hparse : kind.parse sensor device = .ok parsed) :
    kind.addLink sensor derived device =
      kind.addParsed sensor derived device parsed := by
  unfold addLink
  rw [if_neg (not_not.mpr htype), hparse]

/-- What adding a device of the type does. -/
theorem addLink_parsed {sensor : Bool} {derived next : List (DerivedLink P)}
    {device : DeviceConfig} (htype : device.type = kind.type)
    (hadd : kind.addLink sensor derived device = .ok next) :
    ∃ parsed, kind.parse sensor device = .ok parsed ∧
      kind.addParsed sensor derived device parsed = .ok next := by
  unfold addLink at hadd
  rw [if_neg (not_not.mpr htype)] at hadd
  cases hparse : kind.parse sensor device with
  | error message =>
      rw [hparse] at hadd
      contradiction
  | ok parsed =>
      rw [hparse] at hadd
      exact ⟨parsed, rfl, hadd⟩

/-- Induction on a successful pass over a device list. -/
theorem addLinks_induction (sensor : Bool)
    (Good : List DeviceConfig → List (DerivedLink P) → Prop)
    (hstep : ∀ {done derived device parsed next}, Good done derived →
      device.type = kind.type →
      kind.parse sensor device = .ok parsed →
      kind.addParsed sensor derived device parsed = .ok next →
      Good (done ++ [device]) next)
    (done : List DeviceConfig) {list : List DeviceConfig}
    {derived next : List (DerivedLink P)} (hgood : Good done derived)
    (hadd : kind.addLinks sensor derived list = .ok next) :
    Good (done ++ kind.devices list) next := by
  induction list generalizing done derived with
  | nil =>
      cases hadd
      simpa [devices] using hgood
  | cons device rest ih =>
      unfold addLinks at hadd
      cases hfirst : kind.addLink sensor derived device with
      | error message =>
          rw [hfirst] at hadd
          contradiction
      | ok middle =>
          rw [hfirst] at hadd
          by_cases htype : device.type = kind.type
          · obtain ⟨parsed, hparse, hparsed⟩ :=
              kind.addLink_parsed htype hfirst
            have hrest := ih (done ++ [device])
              (hstep hgood htype hparse hparsed) hadd
            simpa [devices, htype] using hrest
          · rw [kind.addLink_of_ne htype] at hfirst
            cases hfirst
            simpa [devices, htype] using ih done hgood hadd

theorem addLinks_table {sensor : Bool} {list : List DeviceConfig}
    {derived next : List (DerivedLink P)}
    (hadd : kind.addLinks sensor derived list = .ok next) :
    LinkTable.addAll sensor (derived.map entry)
        ((kind.devices list).map (kind.key sensor)) =
      some (next.map entry) := by
  refine kind.addLinks_induction sensor (fun done links =>
    LinkTable.addAll sensor (derived.map entry)
      (done.map (kind.key sensor)) = some (links.map entry)) ?_ [] rfl hadd
  intro done links device parsed after hgood htype hparse hparsed
  have htable := kind.addParsed_table hparsed
  rw [← kind.key_of_parse hparse] at htable
  rw [List.map_append, LinkTable.addAll_append hgood]
  simp [LinkTable.addAll, htable]

theorem addLinks_parsed {sensor : Bool} {list : List DeviceConfig}
    {derived next : List (DerivedLink P)}
    (hadd : kind.addLinks sensor derived list = .ok next) :
    ∀ device ∈ kind.devices list, ∃ parsed,
      kind.parse sensor device = .ok parsed := by
  refine kind.addLinks_induction sensor (fun done _ =>
    ∀ device ∈ done, ∃ parsed, kind.parse sensor device = .ok parsed) ?_ []
    (by simp) hadd
  intro done links device parsed after hgood htype hparse hparsed other hother
  rw [List.mem_append, List.mem_singleton] at hother
  obtain hold | rfl := hother
  · exact hgood other hold
  · exact ⟨parsed, hparse⟩

/-! ## What the links hold -/

/-- The link a sensor opens. -/
def Opened (device : DeviceConfig) (link : DerivedLink P) : Prop :=
  ∃ parsed, kind.parse true device = .ok parsed ∧
    link = ⟨kind.identity device parsed, parsed, true, false⟩

theorem addLinks_opened {list : List DeviceConfig}
    {next : List (DerivedLink P)}
    (hadd : kind.addLinks true [] list = .ok next) :
    List.Forall₂ kind.Opened (kind.devices list) next := by
  have hboth : List.Forall₂ kind.Opened ([] ++ kind.devices list) next ∧
      ∀ link ∈ next, link.hasSensor = true := by
    refine kind.addLinks_induction true (fun done links =>
      List.Forall₂ kind.Opened done links ∧
        ∀ link ∈ links, link.hasSensor = true) ?_ []
      ⟨List.Forall₂.nil, by simp⟩ hadd
    intro done links device parsed after hgood htype hparse hparsed
    obtain ⟨_, rfl⟩ | ⟨existing, hfound, _, hfree, _, _⟩ :=
      kind.addParsed_cases hparsed
    · refine ⟨List.rel_append hgood.1
        (List.Forall₂.cons ⟨parsed, hparse, rfl⟩ List.Forall₂.nil), ?_⟩
      intro link hlink
      rw [List.mem_append, List.mem_singleton] at hlink
      obtain hold | rfl := hlink
      · exact hgood.2 link hold
      · rfl
    · -- an opened link has its sensor
      have hsensor := hgood.2 existing (List.mem_of_getElem? hfound)
      simp [entry, LinkEntry.taken, hsensor] at hfree
  exact hboth.1

/-- The link after its actuator joined it. -/
def Joined (device : DeviceConfig) (opened link : DerivedLink P) : Prop :=
  ∃ parsed, kind.parse false device = .ok parsed ∧
    kind.identity device parsed = opened.identity ∧
    kind.same opened.profile parsed = true ∧
    link = ⟨opened.identity, kind.join false opened.profile parsed,
      opened.hasSensor, true⟩

theorem addLinks_joined {list : List DeviceConfig}
    {opened next : List (DerivedLink P)}
    (hadd : kind.addLinks false opened list = .ok next)
    {index : ℕ} {link : DerivedLink P} (hlink : opened[index]? = some link) :
    next[index]? = some link ∨
      ∃ device ∈ kind.devices list, ∃ joined, next[index]? = some joined ∧
        kind.Joined device link joined := by
  have hgood := kind.addLinks_induction false
    (fun done links => links[index]? = some link ∨
      ∃ device ∈ done, ∃ joined, links[index]? = some joined ∧
        kind.Joined device link joined) ?_ [] (Or.inl hlink) hadd
  · simpa using hgood
  intro done links device parsed after hgood htype hparse hparsed
  obtain ⟨_, rfl⟩ | ⟨existing, hfound, hidentity, hfree, hsame, rfl⟩ :=
    kind.addParsed_cases hparsed
  · obtain hold | ⟨other, hother, joined, hjoined, hspec⟩ := hgood
    · exact Or.inl (by
        rw [List.getElem?_append_left (List.getElem?_eq_some_iff.mp hold).1]
        exact hold)
    · refine Or.inr ⟨other, by simp [hother], joined, ?_, hspec⟩
      rw [List.getElem?_append_left (List.getElem?_eq_some_iff.mp hjoined).1]
      exact hjoined
  · rw [List.getElem?_set]
    split
    · next hindex =>
        rw [hindex] at hfound
        obtain hold | ⟨other, _, joined, hjoined, _, _, _, _, rfl⟩ := hgood
        · rw [hold] at hfound
          cases hfound
          rw [if_pos (by
            rw [hindex]
            exact (List.getElem?_eq_some_iff.mp hold).1)]
          exact Or.inr ⟨device, by simp, _, rfl, parsed, hparse,
            hidentity.symm, hsame, by simp⟩
        · -- its actuator is there already
          rw [hjoined] at hfound
          cases hfound
          simp [entry, LinkEntry.taken] at hfree
    · obtain hold | ⟨other, hother, joined, hjoined, hspec⟩ := hgood
      · exact Or.inl hold
      · exact Or.inr ⟨other, by simp [hother], joined, hjoined, hspec⟩

/-! ## Derived lists -/

/-- The `i`-th sensor of the type and the actuator which shares its link. -/
structure LinkedPair (sensor actuator : DeviceConfig) (profile : P) :
    Prop where
  key_eq : kind.key true sensor = kind.key false actuator
  parsed : ∃ sensed acted, kind.parse true sensor = .ok sensed ∧
    kind.parse false actuator = .ok acted ∧
    kind.same sensed acted = true ∧ profile = kind.join false sensed acted

variable {limit : ℕ} {oversized unpaired : String}
  {sensors actuators : List DeviceConfig} {profiles : List P}

/-- What a successful derivation went through. -/
theorem derive_cases
    (hderive : kind.derive limit oversized unpaired sensors actuators =
      .ok profiles) :
    ∃ opened derived, kind.addLinks true [] sensors = .ok opened ∧
      kind.addLinks false opened actuators = .ok derived ∧
      derived.length ≤ limit ∧
      (∀ link ∈ derived, link.hasSensor = true ∧ link.hasActuator = true) ∧
      profiles = derived.map DerivedLink.profile := by
  unfold derive at hderive
  cases hopened : kind.addLinks true [] sensors with
  | error message =>
      rw [hopened] at hderive
      contradiction
  | ok opened =>
      rw [hopened] at hderive
      simp only at hderive
      cases hderived : kind.addLinks false opened actuators with
      | error message =>
          rw [hderived] at hderive
          contradiction
      | ok derived =>
          rw [hderived] at hderive
          simp only [complete] at hderive
          split at hderive
          · contradiction
          · next hlimit =>
              split at hderive
              · contradiction
              · next hpaired =>
                  cases hderive
                  refine ⟨opened, derived, rfl, hderived, by omega, ?_, rfl⟩
                  intro link hlink
                  by_contra hmissing
                  refine hpaired (List.any_eq_true.mpr ⟨link, hlink, ?_⟩)
                  cases hsensor : link.hasSensor <;>
                    cases hactuator : link.hasActuator <;> simp_all

/-- The keys of sensors and actuators pair up one to one. -/
theorem derive_paired
    (hderive : kind.derive limit oversized unpaired sensors actuators =
      .ok profiles) :
    LinkTable.Paired ((kind.devices sensors).map (kind.key true))
        ((kind.devices actuators).map (kind.key false)) ∧
      profiles.length = (kind.devices sensors).length ∧
      profiles.length ≤ limit := by
  obtain ⟨opened, derived, hopened, hderived, hlimit, hcomplete, rfl⟩ :=
    kind.derive_cases hderive
  have hpaired := LinkTable.paired_of_complete
    (kind.addLinks_table hopened) (kind.addLinks_table hderived) (by
      intro link hlink
      obtain ⟨source, hsource, rfl⟩ := List.mem_map.mp hlink
      exact hcomplete source hsource)
  have hlength := congrArg List.length hpaired.1
  simp only [List.length_map] at hlength ⊢
  exact ⟨hpaired.2, hlength, hlimit⟩

/-- Every device of the type was parsed. -/
theorem derive_parsed
    (hderive : kind.derive limit oversized unpaired sensors actuators =
      .ok profiles) :
    (∀ device ∈ kind.devices sensors, ∃ parsed,
      kind.parse true device = .ok parsed) ∧
    ∀ device ∈ kind.devices actuators, ∃ parsed,
      kind.parse false device = .ok parsed := by
  obtain ⟨opened, derived, hopened, hderived, _⟩ := kind.derive_cases hderive
  exact ⟨kind.addLinks_parsed hopened, kind.addLinks_parsed hderived⟩

/-- Every profile is its sensor joined by its actuator, in the order of the
sensors. -/
theorem derive_pair
    (hderive : kind.derive limit oversized unpaired sensors actuators =
      .ok profiles)
    {index : ℕ} {sensor : DeviceConfig}
    (hsensor : (kind.devices sensors)[index]? = some sensor) :
    ∃ actuator ∈ kind.devices actuators, ∃ profile,
      profiles[index]? = some profile ∧
      kind.LinkedPair sensor actuator profile := by
  obtain ⟨opened, derived, hopened, hderived, _, hcomplete, rfl⟩ :=
    kind.derive_cases hderive
  have hforall := kind.addLinks_opened hopened
  obtain ⟨hlt, hvalue⟩ := List.getElem?_eq_some_iff.mp hsensor
  have hlt' : index < opened.length := by
    rw [← hforall.length_eq]
    exact hlt
  obtain ⟨sensed, hsensed, hlink⟩ := hforall.get hlt hlt'
  simp only [List.get_eq_getElem, hvalue] at hsensed hlink
  have hopenedAt : opened[index]? =
      some ⟨kind.identity sensor sensed, sensed, true, false⟩ := by
    rw [List.getElem?_eq_getElem hlt', hlink]
  obtain hold | ⟨actuator, hactuator, joined, hjoined, hspec⟩ :=
    kind.addLinks_joined hderived hopenedAt
  · -- the link would have no actuator
    have hboth := hcomplete _ (List.mem_of_getElem? hold)
    simp at hboth
  · obtain ⟨acted, hacted, hidentity, hsame, rfl⟩ := hspec
    refine ⟨actuator, hactuator, kind.join false sensed acted, ?_, ?_, ?_⟩
    · rw [List.getElem?_map, hjoined]
      rfl
    · rw [kind.key_of_parse hsensed, kind.key_of_parse hacted]
      exact hidentity.symm
    · exact ⟨sensed, acted, hsensed, hacted, hsame, rfl⟩

/-- The actuators in the order of the sensors they are linked with. -/
theorem derive_partners
    (hderive : kind.derive limit oversized unpaired sensors actuators =
      .ok profiles) :
    ∃ partners : List DeviceConfig,
      partners.Perm (kind.devices actuators) ∧
      partners.length = profiles.length ∧
      ∀ (index : ℕ) sensor, (kind.devices sensors)[index]? = some sensor →
        ∃ actuator profile, partners[index]? = some actuator ∧
          profiles[index]? = some profile ∧
          kind.LinkedPair sensor actuator profile := by
  obtain ⟨hpaired, hlength, -⟩ := kind.derive_paired hderive
  have hpairs : ∀ index : Fin (kind.devices sensors).length,
      ∃ actuator ∈ kind.devices actuators, ∃ profile,
        profiles[index.val]? = some profile ∧
        kind.LinkedPair ((kind.devices sensors).get index) actuator
          profile := by
    intro index
    exact kind.derive_pair hderive (List.getElem?_eq_getElem index.isLt)
  choose partner hmember profile hprofile hlinked using hpairs
  have hkeys : (List.ofFn partner).map (kind.key false) =
      (kind.devices sensors).map (kind.key true) := by
    apply List.ext_getElem
    · simp
    · intro index hleft hright
      have hlt : index < (kind.devices sensors).length := by
        simpa using hright
      simpa using (hlinked ⟨index, hlt⟩).key_eq.symm
  have hnodup : (List.ofFn partner).Nodup := by
    apply List.Nodup.of_map (kind.key false)
    rw [hkeys]
    exact hpaired.sensorsOnce
  have hsubset : List.ofFn partner ⊆ kind.devices actuators := by
    intro actuator hactuator
    obtain ⟨index, rfl⟩ := List.mem_ofFn.mp hactuator
    exact hmember index
  refine ⟨List.ofFn partner, ?_, by simp [hlength], ?_⟩
  · apply (List.subperm_of_subset hnodup hsubset).perm_of_length_le
    have hsame := hpaired.perm.length_eq
    simp only [List.length_map] at hsame
    simp [hsame]
  · intro index sensor hsensor
    obtain ⟨hlt, hvalue⟩ := List.getElem?_eq_some_iff.mp hsensor
    refine ⟨partner ⟨index, hlt⟩, profile ⟨index, hlt⟩, ?_,
      hprofile ⟨index, hlt⟩, ?_⟩
    · simp [hlt]
    · have hpair := hlinked ⟨index, hlt⟩
      rw [List.get_eq_getElem, hvalue] at hpair
      exact hpair

end LinkKind

end PolicyRuntime
