import PolicyRuntime.DaemonStart

/-!
# Rolling back a failed start

Between two calls a daemon whose registry does not run has nothing else running
which `start` brings up.  From such a state the undo branches of the master and
of the registry restore what was there.  The endpoint has no undo branch, and
neither has anything behind the last transport runtime, so a start which fails
with a freshly started endpoint or at a runtime is not rolled back.
-/

namespace PolicyRuntime
namespace DaemonServices

/-! ## Resources -/

/-- What may be left running or registered. -/
inductive Resource
  | ddsWorker
  | scheduled (transport : ScheduledTransport)
  | boundHandler
  | openMaster
  | openPort (bus : ℕ)
  | worker (runtime : ℕ)

def Active (services : DaemonServices) : Resource → Prop
  | .ddsWorker => services.dds = some true
  | .scheduled transport => services.scheduler transport = true
  | .boundHandler =>
      ∃ link ∈ services.ethercatMaster, link.handler = some .daemon
  | .openMaster => ∃ link ∈ services.ethercatMaster, link.opened = true
  | .openPort bus => (services.buses bus).portOpen = true
  | .worker runtime => services.runtimes runtime = true

/-- A failing `start` leaves nothing behind, neither running nor registered,
and a later one cannot tell that it happened. -/
structure RolledBack (services after : DaemonServices) : Prop where
  active : ∀ resource, after.Active resource → services.Active resource
  later : ∀ answers : StartAnswers, answers.Succeed →
    (after.start answers).2 = (services.start answers).2

/-! ## Consistency between two calls -/

structure BusConsistent (services : DaemonServices) (index : ℕ) : Prop where
  running : (services.buses index).running = services.scheduler (.port index)
  attached : (services.buses index).attached = services.scheduler (.port index)
  portOpen : (services.buses index).portOpen = services.scheduler (.port index)

structure Consistent (services : DaemonServices) : Prop where
  registry : services.registryScheduled = services.registryRunning
  registered : services.masterRegistered = services.scheduler .master
  handler : services.masterHandlerBound = services.scheduler .master
  noMaster : services.ethercatMaster = none →
    services.scheduler .master = false
  bus : ∀ index, services.BusConsistent index
  noBus : ∀ index, services.busCount ≤ index →
    services.scheduler (.port index) = false
  noRuntime : ∀ index, services.runtimeCount ≤ index →
    services.runtimes index = false
  idleMaster : services.registryRunning = false →
    services.scheduler .master = false
  idlePort : services.registryRunning = false →
    ∀ index, services.scheduler (.port index) = false
  idleRuntime : services.registryRunning = false →
    ∀ index, services.runtimes index = false

/-- The first `count` buses run. -/
def withBuses (services : DaemonServices) (count : ℕ) : DaemonServices :=
  { services with
    buses := fun index =>
      if index < count then (services.buses index).started
      else services.buses index
    scheduler := fun transport =>
      match transport with
      | .port index => decide (index < count) || services.scheduler transport
      | .master => services.scheduler .master }

/-- The master is registered, bound and open. -/
def withMaster (services : DaemonServices) : DaemonServices :=
  ((services.setScheduler .master true).setMaster
    ⟨true, some .daemon⟩).setMasterFlags true true

/-- The first `count` transport runtimes run. -/
def withRuntimes (services : DaemonServices) (count : ℕ) : DaemonServices :=
  { services with
    runtimes := fun index => decide (index < count) || services.runtimes index }

/-! ## The serial registry -/

/-- No bus runs. -/
structure PortsIdle (services : DaemonServices) : Prop where
  port : ∀ index, services.scheduler (.port index) = false
  bus : ∀ index, services.BusConsistent index

theorem Consistent.portsIdle {services : DaemonServices}
    (hservices : services.Consistent)
    (hregistry : services.registryRunning = false) : services.PortsIdle :=
  ⟨hservices.idlePort hregistry, hservices.bus⟩

theorem withBuses_zero (services : DaemonServices) :
    services.withBuses 0 = services := by
  unfold withBuses
  cases services
  simp only [not_lt_zero, if_false, decide_false, Bool.false_or,
    DaemonServices.mk.injEq, true_and, and_true]
  funext transport
  cases transport <;> rfl

section Ports

variable {services : DaemonServices} (hidle : services.PortsIdle)
include hidle

theorem PortsIdle.bus_eq (index : ℕ) :
    services.buses index =
      ⟨(services.buses index).startable, false, false, false⟩ := by
  have hbus := hidle.bus index
  have hport := hidle.port index
  have hrunning := hbus.running.trans hport
  have hattached := hbus.attached.trans hport
  have hopen := hbus.portOpen.trans hport
  cases hentry : services.buses index with
  | mk startable running attached portOpen =>
      rw [hentry] at hrunning hattached hopen
      simp_all

theorem PortsIdle.stopBus_withBuses (index : ℕ) :
    (services.withBuses (index + 1)).stopBus index =
      services.withBuses index := by
  have hentry := hidle.bus_eq index
  have hport := hidle.port index
  unfold stopBus withBuses setBus setScheduler
  simp only [Nat.lt_succ_self, if_true, SerialBusService.started,
    SerialBusService.stopped, Bool.not_true, Bool.and_false,
    Bool.false_eq_true, if_false, DaemonServices.mk.injEq, true_and, and_true]
  constructor
  · funext transport
    cases transport with
    | master => simp
    | port other =>
        by_cases hother : other = index
        · subst other
          simp [hport]
        · have hiff : other < index + 1 ↔ other < index := by omega
          simp [Function.update, hother, hiff]
  · funext other
    by_cases hother : other = index
    · subst other
      simp only [Function.update_self, lt_irrefl, if_false]
      exact hentry.symm
    · have hiff : other < index + 1 ↔ other < index := by omega
      simp [Function.update, hother, hiff]

theorem PortsIdle.stopBuses_withBuses (count : ℕ) :
    stopBuses count (services.withBuses count) = services := by
  induction count with
  | zero => exact withBuses_zero services
  | succ count ih =>
      unfold stopBuses
      rw [hidle.stopBus_withBuses count]
      exact ih

theorem PortsIdle.startBus_withBuses {answers : StartAnswers} {index : ℕ}
    (hstartable : (services.buses index).startable = true)
    (hopen : answers.openPort index = .ok ()) :
    (services.withBuses index).startBus answers index =
      (services.withBuses (index + 1), .ok ()) := by
  have hentry := hidle.bus_eq index
  have hport := hidle.port index
  rw [hstartable] at hentry
  unfold startBus withBuses setBus setScheduler
  simp only [lt_irrefl, if_false, hentry, hport, hopen, decide_false,
    Bool.false_or, Bool.not_true, Bool.false_eq_true, Prod.mk.injEq,
    DaemonServices.mk.injEq, true_and, and_true]
  constructor
  · funext transport
    cases transport with
    | master => simp
    | port other =>
        by_cases hother : other = index
        · subst other
          simp
        · have hiff : other < index + 1 ↔ other < index := by omega
          simp [Function.update, hother, hiff]
  · funext other
    by_cases hother : other = index
    · subst other
      simp [hentry]
    · have hiff : other < index + 1 ↔ other < index := by omega
      simp [Function.update, hother, hiff]

theorem PortsIdle.startBus_fails {answers : StartAnswers} {index : ℕ}
    (hfails : ¬ ((services.buses index).startable = true ∧
      answers.openPort index = .ok ())) :
    ∃ error, (services.withBuses index).startBus answers index =
      (services.withBuses index, .error error) := by
  have hentry := hidle.bus_eq index
  have hport := hidle.port index
  cases hstartable : (services.buses index).startable with
  | false =>
      rw [hstartable] at hentry
      refine ⟨⟨.invalidArgument, "ST3215 bus is not startable"⟩, ?_⟩
      unfold startBus withBuses
      simp [hentry]
  | true =>
      rw [hstartable] at hentry
      cases hopen : answers.openPort index with
      | ok value => exact absurd ⟨hstartable, hopen⟩ hfails
      | error error =>
          refine ⟨error, ?_⟩
          unfold startBus withBuses setScheduler
          simp only [lt_irrefl, if_false, hentry, hport, hopen, decide_false,
            Bool.false_or, Bool.not_true, Bool.false_eq_true, Prod.mk.injEq,
            DaemonServices.mk.injEq, true_and, and_true]
          funext transport
          cases transport with
          | master => simp
          | port other =>
              by_cases hother : other = index
              · subst other
                simp [hport]
              · simp [Function.update, hother]

/-- The buses from `index` on can be started. -/
theorem PortsIdle.startBuses_ok {answers : StartAnswers}
    {remaining index : ℕ}
    (hbuses : ∀ other, index ≤ other → other < index + remaining →
      (services.buses other).startable = true ∧
        answers.openPort other = .ok ()) :
    startBuses answers remaining index (services.withBuses index) =
      (services.withBuses (index + remaining), .ok ()) := by
  induction remaining generalizing index with
  | zero => rfl
  | succ remaining ih =>
      have hfirst := hbuses index le_rfl (by omega)
      unfold startBuses
      rw [hidle.startBus_withBuses hfirst.1 hfirst.2]
      rw [show index + (remaining + 1) = index + 1 + remaining by omega]
      apply ih
      intro other hfrom hto
      exact hbuses other (by omega) (by omega)

theorem PortsIdle.startBuses_fails {answers : StartAnswers}
    {remaining index : ℕ}
    (hbuses : ¬ ∀ other, index ≤ other → other < index + remaining →
      (services.buses other).startable = true ∧
        answers.openPort other = .ok ()) :
    ∃ error, startBuses answers remaining index (services.withBuses index) =
      (services, .error error) := by
  induction remaining generalizing index with
  | zero => exact absurd (fun other hfrom hto => by omega) hbuses
  | succ remaining ih =>
      by_cases hfirst : (services.buses index).startable = true ∧
          answers.openPort index = .ok ()
      · have hrest : ¬ ∀ other, index + 1 ≤ other →
            other < index + 1 + remaining →
            (services.buses other).startable = true ∧
              answers.openPort other = .ok () := by
          intro hall
          apply hbuses
          intro other hfrom hto
          by_cases hother : other = index
          · rw [hother]
            exact hfirst
          · exact hall other (by omega) (by omega)
        unfold startBuses
        rw [hidle.startBus_withBuses hfirst.1 hfirst.2]
        exact ih hrest
      · obtain ⟨error, herror⟩ := hidle.startBus_fails hfirst
        refine ⟨error, ?_⟩
        unfold startBuses
        rw [herror]
        dsimp only
        rw [hidle.stopBuses_withBuses index]

end Ports

def SerialStarts (services : DaemonServices) (answers : StartAnswers) :
    Prop :=
  services.registryRunning = false ∧
    ∀ index < services.busCount,
      (services.buses index).startable = true ∧
        answers.openPort index = .ok ()

theorem startSerial_ok {services : DaemonServices} {answers : StartAnswers}
    (hscheduled : services.registryScheduled = services.registryRunning)
    (hidle : services.PortsIdle) (hstarts : services.SerialStarts answers) :
    services.startSerial answers =
      ((services.withBuses services.busCount).setRegistry true, .ok ()) := by
  have hbuses : startBuses answers services.busCount 0
      (services.withBuses 0) =
      (services.withBuses (0 + services.busCount), .ok ()) := by
    apply hidle.startBuses_ok
    intro other _ hother
    exact hstarts.2 other (by omega)
  rw [withBuses_zero, Nat.zero_add] at hbuses
  unfold startSerial
  rw [hscheduled, hstarts.1, hbuses]
  rfl

theorem startSerial_fails {services : DaemonServices} {answers : StartAnswers}
    (hscheduled : services.registryScheduled = services.registryRunning)
    (hidle : services.registryRunning = false → services.PortsIdle)
    (hstarts : ¬ services.SerialStarts answers) :
    ∃ error, services.startSerial answers = (services, .error error) := by
  unfold startSerial
  rw [hscheduled]
  cases hrunning : services.registryRunning with
  | true => exact ⟨_, rfl⟩
  | false =>
      have hbuses : ¬ ∀ other, 0 ≤ other → other < 0 + services.busCount →
          (services.buses other).startable = true ∧
            answers.openPort other = .ok () := by
        intro hall
        apply hstarts
        refine ⟨hrunning, fun other hother => ?_⟩
        exact hall other (Nat.zero_le _) (by omega)
      obtain ⟨error, herror⟩ :=
        (hidle hrunning).startBuses_fails hbuses
      rw [withBuses_zero] at herror
      refine ⟨error, ?_⟩
      rw [herror]
      rfl

/-! ## The master -/

/-- The master which `prepareMaster` leaves can be started. -/
def MasterStarts (services : DaemonServices) (answers : StartAnswers) :
    Prop :=
  match services.ethercatMaster with
  | none => 0 < services.axisCount →
      answers.createMaster = .ok () ∧ answers.openMaster = .ok ()
  | some link => services.scheduler .master = false ∧
      link = ⟨false, none⟩ ∧ answers.openMaster = .ok ()

/-- What a consistent daemon says of its master's registration. -/
structure MasterFlags (services : DaemonServices) : Prop where
  registered : services.masterRegistered = services.scheduler .master
  handler : services.masterHandlerBound = services.scheduler .master

theorem setScheduler_twice (services : DaemonServices)
    {transport : ScheduledTransport}
    (hfree : services.scheduler transport = false) :
    (services.setScheduler transport true).setScheduler transport false =
      services := by
  unfold setScheduler
  rw [Function.update_idem, ← hfree, Function.update_eq_self]

theorem setMasterFlags_self {services : DaemonServices}
    {registered bound : Bool} (hregistered : services.masterRegistered =
      registered) (hbound : services.masterHandlerBound = bound) :
    services.setMasterFlags registered bound = services := by
  unfold setMasterFlags
  rw [← hregistered, ← hbound]

theorem setMaster_self {services : DaemonServices} {link : MasterLink}
    (hlink : services.ethercatMaster = some link) :
    services.setMaster link = services := by
  unfold setMaster
  rw [← hlink]

section Master

variable {services : DaemonServices} {answers : StartAnswers}
variable (hflags : services.MasterFlags)
include hflags

theorem startMaster_fails {link : MasterLink}
    (hlink : services.ethercatMaster = some link)
    (hstarts : ¬ (services.scheduler .master = false ∧
      link = ⟨false, none⟩ ∧ answers.openMaster = .ok ())) :
    ∃ error, services.startMaster answers = (services, .error error) := by
  unfold startMaster startMasterLink
  rw [hlink]
  dsimp only
  cases hscheduled : services.scheduler .master with
  | true => exact ⟨_, rfl⟩
  | false =>
      have hregistered := hflags.registered.trans hscheduled
      have hbound := hflags.handler.trans hscheduled
      by_cases hused : (link.opened || link.handler.isSome) = true
      · rw [if_neg Bool.false_ne_true, if_pos hused,
          setScheduler_twice services hscheduled,
          setMasterFlags_self hregistered rfl]
        exact ⟨_, rfl⟩
      · have hfree : link = ⟨false, none⟩ := by
          cases link with
          | mk opened handler => cases handler <;> simp_all
        cases hopen : answers.openMaster with
        | ok value => exact absurd ⟨hscheduled, hfree, hopen⟩ hstarts
        | error error =>
            refine ⟨error, ?_⟩
            rw [if_neg Bool.false_ne_true, if_neg hused]
            rw [hfree] at hlink
            have hkept : (services.setScheduler .master true).ethercatMaster =
                some ⟨false, none⟩ := hlink
            dsimp only
            rw [setMaster_self hkept, setScheduler_twice services hscheduled,
              setMasterFlags_self hregistered hbound]

omit hflags in
theorem startMaster_ok
    (hlink : services.ethercatMaster = some ⟨false, none⟩)
    (hscheduled : services.scheduler .master = false)
    (hopen : answers.openMaster = .ok ()) :
    services.startMaster answers = (services.withMaster, .ok ()) := by
  unfold startMaster startMasterLink
  rw [hlink]
  dsimp only
  rw [hscheduled, hopen]
  rfl

/-- Closing the master again undoes its start. -/
theorem releaseMaster_withMaster
    (hlink : services.ethercatMaster = some ⟨false, none⟩)
    (hscheduled : services.scheduler .master = false) :
    services.withMaster.releaseMaster = services := by
  have hregistered := hflags.registered.trans hscheduled
  have hbound := hflags.handler.trans hscheduled
  cases services
  simp_all [withMaster, releaseMaster, setScheduler, setMaster,
    setMasterFlags]

end Master

/-! ## The transport runtimes -/

theorem withRuntimes_zero (services : DaemonServices) :
    services.withRuntimes 0 = services := by
  unfold withRuntimes
  simp

theorem setRuntime_withRuntimes (services : DaemonServices) (index : ℕ) :
    (services.withRuntimes index).setRuntime index true =
      services.withRuntimes (index + 1) := by
  unfold setRuntime withRuntimes
  simp only [DaemonServices.mk.injEq, true_and]
  funext other
  by_cases hother : other = index
  · subst other
    simp
  · have hiff : other < index + 1 ↔ other < index := by omega
    simp [Function.update, hother, hiff]

section Runtimes

variable {services : DaemonServices} (answers : StartAnswers)
variable (hoff : ∀ index, services.runtimes index = false)
include hoff

theorem startRuntimes_shape (remaining index : ℕ) :
    ∃ count ≤ index + remaining,
      (startRuntimes answers remaining index
        (services.withRuntimes index)).1 = services.withRuntimes count := by
  induction remaining generalizing index with
  | zero => exact ⟨index, le_rfl, rfl⟩
  | succ remaining ih =>
      have hfree : (services.withRuntimes index).runtimes index = false := by
        simp [withRuntimes, hoff]
      unfold startRuntimes
      rw [hfree, if_neg Bool.false_ne_true]
      by_cases hcreate : answers.createWorkers index = true
      · rw [if_pos hcreate, setRuntime_withRuntimes]
        obtain ⟨count, hcount, hshape⟩ := ih (index + 1)
        exact ⟨count, by omega, hshape⟩
      · rw [if_neg hcreate]
        exact ⟨index, by omega, rfl⟩

theorem startRuntimes_ok (hcreate : ∀ index, answers.createWorkers index = true)
    (remaining index : ℕ) :
    startRuntimes answers remaining index (services.withRuntimes index) =
      (services.withRuntimes (index + remaining), .ok ()) := by
  induction remaining generalizing index with
  | zero => rfl
  | succ remaining ih =>
      have hfree : (services.withRuntimes index).runtimes index = false := by
        simp [withRuntimes, hoff]
      unfold startRuntimes
      rw [hfree, if_neg Bool.false_ne_true, if_pos (hcreate index),
        setRuntime_withRuntimes, ih]
      rw [show index + 1 + remaining = index + (remaining + 1) by omega]

end Runtimes

/-! ## Master, registry and runtimes together -/

/-- Whether a master which is already there can be started. -/
def LinkStarts (services : DaemonServices) (answers : StartAnswers) : Prop :=
  ∀ link ∈ services.ethercatMaster, services.scheduler .master = false ∧
    link = ⟨false, none⟩ ∧ answers.openMaster = .ok ()

/-- The state behind `startMaster`. -/
def masterUp (services : DaemonServices) : DaemonServices :=
  match services.ethercatMaster with
  | none => services
  | some _ => services.withMaster

theorem masterUp_dds (services : DaemonServices) :
    services.masterUp.dds = services.dds := by
  unfold masterUp
  split <;> rfl

theorem masterUp_runtimeCount (services : DaemonServices) :
    services.masterUp.runtimeCount = services.runtimeCount := by
  unfold masterUp
  split <;> rfl

/-- The state behind the serial registry. -/
def registryUp (services : DaemonServices) : DaemonServices :=
  (services.masterUp.withBuses services.busCount).setRegistry true

theorem Consistent.masterFlags {services : DaemonServices}
    (hservices : services.Consistent) : services.MasterFlags :=
  ⟨hservices.registered, hservices.handler⟩

theorem PortsIdle.withMaster {services : DaemonServices}
    (hidle : services.PortsIdle) : services.withMaster.PortsIdle :=
  ⟨hidle.port, fun index =>
    ⟨(hidle.bus index).running, (hidle.bus index).attached,
      (hidle.bus index).portOpen⟩⟩

section Transports

variable {services : DaemonServices} {answers : StartAnswers}
variable (hservices : services.Consistent)
include hservices

theorem startTransports_fails
    (hstarts : ¬ (services.LinkStarts answers ∧
      services.SerialStarts answers)) :
    ∃ error, services.startTransports answers = (services, .error error) := by
  unfold startTransports
  cases hlink : services.ethercatMaster with
  | none =>
      have hmaster : services.startMaster answers = (services, .ok ()) := by
        unfold startMaster
        rw [hlink]
      have hserial : ¬ services.SerialStarts answers := by
        intro hserial
        refine hstarts ⟨fun link hmem => ?_, hserial⟩
        rw [hlink] at hmem
        cases hmem
      obtain ⟨error, herror⟩ := startSerial_fails hservices.registry
        hservices.portsIdle hserial
      refine ⟨error, ?_⟩
      rw [hmaster]
      dsimp only
      rw [herror]
      dsimp only
      unfold releaseMaster
      rw [hlink]
  | some link =>
      by_cases hok : services.scheduler .master = false ∧
          link = ⟨false, none⟩ ∧ answers.openMaster = .ok ()
      · obtain ⟨hscheduled, hfree, hopen⟩ := hok
        rw [hfree] at hlink
        have hserial : ¬ services.withMaster.SerialStarts answers := by
          intro hserial
          refine hstarts ⟨fun other hmem => ?_, hserial⟩
          rw [hlink] at hmem
          cases hmem
          exact ⟨hscheduled, rfl, hopen⟩
        have hidle : services.withMaster.registryRunning = false →
            services.withMaster.PortsIdle :=
          fun hrunning => (hservices.portsIdle hrunning).withMaster
        have hregistry : services.withMaster.registryScheduled =
            services.withMaster.registryRunning := hservices.registry
        obtain ⟨error, herror⟩ := startSerial_fails hregistry hidle hserial
        refine ⟨error, ?_⟩
        rw [startMaster_ok hlink hscheduled hopen]
        dsimp only
        rw [herror]
        dsimp only
        rw [releaseMaster_withMaster hservices.masterFlags hlink hscheduled]
      · obtain ⟨error, herror⟩ :=
          startMaster_fails hservices.masterFlags hlink hok
        exact ⟨error, by rw [herror]⟩

omit hservices in
theorem startMaster_masterUp (hlink : services.LinkStarts answers) :
    services.startMaster answers = (services.masterUp, .ok ()) := by
  unfold masterUp
  cases hmaster : services.ethercatMaster with
  | none =>
      unfold startMaster
      rw [hmaster]
  | some link =>
      obtain ⟨hscheduled, hfree, hopen⟩ := hlink link hmaster
      rw [hfree] at hmaster
      exact startMaster_ok hmaster hscheduled hopen

theorem startTransports_eq (hlink : services.LinkStarts answers)
    (hserial : services.SerialStarts answers) :
    services.startTransports answers =
      services.registryUp.startWorkers answers := by
  have hidle := hservices.portsIdle hserial.1
  have hup : services.masterUp.startSerial answers =
      (services.registryUp, .ok ()) := by
    unfold registryUp masterUp
    cases services.ethercatMaster with
    | none => exact startSerial_ok hservices.registry hidle hserial
    | some link =>
        have hregistry : services.withMaster.registryScheduled =
            services.withMaster.registryRunning := hservices.registry
        exact startSerial_ok hregistry hidle.withMaster hserial
  unfold startTransports
  rw [startMaster_masterUp hlink]
  dsimp only
  rw [hup]

theorem registryUp_runtimes (hrunning : services.registryRunning = false)
    (index : ℕ) : services.registryUp.runtimes index = false := by
  unfold registryUp masterUp
  cases services.ethercatMaster <;> exact hservices.idleRuntime hrunning index

variable (answers) in
/-- Whatever the workers answer, the registry and the master stay up. -/
theorem startWorkers_registryUp
    (hrunning : services.registryRunning = false) :
    ∃ count ≤ services.runtimeCount, ∃ accepting running,
      (services.registryUp.startWorkers answers).1 =
        { services.registryUp.withRuntimes count with
          acceptingCommands := accepting
          running := running } := by
  have hcount : services.registryUp.runtimeCount = services.runtimeCount :=
    masterUp_runtimeCount services
  obtain ⟨count, hle, hshape⟩ := startRuntimes_shape answers
    (registryUp_runtimes hservices hrunning) services.runtimeCount 0
  rw [withRuntimes_zero] at hshape
  refine ⟨count, by omega, ?_⟩
  unfold startWorkers
  rw [hcount]
  cases hresult : startRuntimes answers services.runtimeCount 0
      services.registryUp with
  | mk last result =>
      rw [hresult] at hshape
      dsimp only at hshape
      subst last
      cases result with
      | error error => exact ⟨_, _, rfl⟩
      | ok value => exact ⟨true, true, rfl⟩

theorem startWorkers_ok (hsucceed : answers.Succeed)
    (hrunning : services.registryRunning = false) :
    (services.registryUp.startWorkers answers).2 = .ok () := by
  have hall := startRuntimes_ok answers
    (registryUp_runtimes hservices hrunning) hsucceed.createWorkers
    services.registryUp.runtimeCount 0
  rw [withRuntimes_zero] at hall
  unfold startWorkers
  rw [hall]

end Transports

/-! ## Every run -/

theorem Consistent.setMaster {services : DaemonServices}
    (hservices : services.Consistent) (link : MasterLink) :
    (services.setMaster link).Consistent where
  registry := hservices.registry
  registered := hservices.registered
  handler := hservices.handler
  noMaster := by simp [DaemonServices.setMaster]
  bus := fun index => ⟨(hservices.bus index).running,
    (hservices.bus index).attached, (hservices.bus index).portOpen⟩
  noBus := hservices.noBus
  noRuntime := hservices.noRuntime
  idleMaster := hservices.idleMaster
  idlePort := hservices.idlePort
  idleRuntime := hservices.idleRuntime

/-- The flags of the daemon and the endpoint play no part. -/
theorem Consistent.setFlags {services : DaemonServices}
    (hservices : services.Consistent) (running accepting stop : Bool)
    (dds : Option Bool) :
    { services with
      running := running
      acceptingCommands := accepting
      stopRequested := stop
      dds := dds }.Consistent where
  registry := hservices.registry
  registered := hservices.registered
  handler := hservices.handler
  noMaster := hservices.noMaster
  bus := fun index => ⟨(hservices.bus index).running,
    (hservices.bus index).attached, (hservices.bus index).portOpen⟩
  noBus := hservices.noBus
  noRuntime := hservices.noRuntime
  idleMaster := hservices.idleMaster
  idlePort := hservices.idlePort
  idleRuntime := hservices.idleRuntime

/-- Buses and runtimes started from an idle state. -/
theorem PortsIdle.consistent {services : DaemonServices}
    (hidle : services.PortsIdle) (hflags : services.MasterFlags)
    (hmaster : services.ethercatMaster = none →
      services.scheduler .master = false)
    (hoff : ∀ index, services.runtimes index = false) {count : ℕ}
    (hcount : count ≤ services.runtimeCount) :
    (((services.withBuses services.busCount).setRegistry true).withRuntimes
      count).Consistent where
  registry := rfl
  registered := hflags.registered
  handler := hflags.handler
  noMaster := hmaster
  bus := by
    intro index
    have hbus := hidle.bus index
    have hport := hidle.port index
    by_cases hlt : index < services.busCount
    · constructor <;>
        simp [withRuntimes, setRegistry, withBuses, hlt,
          SerialBusService.started]
    · constructor <;>
        simp [withRuntimes, setRegistry, withBuses, hlt, hbus.running,
          hbus.attached, hbus.portOpen]
  noBus := by
    intro index hle
    have hport := hidle.port index
    have hlt : ¬ index < services.busCount := not_lt.mpr hle
    simp [withRuntimes, setRegistry, withBuses, hport, hlt]
  noRuntime := by
    intro index hle
    have hbound : services.runtimeCount ≤ index := hle
    have hlt : ¬ index < count := by omega
    simp [withRuntimes, setRegistry, withBuses, hoff, hlt]
  idleMaster := fun hrunning => Bool.noConfusion hrunning
  idlePort := fun hrunning => Bool.noConfusion hrunning
  idleRuntime := fun hrunning => Bool.noConfusion hrunning

theorem registryUp_consistent {services : DaemonServices}
    (hservices : services.Consistent)
    (hrunning : services.registryRunning = false) {count : ℕ}
    (hcount : count ≤ services.runtimeCount) :
    (services.registryUp.withRuntimes count).Consistent := by
  have hidle := hservices.portsIdle hrunning
  have hoff := hservices.idleRuntime hrunning
  unfold registryUp masterUp
  cases hlink : services.ethercatMaster with
  | none =>
      exact hidle.consistent hservices.masterFlags hservices.noMaster hoff
        hcount
  | some link =>
      have hflags : services.withMaster.MasterFlags := by
        constructor <;>
          simp [withMaster, setMasterFlags, DaemonServices.setMaster,
            setScheduler]
      have hmaster : services.withMaster.ethercatMaster = none →
          services.withMaster.scheduler .master = false := by
        simp [withMaster, setMasterFlags, DaemonServices.setMaster]
      exact hidle.withMaster.consistent hflags hmaster hoff hcount

theorem prepareMaster_cases {services prepared : DaemonServices}
    {answers : StartAnswers}
    (hprepared : services.prepareMaster answers = .ok prepared) :
    prepared = services ∧
        (services.ethercatMaster = none → services.axisCount = 0) ∨
      services.ethercatMaster = none ∧ 0 < services.axisCount ∧
        answers.createMaster = .ok () ∧
        prepared = services.setMaster ⟨false, none⟩ := by
  unfold prepareMaster at hprepared
  cases hlink : services.ethercatMaster with
  | some link =>
      rw [hlink] at hprepared
      cases hprepared
      exact Or.inl ⟨rfl, by simp⟩
  | none =>
      rw [hlink] at hprepared
      dsimp only at hprepared
      by_cases haxes : 0 < services.axisCount
      · rw [if_pos haxes] at hprepared
        cases hcreate : answers.createMaster with
        | error error =>
            rw [hcreate] at hprepared
            cases hprepared
        | ok value =>
            rw [hcreate] at hprepared
            cases hprepared
            exact Or.inr ⟨rfl, haxes, rfl, rfl⟩
      · rw [if_neg haxes] at hprepared
        cases hprepared
        exact Or.inl ⟨rfl, fun _ => by omega⟩

/-- What `startTransports` leaves of a consistent state. -/
theorem startTransports_cases {services : DaemonServices}
    (hservices : services.Consistent) (answers : StartAnswers) :
    (services.startTransports answers).1 = services ∨
      services.registryRunning = false ∧
      ∃ count ≤ services.runtimeCount, ∃ accepting running,
        (services.startTransports answers).1 =
          { services.registryUp.withRuntimes count with
            acceptingCommands := accepting
            running := running } := by
  by_cases hstarts : services.LinkStarts answers ∧
      services.SerialStarts answers
  · rw [startTransports_eq hservices hstarts.1 hstarts.2]
    exact Or.inr ⟨hstarts.2.1, startWorkers_registryUp answers hservices
      hstarts.2.1⟩
  · obtain ⟨error, herror⟩ := startTransports_fails hservices hstarts
    exact Or.inl (by rw [herror])

theorem Consistent.startTransports {services : DaemonServices}
    (hservices : services.Consistent) (answers : StartAnswers) :
    (services.startTransports answers).1.Consistent := by
  obtain hsame | ⟨hrunning, count, hcount, accepting, running, hshape⟩ :=
    startTransports_cases hservices answers
  · rw [hsame]
    exact hservices
  · rw [hshape]
    exact (registryUp_consistent hservices hrunning hcount).setFlags running
      accepting _ _

theorem Consistent.start {services : DaemonServices}
    (hservices : services.Consistent) (answers : StartAnswers) :
    (services.start answers).1.Consistent := by
  unfold DaemonServices.start
  cases services.startCheck with
  | error error => exact hservices
  | ok value =>
      dsimp only
      cases hdds : services.startDds with
      | error error => exact hservices
      | ok listening =>
          have hlistening : listening.Consistent := by
            unfold startDds at hdds
            cases hattached : services.dds with
            | none =>
                rw [hattached] at hdds
                cases hdds
                exact hservices
            | some running =>
                rw [hattached] at hdds
                cases running with
                | true => cases hdds
                | false =>
                    cases hdds
                    exact hservices.setFlags _ _ _ _
          dsimp only
          unfold startBehindDds
          cases hprepared : listening.prepareMaster answers with
          | error error => exact hlistening
          | ok prepared =>
              have hready : prepared.Consistent := by
                obtain ⟨rfl, -⟩ | ⟨-, -, -, rfl⟩ :=
                  prepareMaster_cases hprepared
                · exact hlistening
                · exact hlistening.setMaster _
              exact hready.startTransports answers

theorem start_of_check {services : DaemonServices} {error : Error}
    (hcheck : services.startCheck = .error error) (answers : StartAnswers) :
    services.start answers = (services, .error error) := by
  unfold DaemonServices.start
  rw [hcheck]

/-- A daemon which has shut down does not start again. -/
def Settled (services : DaemonServices) : Prop :=
  services.shutdownComplete = true ∨ services.Consistent

theorem startCheck_shutdown {services : DaemonServices}
    (hshutdown : services.shutdownComplete = true) :
    services.startCheck = .error
      ⟨.invalidArgument, "robot I/O daemon is not startable"⟩ := by
  unfold startCheck
  rw [hshutdown, Bool.or_true, if_pos rfl]

theorem Settled.step {services : DaemonServices}
    (hservices : services.Settled) (call : ServiceCall) :
    (serviceMachine.step services call).1.Settled := by
  cases call with
  | start answers =>
      obtain hshutdown | hconsistent := hservices
      · left
        change (services.start answers).1.shutdownComplete = true
        rw [start_of_check (startCheck_shutdown hshutdown)]
        exact hshutdown
      · exact Or.inr (hconsistent.start answers)
  | finishRun =>
      change services.finishRun.Settled
      unfold finishRun
      by_cases hrunning : services.running = true
      · rw [if_pos hrunning]
        exact Or.inl rfl
      · rw [if_neg hrunning]
        exact hservices
  | requestStop =>
      obtain hshutdown | hconsistent := hservices
      · exact Or.inl hshutdown
      · exact Or.inr (hconsistent.setFlags _ _ _ _)
  | attachDds =>
      change services.attachDds.Settled
      unfold attachDds
      split
      · exact hservices
      · obtain hshutdown | hconsistent := hservices
        · exact Or.inl hshutdown
        · exact Or.inr (hconsistent.setFlags _ _ _ _)
  | attachEthercat link =>
      change (services.attachEthercat link).Settled
      unfold attachEthercat
      split
      · exact hservices
      · obtain hshutdown | hconsistent := hservices
        · exact Or.inl hshutdown
        · exact Or.inr (hconsistent.setMaster link)
  | useMaster link =>
      change (services.useMaster link).Settled
      unfold useMaster
      split
      · obtain hshutdown | hconsistent := hservices
        · exact Or.inl hshutdown
        · exact Or.inr (hconsistent.setMaster link)
      · exact hservices

end DaemonServices

open DaemonServices

theorem ServiceSetup.configured_consistent (setup : ServiceSetup) :
    setup.configured.Consistent := by
  constructor <;> intros <;> first | rfl | exact ⟨rfl, rfl, rfl⟩

theorem settled_final (setup : ServiceSetup) (calls : List ServiceCall) :
    (serviceMachine.final setup.configured calls).Settled :=
  Machine.invariant_final Settled
    (fun _ call hservices => hservices.step call)
    (Or.inr setup.configured_consistent) calls

namespace DaemonServices

/-! ## When a failing start is rolled back -/

/-- The checks fail, the endpoint runs already, or there is none and the
failure comes before the transport runtimes. -/
def FailsEarly (services : DaemonServices) (answers : StartAnswers) : Prop :=
  services.startCheck ≠ .ok () ∨ services.dds = some true ∨
    services.dds = none ∧
      ¬ (services.MasterStarts answers ∧ services.SerialStarts answers)

theorem RolledBack.refl (services : DaemonServices) :
    services.RolledBack services :=
  ⟨fun _ hactive => hactive, fun _ _ => rfl⟩

section Rollback

variable {services : DaemonServices} {answers : StartAnswers}

theorem start_without_dds (hcheck : services.startCheck = .ok ())
    (hdds : services.dds = none) :
    services.start answers = services.startBehindDds answers := by
  have hlisten : services.startDds = .ok services := by
    unfold startDds
    rw [hdds]
  unfold DaemonServices.start
  rw [hcheck]
  dsimp only
  rw [hlisten]

/-- A master made in vain is as good as none. -/
theorem rolledBack_setMaster (hdds : services.dds = none)
    (hlink : services.ethercatMaster = none)
    (haxes : 0 < services.axisCount) :
    services.RolledBack (services.setMaster ⟨false, none⟩) where
  active := by
    intro resource hactive
    cases resource with
    | boundHandler =>
        obtain ⟨link, hmem, hhandler⟩ := hactive
        cases hmem
        cases hhandler
    | openMaster =>
        obtain ⟨link, hmem, hopened⟩ := hactive
        cases hmem
        cases hopened
    | _ => exact hactive
  later := by
    intro later hsucceed
    cases hcheck : services.startCheck with
    | error error =>
        have hagain : (services.setMaster ⟨false, none⟩).startCheck =
            .error error := hcheck
        rw [start_of_check hcheck, start_of_check hagain]
    | ok value =>
        have hagain : (services.setMaster ⟨false, none⟩).startCheck =
            .ok () := hcheck
        have hnone : (services.setMaster ⟨false, none⟩).dds = none := hdds
        rw [start_without_dds hcheck hdds, start_without_dds hagain hnone]
        unfold startBehindDds prepareMaster
        rw [hlink]
        dsimp only
        rw [if_pos haxes, hsucceed.createMaster]
        rfl

theorem linkStarts_prepared {prepared : DaemonServices}
    (hservices : services.Consistent)
    (hprepared : services.prepareMaster answers = .ok prepared) :
    prepared.LinkStarts answers ↔ services.MasterStarts answers := by
  obtain ⟨rfl, hnone⟩ | ⟨hlink, haxes, hcreate, rfl⟩ :=
    prepareMaster_cases hprepared
  · unfold LinkStarts MasterStarts
    cases hlink : prepared.ethercatMaster with
    | none => simp [hnone hlink]
    | some link => simp
  · have hfree := hservices.noMaster hlink
    unfold LinkStarts MasterStarts
    rw [hlink]
    simp [DaemonServices.setMaster, hfree, haxes, hcreate]

theorem serialStarts_prepared {prepared : DaemonServices}
    (hprepared : services.prepareMaster answers = .ok prepared) :
    prepared.SerialStarts answers ↔ services.SerialStarts answers := by
  obtain ⟨rfl, -⟩ | ⟨-, -, -, rfl⟩ := prepareMaster_cases hprepared
  · rfl
  · rfl

theorem rolledBack_of_failsEarly (hservices : services.Settled)
    (hearly : services.FailsEarly answers) :
    services.RolledBack (services.start answers).1 := by
  cases hcheck : services.startCheck with
  | error error =>
      rw [start_of_check hcheck]
      exact RolledBack.refl services
  | ok value =>
      have hconsistent : services.Consistent := by
        obtain hshutdown | hconsistent := hservices
        · rw [startCheck_shutdown hshutdown] at hcheck
          cases hcheck
        · exact hconsistent
      obtain hfails | hdds | ⟨hdds, hstarts⟩ := hearly
      · exact absurd hcheck hfails
      · have hrefused : services.startDds = .error
            ⟨.invalidArgument, "DDS daemon endpoint is not startable"⟩ := by
          unfold startDds
          rw [hdds]
        unfold DaemonServices.start
        rw [hcheck]
        dsimp only
        rw [hrefused]
        exact RolledBack.refl services
      · rw [start_without_dds hcheck hdds]
        unfold startBehindDds
        cases hprepared : services.prepareMaster answers with
        | error error => exact RolledBack.refl services
        | ok prepared =>
            rw [← linkStarts_prepared hconsistent hprepared,
              ← serialStarts_prepared hprepared] at hstarts
            dsimp only
            obtain ⟨rfl, -⟩ | ⟨hlink, haxes, -, rfl⟩ :=
              prepareMaster_cases hprepared
            · obtain ⟨error, herror⟩ :=
                startTransports_fails hconsistent hstarts
              rw [herror]
              exact RolledBack.refl prepared
            · obtain ⟨error, herror⟩ := startTransports_fails
                (hconsistent.setMaster ⟨false, none⟩) hstarts
              rw [herror]
              exact rolledBack_setMaster hdds hlink haxes

/-! ## What is not rolled back -/

theorem registryUp_dds (services : DaemonServices) :
    services.registryUp.dds = services.dds :=
  masterUp_dds services

theorem startBehindDds_dds (hservices : services.Consistent) :
    (services.startBehindDds answers).1.dds = services.dds := by
  unfold startBehindDds
  cases hprepared : services.prepareMaster answers with
  | error error => rfl
  | ok prepared =>
      have hready : prepared.Consistent ∧ prepared.dds = services.dds := by
        obtain ⟨rfl, -⟩ | ⟨-, -, -, rfl⟩ := prepareMaster_cases hprepared
        · exact ⟨hservices, rfl⟩
        · exact ⟨hservices.setMaster _, rfl⟩
      rw [← hready.2]
      dsimp only
      obtain hsame | ⟨-, count, -, accepting, running, hshape⟩ :=
        startTransports_cases hready.1 answers
      · rw [hsame]
      · rw [hshape]
        exact registryUp_dds prepared

variable (answers) in
/-- A running registry keeps every start from succeeding. -/
theorem start_fails_of_registryRunning (hservices : services.Consistent)
    (hrunning : services.registryRunning = true)
    (hdds : services.dds = none) :
    ∃ error, (services.start answers).2 = .error error := by
  cases hcheck : services.startCheck with
  | error error => exact ⟨error, by rw [start_of_check hcheck]⟩
  | ok value =>
      rw [start_without_dds hcheck hdds]
      unfold startBehindDds
      cases hprepared : services.prepareMaster answers with
      | error error => exact ⟨error, rfl⟩
      | ok prepared =>
          have hready : prepared.Consistent ∧
              prepared.registryRunning = true := by
            obtain ⟨rfl, -⟩ | ⟨-, -, -, rfl⟩ := prepareMaster_cases hprepared
            · exact ⟨hservices, hrunning⟩
            · exact ⟨hservices.setMaster _, hrunning⟩
          have hserial : ¬ (prepared.LinkStarts answers ∧
              prepared.SerialStarts answers) := by
            simp [SerialStarts, hready.2]
          obtain ⟨error, herror⟩ := startTransports_fails hready.1 hserial
          dsimp only
          exact ⟨error, by rw [herror]⟩

theorem prepareMaster_succeeds (hmaster : services.MasterStarts answers) :
    ∃ prepared, services.prepareMaster answers = .ok prepared := by
  unfold MasterStarts at hmaster
  unfold prepareMaster
  cases hlink : services.ethercatMaster with
  | some link => exact ⟨services, rfl⟩
  | none =>
      rw [hlink] at hmaster
      dsimp only at hmaster ⊢
      by_cases haxes : 0 < services.axisCount
      · rw [if_pos haxes, (hmaster haxes).1]
        exact ⟨_, rfl⟩
      · rw [if_neg haxes]
        exact ⟨_, rfl⟩

/-- A start which comes as far as the workers. -/
theorem start_reaches_workers (hservices : services.Consistent)
    (hcheck : services.startCheck = .ok ()) (hdds : services.dds = none)
    (hmaster : services.MasterStarts answers)
    (hserial : services.SerialStarts answers) :
    ∃ prepared : DaemonServices, prepared.Consistent ∧
      prepared.registryRunning = false ∧
      services.start answers = prepared.registryUp.startWorkers answers := by
  obtain ⟨prepared, hprepared⟩ := prepareMaster_succeeds hmaster
  have hready : prepared.Consistent := by
    obtain ⟨rfl, -⟩ | ⟨-, -, -, rfl⟩ := prepareMaster_cases hprepared
    · exact hservices
    · exact hservices.setMaster _
  rw [← linkStarts_prepared hservices hprepared] at hmaster
  rw [← serialStarts_prepared hprepared] at hserial
  refine ⟨prepared, hready, hserial.1, ?_⟩
  rw [start_without_dds hcheck hdds]
  unfold startBehindDds
  rw [hprepared]
  exact startTransports_eq hready hmaster hserial

theorem succeed_starts {later : StartAnswers} (hlater : later.Succeed)
    (hmaster : services.MasterStarts answers)
    (hserial : services.SerialStarts answers) :
    services.MasterStarts later ∧ services.SerialStarts later := by
  refine ⟨?_, hserial.1, fun index hindex =>
    ⟨(hserial.2 index hindex).1, hlater.openPort index⟩⟩
  unfold MasterStarts at hmaster ⊢
  cases hlink : services.ethercatMaster with
  | none => exact fun _ => ⟨hlater.createMaster, hlater.openMaster⟩
  | some link =>
      rw [hlink] at hmaster
      exact ⟨hmaster.1, hmaster.2.1, hlater.openMaster⟩

/-- Behind the serial registry nothing is undone. -/
theorem registry_left_running (hservices : services.Consistent)
    (hcheck : services.startCheck = .ok ()) (hdds : services.dds = none)
    (hmaster : services.MasterStarts answers)
    (hserial : services.SerialStarts answers) :
    (services.start answers).1.registryRunning = true ∧
      (services.start answers).1.dds = none := by
  constructor
  · obtain ⟨prepared, hready, hrunning, hstart⟩ :=
      start_reaches_workers hservices hcheck hdds hmaster hserial
    obtain ⟨count, -, accepting, running, hshape⟩ :=
      startWorkers_registryUp answers hready hrunning
    rw [hstart, hshape]
    rfl
  · rw [start_without_dds hcheck hdds, startBehindDds_dds hservices, hdds]

theorem not_rolledBack_of_workers (hservices : services.Consistent)
    (hcheck : services.startCheck = .ok ()) (hdds : services.dds = none)
    (hmaster : services.MasterStarts answers)
    (hserial : services.SerialStarts answers) :
    ¬ services.RolledBack (services.start answers).1 := by
  intro hback
  obtain ⟨later, hlater⟩ : ∃ later : StartAnswers, later.Succeed :=
    ⟨⟨.ok (), .ok (), fun _ => .ok (), fun _ => true⟩,
      ⟨rfl, rfl, fun _ => rfl, fun _ => rfl⟩⟩
  have hsame := hback.later later hlater
  obtain ⟨hleft, hnone⟩ :=
    registry_left_running hservices hcheck hdds hmaster hserial
  obtain ⟨error, herror⟩ := start_fails_of_registryRunning later
    (hservices.start answers) hleft hnone
  obtain ⟨hmaster', hserial'⟩ := succeed_starts hlater hmaster hserial
  obtain ⟨prepared, hready, hrunning, hstart⟩ :=
    start_reaches_workers hservices hcheck hdds hmaster' hserial'
  rw [herror, hstart, startWorkers_ok hready hlater hrunning] at hsame
  cases hsame

theorem not_rolledBack_of_dds (hservices : services.Consistent)
    (hcheck : services.startCheck = .ok ()) (hdds : services.dds = some false) :
    ¬ services.RolledBack (services.start answers).1 := by
  intro hback
  have hlisten : services.startDds =
      .ok { services with dds := some true } := by
    unfold startDds
    rw [hdds]
  have hafter : (services.start answers).1.dds = some true := by
    unfold DaemonServices.start
    rw [hcheck]
    dsimp only
    rw [hlisten]
    exact startBehindDds_dds (hservices.setFlags _ _ _ _)
  have hbefore := hback.active .ddsWorker hafter
  unfold Active at hbefore
  rw [hdds] at hbefore
  cases hbefore

end Rollback

end DaemonServices

/-- In every state a configured daemon gets to, a failing start is rolled back
if and only if it fails early.  A start which succeeds does neither. -/
theorem failed_start_rolledBack_iff (setup : ServiceSetup)
    (calls : List ServiceCall) (answers : StartAnswers) :
    (serviceMachine.final setup.configured calls).RolledBack
        ((serviceMachine.final setup.configured calls).start answers).1 ↔
      (serviceMachine.final setup.configured calls).FailsEarly answers := by
  have hsettled := settled_final setup calls
  generalize serviceMachine.final setup.configured calls = services at *
  constructor
  · intro hback
    by_contra hlate
    unfold FailsEarly at hlate
    push Not at hlate
    obtain ⟨hcheck, hdds, hstarts⟩ := hlate
    have hconsistent : services.Consistent := by
      obtain hshutdown | hconsistent := hsettled
      · rw [startCheck_shutdown hshutdown] at hcheck
        cases hcheck
      · exact hconsistent
    cases hendpoint : services.dds with
    | none =>
        obtain ⟨hmaster, hserial⟩ := hstarts hendpoint
        exact not_rolledBack_of_workers hconsistent hcheck hendpoint hmaster
          hserial hback
    | some running =>
        cases running with
        | true => exact hdds hendpoint
        | false =>
            exact not_rolledBack_of_dds hconsistent hcheck hendpoint hback
  · exact rolledBack_of_failsEarly hsettled

/-- One bus whose port cannot be opened, below an attached endpoint. -/
theorem failed_port_leaves_ddsWorker :
    let setup : ServiceSetup := ⟨true, .ok (), 0, 1, fun _ => true, 0⟩
    let answers : StartAnswers := ⟨.ok (), .ok (),
      fun _ => .error ⟨.io, "failed to open serial device"⟩, fun _ => true⟩
    let services := serviceMachine.final setup.configured [.attachDds]
    (services.start answers).2 =
        .error ⟨.io, "failed to open serial device"⟩ ∧
      ¬ services.RolledBack (services.start answers).1 := by
  intro setup answers services
  refine ⟨rfl, fun hback => ?_⟩
  have hbefore : services.dds = some true := hback.active .ddsWorker rfl
  cases hbefore

end PolicyRuntime
