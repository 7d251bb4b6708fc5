import PolicyRuntime.Machine
import PolicyRuntime.Ownership
import PolicyRuntime.SerialTransport

/-!
# Opening and closing serial ports

The transports of a process record the ports they have open in one registry.
`open` and `close` are cut at their system calls, so the calls of any number of
transports interleave in any order.  What the operating system answers is an
input.
-/

namespace PolicyRuntime

/-- `st_dev`, `st_ino` and `st_rdev` of a file. -/
structure PortIdentity where
  device : ℕ
  inode : ℕ
  rdev : ℕ
  deriving DecidableEq

/-! ## Terminal settings -/

def IGNBRK : BitVec 32 := 0x0001
def BRKINT : BitVec 32 := 0x0002
def PARMRK : BitVec 32 := 0x0008
def ISTRIP : BitVec 32 := 0x0020
def INLCR : BitVec 32 := 0x0040
def IGNCR : BitVec 32 := 0x0080
def ICRNL : BitVec 32 := 0x0100
def IXON : BitVec 32 := 0x0400
def OPOST : BitVec 32 := 0x0001
def ISIG : BitVec 32 := 0x0001
def ICANON : BitVec 32 := 0x0002
def ECHO : BitVec 32 := 0x0008
def ECHONL : BitVec 32 := 0x0040
def IEXTEN : BitVec 32 := 0x8000
def CSIZE : BitVec 32 := 0x0030
def CS8 : BitVec 32 := 0x0030
def CSTOPB : BitVec 32 := 0x0040
def CREAD : BitVec 32 := 0x0080
def PARENB : BitVec 32 := 0x0100
def CLOCAL : BitVec 32 := 0x0800
def CRTSCTS : BitVec 32 := 0x80000000

structure Termios where
  iflag : BitVec 32
  oflag : BitVec 32
  cflag : BitVec 32
  lflag : BitVec 32
  vmin : ℕ
  vtime : ℕ
  ispeed : ℕ
  ospeed : ℕ
  deriving DecidableEq

namespace Termios

def cfmakeraw (settings : Termios) : Termios :=
  { settings with
    iflag := settings.iflag &&&
      ~~~(IGNBRK ||| BRKINT ||| PARMRK ||| ISTRIP ||| INLCR ||| IGNCR |||
        ICRNL ||| IXON)
    oflag := settings.oflag &&& ~~~OPOST
    lflag := settings.lflag &&&
      ~~~(ECHO ||| ECHONL ||| ICANON ||| ISIG ||| IEXTEN)
    cflag := settings.cflag &&& ~~~(CSIZE ||| PARENB) ||| CS8
    vmin := 1
    vtime := 0 }

/-- What `open` asks for, from the settings it has found. -/
def configured (original : Termios) (baudRate : ℕ) : Termios :=
  let raw := original.cfmakeraw
  { raw with
    cflag :=
      ((raw.cflag ||| (CLOCAL ||| CREAD)) &&& ~~~CSTOPB &&& ~~~CRTSCTS &&&
        ~~~CSIZE) ||| CS8
    vmin := 0
    vtime := 0
    ispeed := baudRate
    ospeed := baudRate }

/-- Eight data bits, no parity, one stop bit and no flow control. -/
theorem cflag_configured (original : Termios) (baudRate : ℕ) :
    (original.configured baudRate).cflag &&&
        (CSIZE ||| PARENB ||| CSTOPB ||| CRTSCTS ||| CLOCAL ||| CREAD) =
      CS8 ||| CLOCAL ||| CREAD := by
  have hbits : ∀ (position : Fin 32) (bit : Bool),
      ((((bit && !(CSIZE ||| PARENB).getLsbD position || CS8.getLsbD position)
        || (CLOCAL ||| CREAD).getLsbD position) && !CSTOPB.getLsbD position &&
        !CRTSCTS.getLsbD position && !CSIZE.getLsbD position ||
        CS8.getLsbD position) &&
        (CSIZE ||| PARENB ||| CSTOPB ||| CRTSCTS ||| CLOCAL |||
          CREAD).getLsbD position) =
      (CS8 ||| CLOCAL ||| CREAD).getLsbD position := by
    decide
  refine BitVec.eq_of_getLsbD_eq fun position hposition => ?_
  rw [← hbits ⟨position, hposition⟩ (original.cflag.getLsbD position)]
  simp [configured, cfmakeraw, hposition]

end Termios

/-! ## The calls -/

inductive OpenFile
  | port (identity : PortIdentity)
  | wake
  deriving DecidableEq

/-- The next system call of a transport, with the local variables of `open`. -/
inductive PortCall
  | idle
  | opening
  | claiming (descriptor : ℕ)
  | identifying (descriptor : ℕ)
  | registering (descriptor : ℕ) (identity : PortIdentity)
  | inspecting (descriptor : ℕ) (identity : PortIdentity)
  | configuring (descriptor : ℕ) (identity : PortIdentity)
      (original : Termios)
  | waking (descriptor : ℕ) (identity : PortIdentity) (original : Termios)
  | restoring (descriptor : ℕ) (identity : PortIdentity) (original : Termios)
      (error : Error)
  | erasing (descriptor : ℕ) (identity : PortIdentity) (error : Error)
  | discarding (descriptor : ℕ) (error : Error)
  | stopping
  | releasing
  | forgetting
  | silencing
  deriving DecidableEq

/-- What the operating system answers to the next call.  The identity is that of
the file which a path names. -/
structure PortAnswer where
  granted : Bool
  descriptor : ℕ
  identity : PortIdentity
  busy : Bool
  message : String
  speedSet : Bool
  flushed : Bool
  restored : Bool

/-- A transport with the members which `open` and `close` use. -/
structure PortHolder where
  transport : SerialTransport
  fd : Option ℕ := none
  wakeFd : Option ℕ := none
  originalTermios : Option Termios := none
  portIdentity : Option PortIdentity := none
  call : PortCall := .idle
  returned : Option (CallResult Unit) := none

def systemError (operation : String) (answer : PortAnswer) : Error :=
  ⟨.io, operation ++ ": " ++ answer.message⟩

structure PortTable (ρ : Type*) where
  ports : ρ → PortHolder
  openPorts : Finset PortIdentity
  files : ℕ → Option OpenFile
  termios : PortIdentity → Termios

inductive PortInput (ρ : Type*)
  | openPort (who : ρ)
  | closePort (who : ρ)
  | advance (who : ρ) (answer : PortAnswer)
  | cycle (who : ρ) (io : SerialIo)

namespace PortHolder

/-- `open` up to its first system call. -/
def beginOpen (port : PortHolder) : PortHolder :=
  if port.transport.opened then
    { port with returned := some (.value ()) }
  else if SerialTransport.validConfig port.transport.config then
    { port with call := .opening }
  else
    { port with
      returned := some
        (.failure ⟨.invalidArgument, "invalid serial configuration"⟩) }

/-- `close` up to the stop request. -/
def beginClose (port : PortHolder) : PortHolder :=
  if !port.transport.opened && port.fd.isNone then
    port
  else
    { port with
      transport := { port.transport with opened := false }
      call := .stopping }

/-- `close` has the lock which a transport cycle needs. -/
def holdsIo (port : PortHolder) : Bool :=
  match port.call with
  | .releasing | .forgetting | .silencing => true
  | _ => false

def goto (port : PortHolder) (call : PortCall) : PortHolder :=
  { port with call := call }

def fail (port : PortHolder) (error : Error) : PortHolder :=
  { port with call := .idle, returned := some (.failure error) }

/-- The end of `open`. -/
def store (port : PortHolder) (descriptor wakeDescriptor : ℕ)
    (identity : PortIdentity) (original : Termios) : PortHolder where
  transport := { port.transport with
    txQueue := []
    rxQueue := []
    stream := []
    opened := true
    health := .healthy
    lastError := .none }
  fd := some descriptor
  wakeFd := some wakeDescriptor
  originalTermios := some original
  portIdentity := some identity
  call := .idle
  returned := some (.value ())

/-- The end of `close`. -/
def finishClose (port : PortHolder) : PortHolder :=
  { port with
    transport := { port.transport with
      lastError := .closed
      health := .failed }
    wakeFd := none
    originalTermios := none
    call := .idle }

end PortHolder

namespace PortTable

variable {ρ : Type*} [DecidableEq ρ]

def setPort (table : PortTable ρ) (who : ρ) (port : PortHolder) :
    PortTable ρ :=
  { table with ports := Function.update table.ports who port }

def openFile (table : PortTable ρ) (descriptor : ℕ) (file : OpenFile) :
    PortTable ρ :=
  { table with files := Function.update table.files descriptor (some file) }

def closeFile (table : PortTable ρ) (descriptor : ℕ) : PortTable ρ :=
  { table with files := Function.update table.files descriptor none }

def fstat (table : PortTable ρ) (descriptor : ℕ) : Option PortIdentity :=
  match table.files descriptor with
  | some (.port identity) => some identity
  | _ => none

def tcgetattr (table : PortTable ρ) (descriptor : ℕ) : Option Termios :=
  (table.fstat descriptor).map table.termios

def tcsetattr (table : PortTable ρ) (descriptor : ℕ) (settings : Termios) :
    PortTable ρ :=
  match table.fstat descriptor with
  | some identity =>
      { table with
        termios := Function.update table.termios identity settings }
  | none => table

/-- The next system call of `open`. -/
def advanceOpen (table : PortTable ρ) (who : ρ) (answer : PortAnswer) :
    PortTable ρ :=
  let port := table.ports who
  match port.call with
  | .opening =>
      if answer.granted && (table.files answer.descriptor).isNone then
        (table.openFile answer.descriptor (.port answer.identity)).setPort who
          (port.goto (.claiming answer.descriptor))
      else if answer.busy then
        table.setPort who (port.fail
          ⟨.unavailable, "serial port is already open exclusively"⟩)
      else
        table.setPort who (port.fail (systemError "open serial port" answer))
  | .claiming descriptor =>
      if answer.granted then
        table.setPort who (port.goto (.identifying descriptor))
      else
        table.setPort who (port.goto (.discarding descriptor
          ⟨.unavailable,
            "claim serial port exclusively: " ++ answer.message⟩))
  | .identifying descriptor =>
      match table.fstat descriptor, answer.granted with
      | some identity, true =>
          table.setPort who (port.goto (.registering descriptor identity))
      | _, _ =>
          table.setPort who (port.goto (.discarding descriptor
            (systemError "fstat serial port" answer)))
  | .registering descriptor identity =>
      if identity ∈ table.openPorts then
        table.setPort who (port.goto (.discarding descriptor
          ⟨.unavailable, "serial port is already open in this process"⟩))
      else
        { table with openPorts := insert identity table.openPorts }.setPort who
          (port.goto (.inspecting descriptor identity))
  | .inspecting descriptor identity =>
      match table.tcgetattr descriptor, answer.granted with
      | some original, true =>
          table.setPort who
            (port.goto (.configuring descriptor identity original))
      | _, _ =>
          table.setPort who (port.goto (.erasing descriptor identity
            (systemError "tcgetattr serial port" answer)))
  | .configuring descriptor identity original =>
      let configured :=
        original.configured port.transport.config.baudRate
      let written :=
        if answer.speedSet && answer.granted then
          table.tcsetattr descriptor configured
        else
          table
      if answer.speedSet && answer.granted && answer.flushed then
        written.setPort who (port.goto (.waking descriptor identity original))
      else
        written.setPort who (port.goto (.restoring descriptor identity original
          (systemError "configure serial port" answer)))
  | .waking descriptor identity original =>
      if answer.granted && (table.files answer.descriptor).isNone then
        (table.openFile answer.descriptor .wake).setPort who
          (port.store descriptor answer.descriptor identity original)
      else
        table.setPort who (port.goto (.restoring descriptor identity original
          (systemError "create serial stop wakeup" answer)))
  | .restoring descriptor identity original error =>
      let restored :=
        if answer.restored then table.tcsetattr descriptor original else table
      restored.setPort who (port.goto (.erasing descriptor identity error))
  | .erasing descriptor identity error =>
      { table with openPorts := table.openPorts.erase identity }.setPort who
        (port.goto (.discarding descriptor error))
  | .discarding descriptor error =>
      (table.closeFile descriptor).setPort who (port.fail error)
  | _ => table

/-- The next system call of `close`. -/
def advanceClose (table : PortTable ρ) (who : ρ) (answer : PortAnswer) :
    PortTable ρ :=
  let port := table.ports who
  match port.call with
  | .stopping =>
      let restored :=
        match port.fd, port.originalTermios, answer.restored with
        | some descriptor, some original, true =>
            table.tcsetattr descriptor original
        | _, _, _ => table
      restored.setPort who (port.goto .releasing)
  | .releasing =>
      let closed :=
        match port.fd with
        | some descriptor => table.closeFile descriptor
        | none => table
      closed.setPort who { port with fd := none, call := .forgetting }
  | .forgetting =>
      let erased :=
        match port.portIdentity with
        | some identity =>
            { table with openPorts := table.openPorts.erase identity }
        | none => table
      erased.setPort who { port with portIdentity := none, call := .silencing }
  | .silencing =>
      let closed :=
        match port.wakeFd with
        | some descriptor => table.closeFile descriptor
        | none => table
      closed.setPort who port.finishClose
  | _ => table

def step (table : PortTable ρ) : PortInput ρ → PortTable ρ
  | .openPort who =>
      if (table.ports who).call = .idle then
        table.setPort who (table.ports who).beginOpen
      else
        table
  | .closePort who =>
      if (table.ports who).call = .idle then
        table.setPort who (table.ports who).beginClose
      else
        table
  | .advance who answer =>
      match (table.ports who).call with
      | .stopping | .releasing | .forgetting | .silencing =>
          table.advanceClose who answer
      | _ => table.advanceOpen who answer
  | .cycle who io =>
      let port := table.ports who
      if port.holdsIo then
        table
      else
        table.setPort who
          { port with transport := (port.transport.cycle io).1 }

def machine : Machine (PortTable ρ) (PortInput ρ) Unit where
  step := fun table input => (table.step input, ())

omit [DecidableEq ρ] in
/-- No transport has a port yet. -/
def start (configs : ρ → SerialConfig) (termios : PortIdentity → Termios) :
    PortTable ρ where
  ports := fun who => { transport := .create (configs who) }
  openPorts := ∅
  files := fun _ => none
  termios := termios

end PortTable

/-! ## A cycle of the transport -/

/-- The members which only `open` and `close` change. -/
structure SerialTransport.SamePort (before after : SerialTransport) :
    Prop where
  opened : after.opened = before.opened
  config : after.config = before.config

namespace SerialTransport

theorem SamePort.refl (transport : SerialTransport) :
    transport.SamePort transport :=
  ⟨rfl, rfl⟩

theorem SamePort.trans {first second third : SerialTransport}
    (hfirst : first.SamePort second) (hsecond : second.SamePort third) :
    first.SamePort third :=
  ⟨hsecond.opened.trans hfirst.opened, hsecond.config.trans hfirst.config⟩

theorem SamePort.of_stream {before after : SerialTransport} {stream : Bytes}
    (hsame : SamePort { before with stream := stream } after) :
    before.SamePort after :=
  ⟨hsame.opened, hsame.config⟩

theorem samePort_publishError (transport : SerialTransport)
    (error : SerialError) :
    transport.SamePort (transport.publishError error) := by
  cases error <;> exact ⟨rfl, rfl⟩

theorem samePort_pushReceived (transport : SerialTransport)
    (frame stream : Bytes) :
    transport.SamePort (transport.pushReceived frame stream).1 := by
  unfold pushReceived
  split_ifs <;> exact ⟨rfl, rfl⟩

theorem samePort_receiveLoop (nonblocking : Bool) (events : List ReceiveEvent)
    (transport : SerialTransport) (saw : Bool) :
    transport.SamePort (receiveLoop nonblocking events transport saw).1 := by
  induction events generalizing transport saw with
  | nil => exact SamePort.refl transport
  | cons event rest ih =>
      cases event with
      | idle => exact SamePort.refl transport
      | failed => exact SamePort.refl transport
      | stopped => exact SamePort.refl transport
      | spurious =>
          rw [receiveLoop]
          split_ifs
          · exact SamePort.refl transport
          · exact ih transport saw
      | received bytes =>
          rw [receiveLoop]
          dsimp only
          split
          · exact transport.samePort_pushReceived _ _
          · split_ifs
            · exact ⟨rfl, rfl⟩
            · exact SamePort.of_stream (ih _ _)

theorem samePort_receiveOne (transport : SerialTransport) (timeout : ℤ)
    (events : List ReceiveEvent) :
    transport.SamePort (transport.receiveOne timeout events).1 := by
  unfold receiveOne
  split
  · exact transport.samePort_pushReceived _ _
  · exact SamePort.of_stream (samePort_receiveLoop _ _ _ _)

theorem samePort_resynchronize (transport : SerialTransport)
    (events : List ReceiveEvent) :
    transport.SamePort (transport.resynchronizeAfterTimeout events) := by
  have hreceived :=
    transport.samePort_receiveOne transport.config.readTimeout events
  exact ⟨hreceived.opened, hreceived.config⟩

theorem samePort_cycle (transport : SerialTransport) (io : SerialIo) :
    transport.SamePort (transport.cycle io).1 := by
  unfold cycle
  dsimp only
  split
  · exact transport.samePort_publishError .closed
  · generalize hready : (if (decide (0 < transport.config.readTimeout) &&
        decide (transport.lastError = .timeout)) = true then _ else _) = ready
    have hsame : transport.SamePort ready := by
      rw [← hready]
      split
      · exact (transport.samePort_resynchronize io.quarantine).trans
          ⟨rfl, rfl⟩
      · exact SamePort.refl transport
    refine hsame.trans ?_
    split
    · have hreceived := ready.samePort_receiveOne 0 io.receives
      split_ifs
      · exact hreceived
      · exact hreceived.trans (samePort_publishError ..)
    · next outgoing rest _ =>
        have hpopped : ready.SamePort { ready with txQueue := rest } :=
          ⟨rfl, rfl⟩
        split_ifs
        · exact hpopped.trans (samePort_publishError ..)
        · exact (hpopped.trans (samePort_receiveOne ..)).trans
            (samePort_publishError ..)

end SerialTransport

/-! ## What a transport holds -/

inductive DescriptorSlot
  | port
  | wake
  deriving DecidableEq

/-- The descriptor which `open` has not stored yet. -/
def PortCall.descriptor : PortCall → Option ℕ
  | .claiming descriptor | .identifying descriptor
  | .registering descriptor _ | .inspecting descriptor _
  | .configuring descriptor _ _ | .waking descriptor _ _
  | .restoring descriptor _ _ _ | .erasing descriptor _ _
  | .discarding descriptor _ => some descriptor
  | _ => none

/-- The port which `open` has recorded, and has not stored yet. -/
def PortCall.recorded : PortCall → Option PortIdentity
  | .inspecting _ identity | .configuring _ identity _ | .waking _ identity _
  | .restoring _ identity _ _ | .erasing _ identity _ => some identity
  | _ => none

namespace PortHolder

def recorded (port : PortHolder) : Option PortIdentity :=
  port.call.recorded.or port.portIdentity

def descriptor (port : PortHolder) : DescriptorSlot → Option ℕ
  | .port => port.call.descriptor.or port.fd
  | .wake => port.wakeFd

/-- No call has left anything behind. -/
structure Empty (port : PortHolder) : Prop where
  opened : port.transport.opened = false
  fd : port.fd = none
  wakeFd : port.wakeFd = none
  original : port.originalTermios = none
  identity : port.portIdentity = none

/-- The members belong to one open port. -/
structure Holding (port : PortHolder) (files : ℕ → Option OpenFile)
    (fd wakeFd : ℕ) (identity : PortIdentity) (original : Termios) : Prop where
  descriptor : port.fd = some fd
  wake : port.wakeFd = some wakeFd
  stored : port.portIdentity = some identity
  settings : port.originalTermios = some original
  file : files fd = some (.port identity)

/-- What the members are while a call is under way. -/
def ConsistentAt (files : ℕ → Option OpenFile) (port : PortHolder) :
    PortCall → Prop
  | .idle => port.Empty ∨ (port.transport.opened = true ∧
      ∃ fd wakeFd identity original,
        port.Holding files fd wakeFd identity original)
  | .opening | .claiming _ | .identifying _ | .erasing _ _ _
  | .discarding _ _ =>
      port.Empty
  | .registering descriptor identity | .inspecting descriptor identity
  | .configuring descriptor identity _ | .waking descriptor identity _
  | .restoring descriptor identity _ _ =>
      port.Empty ∧ files descriptor = some (.port identity)
  | .stopping | .releasing => port.transport.opened = false ∧
      ∃ fd wakeFd identity original,
        port.Holding files fd wakeFd identity original
  | .forgetting => port.transport.opened = false ∧ port.fd = none
  | .silencing => port.transport.opened = false ∧ port.fd = none ∧
      port.portIdentity = none

def Consistent (files : ℕ → Option OpenFile) (port : PortHolder) : Prop :=
  port.ConsistentAt files port.call

/-- The settings of the port are the initial ones, or can be restored. -/
def SettledAt (initial termios : PortIdentity → Termios) (port : PortHolder) :
    PortCall → Prop
  | .idle => ∀ identity, port.portIdentity = some identity →
      port.originalTermios = some (initial identity) ∧
      termios identity =
        (initial identity).configured port.transport.config.baudRate
  | .inspecting _ identity | .erasing _ identity _ =>
      termios identity = initial identity
  | .configuring _ identity original =>
      original = initial identity ∧ termios identity = initial identity
  | .waking _ identity original =>
      original = initial identity ∧
      termios identity =
        (initial identity).configured port.transport.config.baudRate
  | .restoring _ identity original _ => original = initial identity
  | .stopping => ∀ identity, port.portIdentity = some identity →
      port.originalTermios = some (initial identity)
  | .releasing | .forgetting => ∀ identity,
      port.portIdentity = some identity → termios identity = initial identity
  | _ => True

def Settled (initial termios : PortIdentity → Termios) (port : PortHolder) :
    Prop :=
  port.SettledAt initial termios port.call

theorem Holding.frame {files later : ℕ → Option OpenFile} {port : PortHolder}
    {fd wakeFd : ℕ} {identity : PortIdentity} {original : Termios}
    (hholding : port.Holding files fd wakeFd identity original)
    (hsame : ∀ slot descriptor, port.descriptor slot = some descriptor →
      later descriptor = files descriptor)
    (hcall : port.call.descriptor = none) :
    port.Holding later fd wakeFd identity original where
  descriptor := hholding.descriptor
  wake := hholding.wake
  stored := hholding.stored
  settings := hholding.settings
  file := by
    have hdescriptor : port.descriptor .port = some fd := by
      rw [PortHolder.descriptor, hcall, hholding.descriptor]
      rfl
    rw [hsame .port fd hdescriptor, hholding.file]

/-- Only the files which the transport holds matter to it. -/
theorem Consistent.frame {files later : ℕ → Option OpenFile}
    {port : PortHolder} (hport : port.Consistent files)
    (hsame : ∀ slot descriptor, port.descriptor slot = some descriptor →
      later descriptor = files descriptor) :
    port.Consistent later := by
  have hholding : port.call.descriptor = none →
      (∃ fd wakeFd identity original,
        port.Holding files fd wakeFd identity original) →
      ∃ fd wakeFd identity original,
        port.Holding later fd wakeFd identity original := by
    rintro hcall ⟨fd, wakeFd, identity, original, hholding⟩
    exact ⟨fd, wakeFd, identity, original, hholding.frame hsame hcall⟩
  have hfile : ∀ fd identity, port.call.descriptor = some fd →
      files fd = some (.port identity) →
      later fd = some (.port identity) := by
    intro fd identity hcall hfile
    have hdescriptor : port.descriptor .port = some fd := by
      rw [descriptor, hcall]
      rfl
    rw [hsame .port fd hdescriptor, hfile]
  unfold Consistent ConsistentAt at hport ⊢
  cases hcall : port.call with
  | idle =>
      simp only [hcall] at hport ⊢
      exact hport.imp id (And.imp id (hholding (by rw [hcall]; rfl)))
  | opening | claiming | identifying | erasing | discarding | forgetting
  | silencing =>
      simp only [hcall] at hport ⊢
      exact hport
  | registering fd identity | inspecting fd identity =>
      simp only [hcall] at hport ⊢
      exact hport.imp id (hfile fd identity (by rw [hcall]; rfl))
  | configuring fd identity original | waking fd identity original =>
      simp only [hcall] at hport ⊢
      exact hport.imp id (hfile fd identity (by rw [hcall]; rfl))
  | restoring fd identity original error =>
      simp only [hcall] at hport ⊢
      exact hport.imp id (hfile fd identity (by rw [hcall]; rfl))
  | stopping | releasing =>
      simp only [hcall] at hport ⊢
      exact hport.imp id (hholding (by rw [hcall]; rfl))

/-- Only the settings of the recorded port matter to the transport. -/
theorem Settled.frame {initial termios later : PortIdentity → Termios}
    {port : PortHolder} (hport : port.Settled initial termios)
    (hsame : ∀ identity, port.recorded = some identity →
      later identity = termios identity) :
    port.Settled initial later := by
  have hcalled : ∀ identity, port.call.recorded = some identity →
      later identity = termios identity := by
    intro identity hcall
    refine hsame identity ?_
    rw [recorded, hcall]
    rfl
  have hstored : port.call.recorded = none → ∀ identity,
      port.portIdentity = some identity →
        later identity = termios identity := by
    intro hcall identity hidentity
    refine hsame identity ?_
    rw [recorded, hcall, hidentity]
    rfl
  unfold Settled SettledAt at hport ⊢
  cases hcall : port.call with
  | idle =>
      simp only [hcall] at hport ⊢
      intro identity hidentity
      rw [hstored (by rw [hcall]; rfl) identity hidentity]
      exact hport identity hidentity
  | inspecting fd identity =>
      simp only [hcall] at hport ⊢
      rw [hcalled identity (by rw [hcall]; rfl)]
      exact hport
  | erasing fd identity error =>
      simp only [hcall] at hport ⊢
      rw [hcalled identity (by rw [hcall]; rfl)]
      exact hport
  | configuring fd identity original | waking fd identity original =>
      simp only [hcall] at hport ⊢
      rw [hcalled identity (by rw [hcall]; rfl)]
      exact hport
  | releasing | forgetting =>
      simp only [hcall] at hport ⊢
      intro identity hidentity
      rw [hstored (by rw [hcall]; rfl) identity hidentity]
      exact hport identity hidentity
  | restoring | stopping =>
      simp only [hcall] at hport ⊢
      exact hport
  | opening | claiming | identifying | registering | discarding | silencing =>
      trivial

/-- The members which `open` stores and `close` takes away. -/
structure SameMembers (before after : PortHolder) : Prop where
  opened : after.transport.opened = before.transport.opened
  config : after.transport.config = before.transport.config
  fd : after.fd = before.fd
  wakeFd : after.wakeFd = before.wakeFd
  original : after.originalTermios = before.originalTermios
  identity : after.portIdentity = before.portIdentity
  call : after.call = before.call

namespace SameMembers

variable {before after : PortHolder} {files : ℕ → Option OpenFile}

theorem empty (hsame : before.SameMembers after) (hempty : before.Empty) :
    after.Empty where
  opened := hsame.opened.trans hempty.opened
  fd := hsame.fd.trans hempty.fd
  wakeFd := hsame.wakeFd.trans hempty.wakeFd
  original := hsame.original.trans hempty.original
  identity := hsame.identity.trans hempty.identity

theorem holding (hsame : before.SameMembers after) {fd wakeFd : ℕ}
    {identity : PortIdentity} {original : Termios}
    (hholding : before.Holding files fd wakeFd identity original) :
    after.Holding files fd wakeFd identity original where
  descriptor := hsame.fd.trans hholding.descriptor
  wake := hsame.wakeFd.trans hholding.wake
  stored := hsame.identity.trans hholding.stored
  settings := hsame.original.trans hholding.settings
  file := hholding.file

theorem recorded (hsame : before.SameMembers after) :
    after.recorded = before.recorded := by
  rw [PortHolder.recorded, PortHolder.recorded, hsame.call, hsame.identity]

theorem descriptor (hsame : before.SameMembers after) :
    after.descriptor = before.descriptor := by
  funext slot
  cases slot with
  | port =>
      rw [PortHolder.descriptor, PortHolder.descriptor, hsame.call, hsame.fd]
  | wake => exact hsame.wakeFd

theorem consistent (hsame : before.SameMembers after)
    (hbefore : before.Consistent files) : after.Consistent files := by
  unfold Consistent at hbefore ⊢
  rw [hsame.call]
  generalize before.call = call at hbefore ⊢
  cases call with
  | idle =>
      refine hbefore.imp hsame.empty ?_
      rintro ⟨hopened, fd, wakeFd, identity, original, hholding⟩
      exact ⟨hsame.opened.trans hopened, fd, wakeFd, identity, original,
        hsame.holding hholding⟩
  | opening | claiming | identifying | erasing | discarding =>
      exact hsame.empty hbefore
  | registering | inspecting | configuring | waking | restoring =>
      exact hbefore.imp hsame.empty id
  | stopping | releasing =>
      obtain ⟨hopened, fd, wakeFd, identity, original, hholding⟩ := hbefore
      exact ⟨hsame.opened.trans hopened, fd, wakeFd, identity, original,
        hsame.holding hholding⟩
  | forgetting =>
      exact ⟨hsame.opened.trans hbefore.1, hsame.fd.trans hbefore.2⟩
  | silencing =>
      exact ⟨hsame.opened.trans hbefore.1, hsame.fd.trans hbefore.2.1,
        hsame.identity.trans hbefore.2.2⟩

theorem settled (hsame : before.SameMembers after)
    {initial termios : PortIdentity → Termios}
    (hbefore : before.Settled initial termios) :
    after.Settled initial termios := by
  unfold Settled at hbefore ⊢
  rw [hsame.call]
  generalize before.call = call at hbefore ⊢
  cases call with
  | idle =>
      intro identity hidentity
      rw [hsame.original, hsame.config]
      exact hbefore identity (hsame.identity.symm.trans hidentity)
  | waking =>
      refine ⟨hbefore.1, ?_⟩
      rw [hsame.config]
      exact hbefore.2
  | stopping =>
      intro identity hidentity
      rw [hsame.original]
      exact hbefore identity (hsame.identity.symm.trans hidentity)
  | releasing | forgetting =>
      intro identity hidentity
      exact hbefore identity (hsame.identity.symm.trans hidentity)
  | inspecting | configuring | restoring | erasing => exact hbefore
  | opening | claiming | identifying | registering | discarding | silencing =>
      trivial

end SameMembers

theorem Empty.goto {port : PortHolder} (hempty : port.Empty)
    (call : PortCall) : (port.goto call).Empty :=
  ⟨hempty.opened, hempty.fd, hempty.wakeFd, hempty.original, hempty.identity⟩

theorem Empty.fail {port : PortHolder} (hempty : port.Empty) (error : Error) :
    (port.fail error).Empty :=
  ⟨hempty.opened, hempty.fd, hempty.wakeFd, hempty.original, hempty.identity⟩

theorem Empty.recorded {port : PortHolder} (hempty : port.Empty) :
    port.recorded = port.call.recorded := by
  rw [PortHolder.recorded, hempty.identity, Option.or_none]

theorem Empty.descriptor_port {port : PortHolder} (hempty : port.Empty) :
    port.descriptor .port = port.call.descriptor := by
  rw [PortHolder.descriptor, hempty.fd, Option.or_none]

theorem recorded_goto {port : PortHolder} {call : PortCall}
    (hcall : call.recorded = port.call.recorded) :
    (port.goto call).recorded = port.recorded :=
  congrArg (·.or port.portIdentity) hcall

theorem descriptor_goto {port : PortHolder} {call : PortCall}
    (hcall : call.descriptor = port.call.descriptor) :
    (port.goto call).descriptor = port.descriptor := by
  funext slot
  cases slot with
  | port => exact congrArg (·.or port.fd) hcall
  | wake => rfl

end PortHolder

/-! ## The table -/

namespace PortTable

open Ownership (Ledger)

variable {ρ : Type*}

def recorded (table : PortTable ρ) (who : ρ) : Option PortIdentity :=
  (table.ports who).recorded

def held (table : PortTable ρ) (key : ρ × DescriptorSlot) : Option ℕ :=
  (table.ports key.1).descriptor key.2

/-- The registry and the open files are those of the transports. -/
structure Sound (configs : ρ → SerialConfig) (table : PortTable ρ) :
    Prop where
  registry : Ledger (table.openPorts : Set PortIdentity) table.recorded
  descriptors :
    Ledger {descriptor | table.files descriptor ≠ none} table.held
  consistent : ∀ who, (table.ports who).Consistent table.files
  config : ∀ who, (table.ports who).transport.config = configs who

/-- A port which nobody has open has its initial settings. -/
structure Settled (initial : PortIdentity → Termios) (table : PortTable ρ) :
    Prop where
  ports : ∀ who, (table.ports who).Settled initial table.termios
  others : ∀ identity, identity ∉ table.openPorts →
    table.termios identity = initial identity

variable {configs : ρ → SerialConfig} {initial : PortIdentity → Termios}
  {table : PortTable ρ}

theorem Sound.of_termios (hsound : table.Sound configs)
    (termios : PortIdentity → Termios) :
    Sound configs { table with termios := termios } :=
  ⟨hsound.registry, hsound.descriptors, hsound.consistent, hsound.config⟩

theorem tcsetattr_of_file {descriptor : ℕ} {identity : PortIdentity}
    (hfile : table.files descriptor = some (.port identity))
    (settings : Termios) :
    table.tcsetattr descriptor settings =
      { table with
        termios := Function.update table.termios identity settings } := by
  unfold tcsetattr fstat
  rw [hfile]

theorem exists_termios (table : PortTable ρ) (allowed : Bool)
    (descriptor : ℕ) (settings : Termios) :
    ∃ termios,
      (if allowed = true then table.tcsetattr descriptor settings else table) =
        { table with termios := termios } := by
  unfold tcsetattr
  split_ifs
  · split
    · exact ⟨_, rfl⟩
    · exact ⟨table.termios, rfl⟩
  · exact ⟨table.termios, rfl⟩

variable [DecidableEq ρ] {who : ρ} {port : PortHolder}

theorem recorded_setPort (table : PortTable ρ) (who : ρ) (port : PortHolder) :
    (table.setPort who port).recorded =
      Function.update table.recorded who port.recorded := by
  funext other
  unfold recorded setPort
  dsimp only
  rw [Function.update_apply, Function.update_apply]
  split_ifs <;> rfl

theorem held_setPort (table : PortTable ρ) (slot : DescriptorSlot)
    (hother : ∀ other, other ≠ slot →
      port.descriptor other = (table.ports who).descriptor other) :
    (table.setPort who port).held =
      Function.update table.held (who, slot) (port.descriptor slot) := by
  funext key
  obtain ⟨owner, other⟩ := key
  unfold held setPort
  dsimp only
  rw [Function.update_apply, Function.update_apply]
  split_ifs with howner hkey hkey
  · rw [(Prod.mk.inj hkey).2]
  · have hne : other ≠ slot := by
      rintro rfl
      exact hkey (by rw [howner])
    rw [hother other hne, howner]
  · exact absurd (congrArg Prod.fst hkey) howner
  · rfl

theorem forall_setPort (Good : ρ → PortHolder → Prop)
    (hgood : ∀ other, other ≠ who → Good other (table.ports other))
    (hport : Good who port) (other : ρ) :
    Good other ((table.setPort who port).ports other) := by
  unfold setPort
  dsimp only
  rw [Function.update_apply]
  split_ifs with hother
  · rw [hother]
    exact hport
  · exact hgood other hother

/-- What a transport does while it holds the same port. -/
theorem registry_keep {taken : Set PortIdentity}
    (hledger : Ledger taken table.recorded)
    (hrecorded : port.recorded = (table.ports who).recorded) :
    Ledger taken (table.setPort who port).recorded := by
  rw [recorded_setPort, hrecorded]
  change Ledger taken (Function.update table.recorded who (table.recorded who))
  rw [Function.update_eq_self]
  exact hledger

theorem descriptors_keep {taken : Set ℕ} (hledger : Ledger taken table.held)
    (hdescriptor : port.descriptor = (table.ports who).descriptor) :
    Ledger taken (table.setPort who port).held := by
  rw [held_setPort table .port fun other _ => congrFun hdescriptor other,
    hdescriptor]
  change Ledger taken
    (Function.update table.held (who, .port) (table.held (who, .port)))
  rw [Function.update_eq_self]
  exact hledger

theorem config_keep
    (hconfigs : ∀ other, (table.ports other).transport.config = configs other)
    (hconfig : port.transport.config = (table.ports who).transport.config) :
    ∀ other, ((table.setPort who port).ports other).transport.config =
      configs other :=
  forall_setPort (fun owner holder => holder.transport.config = configs owner)
    (fun other _ => hconfigs other) (hconfig.trans (hconfigs who))

/-- What a transport does without taking or giving back anything. -/
theorem Sound.setPort (hsound : table.Sound configs)
    (hrecorded : port.recorded = (table.ports who).recorded)
    (hdescriptor : port.descriptor = (table.ports who).descriptor)
    (hport : port.Consistent table.files)
    (hconfig : port.transport.config = (table.ports who).transport.config) :
    (table.setPort who port).Sound configs where
  registry := registry_keep hsound.registry hrecorded
  descriptors := descriptors_keep hsound.descriptors hdescriptor
  consistent := forall_setPort (fun _ holder => holder.Consistent table.files)
    (fun other _ => hsound.consistent other) hport
  config := config_keep hsound.config hconfig

/-- A port which nobody has recorded is recorded. -/
theorem Sound.record (hsound : table.Sound configs) {identity : PortIdentity}
    (hfree : identity ∉ table.openPorts)
    (hnone : (table.ports who).recorded = none)
    (hrecorded : port.recorded = some identity)
    (hdescriptor : port.descriptor = (table.ports who).descriptor)
    (hport : port.Consistent table.files)
    (hconfig : port.transport.config = (table.ports who).transport.config) :
    Sound configs
      ({ table with openPorts := insert identity table.openPorts }.setPort who
        port) where
  registry := by
    rw [recorded_setPort, hrecorded]
    change Ledger ((insert identity table.openPorts : Finset PortIdentity) :
      Set PortIdentity) (Function.update table.recorded who (some identity))
    rw [Finset.coe_insert]
    exact hsound.registry.claim identity hnone hfree
  descriptors := descriptors_keep hsound.descriptors hdescriptor
  consistent := forall_setPort (fun _ holder => holder.Consistent table.files)
    (fun other _ => hsound.consistent other) hport
  config := config_keep hsound.config hconfig

/-- The port of a transport is taken off the registry. -/
theorem Sound.erase (hsound : table.Sound configs) {identity : PortIdentity}
    (hheld : (table.ports who).recorded = some identity)
    (hrecorded : port.recorded = none)
    (hdescriptor : port.descriptor = (table.ports who).descriptor)
    (hport : port.Consistent table.files)
    (hconfig : port.transport.config = (table.ports who).transport.config) :
    Sound configs
      ({ table with openPorts := table.openPorts.erase identity }.setPort who
        port) where
  registry := by
    rw [recorded_setPort, hrecorded]
    change Ledger ((table.openPorts.erase identity : Finset PortIdentity) :
      Set PortIdentity) (Function.update table.recorded who none)
    rw [Finset.coe_erase]
    exact hsound.registry.release hheld
  descriptors := descriptors_keep hsound.descriptors hdescriptor
  consistent := forall_setPort (fun _ holder => holder.Consistent table.files)
    (fun other _ => hsound.consistent other) hport
  config := config_keep hsound.config hconfig

/-- A descriptor which is not in use is given to a transport. -/
theorem Sound.openFile (hsound : table.Sound configs) {slot : DescriptorSlot}
    {descriptor : ℕ} {file : OpenFile}
    (hfree : table.files descriptor = none)
    (hnone : (table.ports who).descriptor slot = none)
    (hslot : port.descriptor slot = some descriptor)
    (hother : ∀ other, other ≠ slot →
      port.descriptor other = (table.ports who).descriptor other)
    (hrecorded : port.recorded = (table.ports who).recorded)
    (hport : port.Consistent
      (Function.update table.files descriptor (some file)))
    (hconfig : port.transport.config = (table.ports who).transport.config) :
    Sound configs ((table.openFile descriptor file).setPort who port) where
  registry := registry_keep hsound.registry hrecorded
  descriptors := by
    rw [held_setPort (table.openFile descriptor file) slot hother, hslot]
    have htaken : {found : ℕ | (table.openFile descriptor file).files found ≠
        none} = insert descriptor {found | table.files found ≠ none} := by
      ext found
      unfold PortTable.openFile
      dsimp only
      rw [Set.mem_ofPred_eq, Function.update_apply, Set.mem_insert_iff]
      split_ifs with hfound <;> simp [hfound]
    change Ledger {found : ℕ | (table.openFile descriptor file).files found ≠
        none} (Function.update table.held (who, slot) (some descriptor))
    rw [htaken]
    refine hsound.descriptors.claim descriptor hnone ?_
    simp [hfree]
  consistent := by
    refine forall_setPort (fun _ holder => holder.Consistent
      (Function.update table.files descriptor (some file)))
      (fun other _ => ?_) hport
    refine (hsound.consistent other).frame fun slot found hfound => ?_
    have hopen : table.files found ≠ none :=
      (hsound.descriptors.recorded found).mpr ⟨(other, slot), hfound⟩
    rw [Function.update_of_ne]
    rintro rfl
    exact hopen hfree
  config := config_keep hsound.config hconfig

/-- A transport closes a descriptor which it holds. -/
theorem Sound.closeFile (hsound : table.Sound configs) {slot : DescriptorSlot}
    {descriptor : ℕ}
    (hheld : (table.ports who).descriptor slot = some descriptor)
    (hslot : port.descriptor slot = none)
    (hother : ∀ other, other ≠ slot →
      port.descriptor other = (table.ports who).descriptor other)
    (hrecorded : port.recorded = (table.ports who).recorded)
    (hport : port.Consistent (Function.update table.files descriptor none))
    (hconfig : port.transport.config = (table.ports who).transport.config) :
    Sound configs ((table.closeFile descriptor).setPort who port) where
  registry := registry_keep hsound.registry hrecorded
  descriptors := by
    rw [held_setPort (table.closeFile descriptor) slot hother, hslot]
    have htaken : {found : ℕ | (table.closeFile descriptor).files found ≠
        none} = {found | table.files found ≠ none} \ {descriptor} := by
      ext found
      unfold PortTable.closeFile
      dsimp only
      rw [Set.mem_ofPred_eq, Function.update_apply, Set.mem_sdiff,
        Set.mem_singleton_iff]
      split_ifs with hfound <;> simp [hfound]
    change Ledger {found : ℕ | (table.closeFile descriptor).files found ≠ none}
      (Function.update table.held (who, slot) none)
    rw [htaken]
    exact hsound.descriptors.release hheld
  consistent := by
    refine forall_setPort (fun _ holder => holder.Consistent
      (Function.update table.files descriptor none)) (fun other hne => ?_) hport
    refine (hsound.consistent other).frame fun otherSlot found hfound => ?_
    rw [Function.update_of_ne]
    rintro rfl
    have hsame := hsound.descriptors.exclusive (other, otherSlot) (who, slot)
      found hfound hheld
    exact hne (congrArg Prod.fst hsame)
  config := config_keep hsound.config hconfig

theorem Sound.goto (hsound : table.Sound configs) {call : PortCall}
    (hrecorded : call.recorded = (table.ports who).call.recorded)
    (hdescriptor : call.descriptor = (table.ports who).call.descriptor)
    (hport : ((table.ports who).goto call).Consistent table.files) :
    (table.setPort who ((table.ports who).goto call)).Sound configs :=
  hsound.setPort (PortHolder.recorded_goto hrecorded)
    (PortHolder.descriptor_goto hdescriptor) hport rfl

/-! ## Every call keeps the table sound -/

omit [DecidableEq ρ] in
theorem fstat_eq_some {descriptor : ℕ} {identity : PortIdentity}
    (hfstat : table.fstat descriptor = some identity) :
    table.files descriptor = some (.port identity) := by
  unfold fstat at hfstat
  split at hfstat
  · next found hfile => rw [hfile, Option.some.inj hfstat]
  · exact nomatch hfstat

omit [DecidableEq ρ] in
/-- What is known of a transport while a call is under way. -/
theorem Sound.at_call (hsound : table.Sound configs) {call : PortCall}
    (hcall : (table.ports who).call = call) :
    (table.ports who).ConsistentAt table.files call := by
  rw [← hcall]
  exact hsound.consistent who

theorem Sound.fail (hsound : table.Sound configs) (hempty : port.Empty)
    (hport : port = table.ports who) (hcall : port.call = .opening)
    (error : Error) : (table.setPort who (port.fail error)).Sound configs := by
  subst hport
  refine hsound.setPort ?_ ?_ (Or.inl (hempty.fail error)) rfl
  · rw [(hempty.fail error).recorded, hempty.recorded, hcall]
    rfl
  · funext slot
    cases slot with
    | port =>
        rw [(hempty.fail error).descriptor_port, hempty.descriptor_port, hcall]
        rfl
    | wake => rfl

theorem other_port {slot : DescriptorSlot} (hslot : slot ≠ .port) :
    slot = .wake := by
  cases slot with
  | port => exact absurd rfl hslot
  | wake => rfl

theorem other_wake {slot : DescriptorSlot} (hslot : slot ≠ .wake) :
    slot = .port := by
  cases slot with
  | port => rfl
  | wake => exact absurd rfl hslot

theorem sound_advanceOpen (hsound : table.Sound configs)
    (answer : PortAnswer) : (table.advanceOpen who answer).Sound configs := by
  unfold advanceOpen
  dsimp only
  cases hcall : (table.ports who).call with
  | idle | stopping | releasing | forgetting | silencing => exact hsound
  | opening =>
      have hempty : (table.ports who).Empty := hsound.at_call hcall
      dsimp only
      split_ifs with hgranted hbusy
      · rw [Bool.and_eq_true, Option.isNone_iff_eq_none] at hgranted
        refine hsound.openFile hgranted.2
          (hempty.descriptor_port.trans (by rw [hcall]; rfl)) rfl ?_
          (PortHolder.recorded_goto (by rw [hcall]; rfl)) (hempty.goto _) rfl
        intro slot hslot
        rw [other_port hslot]
        rfl
      · exact hsound.fail hempty rfl hcall _
      · exact hsound.fail hempty rfl hcall _
  | claiming descriptor =>
      have hempty : (table.ports who).Empty := hsound.at_call hcall
      dsimp only
      split_ifs
      · exact hsound.goto (by rw [hcall]; rfl) (by rw [hcall]; rfl)
          (hempty.goto _)
      · exact hsound.goto (by rw [hcall]; rfl) (by rw [hcall]; rfl)
          (hempty.goto _)
  | identifying descriptor =>
      have hempty : (table.ports who).Empty := hsound.at_call hcall
      dsimp only
      split
      · next identity hfstat _ =>
          exact hsound.goto (by rw [hcall]; rfl) (by rw [hcall]; rfl)
            ⟨hempty.goto _, fstat_eq_some hfstat⟩
      · exact hsound.goto (by rw [hcall]; rfl) (by rw [hcall]; rfl)
          (hempty.goto _)
  | registering descriptor identity =>
      obtain ⟨hempty, hfile⟩ := hsound.at_call hcall
      dsimp only
      split_ifs with hopen
      · exact hsound.goto (by rw [hcall]; rfl) (by rw [hcall]; rfl)
          (hempty.goto _)
      · exact hsound.record hopen (hempty.recorded.trans (by rw [hcall]; rfl))
          (hempty.goto _).recorded
          (PortHolder.descriptor_goto (by rw [hcall]; rfl))
          ⟨hempty.goto _, hfile⟩ rfl
  | inspecting descriptor identity =>
      obtain ⟨hempty, hfile⟩ := hsound.at_call hcall
      dsimp only
      split
      · exact hsound.goto (by rw [hcall]; rfl) (by rw [hcall]; rfl)
          ⟨hempty.goto _, hfile⟩
      · exact hsound.goto (by rw [hcall]; rfl) (by rw [hcall]; rfl)
          (hempty.goto _)
  | configuring descriptor identity original =>
      obtain ⟨hempty, hfile⟩ := hsound.at_call hcall
      dsimp only
      obtain ⟨termios, hwritten⟩ := table.exists_termios
        (answer.speedSet && answer.granted) descriptor
        (original.configured (table.ports who).transport.config.baudRate)
      rw [hwritten]
      split_ifs
      · exact (hsound.of_termios termios).goto (by rw [hcall]; rfl)
          (by rw [hcall]; rfl) ⟨hempty.goto _, hfile⟩
      · exact (hsound.of_termios termios).goto (by rw [hcall]; rfl)
          (by rw [hcall]; rfl) ⟨hempty.goto _, hfile⟩
  | waking descriptor identity original =>
      obtain ⟨hempty, hfile⟩ := hsound.at_call hcall
      dsimp only
      split_ifs with hgranted
      · rw [Bool.and_eq_true, Option.isNone_iff_eq_none] at hgranted
        have hslot : (table.ports who).descriptor .wake = none :=
          hempty.wakeFd
        refine hsound.openFile hgranted.2 hslot rfl ?_ ?_ ?_ rfl
        · intro slot hslot
          rw [other_wake hslot, hempty.descriptor_port, hcall]
          rfl
        · rw [hempty.recorded, hcall]
          rfl
        · refine Or.inr ⟨rfl, descriptor, answer.descriptor, identity, original,
            rfl, rfl, rfl, rfl, ?_⟩
          rw [Function.update_of_ne]
          · exact hfile
          · rintro rfl
            exact nomatch hgranted.2.symm.trans hfile
      · exact hsound.goto (by rw [hcall]; rfl) (by rw [hcall]; rfl)
          ⟨hempty.goto _, hfile⟩
  | restoring descriptor identity original error =>
      obtain ⟨hempty, hfile⟩ := hsound.at_call hcall
      dsimp only
      obtain ⟨termios, hrestored⟩ := table.exists_termios answer.restored
        descriptor original
      rw [hrestored]
      exact (hsound.of_termios termios).goto (by rw [hcall]; rfl)
        (by rw [hcall]; rfl) (hempty.goto _)
  | erasing descriptor identity error =>
      have hempty : (table.ports who).Empty := hsound.at_call hcall
      refine hsound.erase (hempty.recorded.trans (by rw [hcall]; rfl))
        (hempty.goto _).recorded
        (PortHolder.descriptor_goto (by rw [hcall]; rfl)) (hempty.goto _) rfl
  | discarding descriptor error =>
      have hempty : (table.ports who).Empty := hsound.at_call hcall
      refine hsound.closeFile
        (hempty.descriptor_port.trans (by rw [hcall]; rfl))
        (hempty.fail error).descriptor_port ?_ ?_
        (Or.inl (hempty.fail error)) rfl
      · intro slot hslot
        rw [other_port hslot]
        rfl
      · rw [(hempty.fail error).recorded, hempty.recorded, hcall]
        rfl

theorem sound_advanceClose (hsound : table.Sound configs)
    (answer : PortAnswer) : (table.advanceClose who answer).Sound configs := by
  unfold advanceClose
  dsimp only
  cases hcall : (table.ports who).call with
  | stopping =>
      obtain ⟨hopened, fd, wakeFd, identity, original, hholding⟩ :=
        hsound.at_call hcall
      dsimp only
      have hrestored : ∃ termios,
          (match (table.ports who).fd, (table.ports who).originalTermios,
              answer.restored with
            | some descriptor, some original, true =>
                table.tcsetattr descriptor original
            | _, _, _ => table) = { table with termios := termios } := by
        rw [hholding.descriptor, hholding.settings]
        obtain ⟨termios, htermios⟩ :=
          table.exists_termios answer.restored fd original
        refine ⟨termios, ?_⟩
        rw [← htermios]
        cases answer.restored <;> rfl
      obtain ⟨termios, hrestored⟩ := hrestored
      rw [hrestored]
      exact (hsound.of_termios termios).goto (by rw [hcall]; rfl)
        (by rw [hcall]; rfl)
        ⟨hopened, fd, wakeFd, identity, original, hholding.descriptor,
          hholding.wake, hholding.stored, hholding.settings, hholding.file⟩
  | releasing =>
      obtain ⟨hopened, fd, wakeFd, identity, original, hholding⟩ :=
        hsound.at_call hcall
      dsimp only
      rw [hholding.descriptor]
      have hslot : (table.ports who).descriptor .port = some fd := by
        rw [PortHolder.descriptor, hcall, hholding.descriptor]
        rfl
      refine hsound.closeFile hslot rfl ?_ ?_ ⟨hopened, rfl⟩ rfl
      · intro slot hother
        rw [other_port hother]
        rfl
      · rw [PortHolder.recorded, PortHolder.recorded, hcall]
        rfl
  | forgetting =>
      obtain ⟨hopened, hfd⟩ := hsound.at_call hcall
      dsimp only
      have hrecorded : (table.ports who).recorded =
          (table.ports who).portIdentity := by
        rw [PortHolder.recorded, hcall]
        rfl
      have hdescriptor : PortHolder.descriptor
          { table.ports who with portIdentity := none, call := .silencing } =
            (table.ports who).descriptor := by
        funext slot
        cases slot with
        | port =>
            rw [PortHolder.descriptor, PortHolder.descriptor, hcall]
            rfl
        | wake => rfl
      cases hidentity : (table.ports who).portIdentity with
      | none =>
          exact hsound.setPort (by rw [hrecorded, hidentity]; rfl) hdescriptor
            ⟨hopened, hfd, rfl⟩ rfl
      | some identity =>
          exact hsound.erase (hrecorded.trans hidentity) rfl hdescriptor
            ⟨hopened, hfd, rfl⟩ rfl
  | silencing =>
      obtain ⟨hopened, hfd, hidentity⟩ := hsound.at_call hcall
      dsimp only
      have hempty : (table.ports who).finishClose.Empty :=
        ⟨hopened, hfd, rfl, rfl, hidentity⟩
      have hrecorded : (table.ports who).finishClose.recorded =
          (table.ports who).recorded := by
        rw [PortHolder.recorded, PortHolder.recorded, hcall]
        rfl
      have hport : ∀ slot, slot ≠ .wake →
          (table.ports who).finishClose.descriptor slot =
            (table.ports who).descriptor slot := by
        intro slot hother
        rw [other_wake hother, PortHolder.descriptor, PortHolder.descriptor,
          hcall]
        rfl
      cases hwake : (table.ports who).wakeFd with
      | none =>
          refine hsound.setPort hrecorded ?_ (Or.inl hempty) rfl
          funext slot
          by_cases hslot : slot = .wake
          · rw [hslot]
            exact hwake.symm
          · exact hport slot hslot
      | some descriptor =>
          have hslot : (table.ports who).descriptor .wake = some descriptor :=
            hwake
          exact hsound.closeFile hslot rfl hport hrecorded (Or.inl hempty) rfl
  | _ => exact hsound

theorem Sound.keep (hsound : table.Sound configs)
    (hsame : (table.ports who).SameMembers port) :
    (table.setPort who port).Sound configs :=
  hsound.setPort hsame.recorded hsame.descriptor
    (hsame.consistent (hsound.consistent who)) hsame.config

theorem sound_beginOpen (hsound : table.Sound configs)
    (hidle : (table.ports who).call = .idle) :
    (table.setPort who (table.ports who).beginOpen).Sound configs := by
  unfold PortHolder.beginOpen
  split_ifs with hopened hvalid
  · exact hsound.keep ⟨rfl, rfl, rfl, rfl, rfl, rfl, rfl⟩
  · have hempty : (table.ports who).Empty := by
      refine (hsound.at_call hidle).resolve_right ?_
      exact fun hheld => hopened hheld.1
    exact hsound.goto (by rw [hidle]; rfl) (by rw [hidle]; rfl)
      (hempty.goto .opening)
  · exact hsound.keep ⟨rfl, rfl, rfl, rfl, rfl, rfl, rfl⟩

theorem sound_beginClose (hsound : table.Sound configs)
    (hidle : (table.ports who).call = .idle) :
    (table.setPort who (table.ports who).beginClose).Sound configs := by
  unfold PortHolder.beginClose
  split_ifs with hclosed
  · exact hsound.keep ⟨rfl, rfl, rfl, rfl, rfl, rfl, rfl⟩
  · obtain ⟨_, fd, wakeFd, identity, original, hholding⟩ :=
      (hsound.at_call hidle).resolve_left (by
        intro hempty
        rw [hempty.opened, hempty.fd] at hclosed
        exact hclosed rfl)
    refine hsound.setPort ?_ ?_ ⟨rfl, fd, wakeFd, identity, original,
      hholding.descriptor, hholding.wake, hholding.stored, hholding.settings,
      hholding.file⟩ rfl
    · rw [PortHolder.recorded, PortHolder.recorded, hidle]
      rfl
    · funext slot
      cases slot with
      | port =>
          rw [PortHolder.descriptor, PortHolder.descriptor, hidle]
          rfl
      | wake => rfl

theorem sound_step (hsound : table.Sound configs) (input : PortInput ρ) :
    (table.step input).Sound configs := by
  cases input with
  | openPort who =>
      rw [step]
      split_ifs with hidle
      · exact sound_beginOpen hsound hidle
      · exact hsound
  | closePort who =>
      rw [step]
      split_ifs with hidle
      · exact sound_beginClose hsound hidle
      · exact hsound
  | advance who answer =>
      rw [step]
      split
      · exact sound_advanceClose hsound answer
      · exact sound_advanceClose hsound answer
      · exact sound_advanceClose hsound answer
      · exact sound_advanceClose hsound answer
      · exact sound_advanceOpen hsound answer
  | cycle who io =>
      rw [step]
      split_ifs
      · exact hsound
      · have hport := (table.ports who).transport.samePort_cycle io
        exact hsound.keep
          ⟨hport.opened, hport.config, rfl, rfl, rfl, rfl, rfl⟩

omit [DecidableEq ρ] in
theorem sound_start (configs : ρ → SerialConfig)
    (initial : PortIdentity → Termios) :
    (start configs initial).Sound configs where
  registry := by
    rw [start, Finset.coe_empty]
    exact Ledger.empty
  descriptors := by
    have hempty : {descriptor : ℕ | (start configs initial).files descriptor ≠
        none} = ∅ := by
      ext descriptor
      simp [start]
    have hheld : (start configs initial).held = fun _ => none := by
      funext key
      obtain ⟨who, slot⟩ := key
      cases slot <;> rfl
    rw [hempty, hheld]
    exact Ledger.empty
  consistent := fun _ => Or.inl ⟨rfl, rfl, rfl, rfl, rfl⟩
  config := fun _ => rfl

/-! ## The settings of the ports -/

/-- A transport changes no settings but those of the port it holds. -/
theorem Settled.update (hsettled : table.Settled initial)
    {later : PortTable ρ}
    (hports : later.ports = Function.update table.ports who port)
    (hframe : ∀ other, other ≠ who → ∀ identity,
      table.recorded other = some identity →
        later.termios identity = table.termios identity)
    (hport : port.Settled initial later.termios)
    (hothers : ∀ identity, identity ∉ later.openPorts →
      later.termios identity = initial identity) :
    later.Settled initial where
  ports := by
    intro other
    rw [hports, Function.update_apply]
    split_ifs with hother
    · exact hport
    · exact (hsettled.ports other).frame (hframe other hother)
  others := hothers

theorem Settled.setPort (hsettled : table.Settled initial)
    (hport : port.Settled initial table.termios) :
    (table.setPort who port).Settled initial :=
  hsettled.update rfl (fun _ _ _ _ => rfl) hport hsettled.others

theorem Settled.keep (hsettled : table.Settled initial)
    (hsame : (table.ports who).SameMembers port) :
    (table.setPort who port).Settled initial :=
  hsettled.setPort (hsame.settled (hsettled.ports who))

/-- A transport sets the port which is recorded for it. -/
theorem Settled.write (hsettled : table.Settled initial)
    (hsound : table.Sound configs) {identity : PortIdentity}
    (hheld : (table.ports who).recorded = some identity) {settings : Termios}
    (hport : port.Settled initial
      (Function.update table.termios identity settings)) :
    Settled initial
      ({ table with
        termios := Function.update table.termios identity settings }.setPort
          who port) := by
  refine hsettled.update rfl (fun other hother found hfound => ?_) hport
    (fun found hfound => ?_)
  · refine Function.update_of_ne ?_ ..
    rintro rfl
    exact hother (hsound.registry.exclusive other who found hfound hheld)
  · have hne : found ≠ identity := by
      rintro rfl
      exact hfound ((hsound.registry.recorded found).mpr ⟨who, hheld⟩)
    exact (Function.update_of_ne hne ..).trans (hsettled.others found hfound)

/-- A port with its initial settings is taken off the registry. -/
theorem Settled.erase (hsettled : table.Settled initial)
    {identity : PortIdentity}
    (hinitial : table.termios identity = initial identity)
    (hport : port.Settled initial table.termios) :
    Settled initial
      ({ table with openPorts := table.openPorts.erase identity }.setPort who
        port) := by
  refine hsettled.update rfl (fun _ _ _ _ => rfl) hport fun found hfound => ?_
  by_cases hsame : found = identity
  · rw [hsame]
    exact hinitial
  · exact hsettled.others found fun hopen =>
      hfound (Finset.mem_erase.mpr ⟨hsame, hopen⟩)

omit [DecidableEq ρ] in
theorem Settled.at_call (hsettled : table.Settled initial) {call : PortCall}
    (hcall : (table.ports who).call = call) :
    (table.ports who).SettledAt initial table.termios call := by
  rw [← hcall]
  exact hsettled.ports who

theorem settled_fail {termios : PortIdentity → Termios}
    (hempty : port.Empty) (error : Error) :
    (port.fail error).Settled initial termios := by
  intro identity hidentity
  exact nomatch hempty.identity.symm.trans hidentity

theorem settled_advanceOpen (hsettled : table.Settled initial)
    (hsound : table.Sound configs) {answer : PortAnswer}
    (hrestored : answer.restored = true) :
    (table.advanceOpen who answer).Settled initial := by
  unfold advanceOpen
  dsimp only
  cases hcall : (table.ports who).call with
  | idle | stopping | releasing | forgetting | silencing => exact hsettled
  | opening =>
      have hempty : (table.ports who).Empty := hsound.at_call hcall
      dsimp only
      split_ifs
      · exact hsettled.update rfl (fun _ _ _ _ => rfl) trivial hsettled.others
      · exact hsettled.setPort (settled_fail hempty _)
      · exact hsettled.setPort (settled_fail hempty _)
  | claiming descriptor =>
      dsimp only
      split_ifs <;> exact hsettled.setPort trivial
  | identifying descriptor =>
      dsimp only
      split <;> exact hsettled.setPort trivial
  | registering descriptor identity =>
      dsimp only
      split_ifs with hopen
      · exact hsettled.setPort trivial
      · refine hsettled.update rfl (fun _ _ _ _ => rfl)
          (hsettled.others identity hopen) fun found hfound => ?_
        exact hsettled.others found fun hold =>
          hfound (Finset.mem_insert_of_mem hold)
  | inspecting descriptor identity =>
      obtain ⟨_, hfile⟩ := hsound.at_call hcall
      have hinitial : table.termios identity = initial identity :=
        hsettled.at_call hcall
      have htcgetattr : table.tcgetattr descriptor =
          some (initial identity) := by
        rw [tcgetattr, fstat, hfile, ← hinitial]
        rfl
      dsimp only
      rw [htcgetattr]
      split
      · next original hfound _ =>
          exact hsettled.setPort ⟨(Option.some.inj hfound).symm, hinitial⟩
      · exact hsettled.setPort hinitial
  | configuring descriptor identity original =>
      obtain ⟨hempty, hfile⟩ := hsound.at_call hcall
      obtain ⟨horiginal, hinitial⟩ := hsettled.at_call hcall
      have hheld : (table.ports who).recorded = some identity :=
        hempty.recorded.trans (by rw [hcall]; rfl)
      dsimp only
      rw [tcsetattr_of_file hfile]
      by_cases hwritten : (answer.speedSet && answer.granted) = true
      · rw [if_pos hwritten]
        split_ifs
        · refine hsettled.write hsound hheld ⟨horiginal, ?_⟩
          rw [Function.update_self, horiginal]
          rfl
        · exact hsettled.write hsound hheld horiginal
      · have hunflushed :
            ¬ (answer.speedSet && answer.granted && answer.flushed) = true := by
          rw [Bool.and_eq_true]
          exact fun hall => hwritten hall.1
        rw [if_neg hwritten, if_neg hunflushed]
        exact hsettled.setPort horiginal
  | waking descriptor identity original =>
      obtain ⟨horiginal, hconfigured⟩ := hsettled.at_call hcall
      dsimp only
      split_ifs
      · refine hsettled.update rfl (fun _ _ _ _ => rfl) ?_ hsettled.others
        rintro found ⟨rfl⟩
        exact ⟨congrArg some horiginal, hconfigured⟩
      · exact hsettled.setPort horiginal
  | restoring descriptor identity original error =>
      obtain ⟨hempty, hfile⟩ := hsound.at_call hcall
      have horiginal : original = initial identity := hsettled.at_call hcall
      have hheld : (table.ports who).recorded = some identity :=
        hempty.recorded.trans (by rw [hcall]; rfl)
      dsimp only
      rw [if_pos hrestored, tcsetattr_of_file hfile]
      refine hsettled.write hsound hheld ?_
      exact (Function.update_self ..).trans horiginal
  | erasing descriptor identity error =>
      have hinitial : table.termios identity = initial identity :=
        hsettled.at_call hcall
      exact hsettled.erase hinitial trivial
  | discarding descriptor error =>
      have hempty : (table.ports who).Empty := hsound.at_call hcall
      exact hsettled.update rfl (fun _ _ _ _ => rfl)
        (settled_fail hempty error) hsettled.others

theorem settled_advanceClose (hsettled : table.Settled initial)
    (hsound : table.Sound configs) {answer : PortAnswer}
    (hrestored : answer.restored = true) :
    (table.advanceClose who answer).Settled initial := by
  unfold advanceClose
  dsimp only
  cases hcall : (table.ports who).call with
  | stopping =>
      obtain ⟨hopened, fd, wakeFd, identity, original, hholding⟩ :=
        hsound.at_call hcall
      have hsettings := hsettled.at_call hcall identity hholding.stored
      have hheld : (table.ports who).recorded = some identity := by
        rw [PortHolder.recorded, hcall, hholding.stored]
        rfl
      dsimp only
      rw [hholding.descriptor, hsettings, hrestored]
      dsimp only
      rw [tcsetattr_of_file hholding.file]
      refine hsettled.write hsound hheld fun found hfound => ?_
      have hsame := hholding.stored.symm.trans hfound
      rw [← Option.some.inj hsame]
      exact Function.update_self ..
  | releasing =>
      obtain ⟨_, fd, _, _, _, hholding⟩ := hsound.at_call hcall
      have hinitial := hsettled.at_call hcall
      dsimp only
      rw [hholding.descriptor]
      exact hsettled.update rfl (fun _ _ _ _ => rfl) hinitial hsettled.others
  | forgetting =>
      have hinitial := hsettled.at_call hcall
      dsimp only
      cases hidentity : (table.ports who).portIdentity with
      | none => exact hsettled.setPort trivial
      | some identity =>
          exact hsettled.erase (hinitial identity hidentity) trivial
  | silencing =>
      obtain ⟨_, _, hidentity⟩ := hsound.at_call hcall
      have hfinished : (table.ports who).finishClose.Settled initial
          table.termios := by
        intro identity hfound
        exact nomatch hidentity.symm.trans hfound
      dsimp only
      cases hwake : (table.ports who).wakeFd with
      | none => exact hsettled.setPort hfinished
      | some descriptor =>
          exact hsettled.update rfl (fun _ _ _ _ => rfl) hfinished
            hsettled.others
  | _ => exact hsettled

/-- The call gives a port its settings back where it asks for them. -/
def PortInput.Restores : PortInput ρ → Prop
  | .advance _ answer => answer.restored = true
  | _ => True

theorem settled_step (hsettled : table.Settled initial)
    (hsound : table.Sound configs) {input : PortInput ρ}
    (hrestores : PortInput.Restores input) :
    (table.step input).Settled initial := by
  cases input with
  | openPort who =>
      rw [step]
      split_ifs with hidle
      · unfold PortHolder.beginOpen
        split_ifs
        · exact hsettled.keep ⟨rfl, rfl, rfl, rfl, rfl, rfl, rfl⟩
        · exact hsettled.setPort trivial
        · exact hsettled.keep ⟨rfl, rfl, rfl, rfl, rfl, rfl, rfl⟩
      · exact hsettled
  | closePort who =>
      rw [step]
      split_ifs with hidle
      · unfold PortHolder.beginClose
        split_ifs
        · exact hsettled.keep ⟨rfl, rfl, rfl, rfl, rfl, rfl, rfl⟩
        · refine hsettled.setPort fun identity hidentity => ?_
          exact (hsettled.at_call hidle identity hidentity).1
      · exact hsettled
  | advance who answer =>
      rw [step]
      split
      · exact settled_advanceClose hsettled hsound hrestores
      · exact settled_advanceClose hsettled hsound hrestores
      · exact settled_advanceClose hsettled hsound hrestores
      · exact settled_advanceClose hsettled hsound hrestores
      · exact settled_advanceOpen hsettled hsound hrestores
  | cycle who io =>
      rw [step]
      split_ifs
      · exact hsettled
      · have hport := (table.ports who).transport.samePort_cycle io
        exact hsettled.keep
          ⟨hport.opened, hport.config, rfl, rfl, rfl, rfl, rfl⟩

/-- The ports of a process after some calls. -/
structure WellKept (configs : ρ → SerialConfig)
    (initial : PortIdentity → Termios) (inputs : List (PortInput ρ))
    (table : PortTable ρ) : Prop where
  /-- no two transports have one port, not even while they open or close it -/
  exclusive : ∀ first second identity,
    table.recorded first = some identity →
    table.recorded second = some identity → first = second
  registry : ∀ identity, identity ∈ table.openPorts ↔
    ∃ who, table.recorded who = some identity
  opened : ∀ who, (table.ports who).transport.opened = true →
    ∃ descriptor identity, (table.ports who).fd = some descriptor ∧
      table.recorded who = some identity ∧
      table.files descriptor = some (.port identity)
  /-- every open file is that of one transport -/
  descriptors : ∀ descriptor, table.files descriptor ≠ none →
    ∃! key, table.held key = some descriptor
  /-- closed transports leave nothing open -/
  released : (∀ who, (table.ports who).call = .idle ∧
      (table.ports who).transport.opened = false) →
    table.openPorts = ∅ ∧ ∀ descriptor, table.files descriptor = none
  settings : (∀ input ∈ inputs, PortInput.Restores input) →
    (∀ identity, identity ∉ table.openPorts →
      table.termios identity = initial identity) ∧
    ∀ who, (table.ports who).transport.opened = true →
      ∃ identity, table.recorded who = some identity ∧
        table.termios identity =
          (initial identity).configured (configs who).baudRate

theorem sound_final (configs : ρ → SerialConfig)
    (initial : PortIdentity → Termios) (inputs : List (PortInput ρ)) :
    (machine.final (start configs initial) inputs).Sound configs :=
  Machine.invariant_final (Sound configs)
    (fun _ input hsound => sound_step hsound input)
    (sound_start configs initial) inputs

theorem settled_final (hsound : table.Sound configs)
    (hsettled : table.Settled initial) {inputs : List (PortInput ρ)}
    (hrestores : ∀ input ∈ inputs, PortInput.Restores input) :
    (machine.final table inputs).Settled initial := by
  induction inputs generalizing table with
  | nil => exact hsettled
  | cons input rest ih =>
      rw [List.forall_mem_cons] at hrestores
      exact ih (sound_step hsound input)
        (settled_step hsettled hsound hrestores.1) hrestores.2

omit [DecidableEq ρ] in
theorem settled_start (configs : ρ → SerialConfig)
    (initial : PortIdentity → Termios) :
    (start configs initial).Settled initial where
  ports := fun _ _ hidentity => nomatch hidentity
  others := fun _ _ => rfl

omit [DecidableEq ρ] in
/-- Only a transport with no call under way is open. -/
theorem Sound.idle_of_opened (hsound : table.Sound configs)
    (hopened : (table.ports who).transport.opened = true) :
    (table.ports who).call = .idle ∧
      ∃ fd wakeFd identity original,
        (table.ports who).Holding table.files fd wakeFd identity original := by
  have hport := hsound.consistent who
  unfold PortHolder.Consistent at hport
  have hclosed : ¬ (table.ports who).transport.opened = false := by
    rw [hopened]
    exact Bool.false_ne_true ∘ Eq.symm
  generalize (table.ports who).call = call at hport ⊢
  cases call with
  | idle =>
      refine ⟨rfl, (hport.resolve_left ?_).2⟩
      exact fun hempty => hclosed hempty.opened
  | opening | claiming | identifying | erasing | discarding =>
      exact absurd hport.opened hclosed
  | registering | inspecting | configuring | waking | restoring =>
      exact absurd hport.1.opened hclosed
  | stopping | releasing | forgetting | silencing =>
      exact absurd hport.1 hclosed

theorem serial_ports_wellKept (configs : ρ → SerialConfig)
    (initial : PortIdentity → Termios) (inputs : List (PortInput ρ)) :
    WellKept configs initial inputs
      (machine.final (start configs initial) inputs) := by
  have hsound := sound_final configs initial inputs
  have hrecorded : ∀ who, ((machine.final (start configs initial)
      inputs).ports who).call = .idle →
      (machine.final (start configs initial) inputs).recorded who =
        ((machine.final (start configs initial) inputs).ports
          who).portIdentity := by
    intro who hidle
    rw [recorded, PortHolder.recorded, hidle]
    rfl
  refine ⟨hsound.registry.exclusive, hsound.registry.recorded, ?_, ?_, ?_, ?_⟩
  · intro who hopened
    obtain ⟨hidle, fd, _, identity, _, hholding⟩ :=
      hsound.idle_of_opened hopened
    exact ⟨fd, identity, hholding.descriptor,
      (hrecorded who hidle).trans hholding.stored, hholding.file⟩
  · intro descriptor hopen
    obtain ⟨key, hkey⟩ := (hsound.descriptors.recorded descriptor).mp hopen
    exact ⟨key, hkey, fun other hother =>
      hsound.descriptors.exclusive other key descriptor hother hkey⟩
  · intro hclosed
    have hempty : ∀ who, ((machine.final (start configs initial)
        inputs).ports who).Empty := by
      intro who
      refine (hsound.at_call (hclosed who).1).resolve_right ?_
      rintro ⟨hopened, _⟩
      exact Bool.false_ne_true ((hclosed who).2.symm.trans hopened)
    constructor
    · refine Finset.eq_empty_of_forall_notMem fun identity hopen => ?_
      obtain ⟨who, hwho⟩ := (hsound.registry.recorded identity).mp hopen
      rw [hrecorded who (hclosed who).1, (hempty who).identity] at hwho
      exact nomatch hwho
    · intro descriptor
      by_contra hopen
      obtain ⟨⟨who, slot⟩, hheld⟩ :=
        (hsound.descriptors.recorded descriptor).mp hopen
      cases slot with
      | port =>
          have hport := (hempty who).descriptor_port.symm.trans hheld
          rw [(hclosed who).1] at hport
          exact nomatch hport
      | wake => exact nomatch (hempty who).wakeFd.symm.trans hheld
  · intro hrestores
    have hsettled := settled_final (sound_start configs initial)
      (settled_start configs initial) hrestores
    refine ⟨hsettled.others, fun who hopened => ?_⟩
    obtain ⟨hidle, _, _, identity, _, hholding⟩ :=
      hsound.idle_of_opened hopened
    refine ⟨identity, (hrecorded who hidle).trans hholding.stored, ?_⟩
    rw [← hsound.config who]
    exact (hsettled.at_call hidle identity hholding.stored).2

end PortTable

end PolicyRuntime
