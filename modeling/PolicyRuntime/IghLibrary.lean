import PolicyRuntime.EthercatCycle
import PolicyRuntime.IghSdo
import PolicyRuntime.Scripts

/-!
# Library calls of the IgH backend

The backend as a script of `ecrt` calls.  An object which the library gives
out is named by the place of the call which gave it, so that no name is ever
used twice.  Pointers which the backend keeps may be null.  A session keeps
what the library has given out: deactivating the master takes back all objects
but the master, and releasing it takes back the master, too.
-/

namespace PolicyRuntime

namespace Igh

open Scripts

/-! ## The library -/

structure EcPdoInfo where
  index : ℕ
  entries : List (ObjectAddress × ℕ)
  deriving DecidableEq, Repr

/-- The watchdog mode is always `EC_WD_DEFAULT`. -/
structure EcSyncInfo where
  index : ℕ
  output : Bool
  pdos : List EcPdoInfo
  deriving DecidableEq, Repr

structure EcSlaveInfo where
  position : ℕ
  stationAlias : ℕ
  vendorId : ℕ
  productCode : ℕ
  revisionNumber : ℕ
  deriving DecidableEq, Repr

/-- A call of the library.  The bytes of `requestData` are those which the
caller then copies to the memory of the request. -/
inductive EcrtCall
  | requestMaster (masterIndex : ℕ)
  | createDomain (master : Option ℕ)
  | masterInfo (master : Option ℕ)
  | getSlave (master : Option ℕ) (position : ℕ)
  | slaveConfig (master : Option ℕ)
      (stationAlias position vendorId productCode : ℕ)
  | configPdos (configuration : ℕ) (syncs : List EcSyncInfo)
  | configSdo (configuration : ℕ) (request : ObjectAddress)
      (data : List (BitVec 8))
  | configDc (configuration assignActivate sync0CycleNs : ℕ)
      (sync0ShiftNs : ℤ)
  | createSdoRequest (configuration : ℕ) (address : ObjectAddress) (size : ℕ)
  | requestTimeout (request timeoutMs : ℕ)
  | selectReferenceClock (master : Option ℕ) (configuration : ℕ)
  | regPdoEntry (configuration : ℕ) (address : ObjectAddress)
      (domain : Option ℕ)
  | activate (master : Option ℕ)
  | domainSize (domain : Option ℕ)
  | domainData (domain : Option ℕ)
  | deactivate (master : Option ℕ)
  | releaseMaster (master : Option ℕ)
  | receive (master : Option ℕ)
  | process (domain : Option ℕ)
  | queue (domain : Option ℕ)
  | send (master : Option ℕ)
  | domainState (domain : Option ℕ)
  | masterState (master : Option ℕ)
  | configState (configuration : ℕ)
  | requestDataSize (request : Option ℕ)
  | requestIndex (request : Option ℕ) (address : ObjectAddress)
  | requestData (request : Option ℕ) (copied : List (BitVec 8))
  | requestWrite (request : Option ℕ)
  | requestRead (request : Option ℕ)
  | requestState (request : Option ℕ)
  deriving DecidableEq, Repr

/-- What a call may answer: whether a pointer is not null, an `int`, and the
contents of the structures which the library fills in. -/
structure Answer where
  given : Bool
  code : ℤ
  scanBusy : Bool
  slaveCount : ℕ
  slave : EcSlaveInfo
  size : ℕ
  bitPosition : ℕ
  requestState : EcRequestState
  data : List (BitVec 8)
  workingCounter : ℕ
  complete : Bool
  linkUp : Bool
  online : Bool
  operational : Bool

abbrev Calls (ε α : Type) := Script EcrtCall Answer ε α

/-- The objects which are out.  A request comes with the size of its memory;
it is under way until the library reports a state which ends it. -/
structure Session where
  master : Option ℕ
  active : Bool
  domain : Option ℕ
  configurations : List ℕ
  requests : List (ℕ × ℕ)
  underway : List ℕ
  deriving DecidableEq, Repr

namespace Session

/-- No master is requested. -/
def closed : Session := ⟨none, false, none, [], [], []⟩

def IsMaster (session : Session) (master : Option ℕ) : Prop :=
  master ≠ none ∧ session.master = master

def IsDomain (session : Session) (domain : Option ℕ) : Prop :=
  domain ≠ none ∧ session.domain = domain

/-- A request whose memory the library does not use. -/
def Idle (session : Session) (request : Option ℕ) : Prop :=
  ∃ own size, request = some own ∧ own ∉ session.underway ∧
    (own, size) ∈ session.requests

def Permits (session : Session) : EcrtCall → Prop
  | .requestMaster _ => session.master = none
  | .createDomain master =>
      session.IsMaster master ∧ session.active = false ∧
        session.domain = none
  | .masterInfo master => session.IsMaster master
  | .getSlave master _ => session.IsMaster master
  | .slaveConfig master .. =>
      session.IsMaster master ∧ session.active = false
  | .configPdos configuration _ =>
      configuration ∈ session.configurations ∧ session.active = false
  | .configSdo configuration .. =>
      configuration ∈ session.configurations ∧ session.active = false
  | .configDc configuration .. =>
      configuration ∈ session.configurations ∧ session.active = false
  | .createSdoRequest configuration .. =>
      configuration ∈ session.configurations ∧ session.active = false
  | .requestTimeout request _ => session.Idle (some request)
  | .selectReferenceClock master configuration =>
      session.IsMaster master ∧ configuration ∈ session.configurations ∧
        session.active = false
  | .regPdoEntry configuration _ domain =>
      configuration ∈ session.configurations ∧ session.IsDomain domain ∧
        session.active = false
  | .activate master => session.IsMaster master ∧ session.active = false
  | .domainSize domain => session.IsDomain domain ∧ session.active = true
  | .domainData domain => session.IsDomain domain ∧ session.active = true
  | .deactivate master => session.IsMaster master ∧ session.active = true
  | .releaseMaster master =>
      session.IsMaster master ∧ session.active = false
  | .receive master => session.IsMaster master ∧ session.active = true
  | .process domain => session.IsDomain domain ∧ session.active = true
  | .queue domain => session.IsDomain domain ∧ session.active = true
  | .send master => session.IsMaster master ∧ session.active = true
  | .domainState domain => session.IsDomain domain ∧ session.active = true
  | .masterState master => session.IsMaster master ∧ session.active = true
  | .configState configuration =>
      configuration ∈ session.configurations ∧ session.active = true
  | .requestDataSize request => session.Idle request ∧ session.active = true
  | .requestIndex request _ => session.Idle request ∧ session.active = true
  | .requestData request copied =>
      session.active = true ∧
        ∃ own size, request = some own ∧ own ∉ session.underway ∧
          (own, size) ∈ session.requests ∧ copied.length ≤ size
  | .requestWrite request => session.Idle request ∧ session.active = true
  | .requestRead request => session.Idle request ∧ session.active = true
  | .requestState request =>
      session.active = true ∧
        ∃ own size, request = some own ∧ (own, size) ∈ session.requests

/-- The session after a call, which was made at a place of the history. -/
def advance (session : Session) (place : ℕ) (call : EcrtCall)
    (answer : Answer) : Session :=
  match call with
  | .requestMaster _ =>
      if answer.given then { closed with master := some place } else session
  | .createDomain _ =>
      if answer.given then { session with domain := some place } else session
  | .slaveConfig .. =>
      if answer.given then
        { session with
          configurations := session.configurations ++ [place] }
      else session
  | .createSdoRequest _ _ size =>
      if answer.given then
        { session with requests := session.requests ++ [(place, size)] }
      else session
  | .activate _ =>
      if answer.code < 0 then session else { session with active := true }
  | .deactivate _ => { closed with master := session.master }
  | .releaseMaster _ => closed
  | .requestWrite request =>
      if answer.code < 0 then session
      else
        { session with
          underway := session.underway ++ request.toList }
  | .requestRead request =>
      if answer.code < 0 then session
      else
        { session with
          underway := session.underway ++ request.toList }
  | .requestState request =>
      if answer.requestState = .unused ∨ answer.requestState = .busy then
        session
      else
        { session with
          underway := session.underway.filter (some · ≠ request) }
  | _ => session

end Session

/-- The rules of the library. -/
def rules : Monitor EcrtCall Answer Session where
  start := .closed
  advance := Session.advance
  Permits := Session.Permits

/-! ## Histories -/

section Histories

variable {history later : History EcrtCall Answer} {session : Session}
  {call other : EcrtCall} {answer : Answer} {place : ℕ}

/-- The rules were kept, up to a session. -/
def InSession (history : History EcrtCall Answer) (session : Session) :
    Prop :=
  rules.Kept history ∧ rules.state history = session

theorem inSession_nil : InSession [] .closed := ⟨rules.kept_nil, rfl⟩

theorem InSession.ask (h : InSession history session)
    (hpermits : session.Permits call) :
    InSession (history ++ [(call, answer)])
      (session.advance history.length call answer) := by
  constructor
  · rw [rules.kept_concat, h.2]
    exact ⟨h.1, hpermits⟩
  · rw [rules.state_concat, h.2]
    rfl

/-- A call which the session permits, whatever it answers. -/
theorem ask_leads {ε : Type} {answering : Answering EcrtCall Answer}
    {success : ℕ × Answer → History EcrtCall Answer → Prop}
    {failure : ε → History EcrtCall Answer → Prop}
    (h : InSession history session) (hpermits : session.Permits call)
    (hsuccess : ∀ answer, InSession (history ++ [(call, answer)])
        (session.advance history.length call answer) →
      success (history.length, answer) (history ++ [(call, answer)])) :
    (Script.ask call).Leads answering success failure history := by
  rw [Script.leads_ask]
  exact hsuccess _ (h.ask hpermits)

/-- The call was made, and its code was not negative. -/
def Accepted (history : History EcrtCall Answer) (call : EcrtCall) : Prop :=
  ∃ answer, 0 ≤ answer.code ∧ (call, answer) ∈ history

/-- The call was made at the place, and gave an object. -/
def Given (history : History EcrtCall Answer) (place : ℕ) (call : EcrtCall) :
    Prop :=
  ∃ answer, answer.given = true ∧ history[place]? = some (call, answer)

theorem accepted_concat (hcode : ¬answer.code < 0) :
    Accepted (history ++ [(call, answer)]) call :=
  ⟨answer, not_lt.mp hcode, by simp⟩

theorem given_concat (hgiven : answer.given = true) :
    Given (history ++ [(call, answer)]) history.length call :=
  ⟨answer, hgiven, by simp⟩

theorem Accepted.mono (h : Accepted history call)
    (hmore : history <+: later) : Accepted later call := by
  obtain ⟨answer, hcode, hmem⟩ := h
  exact ⟨answer, hcode, hmore.subset hmem⟩

theorem Given.mono (h : Given history place call)
    (hmore : history <+: later) : Given later place call := by
  obtain ⟨answer, hgiven, hplace⟩ := h
  obtain ⟨rest, rfl⟩ := hmore
  refine ⟨answer, hgiven, ?_⟩
  have hlt := (List.getElem?_eq_some_iff.mp hplace).1
  rw [List.getElem?_append_left hlt]
  exact hplace

/-- No two calls gave the same object. -/
theorem Given.call_eq (h : Given history place call)
    (hother : Given history place other) : call = other := by
  obtain ⟨_, _, hplace⟩ := h
  obtain ⟨_, _, hsame⟩ := hother
  rw [hplace, Option.some.injEq, Prod.mk.injEq] at hsame
  exact hsame.1

end Histories

end Igh

end PolicyRuntime
