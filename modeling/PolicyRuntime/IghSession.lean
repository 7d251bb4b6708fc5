import PolicyRuntime.IghBackend

/-!
# Sessions of the IgH backend

What every operation of the backend does to a session with the library.  The
slaves of the backend name objects which the library gave for them and has not
taken back, and a request is under way only while its slave remembers it.
-/

namespace PolicyRuntime

namespace Igh

open Scripts Script

theorem forall₂_getElem? {α β : Type} {related : α → β → Prop}
    {firsts : List α} {seconds : List β}
    (h : List.Forall₂ related firsts seconds) {index : ℕ} {second : β}
    (hsecond : seconds[index]? = some second) :
    ∃ first, firsts[index]? = some first ∧ related first second := by
  induction h generalizing index with
  | nil => simp at hsecond
  | cons hrelated _ ih =>
      cases index with
      | zero =>
          rw [List.getElem?_cons_zero, Option.some.injEq] at hsecond
          exact ⟨_, List.getElem?_cons_zero, hsecond ▸ hrelated⟩
      | succ index =>
          rw [List.getElem?_cons_succ] at hsecond
          obtain ⟨first, hfirst, hfound⟩ := ih hsecond
          exact ⟨first, by rw [List.getElem?_cons_succ, hfirst], hfound⟩

theorem forall₂_exists_left {α β : Type} {related : α → β → Prop}
    {firsts : List α} {seconds : List β}
    (h : List.Forall₂ related firsts seconds) {second : β}
    (hsecond : second ∈ seconds) : ∃ first ∈ firsts, related first second := by
  obtain ⟨index, hindex⟩ := List.getElem?_of_mem hsecond
  obtain ⟨first, hfirst, hrelated⟩ := forall₂_getElem? h hindex
  exact ⟨first, List.mem_of_getElem? hfirst, hrelated⟩

/-! ## Slaves which were set up -/

/-- The library agreed to all which the configuration asks for. -/
structure Slave.SetUp (own : Slave) (history : History EcrtCall Answer)
    (master : Option ℕ) (configuration : SlaveConfiguration) : Prop where
  address : own.address = configuration.address
  identified : ∃ answer, 0 ≤ answer.code ∧
    configuration.identifies answer.slave = true ∧
    (.getSlave master own.ringPosition, answer) ∈ history
  given : Given history own.configuration
    (.slaveConfig master configuration.address.stationAlias
      configuration.address.position configuration.vendorId
      configuration.productCode)
  mapped : Accepted history (.configPdos own.configuration configuration.syncs)
  started : ∀ request ∈ configuration.startupSdos, Accepted history
    (.configSdo own.configuration request.address request.data)
  clocked : Accepted history
    (.configDc own.configuration configuration.assignActivate
      configuration.sync0CycleNs configuration.sync0ShiftNs)
  downloads : List.Forall₂ (fun size request => Given history request
    (.createSdoRequest own.configuration ⟨0x6060, 0⟩ size))
    kDownloadRequestSizes own.downloadRequests
  upload : Given history own.uploadRequest
    (.createSdoRequest own.configuration ⟨0x6060, 0⟩ kMailboxCapacity)

def Slave.requests (own : Slave) : List ℕ :=
  own.downloadRequests ++ [own.uploadRequest]

/-- The objects of the slave are still out. -/
structure Slave.Owned (own : Slave) (session : Session) : Prop where
  configuration : own.configuration ∈ session.configurations
  downloads : List.Forall₂ (fun size request =>
    (request, size) ∈ session.requests) kDownloadRequestSizes
    own.downloadRequests
  upload : (own.uploadRequest, kMailboxCapacity) ∈ session.requests

/-- The slave remembers the request which is under way for it. -/
structure Slave.Remembers (own : Slave) (session : Session) : Prop where
  active : own.activeSdo ≠ .none →
    ∃ request ∈ own.requests, own.activeRequest = some request
  underway : ∀ request ∈ own.requests, request ∈ session.underway →
    own.activeSdo ≠ .none ∧ own.activeRequest = some request

namespace Slave

variable {own other : Slave} {history later : History EcrtCall Answer}
  {master : Option ℕ} {configuration second : SlaveConfiguration}
  {session next : Session}

theorem SetUp.mono (h : own.SetUp history master configuration)
    (hmore : history <+: later) : own.SetUp later master configuration where
  address := h.address
  identified := by
    obtain ⟨answer, hcode, hidentifies, hmem⟩ := h.identified
    exact ⟨answer, hcode, hidentifies, hmore.subset hmem⟩
  given := h.given.mono hmore
  mapped := h.mapped.mono hmore
  started := fun request hrequest => (h.started request hrequest).mono hmore
  clocked := h.clocked.mono hmore
  downloads := h.downloads.imp fun _ _ hgiven => hgiven.mono hmore
  upload := h.upload.mono hmore

theorem SetUp.given_request (h : own.SetUp history master configuration)
    {request : ℕ} (hrequest : request ∈ own.requests) :
    ∃ size, Given history request
      (.createSdoRequest own.configuration ⟨0x6060, 0⟩ size) := by
  rw [requests, List.mem_append, List.mem_singleton] at hrequest
  obtain hrequest | rfl := hrequest
  · obtain ⟨size, _, hgiven⟩ := forall₂_exists_left h.downloads hrequest
    exact ⟨size, hgiven⟩
  · exact ⟨_, h.upload⟩

/-- A request belongs to one address only. -/
theorem SetUp.address_eq (h : own.SetUp history master configuration)
    (hother : other.SetUp history master second) {request : ℕ}
    (hrequest : request ∈ own.requests)
    (hsame : request ∈ other.requests) : own.address = other.address := by
  obtain ⟨_, hgiven⟩ := h.given_request hrequest
  obtain ⟨_, hagain⟩ := hother.given_request hsame
  have hconfiguration : own.configuration = other.configuration :=
    (EcrtCall.createSdoRequest.inj (hgiven.call_eq hagain)).1
  have hcall := h.given.call_eq (hconfiguration ▸ hother.given)
  simp only [EcrtCall.slaveConfig.injEq, true_and] at hcall
  rw [h.address, hother.address]
  cases haddress : configuration.address
  cases hsecond : second.address
  simp_all

theorem Owned.mono (h : own.Owned session)
    (hconfigurations : session.configurations ⊆ next.configurations)
    (hrequests : session.requests ⊆ next.requests) : own.Owned next where
  configuration := hconfigurations h.configuration
  downloads := h.downloads.imp fun _ _ hmem => hrequests hmem
  upload := hrequests h.upload

theorem Owned.requested (h : own.Owned session) {request : ℕ}
    (hrequest : request ∈ own.requests) :
    ∃ size, (request, size) ∈ session.requests := by
  rw [requests, List.mem_append, List.mem_singleton] at hrequest
  obtain hrequest | rfl := hrequest
  · obtain ⟨size, _, hmem⟩ := forall₂_exists_left h.downloads hrequest
    exact ⟨size, hmem⟩
  · exact ⟨_, h.upload⟩

end Slave

/-! ## Setting up a slave -/

/-- The session of a master which is being configured. -/
def configuring (master domain : ℕ) (configurations : List ℕ)
    (requests : List (ℕ × ℕ)) : Session :=
  ⟨some master, false, some domain, configurations, requests, []⟩

/-- A master which is being configured, with some objects out. -/
def Grew (history : History EcrtCall Answer) (master domain : ℕ)
    (configurations : List ℕ) (requests : List (ℕ × ℕ)) : Prop :=
  ∃ more others, configurations ⊆ more ∧ requests ⊆ others ∧
    InSession history (configuring master domain more others)

theorem InSession.grew {history : History EcrtCall Answer}
    {master domain : ℕ} {configurations : List ℕ} {requests : List (ℕ × ℕ)}
    (h : InSession history
      (configuring master domain configurations requests)) :
    Grew history master domain configurations requests :=
  ⟨configurations, requests, fun _ hmem => hmem, fun _ hmem => hmem, h⟩

theorem Grew.of_subset {history : History EcrtCall Answer}
    {master domain : ℕ} {configurations fewer : List ℕ}
    {requests few : List (ℕ × ℕ)}
    (h : Grew history master domain configurations requests)
    (hfewer : fewer ⊆ configurations) (hfew : few ⊆ requests) :
    Grew history master domain fewer few := by
  obtain ⟨more, others, hmore, hothers, hsession⟩ := h
  exact ⟨more, others, fun _ hmem => hmore (hfewer hmem),
    fun _ hmem => hothers (hfew hmem), hsession⟩

section Configuring

variable {answering : Answering EcrtCall Answer}
  {history : History EcrtCall Answer} {master domain : ℕ}
  {configurations : List ℕ} {requests : List (ℕ × ℕ)}

theorem findAlias_leads
    (h : InSession history (configuring master domain configurations requests))
    (address : EthercatSlaveAddress) (index remaining : ℕ) :
    (Impl.findAlias (some master) address index remaining).Leads answering
      (fun _ later => InSession later
        (configuring master domain configurations requests))
      (fun _ later => InSession later
        (configuring master domain configurations requests)) history := by
  induction remaining generalizing index history with
  | zero => exact h
  | succ remaining ih =>
      rw [Impl.findAlias, leads_bind]
      refine ask_leads h ⟨Option.some_ne_none _, rfl⟩ fun candidate hnext => ?_
      simp only [leads_ite, leads_fail, leads_pure]
      split_ifs
      · exact hnext
      · exact hnext
      · exact ih hnext (index + 1)

theorem resolveRingPosition_leads
    (h : InSession history (configuring master domain configurations requests))
    (address : EthercatSlaveAddress) (slaveCount : ℕ) :
    (Impl.resolveRingPosition (some master) address slaveCount).Leads answering
      (fun _ later => InSession later
        (configuring master domain configurations requests))
      (fun _ later => InSession later
        (configuring master domain configurations requests)) history := by
  rw [Impl.resolveRingPosition, leads_ite]
  split_ifs
  · exact h
  · exact findAlias_leads h address 0 slaveCount

theorem configureStartup_leads {handle : ℕ}
    (h : InSession history (configuring master domain configurations requests))
    (hhandle : handle ∈ configurations) (startup : List SdoDownloadRequest) :
    (Impl.configureStartup handle startup).Leads answering
      (fun _ later => InSession later
          (configuring master domain configurations requests) ∧
        ∀ request ∈ startup, Accepted later
          (.configSdo handle request.address request.data))
      (fun _ later => InSession later
        (configuring master domain configurations requests)) history := by
  induction startup generalizing history with
  | nil => exact ⟨h, fun request hrequest => absurd hrequest List.not_mem_nil⟩
  | cons request rest ih =>
      rw [Impl.configureStartup, leads_ite]
      split_ifs with hempty
      · exact h
      rw [leads_bind]
      refine ask_leads h ⟨hhandle, rfl⟩ fun accepted hnext => ?_
      rw [leads_ite]
      split_ifs with hcode
      · exact hnext
      · refine ((ih hnext).and (leads_extends _ _)).weaken ?_
          fun _ _ hfailed => hfailed.1
        rintro _ later ⟨⟨hlater, haccepted⟩, hmore⟩
        refine ⟨hlater, List.forall_mem_cons.mpr ⟨?_, haccepted⟩⟩
        exact (accepted_concat hcode).mono hmore

theorem createRequest_leads {handle : ℕ}
    (h : InSession history (configuring master domain configurations requests))
    (hhandle : handle ∈ configurations) (size : ℕ) (message : String) :
    (Impl.createRequest handle size message).Leads answering
      (fun request later => InSession later
          (configuring master domain configurations
            (requests ++ [(request, size)])) ∧
        Given later request (.createSdoRequest handle ⟨0x6060, 0⟩ size))
      (fun _ later => Grew later master domain configurations requests)
      history := by
  rw [Impl.createRequest, leads_bind]
  refine ask_leads h ⟨hhandle, rfl⟩ fun created hnext => ?_
  rw [leads_ite]
  cases hgiven : created.given
  · simp only [Session.advance, hgiven, Bool.false_eq_true, if_false] at hnext
    exact hnext.grew
  · simp only [Session.advance, hgiven, if_true] at hnext
    rw [if_neg (by simp), leads_bind]
    refine ask_leads hnext ⟨_, size, rfl, List.not_mem_nil, by simp⟩
      fun limited hlimited => ?_
    rw [leads_ite]
    split_ifs with hcode
    · exact (InSession.grew hlimited).of_subset (fun _ hmem => hmem)
        (List.subset_append_left _ _)
    · exact ⟨hlimited,
        (given_concat hgiven).mono (List.prefix_append _ _)⟩

theorem createDownloadRequests_leads {handle : ℕ}
    (h : InSession history (configuring master domain configurations requests))
    (hhandle : handle ∈ configurations) (sizes : List ℕ) :
    (Impl.createDownloadRequests handle sizes).Leads answering
      (fun downloads later => InSession later
          (configuring master domain configurations
            (requests ++ (sizes.zip downloads).map Prod.swap)) ∧
        List.Forall₂ (fun size request => Given later request
          (.createSdoRequest handle ⟨0x6060, 0⟩ size)) sizes downloads)
      (fun _ later => Grew later master domain configurations requests)
      history := by
  induction sizes generalizing history requests with
  | nil =>
      refine ⟨?_, .nil⟩
      simpa [Impl.createDownloadRequests] using h
  | cons size rest ih =>
      rw [Impl.createDownloadRequests, leads_bind]
      refine (createRequest_leads h hhandle size _).weaken ?_
        fun _ _ hfailed => hfailed
      rintro request later ⟨hlater, hgiven⟩
      rw [leads_bind]
      refine ((ih hlater).and (leads_extends _ _)).weaken ?_ ?_
      · rintro downloads last ⟨⟨hlast, hothers⟩, hmore⟩
        refine ⟨?_, .cons (hgiven.mono hmore) hothers⟩
        simpa using hlast
      · rintro _ last ⟨hfailed, _⟩
        exact hfailed.of_subset (fun _ hmem => hmem)
          (List.subset_append_left _ _)

/-- A slave without a transfer, as it is set up on a slave configuration. -/
structure SlaveReady (impl : Impl) (own : Slave)
    (later : History EcrtCall Answer) (master : ℕ)
    (configuration : SlaveConfiguration) (session : Session) : Prop where
  setUp : own.SetUp later (some master) configuration
  owned : own.Owned session
  resting : own.activeSdo = .none
  clock : impl.slaves = [] → Accepted later
    (.selectReferenceClock (some master) own.configuration)

theorem setUpSlave_leads {impl : Impl} {configuration : SlaveConfiguration}
    {ringPosition handle : ℕ} (hmaster : impl.master = some master)
    (h : InSession history (configuring master domain configurations requests))
    (hhandle : handle ∈ configurations)
    (hidentified : ∃ answer, 0 ≤ answer.code ∧
      configuration.identifies answer.slave = true ∧
      (.getSlave (some master) ringPosition, answer) ∈ history)
    (hgiven : Given history handle (.slaveConfig (some master)
      configuration.address.stationAlias configuration.address.position
      configuration.vendorId configuration.productCode)) :
    (impl.setUpSlave configuration ringPosition handle).Leads answering
      (fun own later => ∃ more, requests ⊆ more ∧ InSession later
          (configuring master domain configurations more) ∧
        SlaveReady impl own later master configuration
          (configuring master domain configurations more))
      (fun _ later => Grew later master domain configurations requests)
      history := by
  rw [Impl.setUpSlave, leads_bind]
  refine ask_leads h ⟨hhandle, rfl⟩ fun mapped hmapped => ?_
  rw [leads_ite]
  by_cases hcode : mapped.code < 0
  · rw [if_pos hcode]
    exact InSession.grew hmapped
  rw [if_neg hcode, leads_bind]
  refine ((configureStartup_leads hmapped hhandle _).and
    (leads_extends _ _)).weaken ?_ fun _ _ hfailed => hfailed.1.grew
  rintro _ started ⟨⟨hstarted, hparameters⟩, hmore⟩
  rw [leads_bind]
  refine ask_leads hstarted ⟨hhandle, rfl⟩ fun clocked hclocked => ?_
  rw [leads_ite]
  by_cases hclock : clocked.code < 0
  · rw [if_pos hclock]
    exact InSession.grew hclocked
  rw [if_neg hclock, leads_bind]
  refine ((createDownloadRequests_leads hclocked hhandle _).and
    (leads_extends _ _)).weaken ?_ fun _ _ hfailed => hfailed.1
  rintro downloads created ⟨⟨hcreated, hdownloads⟩, hlonger⟩
  rw [leads_bind]
  refine ((createRequest_leads hcreated hhandle _ _).and
    (leads_extends _ _)).weaken ?_ ?_
  · rintro upload last ⟨⟨hlast, hupload⟩, hlongest⟩
    dsimp only
    generalize hown : ({
        address := configuration.address
        ringPosition := ringPosition
        configuration := handle
        downloadRequests := downloads
        uploadRequest := upload } : Slave) = own
    have hclocking := hlonger.trans hlongest
    have hstarting := (List.prefix_append started _).trans hclocking
    have hmapping := hmore.trans hstarting
    have hbefore := (List.prefix_append history _).trans hmapping
    have hsetUp : own.SetUp last (some master) configuration := by
      subst hown
      obtain ⟨answer, hfound, hidentifies, hmem⟩ := hidentified
      exact
        { address := rfl
          identified := ⟨answer, hfound, hidentifies, hbefore.subset hmem⟩
          given := hgiven.mono hbefore
          mapped := (accepted_concat hcode).mono hmapping
          started := fun request hrequest =>
            (hparameters request hrequest).mono hstarting
          clocked := (accepted_concat hclock).mono hclocking
          downloads := hdownloads.imp fun _ _ hmade => hmade.mono hlongest
          upload := hupload }
    have howned : own.Owned (configuring master domain configurations
        ((requests ++ (kDownloadRequestSizes.zip downloads).map Prod.swap) ++
          [(upload, kMailboxCapacity)])) := by
      subst hown
      refine ⟨hhandle, ?_, by simp [configuring]⟩
      rw [List.forall₂_iff_zip]
      refine ⟨hdownloads.length_eq, fun {size request} hpair => ?_⟩
      have hswap := List.mem_map_of_mem (f := Prod.swap) hpair
      exact List.mem_append_left _ (List.mem_append_right _ hswap)
    have hsubset : requests ⊆ (requests ++
        (kDownloadRequestSizes.zip downloads).map Prod.swap) ++
          [(upload, kMailboxCapacity)] := fun _ hmem =>
      List.mem_append_left _ (List.mem_append_left _ hmem)
    have hresting : own.activeSdo = .none := by rw [← hown]
    have hhandleOf : own.configuration = handle := by rw [← hown]
    rw [leads_ite]
    split_ifs with hfirst
    · rw [leads_bind, hmaster]
      refine ask_leads hlast ⟨⟨Option.some_ne_none _, rfl⟩, hhandle, rfl⟩
        fun selected hselected => ?_
      rw [leads_ite]
      split_ifs with hselect
      · exact (InSession.grew hselected).of_subset (fun _ hmem => hmem)
          hsubset
      · refine ⟨_, hsubset, hselected, ?_⟩
        exact
          { setUp := hsetUp.mono (List.prefix_append _ _)
            owned := howned
            resting := hresting
            clock := fun _ => hhandleOf ▸ accepted_concat hselect }
    · refine ⟨_, hsubset, hlast, hsetUp, howned, hresting, ?_⟩
      intro hempty
      exact absurd hempty (by simpa using hfirst)
  · rintro _ last ⟨hfailed, _⟩
    exact hfailed.of_subset (fun _ hmem => hmem)
      (List.subset_append_left _ _)

end Configuring

/-! ## The backend and its session -/

namespace Impl

/-- Nothing is requested. -/
def Detached (impl : Impl) (history : History EcrtCall Answer) : Prop :=
  impl = { masterIndex := impl.masterIndex } ∧ InSession history .closed

/-- The backend knows all which is out, and only that. -/
structure Attached (impl : Impl) (history : History EcrtCall Answer)
    (session : Session) : Prop where
  inSession : InSession history session
  master : session.IsMaster impl.master
  domain : session.IsDomain impl.domain
  activated : impl.activated = session.active
  image : impl.domainData.isSome = session.active
  setUp : ∀ own ∈ impl.slaves,
    ∃ configuration, own.SetUp history impl.master configuration
  owned : ∀ own ∈ impl.slaves, own.Owned session
  remembers : ∀ own ∈ impl.slaves, own.Remembers session
  addresses : (impl.slaves.map Slave.address).Nodup

/-- The library has taken back all but the master, while the backend still
remembers its domain and its slaves. -/
def Stale (impl : Impl) (history : History EcrtCall Answer) : Prop :=
  impl.activated = false ∧ impl.master ≠ none ∧
    InSession history { Session.closed with master := impl.master }

/-- Attached before the master is activated. -/
def Configures (impl : Impl) (history : History EcrtCall Answer) : Prop :=
  ∃ session, session.active = false ∧ session.underway = [] ∧
    impl.Attached history session

/-- Attached to the active master. -/
def Runs (impl : Impl) (history : History EcrtCall Answer) : Prop :=
  ∃ session, session.active = true ∧ impl.Attached history session

section Sessions

variable {impl : Impl} {history later : History EcrtCall Answer}
  {session next : Session} {call : EcrtCall} {answer : Answer}
  {answering : Answering EcrtCall Answer}

/-- A session only grows while it is being configured. -/
theorem Attached.grow (h : impl.Attached history session)
    (hmore : history <+: later) (hlater : InSession later next)
    (hmaster : next.master = session.master)
    (hdomain : next.domain = session.domain)
    (hactive : next.active = session.active)
    (hunderway : next.underway = session.underway)
    (hconfigurations : session.configurations ⊆ next.configurations)
    (hrequests : session.requests ⊆ next.requests) :
    impl.Attached later next where
  inSession := hlater
  master := ⟨h.master.1, hmaster.trans h.master.2⟩
  domain := ⟨h.domain.1, hdomain.trans h.domain.2⟩
  activated := h.activated.trans hactive.symm
  image := h.image.trans hactive.symm
  setUp := fun own hown => by
    obtain ⟨configuration, hsetUp⟩ := h.setUp own hown
    exact ⟨configuration, hsetUp.mono hmore⟩
  owned := fun own hown => (h.owned own hown).mono hconfigurations hrequests
  remembers := fun own hown => by
    have hremembers := h.remembers own hown
    exact ⟨hremembers.active, hunderway ▸ hremembers.underway⟩
  addresses := h.addresses

/-- A call which leaves the session as it is. -/
theorem Attached.ask (h : impl.Attached history session)
    (hlater : InSession (history ++ [(call, answer)]) session) :
    impl.Attached (history ++ [(call, answer)]) session :=
  h.grow (List.prefix_append _ _) hlater rfl rfl rfl rfl (fun _ hmem => hmem)
    fun _ hmem => hmem

theorem findSlave_eq_some {address : EthercatSlaveAddress} {own : Slave}
    (hfound : impl.findSlave address = some own) :
    own ∈ impl.slaves ∧ own.address = address := by
  rw [findSlave] at hfound
  exact ⟨List.mem_of_find?_eq_some hfound,
    by simpa using List.find?_some hfound⟩

theorem findSlave_isNone {address : EthercatSlaveAddress}
    (hnone : ¬(impl.findSlave address).isSome = true) :
    address ∉ impl.slaves.map Slave.address := by
  rw [Bool.not_eq_true, Option.isSome_eq_false_iff, Option.isNone_iff_eq_none,
    findSlave, List.find?_eq_none] at hnone
  intro hmem
  obtain ⟨own, hown, rfl⟩ := List.mem_map.mp hmem
  exact hnone own hown (by simp)

theorem initializeBackend_leads (h : impl.Detached history) :
    impl.initializeBackend.Leads answering
      (fun next later => next.slaves = [] ∧ next.Configures later)
      (fun _ later => impl.Detached later) history := by
  obtain ⟨himpl, hclosed⟩ := h
  rw [himpl]
  rw [initializeBackend, if_neg (by simp), leads_bind]
  refine ask_leads hclosed rfl fun requested hrequested => ?_
  rw [leads_ite]
  cases hmaster : requested.given
  · simp only [Session.advance, hmaster, Bool.false_eq_true, if_false]
      at hrequested
    exact ⟨rfl, hrequested⟩
  simp only [Session.advance, hmaster, if_true] at hrequested
  rw [if_neg (by simp), leads_bind]
  refine ask_leads hrequested ⟨⟨Option.some_ne_none _, rfl⟩, rfl, rfl⟩
    fun created hcreated => ?_
  rw [leads_ite]
  cases hdomain : created.given
  · simp only [Session.advance, hdomain, Bool.false_eq_true, if_false]
      at hcreated
    rw [if_pos (by simp), leads_bind]
    refine ask_leads hcreated ⟨⟨Option.some_ne_none _, rfl⟩, rfl⟩
      fun released hreleased => ?_
    exact ⟨rfl, hreleased⟩
  · simp only [Session.advance, hdomain, if_true] at hcreated
    rw [if_neg (by simp)]
    refine ⟨rfl, _, ?_, ?_, {
        inSession := hcreated
        master := ⟨Option.some_ne_none _, rfl⟩
        domain := ⟨Option.some_ne_none _, rfl⟩
        activated := rfl
        image := rfl
        setUp := by simp
        owned := by simp
        remembers := by simp
        addresses := List.nodup_nil }⟩
    · rfl
    · rfl

/-- The session of an attached backend which is not active. -/
theorem Attached.eq_configuring (h : impl.Attached history session)
    (hactive : session.active = false) (hunderway : session.underway = []) :
    ∃ master domain, impl.master = some master ∧ impl.domain = some domain ∧
      session = configuring master domain session.configurations
        session.requests := by
  obtain ⟨master, hmaster⟩ := Option.ne_none_iff_exists'.mp h.master.1
  obtain ⟨domain, hdomain⟩ := Option.ne_none_iff_exists'.mp h.domain.1
  refine ⟨master, domain, hmaster, hdomain, ?_⟩
  have hm := h.master.2.trans hmaster
  have hd := h.domain.2.trans hdomain
  cases session
  simp_all [configuring]

/-- A slave with its objects joins the others. -/
theorem Attached.join {own : Slave} {configuration : SlaveConfiguration}
    (h : impl.Attached history session)
    (hsetUp : own.SetUp history impl.master configuration)
    (howned : own.Owned session) (hresting : own.activeSdo = .none)
    (hunderway : session.underway = [])
    (hnew : own.address ∉ impl.slaves.map Slave.address) :
    Attached { impl with slaves := impl.slaves ++ [own] } history session where
  inSession := h.inSession
  master := h.master
  domain := h.domain
  activated := h.activated
  image := h.image
  setUp := by
    simp only [List.forall_mem_append, List.forall_mem_singleton]
    exact ⟨h.setUp, configuration, hsetUp⟩
  owned := by
    simp only [List.forall_mem_append, List.forall_mem_singleton]
    exact ⟨h.owned, howned⟩
  remembers := by
    simp only [List.forall_mem_append, List.forall_mem_singleton]
    refine ⟨h.remembers, fun hactive => absurd hresting hactive, ?_⟩
    intro request _ hmem
    rw [hunderway] at hmem
    exact absurd hmem List.not_mem_nil
  addresses := by
    rw [List.map_append, List.nodup_append]
    refine ⟨h.addresses, List.nodup_singleton _, ?_⟩
    intro address haddress other hother hsame
    rw [List.map_singleton, List.mem_singleton] at hother
    exact hnew (hother ▸ hsame ▸ haddress)

theorem Attached.of_grew (h : impl.Attached history session)
    (hmore : history <+: later) {master domain : ℕ}
    (hsession : session = configuring master domain session.configurations
      session.requests)
    (hgrew : Grew later master domain session.configurations
      session.requests) :
    impl.Configures later := by
  obtain ⟨more, others, hconfigurations, hrequests, hlater⟩ := hgrew
  rw [hsession] at h
  exact ⟨_, rfl, rfl,
    h.grow hmore hlater rfl rfl rfl rfl hconfigurations hrequests⟩

/-- A backend with one more slave. -/
structure Joined (impl next : Impl) (later : History EcrtCall Answer)
    (configuration : SlaveConfiguration) (own : Slave) : Prop where
  slaves : next = { impl with slaves := impl.slaves ++ [own] }
  configures : next.Configures later
  setUp : own.SetUp later impl.master configuration
  clock : impl.slaves = [] → Accepted later
    (.selectReferenceClock impl.master own.configuration)

theorem configureSlave_leads (configuration : SlaveConfiguration)
    (h : impl.Configures history) :
    (impl.configureSlave configuration).Leads answering
      (fun next later => ∃ own, Joined impl next later configuration own)
      (fun _ later => impl.Configures later) history := by
  obtain ⟨session, hactive, hunderway, hattached⟩ := h
  obtain ⟨master, domain, hmaster, hdomain, hsession⟩ :=
    hattached.eq_configuring hactive hunderway
  have hsame := hattached.inSession
  rw [hsession] at hsame
  have hinactive : impl.activated = false := hattached.activated.trans hactive
  rw [configureSlave, if_neg (by simp [hmaster, hdomain, hinactive]),
    leads_ite]
  split_ifs with hfound
  · exact ⟨session, hactive, hunderway, hattached⟩
  rw [leads_bind, hmaster]
  refine ask_leads hsame ⟨Option.some_ne_none _, rfl⟩ fun bus hbus => ?_
  have hquiet : ∀ {later : History EcrtCall Answer}, history <+: later →
      InSession later (configuring master domain session.configurations
        session.requests) → impl.Configures later := fun hmore hlater =>
    hattached.of_grew hmore hsession hlater.grew
  simp only [leads_ite, leads_fail]
  split_ifs with hcode hbusy
  · exact hquiet (List.prefix_append _ _) hbus
  · exact hquiet (List.prefix_append _ _) hbus
  rw [leads_bind]
  refine ((resolveRingPosition_leads hbus _ _).and (leads_extends _ _)).weaken
    ?_ fun _ later hfailed =>
      hquiet ((List.prefix_append _ _).trans hfailed.2) hfailed.1
  rintro ringPosition resolved ⟨hresolved, hmore⟩
  have hbefore := (List.prefix_append history _).trans hmore
  rw [leads_bind]
  refine ask_leads hresolved ⟨Option.some_ne_none _, rfl⟩
    fun found hanswered => ?_
  have hlonger := hbefore.trans (List.prefix_append resolved
    [(.getSlave (some master) ringPosition, found)])
  simp only [leads_ite, leads_fail]
  split_ifs with hmissing hidentity
  · exact hquiet hlonger hanswered
  · exact hquiet hlonger hanswered
  rw [leads_bind]
  refine ask_leads hanswered ⟨⟨Option.some_ne_none _, rfl⟩, rfl⟩
    fun created hcreated => ?_
  have hlongest := hlonger.trans (List.prefix_append _
    [(.slaveConfig (some master) configuration.address.stationAlias
      configuration.address.position configuration.vendorId
      configuration.productCode, created)])
  rw [leads_ite]
  cases hgiven : created.given
  · simp only [Session.advance, hgiven, Bool.false_eq_true, if_false]
      at hcreated
    exact hquiet hlongest hcreated
  simp only [Session.advance, hgiven, if_true] at hcreated
  rw [if_neg (by simp), leads_bind]
  have hidentified : ∃ answer, 0 ≤ answer.code ∧
      configuration.identifies answer.slave = true ∧
      (.getSlave (some master) ringPosition, answer) ∈
        resolved ++ [(.getSlave (some master) ringPosition, found)] ++
          [(.slaveConfig (some master) configuration.address.stationAlias
            configuration.address.position configuration.vendorId
            configuration.productCode, created)] :=
    ⟨found, not_lt.mp hmissing, by simpa using hidentity, by simp⟩
  refine ((setUpSlave_leads hmaster hcreated (List.mem_append_right _
    (List.mem_singleton_self _)) hidentified (given_concat hgiven)).and
    (leads_extends _ _)).weaken ?_ ?_
  · rintro own last ⟨⟨more, hrequests, hlast, hready⟩, hextends⟩
    have hall := hlongest.trans hextends
    have hgrown := hattached.grow hall hlast
      (by rw [hsession]; rfl) (by rw [hsession]; rfl) (by rw [hsession]; rfl)
      (by rw [hsession]; rfl) (List.subset_append_left _ _) hrequests
    have hsetUp := hready.setUp
    rw [← hmaster] at hsetUp ⊢
    refine ⟨own, rfl, ⟨_, ?_, ?_, hgrown.join hsetUp hready.owned
      hready.resting ?_ ?_⟩, hsetUp, ?_⟩
    · rfl
    · rfl
    · rfl
    · rw [hsetUp.address]
      exact findSlave_isNone hfound
    · rw [hmaster]
      exact hready.clock
  · rintro _ last ⟨hfailed, hextends⟩
    exact hattached.of_grew (hlongest.trans hextends) hsession
      (hfailed.of_subset (List.subset_append_left _ _) fun _ hmem => hmem)

theorem bindPdoEntry_leads (slave : EthercatSlaveAddress)
    (address : ObjectAddress) (h : impl.Configures history) :
    (impl.bindPdoEntry slave address).Leads answering
      (fun _ later => impl.Configures later ∧
        ∃ own ∈ impl.slaves, own.address = slave ∧ Accepted later
          (.regPdoEntry own.configuration address impl.domain))
      (fun _ later => impl.Configures later) history := by
  obtain ⟨session, hactive, hunderway, hattached⟩ := h
  have hinactive : impl.activated = false := hattached.activated.trans hactive
  rw [bindPdoEntry, if_neg (by simp [hinactive, hattached.domain.1])]
  cases hfound : impl.findSlave slave with
  | none => exact ⟨session, hactive, hunderway, hattached⟩
  | some own =>
      obtain ⟨hown, haddress⟩ := findSlave_eq_some hfound
      dsimp only
      rw [leads_bind]
      refine ask_leads hattached.inSession
        ⟨(hattached.owned own hown).configuration, hattached.domain, hactive⟩
        fun offset hoffset => ?_
      have hnext : impl.Configures _ :=
        ⟨session, hactive, hunderway, hattached.ask hoffset⟩
      rw [leads_ite]
      split_ifs with hcode
      · exact hnext
      · rw [not_or] at hcode
        exact ⟨hnext, own, hown, haddress, accepted_concat hcode.1⟩

theorem Attached.activate (h : impl.Attached history session)
    (hmore : history <+: later)
    (hlater : InSession later { session with active := true })
    (data : ℕ) (size : ℕ) :
    Attached { impl with
      domainData := some data
      domainSize := size
      activated := true } later { session with active := true } where
  inSession := hlater
  master := h.master
  domain := h.domain
  activated := rfl
  image := rfl
  setUp := fun own hown => by
    obtain ⟨configuration, hsetUp⟩ := h.setUp own hown
    exact ⟨configuration, hsetUp.mono hmore⟩
  owned := fun own hown => (h.owned own hown).mono (fun _ hmem => hmem)
    fun _ hmem => hmem
  remembers := fun own hown =>
    ⟨(h.remembers own hown).active, (h.remembers own hown).underway⟩
  addresses := h.addresses

theorem activate_leads (h : impl.Configures history) :
    impl.activate.Leads answering
      (fun next later => next.Runs later ∧ next.slaves = impl.slaves ∧
        next.master = impl.master ∧ next.domain = impl.domain)
      (fun failed later => failed.1.Configures later ∨ failed.1.Stale later)
      history := by
  obtain ⟨session, hactive, hunderway, hattached⟩ := h
  have hinactive : impl.activated = false := hattached.activated.trans hactive
  rw [Impl.activate, if_neg (by
    simp [hinactive, hattached.domain.1, hattached.master.1]), leads_bind]
  refine ask_leads hattached.inSession ⟨hattached.master, hactive⟩
    fun activation hactivation => ?_
  rw [leads_ite]
  by_cases hcode : activation.code < 0
  · simp only [Session.advance, if_pos hcode] at hactivation
    rw [if_pos hcode]
    exact .inl ⟨session, hactive, hunderway, hattached.ask hactivation⟩
  simp only [Session.advance, if_neg hcode] at hactivation
  rw [if_neg hcode, leads_bind]
  refine ask_leads hactivation ⟨hattached.domain, rfl⟩
    fun measured hmeasured => ?_
  rw [leads_bind]
  refine ask_leads hmeasured ⟨hattached.domain, rfl⟩ fun image himage => ?_
  rw [leads_ite]
  split_ifs with hmissing
  · rw [leads_bind]
    refine ask_leads himage ⟨hattached.master, rfl⟩
      fun deactivated hdeactivated => ?_
    refine .inr ⟨hinactive, hattached.master.1, ?_⟩
    have hmaster : session.master = impl.master := hattached.master.2
    simpa [Session.advance, hmaster] using hdeactivated
  · refine ⟨⟨_, rfl, hattached.activate ?_ himage _ _⟩, rfl, rfl, rfl⟩
    simp only [List.append_assoc]
    exact List.prefix_append _ _

/-- Releasing the master gives back what is left. -/
theorem deactivate_inactive (hmaster : session.IsMaster impl.master)
    (hactivated : impl.activated = false) (hsession : session.active = false)
    (h : InSession history session) :
    impl.deactivate.Leads answering
      (fun next later => next.Detached later) (fun _ _ => False)
      history := by
  rw [deactivate, if_neg hmaster.1, hactivated, if_neg Bool.false_ne_true,
    leads_bind]
  exact ask_leads h ⟨hmaster, hsession⟩ fun released hreleased =>
    ⟨rfl, hreleased⟩

/-- Whatever is out, deactivating gives everything back. -/
theorem deactivate_leads
    (h : impl.Detached history ∨ impl.Configures history ∨
      impl.Runs history ∨ impl.Stale history) :
    impl.deactivate.Leads answering
      (fun next later => next.Detached later) (fun _ _ => False)
      history := by
  obtain hdetached | ⟨session, hactive, _, hattached⟩ |
    ⟨session, hactive, hattached⟩ | ⟨hinactive, hmaster, hsession⟩ := h
  · have hnone : impl.master = none := by rw [hdetached.1]
    rw [deactivate, if_pos hnone]
    exact hdetached
  · exact deactivate_inactive hattached.master
      (hattached.activated.trans hactive) hactive hattached.inSession
  · rw [deactivate, if_neg hattached.master.1, hattached.activated, hactive,
      if_pos rfl]
    simp only [leads_bind, leads_pure]
    refine ask_leads hattached.inSession ⟨hattached.master, hactive⟩
      fun deactivated hdeactivated => ?_
    refine ask_leads hdeactivated ⟨hattached.master, rfl⟩
      fun released hreleased => ⟨rfl, hreleased⟩
  · exact deactivate_inactive ⟨hmaster, rfl⟩ hinactive rfl hsession

/-! ## Cycles -/

theorem whileActivated_leads (hattached : impl.Attached history session)
    (hactive : session.active = true) (hpermits : session.Permits call)
    (hsame : ∀ place answer, session.advance place call answer = session) :
    (impl.whileActivated call).Leads answering
      (fun _ later => impl.Attached later session) (fun _ _ => False)
      history := by
  rw [whileActivated, if_pos (hattached.activated.trans hactive), leads_bind]
  refine ask_leads hattached.inSession hpermits fun answer hnext => ?_
  rw [hsame] at hnext
  exact hattached.ask hnext

/-- What the library reported of a slave. -/
def Reported (history : History EcrtCall Answer) (own : Slave)
    (operational : Bool) : Prop :=
  ∃ answer, (.configState own.configuration, answer) ∈ history ∧
    operational = (answer.online && answer.operational)

theorem slavesOperational_leads (slaves : List Slave)
    (hattached : impl.Attached history session)
    (hactive : session.active = true)
    (howned : ∀ own ∈ slaves, own.Owned session) :
    (slavesOperational slaves).Leads answering
      (fun states later => impl.Attached later session ∧
        List.Forall₂ (Reported later) slaves states)
      (fun _ _ => False) history := by
  induction slaves generalizing history with
  | nil => exact ⟨hattached, .nil⟩
  | cons own rest ih =>
      rw [List.forall_mem_cons] at howned
      rw [slavesOperational, leads_bind]
      refine ask_leads hattached.inSession
        ⟨howned.1.configuration, hactive⟩ fun state hnext => ?_
      rw [leads_bind]
      refine ((ih (hattached.ask hnext) howned.2).and
        (leads_extends _ _)).weaken ?_ fun _ _ hfailed => hfailed.1
      rintro states later ⟨⟨hlater, hstates⟩, hmore⟩
      refine ⟨hlater, .cons ⟨state, hmore.subset ?_, rfl⟩ hstates⟩
      simp

/-- The bit of an axis tells whether its slave is operational. -/
theorem operationalMask_getLsbD (states : List Bool) (index axis : ℕ) :
    (operationalMask index states).getLsbD axis =
      (decide (index ≤ axis ∧ axis < 16) &&
        states.getD (axis - index) false) := by
  induction states generalizing index with
  | nil => simp [operationalMask]
  | cons operational rest ih =>
      have hfirst : (if operational && index < 16 then 1#16 <<< index
          else 0#16).getLsbD axis =
          (decide (axis = index ∧ axis < 16) && operational) := by
        cases operational
        · simp
        · by_cases hindex : index < 16
          · simp [hindex]
            grind
          · simp [hindex]
            omega
      rw [operationalMask, BitVec.getLsbD_or, hfirst, ih]
      obtain hlt | rfl | hgt := lt_trichotomy axis index
      · simp [show ¬index ≤ axis by omega, show ¬index + 1 ≤ axis by omega,
          hlt.ne]
      · simp
      · have hshift : axis - index = (axis - (index + 1)) + 1 := by omega
        rw [hshift, List.getD_cons_succ]
        simp [hgt.le, hgt.ne', show index + 1 ≤ axis by omega]

theorem domainHealth_leads (hattached : impl.Attached history session)
    (hactive : session.active = true) :
    impl.domainHealth.Leads answering
      (fun health later => impl.Attached later session ∧
        ∃ states, List.Forall₂ (Reported later) impl.slaves states ∧
          ∀ axis < 16, health.operationalAxesMask.getLsbD axis =
            states.getD axis false)
      (fun _ _ => False) history := by
  have hactivated : impl.activated = true := hattached.activated.trans hactive
  rw [domainHealth, if_neg (by simp [hactivated]), leads_bind]
  refine ask_leads hattached.inSession ⟨hattached.domain, hactive⟩
    fun domain hdomain => ?_
  rw [leads_bind]
  refine ask_leads hdomain ⟨hattached.master, hactive⟩
    fun master hmaster => ?_
  rw [leads_bind]
  have hasked := (hattached.ask hdomain).ask hmaster
  refine (slavesOperational_leads impl.slaves hasked hactive
    hasked.owned).weaken ?_ fun _ _ hfailed => hfailed
  rintro states later ⟨hlater, hreported⟩
  refine ⟨hlater, states, hreported, fun axis haxis => ?_⟩
  rw [operationalMask_getLsbD]
  simp [haxis]

/-! ## Transfers -/

/-- Only the transfer of the slave may differ. -/
structure SameObjects (own next : Slave) : Prop where
  address : next.address = own.address
  ringPosition : next.ringPosition = own.ringPosition
  configuration : next.configuration = own.configuration
  downloadRequests : next.downloadRequests = own.downloadRequests
  uploadRequest : next.uploadRequest = own.uploadRequest

theorem SameObjects.setUp {own next : Slave} {master : Option ℕ}
    {configuration : SlaveConfiguration} (h : SameObjects own next)
    (hsetUp : own.SetUp history master configuration) :
    next.SetUp history master configuration where
  address := h.address.trans hsetUp.address
  identified := h.ringPosition ▸ hsetUp.identified
  given := h.configuration ▸ hsetUp.given
  mapped := h.configuration ▸ hsetUp.mapped
  started := h.configuration ▸ hsetUp.started
  clocked := h.configuration ▸ hsetUp.clocked
  downloads := by
    rw [h.configuration, h.downloadRequests]
    exact hsetUp.downloads
  upload := by
    rw [h.configuration, h.uploadRequest]
    exact hsetUp.upload

theorem SameObjects.requests {own next : Slave} (h : SameObjects own next) :
    next.requests = own.requests := by
  rw [Slave.requests, Slave.requests, h.downloadRequests, h.uploadRequest]

theorem SameObjects.owned {own next : Slave} (h : SameObjects own next)
    (howned : own.Owned session) : next.Owned session where
  configuration := h.configuration ▸ howned.configuration
  downloads := h.downloadRequests ▸ howned.downloads
  upload := h.uploadRequest ▸ howned.upload

theorem SameObjects.refl (own : Slave) : SameObjects own own :=
  ⟨rfl, rfl, rfl, rfl, rfl⟩

/-- The same slaves are attached, in some state of their transfers. -/
structure Carried (impl next : Impl) (later : History EcrtCall Answer) :
    Prop where
  runs : next.Runs later
  master : next.master = impl.master
  domain : next.domain = impl.domain
  slaves : List.Forall₂ SameObjects impl.slaves next.slaves

theorem Attached.carried (hattached : impl.Attached history session)
    (hactive : session.active = true) : Carried impl impl history where
  runs := ⟨session, hactive, hattached⟩
  master := rfl
  domain := rfl
  slaves := List.forall₂_same.mpr fun own _ => SameObjects.refl own

/-- An address belongs to one slave only. -/
theorem Attached.eq_of_address (h : impl.Attached history session)
    {own other : Slave} (hown : own ∈ impl.slaves)
    (hother : other ∈ impl.slaves) (haddress : other.address = own.address) :
    other = own :=
  List.inj_on_of_nodup_map h.addresses hother hown haddress

variable {own next : Slave} {underway : List ℕ}

/-- A slave goes on with its transfer, and the others do not notice. -/
theorem Attached.transfer (h : impl.Attached history session)
    (hown : own ∈ impl.slaves) (hsame : SameObjects own next)
    (hmore : history <+: later)
    (hlater : InSession later { session with underway := underway })
    (hremembers : next.Remembers { session with underway := underway })
    (hunderway : ∀ request ∈ underway,
      request ∈ session.underway ∨ request ∈ own.requests) :
    (impl.setSlave next).Attached later
      { session with underway := underway } where
  inSession := hlater
  master := h.master
  domain := h.domain
  activated := h.activated
  image := h.image
  setUp := by
    simp only [setSlave, List.forall_mem_map]
    intro other hother
    split_ifs
    · obtain ⟨configuration, hsetUp⟩ := h.setUp own hown
      exact ⟨configuration, hsame.setUp (hsetUp.mono hmore)⟩
    · obtain ⟨configuration, hsetUp⟩ := h.setUp other hother
      exact ⟨configuration, hsetUp.mono hmore⟩
  owned := by
    simp only [setSlave, List.forall_mem_map]
    intro other hother
    split_ifs
    · have howned := hsame.owned (h.owned own hown)
      exact howned.mono (fun _ hmem => hmem) fun _ hmem => hmem
    · exact (h.owned other hother).mono (fun _ hmem => hmem)
        fun _ hmem => hmem
  remembers := by
    simp only [setSlave, List.forall_mem_map]
    intro other hother
    split_ifs with haddress
    · exact hremembers
    · refine ⟨(h.remembers other hother).active, fun request hrequest hmem => ?_⟩
      obtain hbefore | hfound := hunderway request hmem
      · exact (h.remembers other hother).underway request hrequest hbefore
      · obtain ⟨_, hsetUp⟩ := h.setUp own hown
        obtain ⟨_, hothers⟩ := h.setUp other hother
        rw [hsame.address] at haddress
        exact absurd (hothers.address_eq hsetUp hrequest hfound) haddress
  addresses := by
    have haddresses : (impl.setSlave next).slaves.map Slave.address =
        impl.slaves.map Slave.address := by
      rw [setSlave, List.map_map]
      apply List.map_congr_left
      intro other _
      simp only [Function.comp_apply]
      split_ifs with haddress
      · exact haddress.symm
      · rfl
    rw [haddresses]
    exact h.addresses

theorem Attached.transfer_carried (h : impl.Attached history session)
    (hactive : session.active = true) (hown : own ∈ impl.slaves)
    (hsame : SameObjects own next) (hmore : history <+: later)
    (hlater : InSession later { session with underway := underway })
    (hremembers : next.Remembers { session with underway := underway })
    (hunderway : ∀ request ∈ underway,
      request ∈ session.underway ∨ request ∈ own.requests) :
    Carried impl (impl.setSlave next) later where
  runs := by
    have hnext : (impl.setSlave next).Attached later
        { session with underway := underway } :=
      h.transfer hown hsame hmore hlater hremembers hunderway
    exact ⟨{ session with underway := underway }, hactive, hnext⟩
  master := rfl
  domain := rfl
  slaves := by
    rw [setSlave, List.forall₂_map_right_iff, List.forall₂_same]
    intro other hother
    split_ifs with haddress
    · rw [hsame.address] at haddress
      rw [h.eq_of_address hown hother haddress]
      exact hsame
    · exact SameObjects.refl other

/-- The library no longer uses the request of a slave. -/
theorem Attached.finish_carried (h : impl.Attached history session)
    (hactive : session.active = true) (hown : own ∈ impl.slaves)
    (hsame : SameObjects own next) (hended : next.activeSdo = .none)
    (hmore : history <+: later)
    (hlater : InSession later { session with
      underway := session.underway.filter (some · ≠ own.activeRequest) }) :
    Carried impl (impl.setSlave next) later := by
  refine h.transfer_carried hactive hown hsame hmore hlater ?_ ?_
  · refine ⟨fun hbusy => absurd hended hbusy, fun request hrequest hmem => ?_⟩
    rw [hsame.requests] at hrequest
    rw [List.mem_filter, decide_eq_true_eq] at hmem
    have hrequested :=
      ((h.remembers own hown).underway request hrequest hmem.1).2
    exact absurd hrequested.symm hmem.2
  · exact fun request hmem => .inl (List.mem_filter.mp hmem).1

theorem Attached.fewer (h : impl.Attached history session)
    (hmore : history <+: later)
    (hlater : InSession later { session with underway := underway })
    (hfewer : underway ⊆ session.underway) :
    impl.Attached later { session with underway := underway } where
  inSession := hlater
  master := h.master
  domain := h.domain
  activated := h.activated
  image := h.image
  setUp := fun other hother => by
    obtain ⟨configuration, hsetUp⟩ := h.setUp other hother
    exact ⟨configuration, hsetUp.mono hmore⟩
  owned := fun other hother =>
    (h.owned other hother).mono (fun _ hmem => hmem) fun _ hmem => hmem
  remembers := fun other hother =>
    ⟨(h.remembers other hother).active, fun request hrequest hmem =>
      (h.remembers other hother).underway request hrequest (hfewer hmem)⟩
  addresses := h.addresses

theorem Attached.idle (h : impl.Attached history session)
    (hown : own ∈ impl.slaves) (hresting : own.activeSdo = .none)
    {request : ℕ} (hrequest : request ∈ own.requests) :
    session.Idle (some request) := by
  obtain ⟨size, hsize⟩ := (h.owned own hown).requested hrequest
  refine ⟨request, size, rfl, fun hmem => ?_, hsize⟩
  exact ((h.remembers own hown).underway request hrequest hmem).1 hresting

/-- A request goes under way for a resting slave. -/
theorem Attached.start_carried (h : impl.Attached history session)
    (hactive : session.active = true) (hown : own ∈ impl.slaves)
    (hsame : SameObjects own next) (hresting : own.activeSdo = .none)
    (hbusy : next.activeSdo ≠ .none) {request : ℕ}
    (hrequest : request ∈ own.requests)
    (hremembered : next.activeRequest = some request)
    (hmore : history <+: later)
    (hlater : InSession later { session with
      underway := session.underway ++ [request] }) :
    Carried impl (impl.setSlave next) later := by
  refine h.transfer_carried hactive hown hsame hmore hlater ?_ ?_
  · refine ⟨fun _ => ⟨request, hsame.requests ▸ hrequest, hremembered⟩, ?_⟩
    intro other hother hmem
    rw [hsame.requests] at hother
    rw [List.mem_append, List.mem_singleton] at hmem
    obtain hbefore | rfl := hmem
    · have hremembers := (h.remembers own hown).underway other hother hbefore
      exact absurd hresting hremembers.1
    · exact ⟨hbusy, hremembered⟩
  · intro other hmem
    rw [List.mem_append, List.mem_singleton] at hmem
    obtain hbefore | rfl := hmem
    · exact .inl hbefore
    · exact .inr hrequest

theorem activeSlave_eq_some {address : EthercatSlaveAddress}
    (hfound : impl.activeSlave address = some own) :
    own ∈ impl.slaves ∧ own.address = address := by
  rw [activeSlave] at hfound
  split_ifs at hfound
  exact findSlave_eq_some hfound

theorem finish_sameObjects (own : Slave) : SameObjects own own.finish :=
  ⟨rfl, rfl, rfl, rfl, rfl⟩

theorem clear_sameObjects (own : Slave) : SameObjects own own.clear :=
  ⟨rfl, rfl, rfl, rfl, rfl⟩

/-- Asking for the state of a request which a slave remembers. -/
theorem Attached.requestState_leads (h : impl.Attached history session)
    (hactive : session.active = true) (hown : own ∈ impl.slaves)
    (hbusy : own.activeSdo ≠ .none)
    {success : ℕ × Answer → History EcrtCall Answer → Prop}
    (hwaiting : ∀ answer later, history <+: later →
      answer.requestState = .unused ∨ answer.requestState = .busy →
      InSession later session → success (history.length, answer) later)
    (hended : ∀ answer later, history <+: later →
      ¬(answer.requestState = .unused ∨ answer.requestState = .busy) →
      InSession later { session with
        underway := session.underway.filter (some · ≠ own.activeRequest) } →
      success (history.length, answer) later) :
    (Script.ask (.requestState own.activeRequest)).Leads answering success
      (fun _ _ => False : Empty → _) history := by
  obtain ⟨request, hrequest, hactiveRequest⟩ :=
    (h.remembers own hown).active hbusy
  obtain ⟨size, hsize⟩ := (h.owned own hown).requested hrequest
  refine ask_leads h.inSession ⟨hactive, request, size, hactiveRequest, hsize⟩
    fun answer hnext => ?_
  have hmore := List.prefix_append history
    [(.requestState own.activeRequest, answer)]
  simp only [Session.advance] at hnext
  by_cases hstate : answer.requestState = .unused ∨
      answer.requestState = .busy
  · rw [if_pos hstate] at hnext
    exact hwaiting answer _ hmore hstate hnext
  · rw [if_neg hstate] at hnext
    exact hended answer _ hmore hstate hnext

theorem scheduleDownload_leads (h : impl.Attached history session)
    (hactive : session.active = true) (hown : own ∈ impl.slaves)
    (hresting : own.activeSdo = .none) {handle : ℕ}
    {request : SdoDownloadRequest} (hhandle : handle ∈ own.requests)
    (hsize : (handle, request.data.length) ∈ session.requests) :
    (impl.scheduleDownload own handle request).Leads answering
      (fun result later => Carried impl result.1 later) (fun _ _ => False)
      history := by
  have hidle := h.idle hown hresting hhandle
  have hfree : handle ∉ session.underway := fun hmem =>
    ((h.remembers own hown).underway handle hhandle hmem).1 hresting
  rw [scheduleDownload, leads_bind]
  refine ask_leads h.inSession ⟨hidle, hactive⟩ fun measured hmeasured => ?_
  have hattached := h.ask hmeasured
  rw [leads_ite]
  split_ifs
  · exact hattached.carried hactive
  rw [leads_bind]
  refine ask_leads hmeasured ⟨hidle, hactive⟩ fun selected hselected => ?_
  have hasked := hattached.ask hselected
  rw [leads_ite]
  split_ifs
  · exact hasked.carried hactive
  rw [leads_bind]
  refine ask_leads hselected
    ⟨hactive, handle, request.data.length, rfl, hfree, hsize, le_rfl⟩
    fun copied hcopied => ?_
  have hwritten := hasked.ask hcopied
  rw [leads_bind]
  refine ask_leads hcopied ⟨hidle, hactive⟩ fun scheduled hscheduled => ?_
  rw [leads_ite]
  by_cases hcode : scheduled.code < 0
  · simp only [Session.advance, if_pos hcode] at hscheduled
    rw [if_pos hcode]
    exact (hwritten.ask hscheduled).carried hactive
  · simp only [Session.advance, if_neg hcode] at hscheduled
    rw [if_neg hcode]
    exact hwritten.start_carried hactive hown ⟨rfl, rfl, rfl, rfl, rfl⟩
      hresting (by simp) hhandle rfl (List.prefix_append _ _) hscheduled

theorem progressDownloadSdo_leads (slave : EthercatSlaveAddress)
    (request : SdoDownloadRequest) (h : impl.Attached history session)
    (hactive : session.active = true) :
    (impl.progressDownloadSdo slave request).Leads answering
      (fun result later => Carried impl result.1 later) (fun _ _ => False)
      history := by
  rw [progressDownloadSdo]
  cases hfound : impl.activeSlave slave with
  | none => exact h.carried hactive
  | some own =>
      obtain ⟨hown, -⟩ := activeSlave_eq_some hfound
      dsimp only
      by_cases hsize : request.data.length ∉ kDownloadRequestSizes
      · rw [if_pos hsize]
        exact h.carried hactive
      rw [if_neg hsize]
      rw [not_not] at hsize
      by_cases hresting : own.activeSdo = .none
      · rw [if_pos hresting]
        cases hhandle : own.downloadRequests[
            kDownloadRequestSizes.idxOf request.data.length]? with
        | none => exact h.carried hactive
        | some handle =>
            obtain ⟨size, hindex, hmem⟩ :=
              forall₂_getElem? (h.owned own hown).downloads hhandle
            rw [List.getElem?_idxOf hsize, Option.some.injEq] at hindex
            subst hindex
            exact scheduleDownload_leads h hactive hown hresting
              (List.mem_append_left _ (List.mem_of_getElem? hhandle)) hmem
      rw [if_neg hresting, leads_ite]
      split_ifs
      · exact h.carried hactive
      rw [leads_bind]
      refine h.requestState_leads hactive hown hresting ?_ ?_
      · intro answer later hmore hstate hlater
        have hsame : impl.Attached later session :=
          h.grow hmore hlater rfl rfl rfl rfl (fun _ hmem => hmem)
            fun _ hmem => hmem
        obtain hstate | hstate := hstate <;> rw [hstate] <;>
          exact hsame.carried hactive
      · intro answer later hmore hstate hlater
        have hfinished := h.finish_carried hactive hown
          (finish_sameObjects own) rfl hmore hlater
        cases hreported : answer.requestState <;> simp_all

theorem progressUploadSdo_leads (slave : EthercatSlaveAddress)
    (address : ObjectAddress) (destination : List (BitVec 8))
    (h : impl.Attached history session) (hactive : session.active = true) :
    (impl.progressUploadSdo slave address destination).Leads answering
      (fun result later => Carried impl result.1 later) (fun _ _ => False)
      history := by
  rw [progressUploadSdo]
  cases hfound : impl.activeSlave slave with
  | none => exact h.carried hactive
  | some own =>
      obtain ⟨hown, -⟩ := activeSlave_eq_some hfound
      have hupload : own.uploadRequest ∈ own.requests :=
        List.mem_append_right _ (List.mem_singleton_self _)
      dsimp only
      by_cases hcapacity : (destination.isEmpty ||
          decide (kMailboxCapacity < destination.length)) = true
      · rw [if_pos hcapacity]
        exact h.carried hactive
      rw [if_neg hcapacity]
      by_cases hresting : own.activeSdo = .none
      · have hidle := h.idle hown hresting hupload
        rw [if_pos hresting, leads_bind]
        refine ask_leads h.inSession ⟨hidle, hactive⟩
          fun selected hselected => ?_
        have hasked := h.ask hselected
        rw [leads_ite]
        split_ifs
        · exact hasked.carried hactive
        rw [leads_bind]
        refine ask_leads hselected ⟨hidle, hactive⟩
          fun scheduled hscheduled => ?_
        rw [leads_ite]
        by_cases hcode : scheduled.code < 0
        · simp only [Session.advance, if_pos hcode] at hscheduled
          rw [if_pos hcode]
          exact (hasked.ask hscheduled).carried hactive
        · simp only [Session.advance, if_neg hcode] at hscheduled
          rw [if_neg hcode]
          exact hasked.start_carried hactive hown ⟨rfl, rfl, rfl, rfl, rfl⟩
            hresting (by simp) hupload rfl (List.prefix_append _ _) hscheduled
      rw [if_neg hresting, leads_ite]
      split_ifs
      · exact h.carried hactive
      rw [leads_bind]
      refine h.requestState_leads hactive hown hresting ?_ ?_
      · intro answer later hmore hstate hlater
        have hsame : impl.Attached later session :=
          h.grow hmore hlater rfl rfl rfl rfl (fun _ hmem => hmem)
            fun _ hmem => hmem
        obtain hstate | hstate := hstate <;> rw [hstate] <;>
          exact hsame.carried hactive
      · intro answer later hmore hstate hlater
        have hfinished : ∀ last, history <+: last →
            InSession last { session with
              underway := session.underway.filter
                (some · ≠ own.activeRequest) } →
            Carried impl (impl.setSlave own.finish) last :=
          fun last hlonger hlast => h.finish_carried hactive hown
            (finish_sameObjects own) rfl hlonger hlast
        cases hreported : answer.requestState with
        | unused => simp [hreported] at hstate
        | busy => simp [hreported] at hstate
        | error => exact hfinished later hmore hlater
        | other => exact hfinished later hmore hlater
        | success =>
            obtain ⟨request, hrequest, hactiveRequest⟩ :=
              (h.remembers own hown).active hresting
            obtain ⟨size, hsize⟩ := (h.owned own hown).requested hrequest
            have hfree : request ∉ session.underway.filter
                (some · ≠ own.activeRequest) := by
              simp [hactiveRequest]
            dsimp only
            rw [leads_bind]
            refine ask_leads hlater
              ⟨⟨request, size, hactiveRequest, hfree, hsize⟩, hactive⟩
              fun measured hmeasured => ?_
            have hlonger := hmore.trans (List.prefix_append later
              [(.requestDataSize own.activeRequest, measured)])
            rw [leads_ite]
            split_ifs
            · exact hfinished _ hlonger hmeasured
            rw [leads_bind]
            refine ask_leads hmeasured ⟨hactive, request, size,
              hactiveRequest, hfree, hsize, Nat.zero_le size⟩
              fun memory hmemory => ?_
            exact hfinished _ (hlonger.trans (List.prefix_append _ _)) hmemory

theorem progressCancelSdo_leads (slave : EthercatSlaveAddress)
    (h : impl.Attached history session) (hactive : session.active = true) :
    (impl.progressCancelSdo slave).Leads answering
      (fun result later => Carried impl result.1 later) (fun _ _ => False)
      history := by
  rw [progressCancelSdo]
  cases hfound : impl.activeSlave slave with
  | none => exact h.carried hactive
  | some own =>
      obtain ⟨hown, -⟩ := activeSlave_eq_some hfound
      dsimp only
      by_cases hresting : own.activeSdo = .none ∨ own.activeRequest = none
      · rw [if_pos hresting]
        exact h.carried hactive
      rw [if_neg hresting, leads_bind]
      rw [not_or] at hresting
      refine h.requestState_leads hactive hown hresting.1 ?_ ?_
      · intro answer later hmore hstate hlater
        have hsame : impl.Attached later session :=
          h.grow hmore hlater rfl rfl rfl rfl (fun _ hmem => hmem)
            fun _ hmem => hmem
        obtain hstate | hstate := hstate <;> rw [hstate] <;>
          exact hsame.carried hactive
      · intro answer later hmore hstate hlater
        have hcleared := h.finish_carried hactive hown
          (clear_sameObjects own) rfl hmore hlater
        have hfewer := (h.fewer hmore hlater fun request hmem =>
          (List.mem_filter.mp hmem).1).carried hactive
        cases hreported : answer.requestState <;> simp_all

end Sessions

end Impl

end Igh

end PolicyRuntime
