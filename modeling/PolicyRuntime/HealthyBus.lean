import Mathlib.Data.List.GetD
import PolicyRuntime.BusExchange
import PolicyRuntime.DeviceRegistry

/-!
# Buses whose servos answer

A reply is matched to a request only by its place in the queue of the transport.
While every answer is received with its own request, or while there is only one
servo to answer, the bus never latches and every feedback comes from an answer
of its servo.
-/

namespace PolicyRuntime

open FloatingPoint

variable {D τ ε : Type} [DoubleArithmetic D]

/-! ## Runs -/

/-- A run of a bus on a line. -/
abbrev LineHistory (D : Type) :=
  List (Transition (St3215Bus D SerialLine) (BusInput D LineAnswer)
    (List BusEvent))

/-- A request to the servo was answered with the parameters. -/
def Answered (history : LineHistory D) (servo : ℕ) (parameters : Bytes) :
    Prop :=
  ∃ t ∈ history, ∃ input request goal, t.input = .cycle input ∧
    .write servo request goal ∈ t.output ∧
    input.environment.parameters = parameters

omit [DoubleArithmetic D] in
theorem Answered.append {history : LineHistory D} {servo : ℕ}
    {parameters : Bytes} (hanswered : Answered history servo parameters)
    (later : LineHistory D) :
    Answered (history ++ later) servo parameters := by
  obtain ⟨t, hmem, hrest⟩ := hanswered
  exact ⟨t, List.mem_append_left later hmem, hrest⟩

/-- The reference is not before the last two of the times. -/
def Recent (times : List ℤ) (reference : ℤ) : Prop :=
  ∃ index < times.length, times.length ≤ index + 2 ∧
    times.getD index 0 ≤ reference

/-- So many consecutive times span less than the given time. -/
def CyclesSpaced (window : ℕ) (span : ℤ) (times : List ℤ) : Prop :=
  ∀ last < times.length, ∀ first ≤ last, last < first + window →
    times.getD last 0 - times.getD first 0 < span

instance (window : ℕ) (span : ℤ) (times : List ℤ) :
    Decidable (CyclesSpaced window span times) :=
  inferInstanceAs (Decidable (∀ last < times.length, ∀ first ≤ last,
    last < first + window → times.getD last 0 - times.getD first 0 < span))

theorem Recent.within {times : List ℤ} {reference : ℤ}
    (hrecent : Recent times reference) {window : ℕ} (hwindow : 3 ≤ window)
    {span nowNs : ℤ} (hspaced : CyclesSpaced window span (times ++ [nowNs])) :
    nowNs - reference < span := by
  obtain ⟨index, hindex, hlast, hle⟩ := hrecent
  have hspan := hspaced times.length (by simp) index hindex.le (by omega)
  have hnow : (times ++ [nowNs]).getD times.length 0 = nowNs := by
    simp
  have hthen : (times ++ [nowNs]).getD index 0 = times.getD index 0 := by
    exact List.getD_append times [nowNs] 0 index hindex
  omega

/-- Where the answers are which the bus waits for. -/
inductive Pending (config : SerialConfig) (times : List ℤ)
    (history : LineHistory D) (bus : St3215Bus D SerialLine) : Prop
  | idle (hdispatched : bus.dispatched = false)
      (htimes : times = [bus.startedNs])
      (hline : LineOk config bus.transport [] [])
  | answered (parameters : Bytes) (hdispatched : bus.dispatched = true)
      (hfits : AnswerFits config parameters)
      (hsent : Answered history bus.pendingIndex parameters)
      (hline : LineOk config bus.transport [bus.answer parameters] [])
  | backlog (parameters next : Bytes) (hsingle : bus.servoCount = 1)
      (hdispatched : bus.dispatched = true)
      (hfits : AnswerFits config parameters)
      (hsent : Answered history bus.pendingIndex parameters)
      (hnextFits : AnswerFits config next)
      (hnextSent : Answered history bus.pendingIndex next)
      (hline : LineOk config bus.transport [bus.answer parameters]
        [bus.answer next])
  | late (next : Bytes) (hsingle : bus.servoCount = 1)
      (hdispatched : bus.dispatched = true)
      (hnextFits : AnswerFits config next)
      (hnextSent : Answered history bus.pendingIndex next)
      (hline : LineOk config bus.transport [] [bus.answer next])
      (htimeout : bus.transport.transport.lastError = .timeout)
      (hrecent : Recent times (max
        (bus.servos bus.pendingIndex).lastResponseNs bus.startedNs))

structure Serving (config : SerialConfig) (times : List ℤ)
    (history : LineHistory D) (bus : St3215Bus D SerialLine) : Prop where
  running : bus.running = true
  pendingIndex : bus.pendingIndex < bus.servoCount
  unlatched : bus.faultLatched = false
  convertible : ∀ servo < bus.servoCount, (bus.servos servo).Convertible
  pending : Pending config times history bus

/-- What is on the line once the pending answer has been polled. -/
inductive Polled (config : SerialConfig) (times : List ℤ)
    (history : LineHistory D) (bus : St3215Bus D SerialLine) : Prop
  | clear (hline : LineOk config bus.transport [] [])
      (hrecent : bus.servoCount = 1 →
        Recent times (max (bus.servos 0).lastResponseNs bus.startedNs))
  | held (next : Bytes) (hsingle : bus.servoCount = 1)
      (hfits : AnswerFits config next) (hsent : Answered history 0 next)
      (hline : LineOk config bus.transport []
        [St3215Protocol.statusPacket (bus.servos 0).servo.config.deviceId 0
          next])

section Poll

variable {config : SerialConfig} {times : List ℤ} {history : LineHistory D}
  {bus : St3215Bus D SerialLine}

theorem recent_last (times : List ℤ) {nowNs reference : ℤ}
    (hle : nowNs ≤ reference) : Recent (times ++ [nowNs]) reference := by
  refine ⟨times.length, by simp, by simp, ?_⟩
  simpa using hle

theorem Serving.poll (hserving : Serving config times history bus)
    (input : BusCycle D LineAnswer)
    (hspaced : ∀ servo < bus.servoCount, CyclesSpaced (2 * bus.servoCount + 2)
      ((bus.servos servo).servo.config.feedbackTimeout * 1000000)
      (times ++ [input.nowNs])) :
    ∃ polled, bus.pollPhase linePort input = (polled, false) ∧
      SameBus bus polled ∧
      (∀ servo, FeedbackFrom (Answered history servo) (bus.servos servo)
        (polled.servos servo)) ∧
      Polled config (times ++ [input.nowNs]) history polled := by
  have hpending := hserving.pendingIndex
  have hunits := (hserving.convertible _ hpending).units
  have hconfig := fun servo =>
    ((published_moves linePort input.nowNs).changes.pollPhase bus input rfl
      servo).1
  cases hserving.pending with
  | idle hdispatched htimes hline =>
      have hpolled : bus.pollPhase linePort input = (bus, false) := by
        unfold St3215Bus.pollPhase
        rw [if_neg (by simp [hdispatched])]
      refine ⟨bus, hpolled, ⟨rfl, rfl, rfl, rfl, rfl, rfl⟩,
        fun _ => Or.inl rfl, .clear hline fun _ => ?_⟩
      rw [htimes]
      refine ⟨0, by simp, by simp, ?_⟩
      exact le_max_right _ _
  | answered parameters hdispatched hfits hsent hline =>
      obtain ⟨polled, hpolled, hsame, hleft, hnow, hcarries, hothers⟩ :=
        pollPhase_answered hdispatched hunits hfits hline input
      refine ⟨polled, hpolled, hsame, ?_, .clear hleft fun hsingle => ?_⟩
      · intro servo
        by_cases hservo : servo = bus.pendingIndex
        · subst hservo
          exact Or.inr ⟨parameters, hsent, hcarries⟩
        · rw [hothers servo hservo]
          exact Or.inl rfl
      · rw [hsame.servoCount] at hsingle
        have hzero : bus.pendingIndex = 0 := by omega
        rw [hzero] at hnow
        rw [hnow]
        exact recent_last times (le_max_left _ _)
  | backlog parameters next hsingle hdispatched hfits hsent hnextFits hnextSent
      hline =>
      obtain ⟨polled, hpolled, hsame, hleft, hnow, hcarries, hothers⟩ :=
        pollPhase_answered hdispatched hunits hfits hline input
      have hzero : bus.pendingIndex = 0 := by omega
      refine ⟨polled, hpolled, hsame, ?_, .held next ?_ hnextFits ?_ ?_⟩
      · intro servo
        by_cases hservo : servo = bus.pendingIndex
        · subst hservo
          exact Or.inr ⟨parameters, hsent, hcarries⟩
        · rw [hothers servo hservo]
          exact Or.inl rfl
      · rw [hsame.servoCount, hsingle]
      · rw [← hzero]
        exact hnextSent
      · rw [hpolled] at hconfig
        rw [hconfig 0, ← hzero]
        exact hleft
  | late next hsingle hdispatched hnextFits hnextSent hline htimeout hrecent =>
      have hwithin := hrecent.within (by omega)
        (hspaced bus.pendingIndex hpending)
      obtain ⟨polled, hpolled, hsame, hleft, hservos⟩ :=
        pollPhase_late hdispatched hline htimeout input hwithin.le
      have hzero : bus.pendingIndex = 0 := by omega
      refine ⟨polled, hpolled, hsame, ?_, .held next ?_ hnextFits ?_ ?_⟩
      · intro servo
        left
        rw [hservos servo]
      · rw [hsame.servoCount, hsingle]
      · rw [← hzero]
        exact hnextSent
      · rw [hleft, hservos 0, ← hzero]
        exact hline

theorem Polled.stages (hpolled : Polled config times history bus)
    (inputs : List (StageInput D)) :
    Polled config times history (inputs.foldl St3215Bus.stage bus) := by
  obtain ⟨hsame, htransport, hresponse⟩ := sameBus_stages bus inputs
  cases hpolled with
  | clear hline hrecent =>
      refine .clear ?_ ?_
      · rw [htransport]
        exact hline
      · rw [hsame.servoCount, hresponse, hsame.startedNs]
        exact hrecent
  | held next hsingle hfits hsent hline =>
      refine .held next ?_ hfits hsent ?_
      · rw [hsame.servoCount, hsingle]
      · rw [htransport, ((published_moves linePort 0).changes.stages bus inputs
          0).1]
        exact hline

/-- The next answer is received with its request, or it follows the one before
to the single servo. -/
theorem Polled.dispatch (hpolled : Polled config times history bus)
    (hpending : bus.pendingIndex < bus.servoCount)
    (hconvertible : ∀ servo < bus.servoCount,
      (bus.servos servo).Convertible)
    (htimeout : config.readTimeout = 0)
    (hrequest : 13 ≤ config.maximumFrameSize)
    (input : BusCycle D LineAnswer)
    (hfits : AnswerFits config input.environment.parameters)
    (hprompt : bus.servoCount = 1 ∨
      input.environment.parameters.length + 6 ≤ input.environment.arrived) :
    ∃ after events, bus.dispatchPhase linePort input = (after, events) ∧
      after.running = bus.running ∧ after.faultLatched = bus.faultLatched ∧
      after.servoCount = bus.servoCount ∧
      after.pendingIndex < after.servoCount ∧
      (∀ servo, (after.servos servo).servo = (bus.servos servo).servo) ∧
      ∀ before, Pending config times
        (history ++ [⟨before, .cycle input, events, after⟩]) after := by
  generalize hcursor :
    (if bus.dispatched then (bus.pendingIndex + 1) % bus.servoCount else 0) =
      cursor
  have hbelow : cursor < bus.servoCount := by
    rw [← hcursor]
    split
    · exact Nat.mod_lt _ (by omega)
    · omega
  have hline : ∃ outstanding, LineOk config bus.transport [] outstanding := by
    cases hpolled with
    | clear hline _ => exact ⟨_, hline⟩
    | held next _ _ _ hline => exact ⟨_, hline⟩
  obtain ⟨outstanding, hline⟩ := hline
  obtain ⟨after, events, request, goal, hdispatch, hwrite, haddress,
    htransport, hrunning, hcount, hstarted, hlatched, hdispatched, hindex,
    hservos⟩ := dispatchPhase_written hline hrequest hcursor.symm
      (hconvertible cursor hbelow) input
  refine ⟨after, events, hdispatch, hrunning, hlatched, hcount, ?_,
    fun servo => (hservos servo).1, fun before => ?_⟩
  · rw [hindex, hcount]
    exact hbelow
  have hsent : Answered (history ++ [⟨before, .cycle input, events, after⟩])
      after.pendingIndex input.environment.parameters := by
    refine ⟨_, List.mem_append_right history List.mem_cons_self, input, request,
      goal, rfl, ?_, rfl⟩
    rw [hindex]
    exact hwrite
  have hanswer : ∀ parameters, after.answer parameters =
      St3215Protocol.statusPacket (request.getD 2 0) 0 parameters := by
    intro parameters
    unfold St3215Bus.answer
    rw [hindex, (hservos cursor).1, haddress]
  cases hpolled with
  | clear hline hrecent =>
      by_cases harrived : input.environment.parameters.length + 6 ≤
          input.environment.arrived
      · refine .answered _ hdispatched hfits hsent ?_
        rw [hanswer, htransport]
        exact hline.answer_prompt htimeout request hfits harrived
      · have hsingle : bus.servoCount = 1 :=
          hprompt.resolve_right harrived
        have hzero : cursor = 0 := by omega
        obtain ⟨hlate, herror⟩ := hline.answer_late htimeout request hfits
          (not_le.mp harrived)
        refine .late _ (hcount.trans hsingle) hdispatched hfits hsent ?_ ?_ ?_
        · rw [hanswer, htransport]
          exact hlate
        · rw [htransport]
          exact herror
        · rw [hindex, (hservos cursor).2, hstarted, hzero]
          exact hrecent hsingle
  | held next hsingle hnextFits hnextSent hline =>
      have hzero : cursor = 0 := by omega
      have hdevice : (bus.servos 0).servo.config.deviceId =
          request.getD 2 0 := by
        rw [haddress, hzero]
      rw [hdevice] at hline
      refine .backlog next _ (hcount.trans hsingle) hdispatched hnextFits ?_
        hfits hsent ?_
      · rw [hindex, hzero]
        exact hnextSent.append _
      · rw [hanswer, hanswer, htransport]
        exact hline.answer_backlog htimeout request hfits
          (hnextFits.wellFramed _) (hnextFits.length_le _)

omit [DoubleArithmetic D] in
/-- The pending answers of a bus do not depend on its commands and feedback. -/
theorem Pending.of_same {after : St3215Bus D SerialLine}
    (hpending : Pending config times history bus) (hsame : SameBus bus after)
    (htransport : after.transport = bus.transport)
    (hconfig : ∀ servo, (after.servos servo).servo.config =
      (bus.servos servo).servo.config)
    (hresponse : ∀ servo, (after.servos servo).lastResponseNs =
      (bus.servos servo).lastResponseNs) (later : LineHistory D) :
    Pending config times (history ++ later) after := by
  have hanswer : ∀ parameters, after.answer parameters =
      bus.answer parameters := by
    intro parameters
    unfold St3215Bus.answer
    rw [hsame.pendingIndex, hconfig]
  cases hpending with
  | idle hdispatched htimes hline =>
      refine .idle (hsame.dispatched.trans hdispatched) ?_ ?_
      · rw [htimes, hsame.startedNs]
      · rw [htransport]
        exact hline
  | answered parameters hdispatched hfits hsent hline =>
      refine .answered parameters (hsame.dispatched.trans hdispatched) hfits ?_
        ?_
      · rw [hsame.pendingIndex]
        exact hsent.append later
      · rw [htransport, hanswer]
        exact hline
  | backlog parameters next hsingle hdispatched hfits hsent hnextFits hnextSent
      hline =>
      refine .backlog parameters next (hsame.servoCount.trans hsingle)
        (hsame.dispatched.trans hdispatched) hfits ?_ hnextFits ?_ ?_
      · rw [hsame.pendingIndex]
        exact hsent.append later
      · rw [hsame.pendingIndex]
        exact hnextSent.append later
      · rw [htransport, hanswer, hanswer]
        exact hline
  | late next hsingle hdispatched hnextFits hnextSent hline htimeout hrecent =>
      refine .late next (hsame.servoCount.trans hsingle)
        (hsame.dispatched.trans hdispatched) hnextFits ?_ ?_ ?_ ?_
      · rw [hsame.pendingIndex]
        exact hnextSent.append later
      · rw [htransport, hanswer]
        exact hline
      · rw [htransport]
        exact htimeout
      · rw [hsame.pendingIndex, hresponse, hsame.startedNs]
        exact hrecent

theorem Serving.counted (hserving : Serving config times history bus)
    (cycleSequence : ℕ) :
    Serving config times history
      { bus with cycleSequence := cycleSequence } := by
  have hsame : SameBus bus { bus with cycleSequence := cycleSequence } :=
    ⟨rfl, rfl, rfl, rfl, rfl, rfl⟩
  refine ⟨hserving.running, hserving.pendingIndex, hserving.unlatched,
    hserving.convertible, ?_⟩
  rw [← List.append_nil history]
  exact hserving.pending.of_same hsame rfl (fun _ => rfl) (fun _ => rfl) []

theorem Serving.cycle (hserving : Serving config times history bus)
    (htimeout : config.readTimeout = 0)
    (hrequest : 13 ≤ config.maximumFrameSize)
    (input : BusCycle D LineAnswer)
    (hfits : AnswerFits config input.environment.parameters)
    (hprompt : bus.servoCount = 1 ∨
      input.environment.parameters.length + 6 ≤ input.environment.arrived)
    (hspaced : ∀ servo < bus.servoCount, CyclesSpaced (2 * bus.servoCount + 2)
      ((bus.servos servo).servo.config.feedbackTimeout * 1000000)
      (times ++ [input.nowNs])) :
    Serving config (times ++ [input.nowNs])
        (history ++ [(busMachine linePort).fire bus (.cycle input)])
        (bus.cycle linePort input).1 ∧
      (bus.cycle linePort input).1.servoCount = bus.servoCount ∧
      ∀ servo, FeedbackFrom (Answered history servo) (bus.servos servo)
        ((bus.cycle linePort input).1.servos servo) := by
  have hcount : 0 < bus.servoCount :=
    lt_of_le_of_lt (Nat.zero_le _) hserving.pendingIndex
  have hmoved :=
    (convertible_moves linePort input.nowNs).changes.cycle bus input rfl
  obtain ⟨polled, hpolled, hsame, hfeedback, hleft⟩ :=
    (hserving.counted (bus.cycleSequence + 1)).poll input hspaced
  have hunlatched : polled.faultLatched = false :=
    hsame.faultLatched.trans hserving.unlatched
  have hcycle := cycle_of_polled hserving.running hcount hserving.unlatched
    hpolled hunlatched
  obtain ⟨hstaged, _, _⟩ := sameBus_stages polled input.staged
  have hboth := hsame.trans hstaged
  have hconvertible : ∀ servo < bus.servoCount,
      ((input.staged.foldl St3215Bus.stage polled).servos
        servo).Convertible := by
    intro servo hservo
    have hmoves := (convertible_moves (D := D) linePort input.nowNs).changes
    refine hmoves.stages polled input.staged servo ?_
    have hmove := hmoves.pollPhase
      { bus with cycleSequence := bus.cycleSequence + 1 } input rfl servo
    rw [hpolled] at hmove
    exact hmove (hserving.convertible servo hservo)
  obtain ⟨after, events, hdispatch, hrunning, hlatched, hservoCount, hpending,
    hservos, hnext⟩ := (hleft.stages input.staged).dispatch
      (by rw [hboth.pendingIndex, hboth.servoCount]; exact hserving.pendingIndex)
      (by rw [hboth.servoCount]; exact hconvertible) htimeout hrequest input
      hfits (by rw [hboth.servoCount]; exact hprompt)
  have hfire : (busMachine linePort).fire bus (.cycle input) =
      ⟨bus, .cycle input, events, after⟩ := by
    unfold Machine.fire busMachine
    simp only [hcycle, hdispatch]
  rw [hfire]
  rw [hcycle, hdispatch] at hmoved ⊢
  refine ⟨⟨?_, hpending, ?_, ?_, hnext bus⟩,
    hservoCount.trans hboth.servoCount, ?_⟩
  · exact hrunning.trans (hboth.running.trans hserving.running)
  · exact hlatched.trans (hboth.faultLatched.trans hserving.unlatched)
  · intro servo hservo
    rw [hservoCount, hboth.servoCount] at hservo
    exact hmoved servo (hserving.convertible servo hservo)
  · intro servo
    have hkept := (sameFaults_stages polled input.staged).feedback servo
    unfold FeedbackFrom
    rw [hservos servo, hkept]
    exact hfeedback servo

theorem Serving.stage (hserving : Serving config times history bus)
    (input : StageInput D)
    (t : Transition (St3215Bus D SerialLine) (BusInput D LineAnswer)
      (List BusEvent)) :
    Serving config times (history ++ [t]) (bus.stage input) := by
  have hstaged := sameBus_stages bus [input]
  rw [List.foldl_cons, List.foldl_nil] at hstaged
  obtain ⟨hsame, htransport, hresponse⟩ := hstaged
  have hconfig : ∀ servo, ((bus.stage input).servos servo).servo.config =
      (bus.servos servo).servo.config := fun servo =>
    ((published_moves linePort 0).changes.stages bus [input] servo).1
  have hconvertible : ∀ servo, (bus.servos servo).Convertible →
      ((bus.stage input).servos servo).Convertible :=
    (convertible_moves linePort 0).changes.stages bus [input]
  refine ⟨hsame.running.trans hserving.running, ?_,
    hsame.faultLatched.trans hserving.unlatched, ?_,
    hserving.pending.of_same hsame htransport hconfig hresponse [t]⟩
  · rw [hsame.pendingIndex, hsame.servoCount]
    exact hserving.pendingIndex
  · rw [hsame.servoCount]
    intro servo hservo
    exact hconvertible servo (hserving.convertible servo hservo)

end Poll

def BusInput.times : BusInput D ε → List ℤ
  | .cycle input => [input.nowNs]
  | _ => []

/-- The bus is only driven and staged to, and a request is answered by a frame
which fits. -/
def BusInput.Answers (config : SerialConfig) : BusInput D LineAnswer → Prop
  | .cycle input => AnswerFits config input.environment.parameters
  | .stage _ => True
  | _ => False

/-- The whole answer is readable in the cycle of its request. -/
def BusInput.Prompt : BusInput D LineAnswer → Prop
  | .cycle input =>
      input.environment.parameters.length + 6 ≤ input.environment.arrived
  | _ => True

/-- Requests are answered, and `2 * n + 2` consecutive cycles, with the start as
the first, span less than the feedback timeout of every servo. -/
structure HealthyRun (config : SerialConfig) (bus : St3215Bus D SerialLine)
    (startNs : ℤ) (inputs : List (BusInput D LineAnswer)) : Prop where
  answers : ∀ input ∈ inputs, input.Answers config
  spaced : ∀ servo < bus.servoCount, CyclesSpaced (2 * bus.servoCount + 2)
    ((bus.servos servo).servo.config.feedbackTimeout * 1000000)
    (startNs :: inputs.flatMap BusInput.times)

theorem CyclesSpaced.of_append {window : ℕ} {span : ℤ} {times later : List ℤ}
    (hspaced : CyclesSpaced window span (times ++ later)) :
    CyclesSpaced window span times := by
  intro last hlast first hle hwindow
  have hspan := hspaced last (by rw [List.length_append]; omega) first hle
    hwindow
  rw [List.getD_append times later 0 last hlast,
    List.getD_append times later 0 first (lt_of_le_of_lt hle hlast)] at hspan
  exact hspan

section Run

variable {config : SerialConfig} {bus : St3215Bus D SerialLine} {startNs : ℤ}

omit [DoubleArithmetic D] in
theorem HealthyRun.of_append {inputs later : List (BusInput D LineAnswer)}
    (hrun : HealthyRun config bus startNs (inputs ++ later)) :
    HealthyRun config bus startNs inputs := by
  refine ⟨fun input hinput => hrun.answers input (by simp [hinput]), ?_⟩
  intro servo hservo
  have hspaced := hrun.spaced servo hservo
  rw [List.flatMap_append, ← List.cons_append] at hspaced
  exact hspaced.of_append

/-- One step of a healthy run. -/
theorem Serving.step {times : List ℤ} {history : LineHistory D}
    (hserving : Serving config times history bus)
    (htimeout : config.readTimeout = 0)
    (hrequest : 13 ≤ config.maximumFrameSize)
    {input : BusInput D LineAnswer} (hanswers : input.Answers config)
    (hprompt : bus.servoCount = 1 ∨ input.Prompt)
    (hspaced : ∀ servo < bus.servoCount, CyclesSpaced (2 * bus.servoCount + 2)
      ((bus.servos servo).servo.config.feedbackTimeout * 1000000)
      (times ++ input.times)) :
    Serving config (times ++ input.times)
        (history ++ [(busMachine linePort).fire bus input])
        ((busMachine linePort).step bus input).1 ∧
      ((busMachine linePort).step bus input).1.servoCount = bus.servoCount ∧
      ∀ servo, FeedbackFrom (Answered history servo) (bus.servos servo)
        (((busMachine linePort).step bus input).1.servos servo) := by
  cases input with
  | stage input =>
      have hstaged := hserving.stage input
        ((busMachine linePort).fire bus (.stage input))
      refine ⟨?_, (sameBus_stages bus [input]).1.servoCount, ?_⟩
      · show Serving config (times ++ []) _ (bus.stage input)
        rw [List.append_nil]
        exact hstaged
      · intro servo
        exact Or.inl ((sameFaults_stage bus input).feedback servo)
  | start nowNs permitted => exact absurd hanswers id
  | stop => exact absurd hanswers id
  | cycle input =>
      exact hserving.cycle htimeout hrequest input hanswers hprompt hspaced

/-- The bus after the inputs of a healthy run. -/
structure OnRun (config : SerialConfig) (bus : St3215Bus D SerialLine)
    (startNs : ℤ) (inputs : List (BusInput D LineAnswer)) : Prop where
  serving : Serving config (startNs :: inputs.flatMap BusInput.times)
    ((busMachine linePort).trace bus inputs)
    ((busMachine linePort).final bus inputs)
  servoCount : ((busMachine linePort).final bus inputs).servoCount =
    bus.servoCount
  configs : ∀ servo,
    (((busMachine linePort).final bus inputs).servos servo).servo.config =
      (bus.servos servo).servo.config

theorem OnRun.step {inputs : List (BusInput D LineAnswer)}
    (hon : OnRun config bus startNs inputs)
    (htimeout : config.readTimeout = 0)
    (hrequest : 13 ≤ config.maximumFrameSize)
    {input : BusInput D LineAnswer}
    (hrun : HealthyRun config bus startNs (inputs ++ [input]))
    (hprompt : bus.servoCount = 1 ∨ input.Prompt) :
    OnRun config bus startNs (inputs ++ [input]) ∧
      ∀ servo, FeedbackFrom
        (Answered ((busMachine linePort).trace bus inputs) servo)
        (((busMachine linePort).final bus inputs).servos servo)
        (((busMachine linePort).step ((busMachine linePort).final bus inputs)
          input).1.servos servo) := by
  have hspaced := hrun.spaced
  rw [List.flatMap_append, List.flatMap_singleton, ← List.cons_append]
    at hspaced
  rw [← hon.servoCount] at hspaced hprompt
  obtain ⟨hserving, hcount, hfeedback⟩ := hon.serving.step htimeout hrequest
    (hrun.answers input (by simp)) hprompt (fun servo hservo => by
      rw [hon.configs]
      exact hspaced servo hservo)
  refine ⟨⟨?_, ?_, fun servo => ?_⟩, hfeedback⟩
  · rw [List.flatMap_append, List.flatMap_singleton, ← List.cons_append,
      Machine.trace_append, Machine.final_append]
    exact hserving
  · rw [Machine.final_append]
    exact hcount.trans hon.servoCount
  · rw [Machine.final_append, ← hon.configs servo]
    have htime : ∃ nowNs, input.AtTime nowNs := by
      cases input with
      | cycle input => exact ⟨input.nowNs, rfl⟩
      | stage input => exact ⟨0, trivial⟩
      | start nowNs permitted => exact ⟨0, trivial⟩
      | stop => exact ⟨0, trivial⟩
    obtain ⟨nowNs, htime⟩ := htime
    exact (published_step linePort _ htime servo).1

theorem Serving.run (hstart : Serving config [startNs] [] bus)
    (htimeout : config.readTimeout = 0)
    (hrequest : 13 ≤ config.maximumFrameSize)
    {inputs : List (BusInput D LineAnswer)}
    (hrun : HealthyRun config bus startNs inputs)
    (hprompt : bus.servoCount = 1 ∨ ∀ input ∈ inputs, input.Prompt) :
    OnRun config bus startNs inputs := by
  induction inputs using List.reverseRecOn with
  | nil => exact ⟨hstart, rfl, fun _ => rfl⟩
  | append_singleton inputs input ih =>
      have hon := ih hrun.of_append
        (hprompt.imp_right fun hall earlier hearlier =>
          hall earlier (by simp [hearlier]))
      exact (hon.step htimeout hrequest hrun
        (hprompt.imp_right fun hall => hall input (by simp))).1

end Run

/-! ## A bus from its configuration -/

def St3215Bus.addServos (bus : St3215Bus D τ)
    (configs : List St3215ServoConfig) : Except Error (St3215Bus D τ) :=
  configs.foldlM St3215Bus.addServo bus

/-- A bus which servos were added to. -/
structure Assembled (transport : τ) (bus : St3215Bus D τ) : Prop where
  transport : bus.transport = transport
  stopped : bus.running = false
  unlatched : bus.faultLatched = false
  idle : bus.dispatched = false
  pendingIndex : bus.pendingIndex = 0
  convertible : ∀ servo < bus.servoCount, (bus.servos servo).Convertible

theorem Assembled.addServo {transport : τ} {bus added : St3215Bus D τ}
    (hbus : Assembled transport bus) {config : St3215ServoConfig}
    (hadded : bus.addServo config = .ok added) :
    Assembled transport added ∧ added.servoCount = bus.servoCount + 1 := by
  have hservo := servoAdded_of_ok hadded
  exact ⟨⟨hservo.transport.trans hbus.transport,
    hservo.running.trans hbus.stopped,
    hservo.faultLatched.trans hbus.unlatched,
    hservo.dispatched.trans hbus.idle,
    hservo.pendingIndex.trans hbus.pendingIndex,
    hservo.servos ServoRuntime.Convertible hbus.convertible
      (.create hservo.units)⟩, hservo.servoCount⟩

theorem Assembled.addServos {transport : τ}
    {configs : List St3215ServoConfig} {bus added : St3215Bus D τ}
    (hbus : Assembled transport bus)
    (hadded : bus.addServos configs = .ok added) :
    Assembled transport added ∧
      added.servoCount = bus.servoCount + configs.length := by
  induction configs generalizing bus with
  | nil =>
      cases hadded
      exact ⟨hbus, rfl⟩
  | cons config rest ih =>
      unfold St3215Bus.addServos at hadded
      rw [List.foldlM_cons] at hadded
      cases hfirst : bus.addServo config with
      | error error =>
          rw [hfirst] at hadded
          cases hadded
      | ok first =>
          rw [hfirst] at hadded
          obtain ⟨hassembled, hone⟩ := hbus.addServo hfirst
          obtain ⟨hall, hcount⟩ := ih hassembled hadded
          refine ⟨hall, ?_⟩
          rw [hcount, hone, List.length_cons]
          omega

theorem assembled_create (transport : τ) :
    Assembled transport (St3215Bus.create transport [] : St3215Bus D τ) where
  transport := rfl
  stopped := rfl
  unlatched := rfl
  idle := rfl
  pendingIndex := rfl
  convertible := fun _ hservo => absurd hservo (Nat.not_lt_zero _)

theorem Assembled.start {config : SerialConfig} {kernel : Bytes}
    {bus : St3215Bus D SerialLine}
    (hbus : Assembled ⟨.create config, kernel⟩ bus)
    (hvalid : SerialTransport.validConfig config = true)
    (hcount : 0 < bus.servoCount) (startNs : ℤ) :
    Serving config [startNs] [] (bus.start linePort startNs true) ∧
      (bus.start linePort startNs true).servoCount = bus.servoCount ∧
      (bus.start linePort startNs true).servos = bus.servos := by
  have hopened : linePort.openPort ⟨.create config, kernel⟩ =
      (⟨{ SerialTransport.create config with
          opened := true
          health := .healthy
          lastError := .none }, []⟩, true) := by
    simp only [linePort, SerialLine.openPort, SerialTransport.openPort,
      SerialTransport.create, hvalid, Bool.false_eq_true, if_false, if_true]
  have hstarted : bus.start linePort startNs true =
      { bus with
        transport := (linePort.openPort ⟨.create config, kernel⟩).1
        storedHealth := .healthy
        startedNs := startNs
        running := true } := by
    unfold St3215Bus.start
    rw [if_neg (by simp [hbus.stopped]; omega), hbus.transport, hopened]
    simp only [if_true]
  rw [hstarted]
  refine ⟨⟨rfl, ?_, hbus.unlatched, hbus.convertible, ?_⟩, rfl, rfl⟩
  · show bus.pendingIndex < bus.servoCount
    rw [hbus.pendingIndex]
    exact hcount
  · refine .idle hbus.idle rfl ?_
    rw [hopened]
    exact ⟨rfl, rfl, rfl, rfl, rfl⟩

/-- Servos are added to a bus with zero timeouts whose frames hold a goal, and
every request is answered once.  While every answer is readable in the cycle of
its request, or while the bus has one servo, the bus never latches and publishes
for each servo what earlier answers of this servo carry. -/
theorem healthy_bus_unlatched
    (config : SerialConfig)
    (hvalid : SerialTransport.validConfig config = true)
    (htimeout : config.readTimeout = 0)
    (hrequest : 13 ≤ config.maximumFrameSize) (kernel : Bytes)
    (configs : List St3215ServoConfig) (hservos : configs ≠ [])
    (bus : St3215Bus D SerialLine)
    (hadded : (St3215Bus.create ⟨.create config, kernel⟩ []).addServos
      configs = .ok bus)
    (startNs : ℤ) (inputs : List (BusInput D LineAnswer))
    (hrun : HealthyRun config bus startNs inputs)
    (hprompt : bus.servoCount = 1 ∨ ∀ input ∈ inputs, input.Prompt)
    (earlier later : LineHistory D)
    (t : Transition (St3215Bus D SerialLine) (BusInput D LineAnswer)
      (List BusEvent))
    (hsplit : (busMachine linePort).trace (bus.start linePort startNs true)
      inputs = earlier ++ t :: later) :
    t.after.faultLatched = false ∧
      ∀ servo < bus.servoCount, FeedbackFrom (Answered earlier servo)
        (t.before.servos servo) (t.after.servos servo) := by
  obtain ⟨hassembled, hlength⟩ :=
    (assembled_create (SerialLine.mk (.create config) kernel)).addServos hadded
  have hcount : 0 < bus.servoCount := by
    have hpos := List.length_pos_of_ne_nil hservos
    omega
  obtain ⟨hstart, hstartCount, hstartServos⟩ :=
    hassembled.start hvalid hcount startNs
  have hrun' : HealthyRun config (bus.start linePort startNs true) startNs
      inputs := by
    refine ⟨hrun.answers, ?_⟩
    rw [hstartCount, hstartServos]
    exact hrun.spaced
  rw [← hstartCount] at hprompt
  obtain ⟨before, input, after, hinputs, rfl, rfl, _⟩ :=
    Machine.trace_split hsplit
  have hsteps : inputs = before ++ [input] ++ after := by
    rw [hinputs, List.append_assoc]
    rfl
  rw [hsteps] at hrun'
  have hon := hstart.run htimeout hrequest hrun'.of_append.of_append
    (hprompt.imp_right fun hall other hother =>
      hall other (by rw [hinputs]; simp [hother]))
  obtain ⟨hnext, hfeedback⟩ := hon.step htimeout hrequest hrun'.of_append
    (hprompt.imp_right fun hall => hall input (by rw [hinputs]; simp))
  have hunlatched := hnext.serving.unlatched
  rw [Machine.final_append] at hunlatched
  exact ⟨hunlatched, fun servo _ => hfeedback servo⟩

def benchSerial : SerialConfig where
  path := "/dev/ttyUSB0"
  baudRate := 1000000
  readBufferSize := 256
  maximumFrameSize := 259
  readTimeout := 0
  writeTimeout := 0

def benchServo (name : String) (deviceId : UInt8) : St3215ServoConfig where
  name := name
  deviceId := deviceId
  maxPositionUnits := 4095
  speedUnits := 0
  timeUnits := 0
  feedbackTimeout := 250
  commandTimeout := 100000000
  maximumCommandFuture := 0

def benchBus : St3215Bus ℚ SerialLine :=
  { ((St3215Bus.create ⟨.create benchSerial, []⟩ [] :
      St3215Bus ℚ SerialLine).setServo 0
        (.create (.create (benchServo "elbow" 1)))).setServo 1
          (.create (.create (benchServo "wrist" 2))) with
    servoCount := 2 }

/-- A cycle in which no command is staged and so many bytes of the answer are
readable at once. -/
def benchCycle (nowNs : ℤ) (arrived : ℕ) : BusInput ℚ LineAnswer :=
  .cycle ⟨nowNs, true, [], true, ⟨[0x00, 0x08], arrived⟩⟩

theorem addServos_bench :
    (St3215Bus.create ⟨.create benchSerial, []⟩ []).addServos
      [benchServo "elbow" 1, benchServo "wrist" 2] = .ok benchBus := by
  rfl

theorem healthyRun_bench (arrived : ℕ) :
    HealthyRun benchSerial benchBus 10000000
      [benchCycle 20000000 arrived, benchCycle 30000000 8, benchCycle 40000000 8] where
  answers := by
    intro input hinput
    simp only [List.mem_cons, List.not_mem_nil, or_false] at hinput
    rcases hinput with rfl | rfl | rfl <;>
      exact ⟨by simp [kSt3215MaximumParameters], by simp [benchSerial],
        by simp [benchSerial]⟩
  spaced := by
    show ∀ servo < benchBus.servoCount, CyclesSpaced (2 * benchBus.servoCount + 2)
      ((benchBus.servos servo).servo.config.feedbackTimeout * 1000000)
      [10000000, 20000000, 30000000, 40000000]
    decide +kernel

def benchFirst : Transition (St3215Bus ℚ SerialLine) (BusInput ℚ LineAnswer)
    (List BusEvent) :=
  (busMachine linePort).fire (benchBus.start linePort 10000000 true)
    (benchCycle 20000000 8)

def benchSecond : Transition (St3215Bus ℚ SerialLine) (BusInput ℚ LineAnswer)
    (List BusEvent) :=
  (busMachine linePort).fire benchFirst.after (benchCycle 30000000 8)

theorem healthy_bus_unlatched_bench :
    benchSecond.after.faultLatched = false ∧
      ∀ servo < benchBus.servoCount,
        FeedbackFrom (Answered [benchFirst] servo) (benchSecond.before.servos servo)
          (benchSecond.after.servos servo) := by
  refine healthy_bus_unlatched benchSerial (by decide) rfl (by decide) []
    [benchServo "elbow" 1, benchServo "wrist" 2] (by decide) benchBus addServos_bench
    10000000 _ (healthyRun_bench 8) (Or.inr ?_) [benchFirst] _ benchSecond rfl
  intro input hinput
  simp only [List.mem_cons, List.not_mem_nil, or_false] at hinput
  rcases hinput with rfl | rfl | rfl <;> exact Nat.le_refl 8

/-- The first answer becomes readable before the second cycle, whose transport
cycle receives it; the third cycle takes it for the answer of the other servo. -/
theorem late_answer_latches :
    SerialTransport.validConfig benchSerial = true ∧
      benchSerial.readTimeout = 0 ∧
      (St3215Bus.create ⟨.create benchSerial, []⟩ []).addServos
        [benchServo "elbow" 1, benchServo "wrist" 2] = .ok benchBus ∧
      HealthyRun benchSerial benchBus 10000000
        [benchCycle 20000000 0, benchCycle 30000000 8, benchCycle 40000000 8] ∧
      ((busMachine linePort).final (benchBus.start linePort 10000000 true)
        [benchCycle 20000000 0, benchCycle 30000000 8,
          benchCycle 40000000 8]).faultLatched = true := by
  refine ⟨by decide, rfl, addServos_bench, healthyRun_bench 0, ?_⟩
  decide +kernel

end PolicyRuntime
