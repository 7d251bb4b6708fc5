import PolicyRuntime.RuntimeHost

/-!
# Sequences of the published commands

The counters move only when both publications of an action succeed.  A failure
of the second one leaves a published sequence for the next action.
-/

namespace PolicyRuntime

/-- A call of `publish_commands`. -/
structure Publication where
  sequence : ℕ
  timestampNs : ℤ
  succeeded : Bool
  deriving DecidableEq

def HostCall.publication {D F : Type} : HostCall D F → Option Publication
  | .publishCommands _ _ sequence timestampNs succeeded =>
      some ⟨sequence, timestampNs, succeeded⟩
  | .publishDamiao .. => none

/-- What a successful publication fixes for the later ones. -/
def Publication.Before (earlier later : Publication) : Prop :=
  earlier.succeeded → earlier.sequence < later.sequence ∧
    earlier.timestampNs < later.timestampNs

section Requests

variable {D F σ : Type} [DoubleArithmetic D] [SinglePrecision F]
  (setup : HostSetup D F σ)

/-- Every axis and servo finds a numeric target in an action. -/
def hasTargets (output : Fields D) : Bool :=
  (setup.robot.axes.zip setup.axisActuatorNames).all (fun entry =>
      ((output.lookup (actionField setup.outputs entry.2)).bind
        (actionTarget · entry.1.config.mode)).isSome) &&
    setup.robot.servos.all (fun servo =>
      ((output.lookup (actionField setup.outputs servo.actuatorName)).bind
        servoTarget).isSome)

namespace RuntimeHost

/-- The action a request leads to. -/
def actionOf (host : RuntimeHost σ) (request : HostRequest D)
    (answers : HostAnswers D F) : Except HostFailure (Fields D) := do
  let observation ← processedObservation setup answers request.payload
  let session := ((host.sessions request.sessionId).getD
    ⟨request.sessionId, 0⟩)
  let action ←
    (setup.infer host.policy observation session).2.orFail Error.message
  processedAction setup action

/-- A request whose commands are handed to the robot. -/
def Commands (host : RuntimeHost σ) (request : HostRequest D)
    (answers : HostAnswers D F) : Prop :=
  host.isOpen ∧ payloadError setup request = none ∧
    request.type = "observation_request" ∧ setup.hasRobotIo ∧
    ∃ output, host.actionOf setup request answers = .ok output ∧
      hasTargets setup output

end RuntimeHost

theorem isOk_mapM {α β ε : Type} (f : α → Except ε β) (list : List α) :
    (list.mapM f).isOk = list.all fun a => (f a).isOk := by
  induction list with
  | nil => rfl
  | cons a rest ih =>
      rw [List.mapM_cons, List.all_cons, ← ih]
      cases f a with
      | error _ => rfl
      | ok b =>
          cases rest.mapM f with
          | error _ => rfl
          | ok _ => rfl

omit [DoubleArithmetic D] in
theorem isOk_targetOf (outputs : List RobotPolicyBinding) (output : Fields D)
    (actuatorName : String) (target : Json D → Option D) :
    (targetOf outputs output actuatorName target).isOk =
      ((output.lookup (actionField outputs actuatorName)).bind
        target).isSome := by
  unfold targetOf
  cases (output.lookup (actionField outputs actuatorName)).bind target with
  | none => rfl
  | some _ => rfl

theorem isOk_actionCommands (output : Fields D) (sequence : ℕ)
    (timestampNs : ℤ) :
    (actionCommands setup output sequence timestampNs).isOk =
      hasTargets setup output := by
  have haxes : (axisCommands setup output sequence timestampNs).isOk =
      (setup.robot.axes.zip setup.axisActuatorNames).all (fun entry =>
        ((output.lookup (actionField setup.outputs entry.2)).bind
          (actionTarget · entry.1.config.mode)).isSome) := by
    unfold axisCommands
    rw [isOk_mapM]
    congr 1
    funext entry
    rw [← isOk_targetOf]
    cases targetOf setup.outputs output entry.2
        (actionTarget · entry.1.config.mode) with
    | error _ => rfl
    | ok _ => rfl
  have hservos : (servoCommands setup output sequence timestampNs).isOk =
      setup.robot.servos.all (fun servo =>
        ((output.lookup (actionField setup.outputs servo.actuatorName)).bind
          servoTarget).isSome) := by
    unfold servoCommands
    rw [isOk_mapM]
    congr 1
    funext servo
    rw [← isOk_targetOf]
    cases targetOf setup.outputs output servo.actuatorName servoTarget with
    | error _ => rfl
    | ok _ => rfl
  unfold actionCommands hasTargets
  rw [← haxes, ← hservos]
  cases axisCommands setup output sequence timestampNs with
  | error _ => rfl
  | ok _ =>
      cases servoCommands setup output sequence timestampNs with
      | error _ => rfl
      | ok _ => rfl

/-! ## One request -/

def publications (calls : List (HostCall D F)) : List Publication :=
  calls.filterMap HostCall.publication

namespace RuntimeHost

def counters (host : RuntimeHost σ) : ℕ × ℤ :=
  (host.commandSequence, host.lastCommandTimestampNs)

variable {setup} {host : RuntimeHost σ} {answers : HostAnswers D F}
  {output : Fields D}

variable (host answers) in
theorem publish_untargeted (h : hasTargets setup output = false) :
    (host.publish setup answers output).1.counters = host.counters ∧
      publications (host.publish setup answers output).2.2 = [] := by
  unfold publish
  dsimp only
  have hok := isOk_actionCommands setup output host.nextSequence
    (host.nextTimestamp answers.monotonicNs)
  rw [h] at hok
  cases hcommands : actionCommands setup output host.nextSequence
      (host.nextTimestamp answers.monotonicNs) with
  | error _ => exact ⟨rfl, rfl⟩
  | ok _ => rw [hcommands] at hok; cases hok

variable (host answers) in
theorem publish_targeted (h : hasTargets setup output) :
    (host.publish setup answers output).1.counters =
        (if answers.publishCommands.succeeded ∧
            answers.publishDamiao.succeeded then
          (host.nextSequence, host.nextTimestamp answers.monotonicNs)
        else host.counters) ∧
      publications (host.publish setup answers output).2.2 =
        [⟨host.nextSequence, host.nextTimestamp answers.monotonicNs,
          answers.publishCommands.succeeded⟩] := by
  unfold publish
  dsimp only
  have hok := isOk_actionCommands setup output host.nextSequence
    (host.nextTimestamp answers.monotonicNs)
  rw [h] at hok
  cases hcommands : actionCommands setup output host.nextSequence
      (host.nextTimestamp answers.monotonicNs) with
  | error _ => rw [hcommands] at hok; cases hok
  | ok commands =>
      cases answers.publishCommands with
      | failure _ => exact ⟨rfl, rfl⟩
      | exception => exact ⟨rfl, rfl⟩
      | value _ =>
          cases answers.publishDamiao with
          | failure _ => exact ⟨rfl, rfl⟩
          | exception => exact ⟨rfl, rfl⟩
          | value _ => exact ⟨rfl, rfl⟩

variable (setup host answers output) in
/-- An action adds no publication of its own. -/
theorem act_published (request : HostRequest D) :
    (host.act setup request answers output).1.counters =
        (if setup.hasRobotIo then
          (host.publish setup answers output).1.counters
        else host.counters) ∧
      publications (host.act setup request answers output).2.2 =
        (if setup.hasRobotIo then
          publications (host.publish setup answers output).2.2
        else []) := by
  unfold act
  cases hio : setup.hasRobotIo with
  | false => exact ⟨rfl, rfl⟩
  | true =>
      simp only [↓reduceIte]
      cases (host.publish setup answers output).2.1 with
      | some _ => exact ⟨rfl, rfl⟩
      | none => exact ⟨rfl, rfl⟩

theorem nextSequence_of_counters {left right : RuntimeHost σ}
    (h : left.counters = right.counters) :
    left.nextSequence = right.nextSequence := by
  unfold nextSequence
  rw [show left.commandSequence = right.commandSequence from
    congrArg Prod.fst h]

theorem nextTimestamp_of_counters {left right : RuntimeHost σ}
    (h : left.counters = right.counters) (clock : BitVec 64) :
    left.nextTimestamp clock = right.nextTimestamp clock := by
  unfold nextTimestamp
  rw [show left.lastCommandTimestampNs = right.lastCommandTimestampNs from
    congrArg Prod.snd h]

theorem ensureSession_session (sessionId : String) :
    ((host.ensureSession sessionId).sessions sessionId).getD ⟨sessionId, 0⟩ =
      (host.sessions sessionId).getD ⟨sessionId, 0⟩ := by
  unfold ensureSession
  cases h : host.sessions sessionId with
  | none => simp [h]
  | some _ => simp [h]

/-- A request that leads to no action touches no counter. -/
theorem observe_error {request : HostRequest D} {failure : HostFailure}
    (h : host.actionOf setup request answers = .error failure) :
    (host.observe setup request answers).1.counters = host.counters ∧
      (host.observe setup request answers).2.2 = [] := by
  unfold actionOf at h
  unfold observe
  dsimp only
  rw [ensureSession_session]
  cases hobservation : processedObservation setup answers request.payload with
  | error _ => exact ⟨rfl, rfl⟩
  | ok observation =>
      simp only [hobservation, bind, Except.bind] at h
      dsimp only
      cases hinfer : (setup.infer host.policy observation
          ((host.sessions request.sessionId).getD
            ⟨request.sessionId, 0⟩)).2.orFail Error.message with
      | error _ =>
          simp only [ensureSession, hinfer]
          exact ⟨rfl, trivial⟩
      | ok action =>
          simp only [hinfer] at h
          simp only [ensureSession, hinfer, h]
          exact ⟨rfl, trivial⟩

theorem observe_ok {request : HostRequest D}
    (h : host.actionOf setup request answers = .ok output) :
    ∃ ready : RuntimeHost σ, ready.counters = host.counters ∧
      host.observe setup request answers =
        ready.act setup request answers output := by
  unfold actionOf at h
  unfold observe
  dsimp only
  rw [ensureSession_session]
  cases hobservation : processedObservation setup answers request.payload with
  | error _ => simp [hobservation, bind, Except.bind] at h
  | ok observation =>
      simp only [hobservation, bind, Except.bind] at h
      dsimp only
      cases hinfer : (setup.infer host.policy observation
          ((host.sessions request.sessionId).getD
            ⟨request.sessionId, 0⟩)).2.orFail Error.message with
      | error _ => simp [hinfer] at h
      | ok action =>
          simp only [hinfer] at h
          simp only [ensureSession, hinfer, h]
          refine ⟨_, ?_, rfl⟩
          rfl

variable (answers) in
theorem handle_observe {request : HostRequest D} (hopen : host.isOpen)
    (hpayload : payloadError setup request = none)
    (htype : request.type = "observation_request") :
    (host.handle setup request answers).1 =
        (host.observe setup request answers).1 ∧
      (host.handle setup request answers).2.2 =
        (host.observe setup request answers).2.2 := by
  unfold handle
  dsimp only
  rw [hpayload, htype, hopen]
  simp only [Bool.not_true, Bool.false_eq_true, ↓reduceIte, String.reduceEq,
    ne_eq, not_true_eq_false]
  cases (host.observe setup request answers).2.1 with
  | error _ => exact ⟨rfl, rfl⟩
  | ok _ => exact ⟨rfl, rfl⟩

variable (answers) in
theorem handle_other {request : HostRequest D}
    (h : ¬ (host.isOpen ∧ payloadError setup request = none ∧
      request.type = "observation_request")) :
    (host.handle setup request answers).1.counters = host.counters ∧
      (host.handle setup request answers).2.2 = [] := by
  unfold handle
  dsimp only
  cases hopen : host.isOpen with
  | false => exact ⟨rfl, rfl⟩
  | true =>
      cases hpayload : payloadError setup request with
      | some _ => exact ⟨rfl, rfl⟩
      | none =>
          have htype : request.type ≠ "observation_request" :=
            fun htype => h ⟨hopen, hpayload, htype⟩
          simp only [Bool.not_true, Bool.false_eq_true, ↓reduceIte, htype,
            ne_eq, not_false_eq_true]
          split
          · exact ⟨rfl, rfl⟩
          · split
            · exact ⟨rfl, rfl⟩
            · split
              · cases hardReset request.payload with
                | none => exact ⟨rfl, rfl⟩
                | some _ => exact ⟨rfl, rfl⟩
              · exact ⟨rfl, rfl⟩

theorem handle_quiet {request : HostRequest D}
    (h : ¬ host.Commands setup request answers) :
    (host.handle setup request answers).1.counters = host.counters ∧
      publications (host.handle setup request answers).2.2 = [] := by
  by_cases hreach : host.isOpen ∧ payloadError setup request = none ∧
      request.type = "observation_request"
  · obtain ⟨hopen, hpayload, htype⟩ := hreach
    have hhandle := handle_observe answers hopen hpayload htype
    rw [hhandle.1, hhandle.2]
    cases haction : host.actionOf setup request answers with
    | error failure =>
        have hobserve := observe_error haction
        rw [hobserve.1, hobserve.2]
        exact ⟨rfl, rfl⟩
    | ok output =>
        obtain ⟨ready, hready, hobserve⟩ := observe_ok haction
        have hact := act_published setup ready answers output request
        rw [hobserve, hact.1, hact.2]
        cases hio : setup.hasRobotIo with
        | false => exact ⟨hready, rfl⟩
        | true =>
            have htargets : hasTargets setup output = false := by
              rw [← Bool.not_eq_true]
              exact fun htargets =>
                h ⟨hopen, hpayload, htype, hio, output, haction, htargets⟩
            have hpublish := publish_untargeted ready answers htargets
            exact ⟨hpublish.1.trans hready, hpublish.2⟩
  · have hother := handle_other answers hreach
    rw [hother.1, hother.2]
    exact ⟨rfl, rfl⟩

theorem handle_commands {request : HostRequest D}
    (h : host.Commands setup request answers) :
    (host.handle setup request answers).1.counters =
        (if answers.publishCommands.succeeded ∧
            answers.publishDamiao.succeeded then
          (host.nextSequence, host.nextTimestamp answers.monotonicNs)
        else host.counters) ∧
      publications (host.handle setup request answers).2.2 =
        [⟨host.nextSequence, host.nextTimestamp answers.monotonicNs,
          answers.publishCommands.succeeded⟩] := by
  obtain ⟨hopen, hpayload, htype, hio, output, haction, htargets⟩ := h
  have hhandle := handle_observe answers hopen hpayload htype
  obtain ⟨ready, hready, hobserve⟩ := observe_ok haction
  have hact := act_published setup ready answers output request
  have hpublish := publish_targeted ready answers htargets
  rw [hhandle.1, hhandle.2, hobserve, hact.1, hact.2, hio]
  simp only [↓reduceIte]
  rw [hpublish.1, hpublish.2, nextSequence_of_counters hready,
    nextTimestamp_of_counters hready, hready]
  exact ⟨rfl, rfl⟩

end RuntimeHost

/-! ## Runs -/

/-- The publications of a run, in order. -/
def published
    (history : List (Transition (RuntimeHost σ) (HostInput D F)
      (List (HostCall D F)))) : List Publication :=
  history.flatMap fun t => publications t.output

/-- A step that hands commands to the robot. -/
def HandsOver (t : Transition (RuntimeHost σ) (HostInput D F)
    (List (HostCall D F))) : Prop :=
  ∃ request answers, t.input = .handle request answers ∧
    t.before.Commands setup request answers

/-- Commands of which the robot takes the first publication only. -/
def Halved (t : Transition (RuntimeHost σ) (HostInput D F)
    (List (HostCall D F))) : Prop :=
  ∃ request answers, t.input = .handle request answers ∧
    t.before.Commands setup request answers ∧
    answers.publishCommands.succeeded ∧ !answers.publishDamiao.succeeded

/-- The counters of a step leave room for one more command. -/
def Room (t : Transition (RuntimeHost σ) (HostInput D F)
    (List (HostCall D F))) : Prop :=
  t.before.commandSequence + 1 < 2 ^ 64 ∧
    t.before.lastCommandTimestampNs + 1 < 2 ^ 63

/-- No commands follow a halved publication, and the counters never wrap. -/
def Uninterrupted (history : List (Transition (RuntimeHost σ)
    (HostInput D F) (List (HostCall D F)))) : Prop :=
  history.Pairwise (fun earlier later =>
      Halved setup earlier → ¬ HandsOver setup later) ∧
    ∀ t ∈ history, HandsOver setup t → Room t

variable {setup} {host : RuntimeHost σ} {input : HostInput D F}

theorem Halved.handsOver {t : Transition (RuntimeHost σ) (HostInput D F)
    (List (HostCall D F))} (h : Halved setup t) : HandsOver setup t := by
  obtain ⟨request, answers, hinput, hcommands, _⟩ := h
  exact ⟨request, answers, hinput, hcommands⟩

theorem hostStep_quiet
    (h : ¬ HandsOver setup ((hostMachine setup).fire host input)) :
    ((hostMachine setup).step host input).1.counters = host.counters ∧
      publications ((hostMachine setup).step host input).2 = [] := by
  cases input with
  | openHost axisCount servoCount damiaoCount =>
      change (host.openHost setup axisCount servoCount damiaoCount).1.counters
        = _ ∧ _
      unfold RuntimeHost.openHost
      split_ifs
      all_goals exact ⟨rfl, rfl⟩
  | close => exact ⟨rfl, rfl⟩
  | handle request answers =>
      exact RuntimeHost.handle_quiet
        fun hcommands => h ⟨request, answers, rfl, hcommands⟩

/-- Commands are published once, and counted when both halves succeed. -/
theorem hostStep_commands
    (h : HandsOver setup ((hostMachine setup).fire host input)) :
    ∃ clock ok both, (Halved setup ((hostMachine setup).fire host input) ↔
        ok = true ∧ both = false) ∧
      (both = true → ok = true) ∧
      ((hostMachine setup).step host input).1.counters =
        (if both then (host.nextSequence, host.nextTimestamp clock)
        else host.counters) ∧
      publications ((hostMachine setup).step host input).2 =
        [⟨host.nextSequence, host.nextTimestamp clock, ok⟩] := by
  obtain ⟨request, answers, hinput, hcommands⟩ := h
  rw [Machine.fire_input] at hinput
  subst hinput
  have hstep := RuntimeHost.handle_commands hcommands
  refine ⟨answers.monotonicNs, answers.publishCommands.succeeded,
    answers.publishCommands.succeeded && answers.publishDamiao.succeeded,
    ?_, ?_, ?_, hstep.2⟩
  · constructor
    · rintro ⟨_, other, hother, _, hfirst, hsecond⟩
      rw [Machine.fire_input] at hother
      cases hother
      rw [hfirst]
      simpa using hsecond
    · rintro ⟨hfirst, hsecond⟩
      refine ⟨request, answers, rfl, hcommands, hfirst, ?_⟩
      rw [hfirst] at hsecond
      simpa using hsecond
  · intro hboth
    rw [Bool.and_eq_true] at hboth
    exact hboth.1
  · simp only [Bool.and_eq_true]
    exact hstep.1

namespace RuntimeHost

theorem nextSequence_of_room (h : host.commandSequence + 1 < 2 ^ 64) :
    host.nextSequence = host.commandSequence + 1 :=
  Nat.mod_eq_of_lt h

theorem nextTimestamp_range (host : RuntimeHost σ) (clock : BitVec 64) :
    -2 ^ 63 ≤ host.nextTimestamp clock ∧ host.nextTimestamp clock < 2 ^ 63 := by
  have hclock := BitVec.toInt_lt (x := clock)
  have hlow := BitVec.le_toInt (x := BitVec.ofInt 64
    (host.lastCommandTimestampNs + 1))
  have hhigh := BitVec.toInt_lt (x := BitVec.ofInt 64
    (host.lastCommandTimestampNs + 1))
  unfold nextTimestamp monotonicNowNs
  split_ifs <;> omega

theorem lt_nextTimestamp (clock : BitVec 64)
    (hlow : -2 ^ 63 ≤ host.lastCommandTimestampNs)
    (hroom : host.lastCommandTimestampNs + 1 < 2 ^ 63) :
    host.lastCommandTimestampNs < host.nextTimestamp clock := by
  unfold nextTimestamp
  split_ifs with h
  · rw [BitVec.toInt_ofInt, Int.bmod_eq_of_le (by omega) (by omega)]
    omega
  · omega

theorem nextTimestamp_wraps (clock : BitVec 64)
    (hfull : host.lastCommandTimestampNs = 2 ^ 63 - 1) :
    host.nextTimestamp clock < host.lastCommandTimestampNs := by
  have hclock := BitVec.toInt_lt (x := clock)
  have hnow : monotonicNowNs clock ≤ host.lastCommandTimestampNs := by
    unfold monotonicNowNs
    split_ifs <;> omega
  unfold nextTimestamp
  rw [if_pos hnow, hfull]
  decide

end RuntimeHost

variable {history : List (Transition (RuntimeHost σ) (HostInput D F)
  (List (HostCall D F)))}
  {t : Transition (RuntimeHost σ) (HostInput D F) (List (HostCall D F))}

omit [DoubleArithmetic D] [SinglePrecision F] in
theorem published_append :
    published (history ++ [t]) = published history ++ publications t.output :=
  by simp [published]

theorem uninterrupted_append :
    Uninterrupted setup (history ++ [t]) ↔
      Uninterrupted setup history ∧
        (HandsOver setup t →
          (∀ earlier ∈ history, ¬ Halved setup earlier) ∧ Room t) := by
  unfold Uninterrupted
  rw [List.pairwise_append, List.forall_mem_append]
  simp only [List.pairwise_singleton, List.forall_mem_singleton, true_and]
  constructor
  · rintro ⟨⟨hpairs, hlater⟩, hrooms, hroom⟩
    exact ⟨⟨hpairs, hrooms⟩, fun hcommands =>
      ⟨fun earlier hmem hhalved => hlater earlier hmem hhalved hcommands,
        hroom hcommands⟩⟩
  · rintro ⟨⟨hpairs, hrooms⟩, hlast⟩
    exact ⟨⟨hpairs, fun earlier hmem hhalved hcommands =>
      (hlast hcommands).1 earlier hmem hhalved⟩, hrooms,
      fun hcommands => (hlast hcommands).2⟩

/-- What the counters say about the publications before. -/
structure CommandsCounted (setup : HostSetup D F σ)
    (history : List (Transition (RuntimeHost σ) (HostInput D F)
      (List (HostCall D F)))) (host : RuntimeHost σ) : Prop where
  sequence_lt : host.commandSequence < 2 ^ 64
  timestamp_ge : -2 ^ 63 ≤ host.lastCommandTimestampNs
  timestamp_lt : host.lastCommandTimestampNs < 2 ^ 63
  sequence_published : host.commandSequence = 0 ∨
    ∃ e ∈ published history, e.succeeded ∧
      e.sequence = host.commandSequence
  timestamp_published : host.lastCommandTimestampNs = 0 ∨
    ∃ e ∈ published history, e.succeeded ∧
      e.timestampNs = host.lastCommandTimestampNs
  halved_published : Uninterrupted setup history →
    (∃ earlier ∈ history, Halved setup earlier) →
    ∃ e ∈ published history, e.succeeded ∧ e.sequence = host.nextSequence
  bound : Uninterrupted setup history →
    (∀ earlier ∈ history, ¬ Halved setup earlier) →
    ∀ e ∈ published history, e.succeeded →
      e.sequence ≤ host.commandSequence ∧
        e.timestampNs ≤ host.lastCommandTimestampNs
  increasing : (published history).Pairwise Publication.Before ↔
    Uninterrupted setup history

/-- The next publication comes after all of a run exactly if none was halved
and the counters leave room. -/
theorem CommandsCounted.next (h : CommandsCounted setup history host)
    (huninterrupted : Uninterrupted setup history) (clock : BitVec 64)
    (ok : Bool) :
    (∀ e ∈ published history, e.Before
        ⟨host.nextSequence, host.nextTimestamp clock, ok⟩) ↔
      (∀ earlier ∈ history, ¬ Halved setup earlier) ∧
        host.commandSequence + 1 < 2 ^ 64 ∧
        host.lastCommandTimestampNs + 1 < 2 ^ 63 := by
  constructor
  · intro hbefore
    refine ⟨?_, ?_, ?_⟩
    · intro earlier hmem hhalved
      obtain ⟨e, he, hok, hsequence⟩ :=
        h.halved_published huninterrupted ⟨earlier, hmem, hhalved⟩
      have hlt := (hbefore e he hok).1
      rw [hsequence] at hlt
      exact Nat.lt_irrefl _ hlt
    · by_contra hfull
      have hcs : host.commandSequence = 2 ^ 64 - 1 := by
        have := h.sequence_lt
        omega
      cases h.sequence_published with
      | inl hzero => omega
      | inr hpublished =>
          obtain ⟨e, he, hok, hsequence⟩ := hpublished
          have hlt := (hbefore e he hok).1
          unfold RuntimeHost.nextSequence at hlt
          rw [hsequence, hcs] at hlt
          simp at hlt
    · by_contra hfull
      have hlast : host.lastCommandTimestampNs = 2 ^ 63 - 1 := by
        have := h.timestamp_lt
        omega
      cases h.timestamp_published with
      | inl hzero => omega
      | inr hpublished =>
          obtain ⟨e, he, hok, htimestamp⟩ := hpublished
          have hlt := (hbefore e he hok).2
          have hwraps := RuntimeHost.nextTimestamp_wraps clock hlast
          rw [htimestamp] at hlt
          exact absurd (hlt.trans hwraps) (lt_irrefl _)
  · rintro ⟨hnone, hsequence, htimestamp⟩ e he hok
    have hbound := h.bound huninterrupted hnone e he hok
    have hnext := RuntimeHost.lt_nextTimestamp clock h.timestamp_ge htimestamp
    rw [RuntimeHost.nextSequence_of_room hsequence]
    exact ⟨Nat.lt_succ_of_le hbound.1, lt_of_le_of_lt hbound.2 hnext⟩

theorem CommandsCounted.quiet {after : RuntimeHost σ}
    (h : CommandsCounted setup history host)
    (hquiet : ¬ HandsOver setup t)
    (hcounters : after.counters = host.counters)
    (hnone : publications t.output = []) :
    CommandsCounted setup (history ++ [t]) after := by
  have hpublished : published (history ++ [t]) = published history := by
    rw [published_append, hnone, List.append_nil]
  have hsequence : after.commandSequence = host.commandSequence :=
    congrArg Prod.fst hcounters
  have htimestamp : after.lastCommandTimestampNs =
      host.lastCommandTimestampNs := congrArg Prod.snd hcounters
  have huninterrupted : Uninterrupted setup (history ++ [t]) ↔
      Uninterrupted setup history := by
    rw [uninterrupted_append]
    simp [hquiet]
  have hhalved : ¬ Halved setup t := fun hhalved => hquiet hhalved.handsOver
  refine ⟨?_, ?_, ?_, ?_, ?_, ?_, ?_, ?_⟩
  · rw [hsequence]
    exact h.sequence_lt
  · rw [htimestamp]
    exact h.timestamp_ge
  · rw [htimestamp]
    exact h.timestamp_lt
  · rw [hpublished, hsequence]
    exact h.sequence_published
  · rw [hpublished, htimestamp]
    exact h.timestamp_published
  · rw [hpublished, huninterrupted,
      RuntimeHost.nextSequence_of_counters hcounters]
    rintro hrun ⟨earlier, hmem, hearlier⟩
    rw [List.mem_append, List.mem_singleton] at hmem
    cases hmem with
    | inl hmem => exact h.halved_published hrun ⟨earlier, hmem, hearlier⟩
    | inr heq => exact absurd (heq ▸ hearlier) hhalved
  · rw [hpublished, huninterrupted, hsequence, htimestamp]
    intro hrun hnot
    exact h.bound hrun fun earlier hmem =>
      hnot earlier (List.mem_append_left _ hmem)
  · rw [hpublished, huninterrupted]
    exact h.increasing

theorem CommandsCounted.commands {after : RuntimeHost σ}
    (h : CommandsCounted setup history host) (hbefore : t.before = host)
    (hcommands : HandsOver setup t) {clock : BitVec 64} {ok both : Bool}
    (hhalved : Halved setup t ↔ ok = true ∧ both = false)
    (hboth : both = true → ok = true)
    (hcounters : after.counters =
      if both then (host.nextSequence, host.nextTimestamp clock)
      else host.counters)
    (hpublications : publications t.output =
      [⟨host.nextSequence, host.nextTimestamp clock, ok⟩]) :
    CommandsCounted setup (history ++ [t]) after := by
  have hpublished : published (history ++ [t]) = published history ++
      [⟨host.nextSequence, host.nextTimestamp clock, ok⟩] := by
    rw [published_append, hpublications]
  have huninterrupted : Uninterrupted setup (history ++ [t]) ↔
      Uninterrupted setup history ∧
        (∀ earlier ∈ history, ¬ Halved setup earlier) ∧
        host.commandSequence + 1 < 2 ^ 64 ∧
        host.lastCommandTimestampNs + 1 < 2 ^ 63 := by
    rw [uninterrupted_append, Room, hbefore]
    simp [hcommands]
  have hincreasing :
      (published (history ++ [t])).Pairwise Publication.Before ↔
        Uninterrupted setup (history ++ [t]) := by
    rw [hpublished, huninterrupted, List.pairwise_append, h.increasing]
    simp only [List.pairwise_singleton, List.mem_singleton, forall_eq,
      true_and]
    exact and_congr_right fun hrun => h.next hrun clock ok
  cases hb : both with
  | false =>
      rw [hb, if_neg Bool.false_ne_true] at hcounters
      have hsequence : after.commandSequence = host.commandSequence :=
        congrArg Prod.fst hcounters
      have htimestamp : after.lastCommandTimestampNs =
          host.lastCommandTimestampNs := congrArg Prod.snd hcounters
      refine ⟨?_, ?_, ?_, ?_, ?_, ?_, ?_, hincreasing⟩
      · rw [hsequence]
        exact h.sequence_lt
      · rw [htimestamp]
        exact h.timestamp_ge
      · rw [htimestamp]
        exact h.timestamp_lt
      · rw [hpublished, hsequence]
        refine h.sequence_published.imp_right ?_
        rintro ⟨e, he, hrest⟩
        exact ⟨e, List.mem_append_left _ he, hrest⟩
      · rw [hpublished, htimestamp]
        refine h.timestamp_published.imp_right ?_
        rintro ⟨e, he, hrest⟩
        exact ⟨e, List.mem_append_left _ he, hrest⟩
      · intro hrun hexists
        have hnone := (huninterrupted.mp hrun).2.1
        -- only the last step can be the halved one
        have hlast : Halved setup t := by
          obtain ⟨earlier, hmem, hearlier⟩ := hexists
          rw [List.mem_append, List.mem_singleton] at hmem
          cases hmem with
          | inl hmem => exact absurd hearlier (hnone earlier hmem)
          | inr heq => exact heq ▸ hearlier
        rw [hpublished, RuntimeHost.nextSequence_of_counters hcounters]
        exact ⟨_, List.mem_append_right _ (List.mem_singleton_self _),
          (hhalved.mp hlast).1, rfl⟩
      · intro hrun hnot e he hok
        rw [hpublished, List.mem_append, List.mem_singleton] at he
        rw [hsequence, htimestamp]
        cases he with
        | inl he =>
            exact h.bound (huninterrupted.mp hrun).1
              (huninterrupted.mp hrun).2.1 e he hok
        | inr heq =>
            have hlast : Halved setup t := by
              rw [hhalved]
              rw [heq] at hok
              exact ⟨hok, hb⟩
            exact absurd hlast (hnot t (List.mem_append_right _
              (List.mem_singleton_self _)))
  | true =>
      rw [hb, if_pos rfl] at hcounters
      have hsequence : after.commandSequence = host.nextSequence :=
        congrArg Prod.fst hcounters
      have htimestamp : after.lastCommandTimestampNs =
          host.nextTimestamp clock := congrArg Prod.snd hcounters
      have hok : ok = true := hboth hb
      have hnew : (⟨host.nextSequence, host.nextTimestamp clock, ok⟩ :
          Publication) ∈ published (history ++ [t]) := by
        rw [hpublished]
        exact List.mem_append_right _ (List.mem_singleton_self _)
      refine ⟨?_, ?_, ?_, ?_, ?_, ?_, ?_, hincreasing⟩
      · rw [hsequence]
        exact Nat.mod_lt _ (by decide)
      · rw [htimestamp]
        exact (host.nextTimestamp_range clock).1
      · rw [htimestamp]
        exact (host.nextTimestamp_range clock).2
      · exact Or.inr ⟨_, hnew, hok, hsequence.symm⟩
      · exact Or.inr ⟨_, hnew, hok, htimestamp.symm⟩
      · rintro hrun ⟨earlier, hmem, hearlier⟩
        rw [List.mem_append, List.mem_singleton] at hmem
        cases hmem with
        | inl hmem =>
            exact absurd hearlier ((huninterrupted.mp hrun).2.1 earlier hmem)
        | inr heq =>
            rw [heq, hhalved, hb] at hearlier
            cases hearlier.2
      · intro hrun _ e he hsucceeded
        have hparts := huninterrupted.mp hrun
        have hgreater := RuntimeHost.lt_nextTimestamp clock h.timestamp_ge
          hparts.2.2.2
        have hnext := RuntimeHost.nextSequence_of_room hparts.2.2.1
        rw [hpublished, List.mem_append, List.mem_singleton] at he
        rw [hsequence, htimestamp]
        cases he with
        | inl he =>
            have hbound := h.bound hparts.1 hparts.2.1 e he hsucceeded
            rw [hnext]
            exact ⟨hbound.1.trans (Nat.le_succ _),
              hbound.2.trans hgreater.le⟩
        | inr heq =>
            rw [heq]
            exact ⟨le_rfl, le_rfl⟩

theorem commandsCounted_fresh (policy : σ) :
    CommandsCounted setup [] (RuntimeHost.fresh policy) where
  sequence_lt := by simp [RuntimeHost.fresh]
  timestamp_ge := by simp [RuntimeHost.fresh]
  timestamp_lt := by simp [RuntimeHost.fresh]
  sequence_published := Or.inl rfl
  timestamp_published := Or.inl rfl
  halved_published := by simp
  bound := by simp [published]
  increasing := by simp [published, Uninterrupted]

theorem counted_final (setup : HostSetup D F σ) (policy : σ)
    (inputs : List (HostInput D F)) :
    CommandsCounted setup
      ((hostMachine setup).trace (RuntimeHost.fresh policy) inputs)
      ((hostMachine setup).final (RuntimeHost.fresh policy) inputs) := by
  apply Machine.history_final (CommandsCounted setup)
    (commandsCounted_fresh policy)
  intro history host input h
  by_cases hcommands : HandsOver setup ((hostMachine setup).fire host input)
  · obtain ⟨clock, ok, both, hhalved, hboth, hcounters, hpublications⟩ :=
      hostStep_commands hcommands
    exact h.commands rfl hcommands hhalved hboth hcounters hpublications
  · have hstep := hostStep_quiet hcommands
    exact h.quiet hcommands hstep.1 hstep.2

/-- Later publications of a host pass every successful one exactly in the runs
without commands behind a halved publication. -/
theorem published_increasing_iff (setup : HostSetup D F σ) (policy : σ)
    (inputs : List (HostInput D F)) :
    (published ((hostMachine setup).trace (RuntimeHost.fresh policy)
        inputs)).Pairwise (fun earlier later =>
      earlier.succeeded → earlier.sequence < later.sequence ∧
        earlier.timestampNs < later.timestampNs) ↔
      Uninterrupted setup
        ((hostMachine setup).trace (RuntimeHost.fresh policy) inputs) :=
  (counted_final setup policy inputs).increasing

end Requests

/-! ## A motor publication that fails once -/

/-- A host of two motors with a policy that has nothing to say. -/
def motorHost : HostSetup ℚ ℚ Unit where
  policyId := "still"
  inputs := []
  outputs := []
  schema := []
  robot := twoMotorProfile
  axisActuatorNames := []
  hasRobotIo := true
  floatOfDouble := id
  floatOfInt := fun value => value
  doubleOfFloat := id
  validatePayload := fun _ _ => .ok ()
  validateAction := fun _ => .ok ()
  preprocess := .value
  infer := fun _ _ _ => ((), .value .null)
  reset := fun _ _ => ()
  postprocess := .value

def motorsAtRest : ValueSnapshot (DamiaoFeedback ℚ) :=
  ⟨2, fun motor => ⟨motor + 1, 0, 0, 0, 0, 0, 0⟩⟩

/-- The robot answers all calls but maybe the last. -/
def motorAnswers (clock : BitVec 64) (damiao : CallResult Unit) :
    HostAnswers ℚ ℚ where
  monotonicNs := clock
  feedback := .exception
  servoFeedback := .exception
  damiaoFeedback := .value motorsAtRest
  publishCommands := .value ()
  publishDamiao := damiao

def motorRequest : HostRequest ℚ :=
  ⟨"observation_request", "arm", .object [("observation", .object [])]⟩

/-- The second request meets a robot that takes its Damiao commands again. -/
def motorRequests : List (HostInput ℚ ℚ) :=
  [.openHost 0 0 2,
    .handle motorRequest
      (motorAnswers 1000 (.failure ⟨.io, "DDS Damiao publish failed"⟩)),
    .handle motorRequest (motorAnswers 2000 (.value ()))]

theorem sequence_published_twice :
    published ((hostMachine motorHost).trace (RuntimeHost.fresh ())
        motorRequests) = [⟨1, 1000, true⟩, ⟨1, 2000, true⟩] ∧
      ¬ (published ((hostMachine motorHost).trace (RuntimeHost.fresh ())
          motorRequests)).Pairwise (fun earlier later =>
        earlier.succeeded → earlier.sequence < later.sequence ∧
          earlier.timestampNs < later.timestampNs) := by
  have hrun : published ((hostMachine motorHost).trace (RuntimeHost.fresh ())
      motorRequests) = [⟨1, 1000, true⟩, ⟨1, 2000, true⟩] := by
    decide +kernel
  refine ⟨hrun, ?_⟩
  rw [hrun]
  decide

end PolicyRuntime
