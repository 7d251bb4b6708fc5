import PolicyRuntime.HostCommands

/-!
# Steps of the sessions

The policy is asked with the step count of a session.  The count moves behind
the publications of an action, together with the counters of the commands, and
only a reset sets it back.
-/

namespace PolicyRuntime

section Sessions

variable {D F σ : Type} [DoubleArithmetic D] [SinglePrecision F]

/-- The answer to a request of a session. -/
structure SessionAnswer (D : Type) where
  sessionId : String
  response : HostResponse D

variable (setup : HostSetup D F σ)

/-- The outputs of a run are the answers of `handle`. -/
def sessionMachine : Machine (RuntimeHost σ) (HostInput D F)
    (Option (SessionAnswer D)) where
  step host
    | .openHost axisCount servoCount damiaoCount =>
        ((host.openHost setup axisCount servoCount damiaoCount).1, none)
    | .close => (host.close, none)
    | .handle request answers =>
        ((host.handle setup request answers).1,
          some ⟨request.sessionId, (host.handle setup request answers).2.1⟩)

def HostResponse.isError : HostResponse D → Bool
  | .unavailable => true
  | .response _ _ => false
  | .error _ _ => true

def HostResponse.hasType : HostResponse D → String → Bool
  | .unavailable, _ => false
  | .response type _, wanted => type = wanted
  | .error _ _, _ => false

omit [DoubleArithmetic D] in
@[simp] theorem HostResponse.hasType_response (type wanted : String)
    (payload : Json D) :
    (HostResponse.response type payload).hasType wanted =
      decide (type = wanted) := rfl

def SessionAnswer.isFor (answer : SessionAnswer D) (name type : String) :
    Bool :=
  answer.sessionId = name && answer.response.hasType type

/-- The responses of a run. -/
def answersOf (history : List (Transition (RuntimeHost σ) (HostInput D F)
    (Option (SessionAnswer D)))) : List (SessionAnswer D) :=
  history.filterMap Transition.output

/-- The actions of a session behind its last reset. -/
def actionsSinceReset (answers : List (SessionAnswer D)) (name : String) : ℕ :=
  (answers.reverse.takeWhile (fun answer =>
    !answer.isFor name "reset_response")).countP (fun answer =>
      answer.isFor name "action_response")

def actionCount (answers : List (SessionAnswer D)) : ℕ :=
  answers.countP fun answer => answer.response.hasType "action_response"

namespace RuntimeHost

/-- A session which does not exist yet has made no step. -/
def stepCount (host : RuntimeHost σ) (name : String) : ℕ :=
  match host.sessions name with
  | none => 0
  | some session => session.stepId

/-- The arguments a request calls the policy with. -/
def inference (host : RuntimeHost σ) (request : HostRequest D)
    (answers : HostAnswers D F) : Option (Fields D × PolicySession) :=
  if host.isOpen ∧ payloadError setup request = none ∧
      request.type = "observation_request" then
    match processedObservation setup answers request.payload with
    | .error _ => none
    | .ok observation =>
        some (observation, ((host.ensureSession request.sessionId).sessions
          request.sessionId).getD ⟨request.sessionId, 0⟩)
  else none

/-! ## One request -/

variable {setup} {host : RuntimeHost σ} {answers : HostAnswers D F}
  {request : HostRequest D}

theorem stepCount_of_sessions {left right : RuntimeHost σ}
    (h : left.sessions = right.sessions) (name : String) :
    left.stepCount name = right.stepCount name := by
  unfold stepCount
  rw [h]

theorem ensureSession_stepCount (host : RuntimeHost σ) (sessionId : String)
    (name : String) :
    (host.ensureSession sessionId).stepCount name = host.stepCount name := by
  unfold stepCount ensureSession
  by_cases hname : name = sessionId ∧ host.sessions name = none
  · obtain ⟨rfl, hnone⟩ := hname
    simp [hnone]
  · dsimp only
    rw [if_neg hname]

theorem ensureSession_isSome (host : RuntimeHost σ) (sessionId : String) :
    ((host.ensureSession sessionId).sessions sessionId).isSome := by
  unfold ensureSession
  cases h : host.sessions sessionId with
  | none => simp [h]
  | some session => simp [h]

theorem stepSession_stepCount {sessionId : String}
    (hsome : (host.sessions sessionId).isSome) (name : String) :
    (host.stepSession sessionId).stepCount name =
      if name = sessionId then (host.stepCount name + 1) % 2 ^ 64
      else host.stepCount name := by
  obtain ⟨session, hsession⟩ := Option.isSome_iff_exists.mp hsome
  unfold stepCount stepSession
  by_cases hname : name = sessionId
  · subst name
    simp [hsession]
  · simp [hname]

theorem resetSession_stepCount (setup : HostSetup D F σ)
    (host : RuntimeHost σ) (sessionId name : String) :
    (host.resetSession setup sessionId).stepCount name =
      if name = sessionId then 0 else host.stepCount name := by
  unfold stepCount resetSession
  by_cases hname : name = sessionId
  · simp [hname]
  · simp [hname]

/-- The publications of an action touch no session, and the counters only when
both succeed. -/
theorem publish_cases (setup : HostSetup D F σ) (host : RuntimeHost σ)
    (answers : HostAnswers D F) (output : Fields D) :
    (host.publish setup answers output).1.sessions = host.sessions ∧
      ((host.publish setup answers output).2.1 = none ∧
          (host.publish setup answers output).1.commandSequence =
            (host.commandSequence + 1) % 2 ^ 64 ∨
        (∃ failure, (host.publish setup answers output).2.1 = some failure) ∧
          (host.publish setup answers output).1.counters = host.counters) := by
  unfold publish
  dsimp only
  cases actionCommands setup output host.nextSequence
      (host.nextTimestamp answers.monotonicNs) with
  | error failure => exact ⟨rfl, Or.inr ⟨⟨failure, rfl⟩, rfl⟩⟩
  | ok commands =>
      dsimp only
      cases answers.publishCommands.orFail
          (·.messageOr "robot command publication failed") with
      | error failure => exact ⟨rfl, Or.inr ⟨⟨failure, rfl⟩, rfl⟩⟩
      | ok _ =>
          dsimp only
          cases answers.publishDamiao.orFail Error.message with
          | error failure => exact ⟨rfl, Or.inr ⟨⟨failure, rfl⟩, rfl⟩⟩
          | ok _ => exact ⟨rfl, Or.inl ⟨rfl, rfl⟩⟩

/-- A request which changes no count. -/
structure Unmoved (host after : RuntimeHost σ) : Prop where
  steps : ∀ name, after.stepCount name = host.stepCount name
  counters : after.counters = host.counters

/-- A request which ends in an action. -/
structure Moved (setup : HostSetup D F σ) (host after : RuntimeHost σ)
    (sessionId : String) : Prop where
  steps : ∀ name, after.stepCount name =
    if name = sessionId then (host.stepCount name + 1) % 2 ^ 64
    else host.stepCount name
  sequence : setup.hasRobotIo →
    after.commandSequence = (host.commandSequence + 1) % 2 ^ 64

theorem act_cases (setup : HostSetup D F σ) (answers : HostAnswers D F)
    (output : Fields D)
    (hsome : (host.sessions request.sessionId).isSome) :
    (∃ payload, (host.act setup request answers output).2.1 = .ok payload) ∧
        Moved setup host (host.act setup request answers output).1
          request.sessionId ∨
      (∃ failure, (host.act setup request answers output).2.1 =
          .error failure) ∧
        Unmoved host (host.act setup request answers output).1 := by
  unfold act
  cases hio : setup.hasRobotIo with
  | false =>
      left
      refine ⟨⟨_, rfl⟩, stepSession_stepCount hsome, ?_⟩
      simp [hio]
  | true =>
      simp only [↓reduceIte]
      obtain ⟨hsessions, ⟨hnone, hsequence⟩ | ⟨⟨failure, hfailure⟩, hkept⟩⟩ :=
        publish_cases setup host answers output
      · left
        rw [hnone]
        rw [← hsessions] at hsome
        refine ⟨⟨_, rfl⟩, fun name => ?_, fun _ => hsequence⟩
        rw [← stepCount_of_sessions hsessions name]
        exact stepSession_stepCount hsome name
      · right
        rw [hfailure]
        exact ⟨⟨failure, rfl⟩, stepCount_of_sessions hsessions, hkept⟩

theorem Unmoved.trans_moved {ready after : RuntimeHost σ} {sessionId : String}
    (hready : Unmoved host ready) (hmoved : Moved setup ready after sessionId) :
    Moved setup host after sessionId where
  steps := by
    intro name
    rw [hmoved.steps name, hready.steps name]
  sequence := by
    intro hio
    have hsame : ready.commandSequence = host.commandSequence :=
      congrArg Prod.fst hready.counters
    rw [hmoved.sequence hio, hsame]

theorem Unmoved.trans {ready after : RuntimeHost σ}
    (hready : Unmoved host ready) (hafter : Unmoved ready after) :
    Unmoved host after :=
  ⟨fun name => (hafter.steps name).trans (hready.steps name),
    hafter.counters.trans hready.counters⟩

variable (setup host answers request) in
theorem observe_cases :
    (∃ payload, (host.observe setup request answers).2.1 = .ok payload) ∧
        Moved setup host (host.observe setup request answers).1
          request.sessionId ∨
      (∃ failure, (host.observe setup request answers).2.1 =
          .error failure) ∧
        Unmoved host (host.observe setup request answers).1 := by
  unfold observe
  cases processedObservation setup answers request.payload with
  | error failure =>
      exact Or.inr ⟨⟨failure, rfl⟩, fun _ => rfl, rfl⟩
  | ok observation =>
      dsimp only
      generalize setup.infer (host.ensureSession request.sessionId).policy
        observation _ = inferred
      have hready : Unmoved host
          { host.ensureSession request.sessionId with
            policy := inferred.1 } :=
        ⟨ensureSession_stepCount host request.sessionId, rfl⟩
      have hsome : (({ host.ensureSession request.sessionId with
          policy := inferred.1 } : RuntimeHost σ).sessions
            request.sessionId).isSome :=
        ensureSession_isSome host request.sessionId
      cases inferred.2.orFail Error.message with
      | error failure => exact Or.inr ⟨⟨failure, rfl⟩, hready⟩
      | ok action =>
          dsimp only
          cases processedAction setup action with
          | error failure => exact Or.inr ⟨⟨failure, rfl⟩, hready⟩
          | ok output =>
              dsimp only
              obtain ⟨hok, hmoved⟩ | ⟨hfailed, hunmoved⟩ :=
                act_cases setup answers output hsome
              · exact Or.inl ⟨hok, hready.trans_moved hmoved⟩
              · exact Or.inr ⟨hfailed, hready.trans hunmoved⟩

/-- A request which sets a session back. -/
structure SetBack (host after : RuntimeHost σ) (sessionId : String) : Prop where
  steps : ∀ name, after.stepCount name =
    if name = sessionId then 0 else host.stepCount name
  counters : after.counters = host.counters

variable (setup host answers request) in
/-- What a request can do to the counts, and how it is answered then. -/
theorem handle_cases :
    ((host.handle setup request answers).2.1.hasType "action_response" = true ∧
        Moved setup host (host.handle setup request answers).1
          request.sessionId) ∨
      ((host.handle setup request answers).2.1.hasType "reset_response" =
          true ∧
        SetBack host (host.handle setup request answers).1
          request.sessionId) ∨
      ((host.handle setup request answers).2.1.hasType "action_response" =
          false ∧
        (host.handle setup request answers).2.1.hasType "reset_response" =
          false ∧
        Unmoved host (host.handle setup request answers).1) := by
  have hsame : Unmoved host host := ⟨fun _ => rfl, rfl⟩
  unfold handle
  dsimp only
  cases host.isOpen with
  | false => exact Or.inr (Or.inr ⟨rfl, rfl, hsame⟩)
  | true =>
      simp only [Bool.not_true, Bool.false_eq_true, ↓reduceIte]
      cases payloadError setup request with
      | some error => exact Or.inr (Or.inr ⟨rfl, rfl, hsame⟩)
      | none =>
          dsimp only
          split
          · exact Or.inr (Or.inr ⟨by simp, by simp, hsame⟩)
          · split
            · exact Or.inr (Or.inr ⟨by simp, by simp, hsame⟩)
            · split
              · cases hardReset request.payload with
                | none => exact Or.inr (Or.inr ⟨rfl, rfl, hsame⟩)
                | some hard =>
                    refine Or.inr (Or.inl ⟨by simp, ?_, rfl⟩)
                    exact resetSession_stepCount setup host request.sessionId
              · split
                · exact Or.inr (Or.inr ⟨rfl, rfl, hsame⟩)
                · obtain ⟨⟨payload, hok⟩, hmoved⟩ |
                      ⟨⟨failure, hfailed⟩, hunmoved⟩ :=
                    observe_cases setup host answers request
                  · rw [hok]
                    exact Or.inl ⟨by simp, hmoved⟩
                  · rw [hfailed]
                    exact Or.inr (Or.inr ⟨rfl, rfl, hunmoved⟩)

theorem act_policy (setup : HostSetup D F σ) (host : RuntimeHost σ)
    (request : HostRequest D) (answers : HostAnswers D F)
    (output : Fields D) :
    (host.act setup request answers output).1.policy = host.policy := by
  have hpublish : (host.publish setup answers output).1.policy =
      host.policy := by
    unfold publish
    dsimp only
    cases actionCommands setup output host.nextSequence
        (host.nextTimestamp answers.monotonicNs) with
    | error failure => rfl
    | ok commands =>
        dsimp only
        cases answers.publishCommands.orFail
            (·.messageOr "robot command publication failed") with
        | error failure => rfl
        | ok _ =>
            dsimp only
            cases answers.publishDamiao.orFail Error.message with
            | error failure => rfl
            | ok _ => rfl
  unfold act
  cases setup.hasRobotIo with
  | false => rfl
  | true =>
      simp only [↓reduceIte]
      cases (host.publish setup answers output).2.1 with
      | none => exact hpublish
      | some failure => exact hpublish

/-- The policy is called with the arguments of `inference`. -/
theorem handle_inference {observation : Fields D} {session : PolicySession}
    (h : host.inference setup request answers = some (observation, session)) :
    (host.handle setup request answers).1.policy =
      (setup.infer host.policy observation session).1 := by
  unfold inference at h
  by_cases hreach : host.isOpen ∧ payloadError setup request = none ∧
      request.type = "observation_request"
  · rw [if_pos hreach] at h
    rw [(handle_observe answers hreach.1 hreach.2.1 hreach.2.2).1]
    unfold observe
    cases hobserved : processedObservation setup answers request.payload with
    | error failure =>
        rw [hobserved] at h
        cases h
    | ok processed =>
        rw [hobserved] at h
        cases h
        dsimp only
        cases (setup.infer (host.ensureSession request.sessionId).policy
            observation _).2.orFail Error.message with
        | error failure => rfl
        | ok action =>
            dsimp only
            cases processedAction setup action with
            | error failure => rfl
            | ok output => exact act_policy setup _ request answers output
  · rw [if_neg hreach] at h
    cases h

theorem inference_stepId {observation : Fields D} {session : PolicySession}
    (h : host.inference setup request answers = some (observation, session)) :
    session.stepId = host.stepCount request.sessionId := by
  unfold inference at h
  by_cases hreach : host.isOpen ∧ payloadError setup request = none ∧
      request.type = "observation_request"
  · rw [if_pos hreach] at h
    cases hobserved : processedObservation setup answers request.payload with
    | error failure =>
        rw [hobserved] at h
        cases h
    | ok processed =>
        rw [hobserved] at h
        cases h
        rw [ensureSession_session]
        unfold stepCount
        cases host.sessions request.sessionId <;> rfl
  · rw [if_neg hreach] at h
    cases h

end RuntimeHost

/-! ## Runs -/

section Answers

omit [DoubleArithmetic D]

theorem actionsSinceReset_append (answers : List (SessionAnswer D))
    (answer : SessionAnswer D) (name : String) :
    actionsSinceReset (answers ++ [answer]) name =
      if answer.isFor name "reset_response" then 0
      else actionsSinceReset answers name +
        if answer.isFor name "action_response" then 1 else 0 := by
  unfold actionsSinceReset
  rw [List.reverse_append, List.reverse_singleton, List.singleton_append]
  cases hreset : answer.isFor name "reset_response" with
  | true => simp [hreset]
  | false =>
      rw [List.takeWhile_cons_of_pos (by simp [hreset]), List.countP_cons]
      simp

theorem actionCount_append (answers : List (SessionAnswer D))
    (answer : SessionAnswer D) :
    actionCount (answers ++ [answer]) = actionCount answers +
      if answer.response.hasType "action_response" then 1 else 0 := by
  unfold actionCount
  rw [List.countP_append]
  simp [List.countP_cons]

/-- A response has one type. -/
theorem HostResponse.hasType_unique {response : HostResponse D}
    {type other : String} (h : response.hasType type = true)
    (hne : type ≠ other) : response.hasType other = false := by
  cases response with
  | unavailable => cases h
  | error _ _ => cases h
  | response actual payload =>
      simp only [hasType_response, decide_eq_true_eq] at h
      simp [h, hne]

theorem HostResponse.hasType_of_isError {response : HostResponse D}
    (h : response.isError = true) (type : String) :
    response.hasType type = false := by
  cases response with
  | unavailable => rfl
  | error _ _ => rfl
  | response _ _ => cases h

end Answers

/-- The counts of a host against the responses of its run. -/
structure SessionsCounted (setup : HostSetup D F σ)
    (history : List (Transition (RuntimeHost σ) (HostInput D F)
      (Option (SessionAnswer D)))) (host : RuntimeHost σ) : Prop where
  steps : ∀ name, host.stepCount name =
    actionsSinceReset (answersOf history) name % 2 ^ 64
  sequence : setup.hasRobotIo →
    host.commandSequence = actionCount (answersOf history) % 2 ^ 64

section Runs

variable {setup} {host after : RuntimeHost σ}
variable {history : List (Transition (RuntimeHost σ) (HostInput D F)
  (Option (SessionAnswer D)))}
variable {t : Transition (RuntimeHost σ) (HostInput D F)
  (Option (SessionAnswer D))}

omit [DoubleArithmetic D] [SinglePrecision F] in
theorem answersOf_append :
    answersOf (history ++ [t]) = answersOf history ++ t.output.toList := by
  unfold answersOf
  rw [List.filterMap_append]
  cases hout : t.output <;> simp [hout]

/-- A step without an answer. -/
theorem SessionsCounted.silent (h : SessionsCounted setup history host)
    (hnone : t.output = none) (hkept : RuntimeHost.Unmoved host after) :
    SessionsCounted setup (history ++ [t]) after := by
  have hanswers : answersOf (history ++ [t]) = answersOf history := by
    rw [answersOf_append, hnone, Option.toList_none, List.append_nil]
  constructor
  · intro name
    rw [hanswers, hkept.steps name]
    exact h.steps name
  · intro hio
    have hsame : after.commandSequence = host.commandSequence :=
      congrArg Prod.fst hkept.counters
    rw [hanswers, hsame]
    exact h.sequence hio

/-- A request and its answer. -/
theorem SessionsCounted.handled (h : SessionsCounted setup history host)
    (request : HostRequest D) (answers : HostAnswers D F)
    (hout : t.output = some ⟨request.sessionId,
      (host.handle setup request answers).2.1⟩) :
    SessionsCounted setup (history ++ [t])
      (host.handle setup request answers).1 := by
  have hanswers : answersOf (history ++ [t]) = answersOf history ++
      [⟨request.sessionId, (host.handle setup request answers).2.1⟩] := by
    rw [answersOf_append, hout, Option.toList_some]
  have hcases := RuntimeHost.handle_cases setup host answers request
  generalize (host.handle setup request answers).2.1 = response at *
  generalize (host.handle setup request answers).1 = after at *
  constructor
  · intro name
    have hcount := h.steps name
    rw [hanswers, actionsSinceReset_append]
    unfold SessionAnswer.isFor
    by_cases hname : name = request.sessionId
    · obtain ⟨htype, hmoved⟩ | ⟨htype, hback⟩ | ⟨htype, hreset, hkept⟩ :=
        hcases
      · have hreset := HostResponse.hasType_unique htype
          (show "action_response" ≠ "reset_response" by simp)
        rw [hmoved.steps name, if_pos hname, hcount, hname]
        simp [htype, hreset]
      · rw [hback.steps name, if_pos hname, hname]
        simp [htype]
      · rw [hkept.steps name, hcount, hname]
        simp [htype, hreset]
    · have hother : ¬ request.sessionId = name := fun heq => hname heq.symm
      have hkept : after.stepCount name = host.stepCount name := by
        obtain ⟨-, hmoved⟩ | ⟨-, hback⟩ | ⟨-, -, hkept⟩ := hcases
        · rw [hmoved.steps name, if_neg hname]
        · rw [hback.steps name, if_neg hname]
        · exact hkept.steps name
      rw [hkept, hcount]
      simp [hother]
  · intro hio
    have hcount := h.sequence hio
    rw [hanswers, actionCount_append]
    obtain ⟨htype, hmoved⟩ | ⟨htype, hback⟩ | ⟨htype, hreset, hkept⟩ :=
      hcases
    · rw [hmoved.sequence hio, hcount]
      simp [htype]
    · have haction := HostResponse.hasType_unique htype
        (show "reset_response" ≠ "action_response" by simp)
      have hsame : after.commandSequence = host.commandSequence :=
        congrArg Prod.fst hback.counters
      rw [hsame, hcount]
      simp [haction]
    · have hsame : after.commandSequence = host.commandSequence :=
        congrArg Prod.fst hkept.counters
      rw [hsame, hcount]
      simp [htype]

theorem SessionsCounted.step (h : SessionsCounted setup history host)
    (input : HostInput D F) :
    SessionsCounted setup
      (history ++ [(sessionMachine setup).fire host input])
      ((sessionMachine setup).step host input).1 := by
  cases input with
  | openHost axisCount servoCount damiaoCount =>
      have hkept : RuntimeHost.Unmoved host
          (host.openHost setup axisCount servoCount damiaoCount).1 := by
        unfold RuntimeHost.openHost
        split_ifs
        all_goals exact ⟨fun _ => rfl, rfl⟩
      exact h.silent rfl hkept
  | close => exact h.silent rfl ⟨fun _ => rfl, rfl⟩
  | handle request answers => exact h.handled request answers rfl

end Runs

theorem sessionsCounted_final (policy : σ) (inputs : List (HostInput D F)) :
    SessionsCounted setup
      ((sessionMachine setup).trace (RuntimeHost.fresh policy) inputs)
      ((sessionMachine setup).final (RuntimeHost.fresh policy) inputs) := by
  apply Machine.history_final (SessionsCounted setup)
  · exact ⟨fun _ => rfl, fun _ => rfl⟩
  · intro history host input h
    exact h.step input

/-- Step counts and command sequence of every run, as 64-bit counters. -/
theorem session_step_law (policy : σ) (inputs : List (HostInput D F)) :
    (∀ earlier t later request answers observation session,
      (sessionMachine setup).trace (RuntimeHost.fresh policy) inputs =
        earlier ++ t :: later →
      t.input = .handle request answers →
      t.before.inference setup request answers =
        some (observation, session) →
      session.stepId =
        actionsSinceReset (answersOf earlier) request.sessionId % 2 ^ 64) ∧
    (∀ t ∈ (sessionMachine setup).trace (RuntimeHost.fresh policy) inputs,
      ∀ answer ∈ t.output,
      (answer.response.isError →
        (∀ name, t.after.stepCount name = t.before.stepCount name) ∧
        t.after.commandSequence = t.before.commandSequence ∧
        t.after.lastCommandTimestampNs = t.before.lastCommandTimestampNs) ∧
      ∀ name ≠ answer.sessionId,
        t.after.stepCount name = t.before.stepCount name) ∧
    (setup.hasRobotIo →
      ((sessionMachine setup).final (RuntimeHost.fresh policy)
        inputs).commandSequence =
      actionCount (answersOf ((sessionMachine setup).trace
        (RuntimeHost.fresh policy) inputs)) % 2 ^ 64) := by
  refine ⟨?_, ?_, (sessionsCounted_final setup policy inputs).sequence⟩
  · intro earlier t later request answers observation session hsplit hinput
      hinference
    obtain ⟨before, input, after, -, hearlier, hfire, -⟩ :=
      Machine.trace_split hsplit
    have hcounted := sessionsCounted_final setup policy before
    rw [← hearlier] at hcounted
    rw [RuntimeHost.inference_stepId hinference, hfire]
    exact hcounted.steps request.sessionId
  · intro t hmem answer hanswer
    obtain ⟨before, input, -, hfire⟩ := Machine.exists_fire_of_mem_trace hmem
    generalize (sessionMachine setup).final (RuntimeHost.fresh policy)
      before = host at hfire
    subst t
    cases input with
    | openHost axisCount servoCount damiaoCount => cases hanswer
    | close => cases hanswer
    | handle request answers =>
        cases hanswer
        have hcases := RuntimeHost.handle_cases setup host answers request
        constructor
        · intro herror
          have hnot := HostResponse.hasType_of_isError herror
          obtain ⟨htype, -⟩ | ⟨htype, -⟩ | ⟨-, -, hkept⟩ := hcases
          · rw [hnot] at htype
            cases htype
          · rw [hnot] at htype
            cases htype
          · exact ⟨hkept.steps, congrArg Prod.fst hkept.counters,
              congrArg Prod.snd hkept.counters⟩
        · intro name hname
          obtain ⟨-, hmoved⟩ | ⟨-, hback⟩ | ⟨-, -, hkept⟩ := hcases
          · exact (hmoved.steps name).trans (if_neg hname)
          · exact (hback.steps name).trans (if_neg hname)
          · exact hkept.steps name

end Sessions

end PolicyRuntime
