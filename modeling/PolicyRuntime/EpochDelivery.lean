import PolicyRuntime.EpochGroups

/-!
# Delivery of command epochs

The host writes the commands of an epoch and then its commit, each on a topic of
its own.  A topic delivers its samples in order and after any delay, and its
reader keeps the last one only.  The worker takes the command topics of the
group in channel order and then the commit topic.  A commit which is taken
before a command of its epoch is dropped, so an epoch may get lost although
nothing overtakes it.
-/

namespace PolicyRuntime

inductive EpochTopic
  | command (member : ℕ)
  | commit
  deriving DecidableEq

variable {T : Type}

def EpochEvent.topic : EpochEvent T → EpochTopic
  | .stage member _ _ => .command member
  | .commit _ => .commit

def EpochEvent.epoch : EpochEvent T → ℕ
  | .stage _ epoch _ => epoch
  | .commit epoch => epoch

/-- The epochs which the host publishes to a group. -/
structure EpochScript (T : Type) where
  size : ℕ
  epochs : List (EpochBatch T)
  populated : 1 ≤ size
  complete : ∀ batch ∈ epochs, batch.commands.length = size
  increasing : (epochs.map EpochBatch.epoch).Pairwise (· < ·)

/-- One command per member and then the commit. -/
def EpochBatch.samples (batch : EpochBatch T) : List (EpochEvent T) :=
  batch.commands.mapIdx
      (fun member command => .stage member batch.epoch command) ++
    [.commit batch.epoch]

def EpochScript.samples (script : EpochScript T) : List (EpochEvent T) :=
  script.epochs.flatMap EpochBatch.samples

structure EpochDelivery (T : Type) where
  unwritten : List (EpochEvent T)
  inFlight : EpochTopic → List (EpochEvent T)
  reader : EpochTopic → Option (EpochEvent T)
  /-- the next channel of the worker; the commit topic comes last -/
  channel : ℕ
  group : EthercatGroup T

inductive DeliveryAction
  | write
  | deliver (topic : EpochTopic)
  | take

inductive DeliveryEvent (T : Type)
  | quiet
  | wrote (sample : EpochEvent T)
  | took (sample : EpochEvent T) (batch : Option (EpochBatch T))

namespace EpochDelivery

def write (delivery : EpochDelivery T) : EpochDelivery T × DeliveryEvent T :=
  match delivery.unwritten with
  | [] => (delivery, .quiet)
  | sample :: rest =>
      ({ delivery with
          unwritten := rest
          inFlight := Function.update delivery.inFlight sample.topic
            (delivery.inFlight sample.topic ++ [sample]) },
        .wrote sample)

/-- The reader keeps the last sample. -/
def deliver (delivery : EpochDelivery T) (topic : EpochTopic) :
    EpochDelivery T × DeliveryEvent T :=
  match delivery.inFlight topic with
  | [] => (delivery, .quiet)
  | sample :: rest =>
      ({ delivery with
          inFlight := Function.update delivery.inFlight topic rest
          reader := Function.update delivery.reader topic (some sample) },
        .quiet)

def scannedTopic (delivery : EpochDelivery T) : EpochTopic :=
  if delivery.channel < delivery.group.size then .command delivery.channel
  else .commit

def take (delivery : EpochDelivery T) : EpochDelivery T × DeliveryEvent T :=
  let channel :=
    if delivery.channel < delivery.group.size then delivery.channel + 1 else 0
  match delivery.reader delivery.scannedTopic with
  | none => ({ delivery with channel := channel }, .quiet)
  | some sample =>
      let (group, batch) := groupMachine.step delivery.group sample
      ({ delivery with
          channel := channel
          reader := Function.update delivery.reader delivery.scannedTopic none
          group := group },
        .took sample batch)

def step (delivery : EpochDelivery T) :
    DeliveryAction → EpochDelivery T × DeliveryEvent T
  | .write => delivery.write
  | .deliver topic => delivery.deliver topic
  | .take => delivery.take

end EpochDelivery

def deliveryMachine :
    Machine (EpochDelivery T) DeliveryAction (DeliveryEvent T) where
  step := EpochDelivery.step

abbrev DeliveryStep (T : Type) :=
  Transition (EpochDelivery T) DeliveryAction (DeliveryEvent T)

/-- Nothing written, an empty reader on every topic and a fresh group. -/
def EpochScript.start [Inhabited T] (script : EpochScript T) :
    EpochDelivery T where
  unwritten := script.samples
  inFlight := fun _ => []
  reader := fun _ => none
  channel := 0
  group := EthercatGroup.create "" script.size

def EpochScript.run [Inhabited T] (script : EpochScript T)
    (schedule : List DeliveryAction) : List (DeliveryStep T) :=
  deliveryMachine.trace script.start schedule

/-! ## Observations of a run -/

def DeliveryEvent.taken? : DeliveryEvent T → Option (EpochEvent T)
  | .took sample _ => some sample
  | _ => none

def DeliveryEvent.batch? : DeliveryEvent T → Option (EpochBatch T)
  | .took _ batch => batch
  | _ => none

/-- The samples taken by the worker. -/
def taken (history : List (DeliveryStep T)) : List (EpochEvent T) :=
  history.filterMap fun t => t.output.taken?

/-- What is still ahead on a topic, after what has been taken from it. -/
def topicQueue (samples : List (EpochEvent T)) (delivery : EpochDelivery T)
    (topic : EpochTopic) : List (EpochEvent T) :=
  samples.filter (·.topic = topic) ++ (delivery.reader topic).toList ++
    delivery.inFlight topic ++ delivery.unwritten.filter (·.topic = topic)

/-- The readers hold samples of their own topic, and the worker has taken a part
of what the host writes, in order. -/
structure DeliveredFrom (written : List (EpochEvent T))
    (history : List (DeliveryStep T)) (delivery : EpochDelivery T) :
    Prop where
  own : ∀ topic sample, delivery.reader topic = some sample ∨
    sample ∈ delivery.inFlight topic → sample.topic = topic
  queue : ∀ topic, (topicQueue (taken history) delivery topic).Sublist
    (written.filter (·.topic = topic))

theorem taken_append (history : List (DeliveryStep T)) (t : DeliveryStep T) :
    taken (history ++ [t]) = taken history ++ t.output.taken?.toList := by
  unfold taken
  rw [List.filterMap_append, filterMap_cons_toList, List.filterMap_nil,
    List.append_nil]

theorem DeliveredFrom.write
    {written : List (EpochEvent T)} {history : List (DeliveryStep T)}
    {delivery : EpochDelivery T}
    (hfrom : DeliveredFrom written history delivery) :
    DeliveredFrom written (history ++ [deliveryMachine.fire delivery .write])
      delivery.write.1 := by
  have htaken : taken (history ++ [deliveryMachine.fire delivery .write]) =
      taken history := by
    rw [taken_append]
    change taken history ++ delivery.write.2.taken?.toList = taken history
    unfold EpochDelivery.write
    split <;> simp [DeliveryEvent.taken?]
  unfold EpochDelivery.write
  cases hunwritten : delivery.unwritten with
  | nil =>
      refine ⟨hfrom.own, ?_⟩
      intro topic
      rw [htaken]
      exact hfrom.queue topic
  | cons sample rest =>
      refine ⟨?_, ?_⟩
      · intro topic other hother
        by_cases htopic : topic = sample.topic
        · subst htopic
          simp only [Function.update_self, List.mem_append,
            List.mem_singleton] at hother
          rcases hother with hreader | hflight | hnew
          · exact hfrom.own _ _ (.inl hreader)
          · exact hfrom.own _ _ (.inr hflight)
          · rw [hnew]
        · simp only [Function.update_of_ne htopic] at hother
          exact hfrom.own _ _ hother
      · intro topic
        rw [htaken]
        have hqueue := hfrom.queue topic
        unfold topicQueue at hqueue ⊢
        rw [hunwritten] at hqueue
        by_cases htopic : topic = sample.topic
        · subst htopic
          simpa [Function.update_self] using hqueue
        · simpa [Function.update_of_ne htopic, Ne.symm htopic] using hqueue

theorem DeliveredFrom.deliver
    {written : List (EpochEvent T)} {history : List (DeliveryStep T)}
    {delivery : EpochDelivery T}
    (hfrom : DeliveredFrom written history delivery) (target : EpochTopic) :
    DeliveredFrom written
      (history ++ [deliveryMachine.fire delivery (.deliver target)])
      (delivery.deliver target).1 := by
  have htaken :
      taken (history ++ [deliveryMachine.fire delivery (.deliver target)]) =
        taken history := by
    rw [taken_append]
    change taken history ++ (delivery.deliver target).2.taken?.toList =
      taken history
    unfold EpochDelivery.deliver
    split <;> simp [DeliveryEvent.taken?]
  unfold EpochDelivery.deliver
  cases hflight : delivery.inFlight target with
  | nil =>
      refine ⟨hfrom.own, ?_⟩
      intro topic
      rw [htaken]
      exact hfrom.queue topic
  | cons sample rest =>
      refine ⟨?_, ?_⟩
      · intro topic other hother
        by_cases htopic : topic = target
        · subst htopic
          simp only [Function.update_self, Option.some.injEq] at hother
          refine hfrom.own _ _ (.inr ?_)
          rw [hflight]
          rcases hother with hreader | hrest
          · rw [hreader]
            exact List.mem_cons_self
          · exact List.mem_cons_of_mem sample hrest
        · simp only [Function.update_of_ne htopic] at hother
          exact hfrom.own _ _ hother
      · intro topic
        rw [htaken]
        refine List.Sublist.trans ?_ (hfrom.queue topic)
        unfold topicQueue
        by_cases htopic : topic = target
        · subst htopic
          -- the sample which was in the reader is overwritten
          simp only [Function.update_self, Option.toList_some, hflight]
          refine List.Sublist.append_right ?_ _
          rw [List.append_assoc, List.append_assoc]
          refine List.Sublist.append_left ?_ _
          exact List.sublist_append_right _ _
        · simp [Function.update_of_ne htopic]

theorem DeliveredFrom.take
    {written : List (EpochEvent T)} {history : List (DeliveryStep T)}
    {delivery : EpochDelivery T}
    (hfrom : DeliveredFrom written history delivery) :
    DeliveredFrom written (history ++ [deliveryMachine.fire delivery .take])
      delivery.take.1 := by
  have htaken : taken (history ++ [deliveryMachine.fire delivery .take]) =
      taken history ++ (delivery.reader delivery.scannedTopic).toList := by
    rw [taken_append]
    change taken history ++ delivery.take.2.taken?.toList = _
    unfold EpochDelivery.take
    cases delivery.reader delivery.scannedTopic <;> rfl
  unfold EpochDelivery.take
  cases hreader : delivery.reader delivery.scannedTopic with
  | none =>
      refine ⟨hfrom.own, ?_⟩
      intro topic
      rw [htaken, hreader, Option.toList_none, List.append_nil]
      exact hfrom.queue topic
  | some sample =>
      have hown := hfrom.own _ _ (.inl hreader)
      refine ⟨?_, ?_⟩
      · intro topic other hother
        by_cases htopic : topic = delivery.scannedTopic
        · subst htopic
          simp only [Function.update_self, reduceCtorEq, false_or] at hother
          exact hfrom.own _ _ (.inr hother)
        · simp only [Function.update_of_ne htopic] at hother
          exact hfrom.own _ _ hother
      · intro topic
        rw [htaken, hreader]
        have hqueue := hfrom.queue topic
        unfold topicQueue at hqueue ⊢
        by_cases htopic : topic = delivery.scannedTopic
        · subst htopic
          rw [hreader] at hqueue
          simpa [hown] using hqueue
        · have hother : ¬ delivery.scannedTopic = topic := Ne.symm htopic
          simpa [Function.update_of_ne htopic, hown, hother] using hqueue

theorem EpochDelivery.step_group
    (delivery : EpochDelivery T) (action : DeliveryAction) :
    (delivery.step action).1.group = groupMachine.final delivery.group
        (delivery.step action).2.taken?.toList ∧
      (delivery.step action).2.batch?.toList = batches groupMachine
        delivery.group (delivery.step action).2.taken?.toList := by
  cases action with
  | write =>
      change delivery.write.1.group = _ ∧ _
      unfold step write
      cases delivery.unwritten <;> exact ⟨rfl, rfl⟩
  | deliver topic =>
      unfold step deliver
      dsimp only
      cases delivery.inFlight topic <;> exact ⟨rfl, rfl⟩
  | take =>
      unfold step take
      dsimp only
      cases delivery.reader delivery.scannedTopic with
      | none => exact ⟨rfl, rfl⟩
      | some sample =>
          dsimp only [DeliveryEvent.taken?, DeliveryEvent.batch?,
            Option.toList_some]
          rw [batches_cons]
          exact ⟨rfl, (List.append_nil _).symm⟩

section Delivery

variable [Inhabited T]

end Delivery

end PolicyRuntime
