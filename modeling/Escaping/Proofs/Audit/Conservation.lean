import Escaping.Audit.Listener

/-!
What becomes of the records that are reported to a queue. A record is accepted unless the queue is
full, and then it is dropped and counted. At each moment the accepted records are those that were
handed on, the one in hand and those that wait, in the order of their reports, so that none is lost
and none comes twice. Once nothing is left to hand on, each handler has kept exactly the accepted
records that it wants.
-/

namespace Escaping

namespace AuditQueue

variable (queue : AuditQueue)

def Step.report? : Step → Option LogRecord
  | .log record => some record
  | _ => none

/-- The records that are reported in some steps. -/
def reported (steps : List Step) : List LogRecord := steps.filterMap Step.report?

/-- The record that is accepted in a step: one that is reported and not counted as dropped. -/
def acceptedIn (step : Step) : List LogRecord :=
  if (queue.step step).dropped = queue.dropped then step.report?.toList else []

/-- The records that are accepted in the course of some steps. -/
def accepted (queue : AuditQueue) : List Step → List LogRecord
  | [] => []
  | first :: rest => queue.acceptedIn first ++ (queue.step first).accepted rest

/-- The records that a queue has taken in, in the order in which they leave it. -/
def contents : List LogRecord := queue.delivered ++ queue.inHand.toList ++ queue.waiting

/-- Nothing waits and nothing is in hand. -/
def IsIdle : Prop := queue.waiting = [] ∧ queue.inHand = none

theorem run_cons (first : Step) (rest : List Step) :
    queue.run (first :: rest) = (queue.step first).run rest := rfl

theorem reported_cons (first : Step) (rest : List Step) :
    reported (first :: rest) = first.report?.toList ++ reported rest := by
  cases first <;> rfl

theorem accepted_append (steps more : List Step) :
    queue.accepted (steps ++ more) = queue.accepted steps ++ (queue.run steps).accepted more := by
  induction steps generalizing queue with
  | nil => rfl
  | cons first rest induction =>
      rw [List.cons_append, accepted, induction, accepted, run_cons, List.append_assoc]

theorem acceptedIn_sublist (step : Step) : (queue.acceptedIn step).Sublist step.report?.toList := by
  unfold acceptedIn
  split
  · exact List.Sublist.refl _
  · exact List.nil_sublist _

theorem accepted_sublist (steps : List Step) : (queue.accepted steps).Sublist (reported steps) := by
  induction steps generalizing queue with
  | nil => exact List.Sublist.refl []
  | cons first rest induction =>
      rw [reported_cons]
      exact (queue.acceptedIn_sublist first).append (induction (queue.step first))

theorem delivered_step (step : Step) :
    (queue.step step).delivered = queue.delivered ++ (queue.handedOn step).toList := by
  rcases queue with ⟨capacity, waiting, inHand, delivered, dropped⟩
  cases step with
  | log record =>
      simp only [AuditQueue.step, log]
      split <;> exact (List.append_nil delivered).symm
  | take =>
      cases inHand with
      | some record => exact (List.append_nil delivered).symm
      | none =>
          cases waiting with
          | nil => exact (List.append_nil delivered).symm
          | cons first rest => exact (List.append_nil delivered).symm
  | deliver =>
      cases inHand with
      | none => exact (List.append_nil delivered).symm
      | some record => rfl

/-- A report adds to the count of dropped records exactly where the queue is full. -/
theorem dropped_log (bounded : queue.waiting.length ≤ queue.capacity) (record : LogRecord) :
    (queue.log record).dropped
      = queue.dropped + if queue.waiting.length = queue.capacity then 1 else 0 := by
  unfold log
  split
  next room => rw [if_neg (Nat.ne_of_lt room), Nat.add_zero]
  next full => rw [if_pos (by omega)]

/-- How a queue before some steps and the one after them go together: what was accepted has been
added to the contents, and every other report to the count of dropped records. -/
structure Accounts (before : AuditQueue) (steps : List Step) (after : AuditQueue) : Prop where
  contents : after.contents = before.contents ++ before.accepted steps
  counted : after.dropped + (before.accepted steps).length
    = before.dropped + (reported steps).length
  capacity : after.capacity = before.capacity
  bounded : before.waiting.length ≤ before.capacity → after.waiting.length ≤ after.capacity

/-- A listener moves records along and changes neither their order nor any count. -/
theorem Accounts.of_silent {step : Step} (silent : step.report? = none)
    (contents : (queue.step step).contents = queue.contents)
    (dropped : (queue.step step).dropped = queue.dropped)
    (capacity : (queue.step step).capacity = queue.capacity)
    (shorter : (queue.step step).waiting.length ≤ queue.waiting.length) :
    Accounts queue [step] (queue.step step) := by
  have nothing : queue.accepted [step] = [] := by simp [accepted, acceptedIn, silent]
  exact {
    contents := by rw [contents, nothing, List.append_nil]
    counted := by rw [dropped, nothing, reported_cons, silent]; rfl
    capacity := capacity
    bounded := fun bound => by omega }

theorem accounts_log (record : LogRecord) : Accounts queue [.log record] (queue.log record) := by
  by_cases room : queue.waiting.length < queue.capacity
  · have logged : queue.log record = { queue with waiting := queue.waiting ++ [record] } := by
      rw [log, if_pos room]
    have kept : queue.accepted [.log record] = [record] := by
      simp [accepted, acceptedIn, step, logged, Step.report?]
    exact {
      contents := by simp [kept, logged, AuditQueue.contents]
      counted := by simp [kept, logged, reported, Step.report?]
      capacity := by rw [logged]
      bounded := fun _ => by
        simp only [logged, List.length_append, List.length_singleton]
        exact room }
  · have logged : queue.log record = { queue with dropped := queue.dropped + 1 } := by
      rw [log, if_neg room]
    have refused : queue.accepted [.log record] = [] := by
      simp [accepted, acceptedIn, step, logged]
    exact {
      contents := by simp [refused, logged, AuditQueue.contents]
      counted := by simp [refused, logged, reported, Step.report?]
      capacity := by rw [logged]
      bounded := fun bound => by simpa [logged] using bound }

theorem accounts_take : Accounts queue [.take] queue.take := by
  rcases queue with ⟨capacity, waiting, inHand, delivered, dropped⟩
  cases inHand with
  | some record => exact .of_silent _ rfl rfl rfl rfl (Nat.le_refl _)
  | none =>
      cases waiting with
      | nil => exact .of_silent _ rfl rfl rfl rfl (Nat.le_refl _)
      | cons first rest =>
          have moved : (take ⟨capacity, first :: rest, none, delivered, dropped⟩).contents
              = contents ⟨capacity, first :: rest, none, delivered, dropped⟩ := by
            simp [take, contents]
          exact .of_silent _ rfl moved rfl rfl (Nat.le_succ _)

theorem accounts_deliver : Accounts queue [.deliver] queue.deliver := by
  rcases queue with ⟨capacity, waiting, inHand, delivered, dropped⟩
  cases inHand with
  | none => exact .of_silent _ rfl rfl rfl rfl (Nat.le_refl _)
  | some record =>
      have moved : (deliver ⟨capacity, waiting, some record, delivered, dropped⟩).contents
          = contents ⟨capacity, waiting, some record, delivered, dropped⟩ := by
        simp [deliver, contents]
      exact .of_silent _ rfl moved rfl rfl (Nat.le_refl _)

theorem accounts_step (step : Step) : Accounts queue [step] (queue.step step) := by
  cases step with
  | log record => exact queue.accounts_log record
  | take => exact queue.accounts_take
  | deliver => exact queue.accounts_deliver

theorem Accounts.trans {before middle after : AuditQueue} {steps more : List Step}
    (reached : before.run steps = middle) (first : Accounts before steps middle)
    (second : Accounts middle more after) : Accounts before (steps ++ more) after where
  contents := by
    rw [second.contents, first.contents, accepted_append, reached, List.append_assoc]
  counted := by
    have reports : reported (steps ++ more) = reported steps ++ reported more :=
      List.filterMap_append
    have counted := first.counted
    have countedMore := second.counted
    rw [accepted_append, reached, reports, List.length_append, List.length_append]
    omega
  capacity := second.capacity.trans first.capacity
  bounded := fun bound => second.bounded (first.bounded bound)

theorem accounts_run (steps : List Step) : Accounts queue steps (queue.run steps) := by
  induction steps generalizing queue with
  | nil =>
      exact {
        contents := (List.append_nil _).symm
        counted := rfl
        capacity := rfl
        bounded := id }
  | cons first rest induction =>
      have joined : Accounts queue ([first] ++ rest) ((queue.step first).run rest) :=
        .trans rfl (queue.accounts_step first) (induction (queue.step first))
      exact joined

theorem dropped_le_run (steps : List Step) : queue.dropped ≤ (queue.run steps).dropped := by
  have counted := (queue.accounts_run steps).counted
  have fewer := (queue.accepted_sublist steps).length_le
  omega

/-- Where nothing is reported any more, nothing is accepted either. -/
theorem accepted_of_silent {steps : List Step} (silent : reported steps = []) :
    queue.accepted steps = [] :=
  List.sublist_nil.mp (silent ▸ queue.accepted_sublist steps)

theorem contents_of_idle (idle : queue.IsIdle) : queue.contents = queue.delivered := by
  rw [contents, idle.1, idle.2]
  simp

/-- The steps of a listener that goes on until nothing waits. -/
def drainSteps : List Step :=
  .deliver :: (List.replicate queue.waiting.length [Step.take, .deliver]).flatten

theorem reported_drainSteps : reported queue.drainSteps = [] := by
  have silent : ∀ count : Nat,
      reported (List.replicate count [Step.take, .deliver]).flatten = [] := by
    intro count
    induction count with
    | zero => rfl
    | succ count induction =>
        rw [List.replicate_succ, List.flatten_cons, reported, List.filterMap_append]
        exact induction
  exact silent queue.waiting.length

end AuditQueue

namespace AuditListener

variable {listener : AuditListener} {thresholds : List Int}

/-- Each handler has kept what was handed on and reaches its threshold. -/
def Serves (thresholds : List Int) (listener : AuditListener) : Prop :=
  listener.recipients = thresholds.map fun threshold =>
    ⟨threshold, listener.queue.delivered.filter (·.reaches threshold)⟩

theorem Serves.step (serves : listener.Serves thresholds) (step : AuditQueue.Step) :
    (listener.step step).Serves thresholds := by
  unfold Serves AuditListener.step
  rw [listener.queue.delivered_step step]
  cases listener.queue.handedOn step with
  | none =>
      rw [Option.toList_none, List.append_nil]
      exact serves
  | some record =>
      have handed : ∀ threshold, Recipient.hand record
          ⟨threshold, listener.queue.delivered.filter (·.reaches threshold)⟩
            = ⟨threshold, (listener.queue.delivered ++ [record]).filter (·.reaches threshold)⟩ := by
        intro threshold
        cases wanted : record.reaches threshold <;>
          simp [Recipient.hand, List.filter_append, wanted]
      show listener.recipients.map (Recipient.hand record) = _
      rw [serves, List.map_map]
      exact List.map_congr_left fun threshold _ => handed threshold

theorem Serves.run (serves : listener.Serves thresholds) (steps : List AuditQueue.Step) :
    (listener.run steps).Serves thresholds := by
  induction steps generalizing listener with
  | nil => exact serves
  | cons first rest induction => exact induction (serves.step first)

theorem ofSize_of_pos {size : Int} (positive : 1 ≤ size) (thresholds : List Int) :
    ofSize size thresholds = .ok ⟨.empty size.toNat, thresholds.map (⟨·, []⟩)⟩ := by
  rw [ofSize, AuditQueue.ofSize, if_neg (by omega)]
  rfl

/-- What holds of a listener at a moment, given what was reported and accepted until then. -/
structure Conserves (size : Int) (thresholds : List Int) (reports accepted : List LogRecord)
    (now : AuditListener) : Prop where
  bounded : (now.queue.waiting.length : Int) ≤ size
  /-- Each accepted record is in one place, and they stand in the order of their reports. -/
  conserved : now.queue.delivered ++ now.queue.inHand.toList ++ now.queue.waiting = accepted
  ordered : accepted.Sublist reports
  counted : reports.length = accepted.length + now.queue.dropped
  /-- The next record that is reported is dropped exactly if the queue is full. -/
  dropping : ∀ record, (now.step (.log record)).queue.dropped
    = now.queue.dropped + if (now.queue.waiting.length : Int) = size then 1 else 0
  increasing : ∀ more, now.queue.dropped ≤ (now.run more).queue.dropped
  /-- However the listener goes on after the last report, once it is idle each handler has kept the
  accepted records that it wants. -/
  complete : ∀ more, AuditQueue.reported more = [] → (now.run more).queue.IsIdle →
    (now.run more).recipients = thresholds.map fun threshold =>
      ⟨threshold, accepted.filter (·.reaches threshold)⟩
  drains : ∃ more, AuditQueue.reported more = [] ∧ (now.run more).queue = now.queue.drain
    ∧ (now.run more).queue.IsIdle
  received : ∀ level : Level, now.queue.drain.received level
    = accepted.filter fun record => level.severity ≤ record.level.severity

/-- The accounts of a queue that began empty, and what its handlers kept, decide all the rest. -/
theorem Serves.conserves {size : Int} (positive : 1 ≤ size) {steps : List AuditQueue.Step}
    {now : AuditListener} (served : now.Serves thresholds)
    (accounts : (AuditQueue.empty size.toNat).Accounts steps now.queue) :
    Conserves size thresholds (AuditQueue.reported steps)
      ((AuditQueue.empty size.toNat).accepted steps) now := by
  have fits : (size.toNat : Int) = size := Int.toNat_of_nonneg (by omega)
  have capacity : now.queue.capacity = size.toNat := accounts.capacity
  have bounded : now.queue.waiting.length ≤ now.queue.capacity :=
    accounts.bounded (Nat.zero_le _)
  have conserved : now.queue.contents = (AuditQueue.empty size.toNat).accepted steps :=
    accounts.contents
  have counted : now.queue.dropped + ((AuditQueue.empty size.toNat).accepted steps).length
      = 0 + (AuditQueue.reported steps).length := accounts.counted
  have idle : now.queue.drain.IsIdle := ⟨rfl, rfl⟩
  exact {
    bounded := by omega
    conserved := conserved
    ordered := AuditQueue.accepted_sublist _ steps
    counted := by omega
    dropping := by
      intro record
      show (now.queue.log record).dropped = _
      rw [now.queue.dropped_log bounded, capacity]
      split <;> split <;> omega
    increasing := by
      intro more
      rw [queue_run]
      exact now.queue.dropped_le_run more
    complete := by
      intro more silent idle
      -- An idle listener holds nothing back, so all that was accepted has been handed on.
      have later := (now.queue.accounts_run more).contents
      rw [now.queue.accepted_of_silent silent, List.append_nil, conserved, ← queue_run,
        AuditQueue.contents_of_idle _ idle] at later
      rw [served.run more, later]
    drains := by
      refine ⟨now.queue.drainSteps, now.queue.reported_drainSteps, ?_, ?_⟩
      · rw [queue_run, now.queue.drain_eq_run]
        rfl
      · rw [queue_run]
        exact now.queue.drain_eq_run ▸ idle
    received := by
      intro level
      rw [← conserved]
      rfl }

/-- A queue that can hold some records loses none of those that it accepts, whatever the order in
which records are reported, taken out and handed on. -/
theorem run_conserves {size : Int} (positive : 1 ≤ size) (thresholds : List Int) :
    ∃ start, ofSize size thresholds = .ok start ∧ ∀ steps,
      Conserves size thresholds (AuditQueue.reported steps) (start.queue.accepted steps)
        (start.run steps) := by
  refine ⟨_, ofSize_of_pos positive thresholds, fun steps => ?_⟩
  have started : Serves thresholds ⟨.empty size.toNat, thresholds.map (⟨·, []⟩)⟩ := rfl
  apply (started.run steps).conserves positive
  rw [queue_run]
  exact AuditQueue.accounts_run _ steps

/-- The third record finds the queue full while the first is in hand. -/
theorem run_conserves_fullQueue :
    let warning : LogRecord := ⟨Report.auditLogger, .warning, Text.ofString "first", none⟩
    let error : LogRecord := ⟨Report.auditLogger, .error, Text.ofString "second", none⟩
    let late : LogRecord := ⟨Report.auditLogger, .error, Text.ofString "third", none⟩
    (1 : Int) ≤ 1 ∧ ∃ start, ofSize 1 [30, 40] = .ok start
      ∧ Conserves 1 [30, 40] [warning, error, late] [warning, error]
        (start.run [.log warning, .take, .log error, .log late]) := by
  intro warning error late
  refine ⟨by decide, ?_⟩
  rcases run_conserves (by decide : (1 : Int) ≤ 1) [30, 40] with ⟨start, made, conserves⟩
  cases made
  exact ⟨_, rfl, conserves [.log warning, .take, .log error, .log late]⟩

end AuditListener

end Escaping
