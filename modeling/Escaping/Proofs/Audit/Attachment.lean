import Escaping.Audit.Attachment
import Mathlib.Data.List.Basic

/-!
What starting and stopping queues leaves of a logger. Its handlers are always those that it had,
followed by the queues that run and that no refused call has detached. Whether it passes records on
depends on nothing but the last step that started or stopped a queue: a start ends it and a stop
takes it up again, so that neither other queues that run nor the choice made before the first start
are kept.
-/

namespace Escaping

namespace AuditLogger

variable (logger : AuditLogger)

/-- The queue that a step leaves running although it was a call to stop it. -/
def refusedBy : Step → List Nat
  | .stop number meanwhile =>
      if logger.fault? (.stop number meanwhile) = some .queueFull then [number] else []
  | .start _ | .log _ | .progress _ _ => []

/-- The queues that were to be stopped and were not, one for each call that failed. -/
def refused (logger : AuditLogger) : List Step → List Nat
  | [] => []
  | first :: rest => logger.refusedBy first ++ (logger.step first).refused rest

/-- The steps that start a queue or stop one: they change which queues run. -/
def effective (logger : AuditLogger) : List Step → List Step
  | [] => []
  | first :: rest =>
      if (logger.step first).running = logger.running then (logger.step first).effective rest
      else first :: (logger.step first).effective rest

/-- Whether records are passed on after a step that starts or stops a queue. -/
def Step.propagates : Step → Bool
  | .start _ => false
  | .stop _ _ | .log _ | .progress _ _ => true

theorem lt_length_of_runs {number : Nat} (runs : logger.runs number = true) :
    number < logger.queues.length := by
  rcases (Option.any_eq_true_iff_get _ _).mp runs with ⟨present, _⟩
  exact (List.getElem?_eq_some_iff.mp (Option.eq_some_of_isSome present)).1

theorem mem_running_iff (number : Nat) : number ∈ logger.running ↔ logger.runs number = true := by
  rw [running, List.mem_filter, List.mem_range]
  exact and_iff_right_of_imp logger.lt_length_of_runs

theorem nodup_running : logger.running.Nodup := List.nodup_range.filter _

/-- Nothing that concerns the logger has changed, only what is in its queues. -/
structure Keeps (logger next : AuditLogger) : Prop where
  handlers : next.handlers = logger.handlers
  propagates : next.propagates = logger.propagates
  length : next.queues.length = logger.queues.length
  runs : next.runs = logger.runs

/-- A queue that ran has been detached. -/
structure Detaches (logger : AuditLogger) (number : Nat) (next : AuditLogger) : Prop where
  ran : number ∈ logger.running
  handlers : next.handlers = logger.handlers.erase (.queue number)
  length : next.queues.length = logger.queues.length

/-- What a step can come to. -/
inductive Effect (logger : AuditLogger) : Step → AuditLogger → Prop
  | started (size : Int) (queue : AuditQueue) : Effect logger (.start size) (logger.start queue)
  | stopped {number : Nat} {meanwhile : List AuditQueue.Progress} {next : AuditLogger} :
      logger.refusedBy (.stop number meanwhile) = [] → logger.Detaches number next →
      next.propagates = true → next.running = logger.running.filter (· != number) →
      Effect logger (.stop number meanwhile) next
  | refused {number : Nat} {meanwhile : List AuditQueue.Progress} {next : AuditLogger} :
      logger.refusedBy (.stop number meanwhile) = [number] → logger.Detaches number next →
      next.propagates = logger.propagates → next.running = logger.running →
      Effect logger (.stop number meanwhile) next
  | silent {step : Step} {next : AuditLogger} :
      logger.refusedBy step = [] → logger.Keeps next → Effect logger step next

variable {logger}

theorem Detaches.started {number : Nat} {next : AuditLogger}
    (detaches : logger.Detaches number next) : number < logger.queues.length :=
  logger.lt_length_of_runs ((logger.mem_running_iff number).mp detaches.ran)

theorem Keeps.refl : logger.Keeps logger := ⟨rfl, rfl, rfl, rfl⟩

theorem Keeps.running {next : AuditLogger} (keeps : logger.Keeps next) :
    next.running = logger.running := by
  rw [AuditLogger.running, AuditLogger.running, keeps.length, keeps.runs]

theorem keeps_log (record : LogRecord) : logger.Keeps (logger.log record) where
  handlers := rfl
  propagates := rfl
  length := List.length_mapIdx
  runs := by
    funext number
    rw [runs, runs, log, List.getElem?_mapIdx]
    cases logger.queues[number]? with
    | none => rfl
    | some started =>
        rw [Option.map_some, Option.any_some, Option.any_some]
        split
        · rfl
        · rfl

theorem keeps_progress (number : Nat) (progress : AuditQueue.Progress) :
    logger.Keeps (logger.progress number progress) where
  handlers := rfl
  propagates := rfl
  length := List.length_modify ..
  runs := by
    funext other
    rw [runs, runs, AuditLogger.progress, List.getElem?_modify]
    cases logger.queues[other]? with
    | none => rfl
    | some started =>
        rw [Option.map_eq_map, Option.map_some, Option.any_some, Option.any_some]
        split
        · rfl
        · rfl

theorem running_start (queue : AuditQueue) :
    (logger.start queue).running = logger.running ++ [logger.queues.length] := by
  have others : ∀ number ∈ List.range logger.queues.length,
      (logger.start queue).runs number = logger.runs number := by
    intro number inside
    rw [runs, runs, start, List.getElem?_append_left (List.mem_range.mp inside)]
  have runs : (logger.start queue).runs logger.queues.length = true := by
    rw [AuditLogger.runs, start, List.getElem?_concat_length]
    rfl
  have longer : (logger.start queue).queues.length = logger.queues.length + 1 :=
    List.length_append
  rw [running, longer, List.range_succ, List.filter_append, List.filter_congr others,
    List.filter_cons_of_pos runs]
  rfl

section Stopping

variable {number : Nat} {meanwhile : List AuditQueue.Progress} {queue : AuditQueue}

theorem mem_running_of_getElem? (here : logger.queues[number]? = some ⟨queue, false⟩) :
    number ∈ logger.running := by
  rw [mem_running_iff, runs, here]
  rfl

/-- A queue that is replaced by another state of it runs unless that is stopped. -/
theorem runs_set (here : logger.queues[number]? = some ⟨queue, false⟩) (handlers : List LogHandler)
    (propagates : Bool) (rest : StartedQueue) (other : Nat) :
    (⟨handlers, propagates, logger.queues.set number rest⟩ : AuditLogger).runs other
      = (logger.runs other && !(decide (other = number) && rest.stopped)) := by
  have within := (List.getElem?_eq_some_iff.mp here).1
  rw [runs, runs, List.getElem?_set]
  by_cases same : number = other
  · subst same
    rw [here, if_pos rfl, if_pos within, Option.any_some, Option.any_some]
    simp
  · simp [same, Ne.symm same]

theorem effect_stop_of_full (here : logger.queues[number]? = some ⟨queue, false⟩)
    (full : (queue.goOn meanwhile).isFull = true) :
    logger.Effect (.stop number meanwhile) (logger.stop number meanwhile) := by
  have left : logger.stop number meanwhile
      = ⟨logger.handlers.erase (.queue number), logger.propagates,
        logger.queues.set number ⟨queue.goOn meanwhile, false⟩⟩ := by
    simp only [stop, here, full, if_true]
  have ran := mem_running_of_getElem? here
  have stillRuns : (logger.stop number meanwhile).running = logger.running := by
    rw [left, running, running, List.length_set]
    apply List.filter_congr
    intro other _
    rw [runs_set here, Bool.and_false, Bool.not_false, Bool.and_true]
  apply Effect.refused
  · simp only [refusedBy, fault?, refuses, here, full, if_true]
  · exact ⟨ran, by rw [left], by rw [left, List.length_set]⟩
  · rw [left]
  · exact stillRuns

theorem effect_stop_of_room (here : logger.queues[number]? = some ⟨queue, false⟩)
    (room : (queue.goOn meanwhile).isFull = false) :
    logger.Effect (.stop number meanwhile) (logger.stop number meanwhile) := by
  have left : logger.stop number meanwhile
      = ⟨logger.handlers.erase (.queue number), true,
        logger.queues.set number ⟨(queue.goOn meanwhile).drain, true⟩⟩ := by
    simp only [stop, here, room, Bool.false_eq_true, if_false]
  have ran := mem_running_of_getElem? here
  have othersRun : (logger.stop number meanwhile).running
      = logger.running.filter (· != number) := by
    rw [left, running, running, List.length_set, List.filter_filter]
    apply List.filter_congr
    intro other _
    rw [runs_set here, Bool.and_true, Bool.and_comm]
    rfl
  apply Effect.stopped
  · simp only [refusedBy, fault?, refuses, here, room, Bool.false_eq_true, if_false, reduceCtorEq]
  · exact ⟨ran, by rw [left], by rw [left, List.length_set]⟩
  · rw [left]
  · exact othersRun

end Stopping

/-- A call to stop a queue that was stopped, or that never was started, does nothing. -/
theorem stop_of_idle {number : Nat} (idle : number ∉ logger.running)
    (meanwhile : List AuditQueue.Progress) :
    logger.stop number meanwhile = logger ∧ logger.refuses number meanwhile = false := by
  have none : ∀ queue, logger.queues[number]? ≠ some ⟨queue, false⟩ :=
    fun _ here => idle (mem_running_of_getElem? here)
  unfold stop refuses
  split
  next queue here => exact absurd here (none queue)
  next => exact ⟨rfl, rfl⟩

theorem effect_stop (number : Nat) (meanwhile : List AuditQueue.Progress) :
    logger.Effect (.stop number meanwhile) (logger.stop number meanwhile) := by
  by_cases ran : number ∈ logger.running
  · rw [mem_running_iff, runs] at ran
    match here : logger.queues[number]? with
    | none => simp [here] at ran
    | some ⟨queue, true⟩ => simp [here] at ran
    | some ⟨queue, false⟩ =>
        cases full : (queue.goOn meanwhile).isFull with
        | true => exact effect_stop_of_full here full
        | false => exact effect_stop_of_room here full
  · rcases stop_of_idle ran meanwhile with ⟨same, accepted⟩
    rw [same]
    refine .silent ?_ .refl
    simp only [refusedBy, fault?, accepted, Bool.false_eq_true, if_false, reduceCtorEq]

/-- What every step comes to, by the kind of the step. -/
theorem effect_step (logger : AuditLogger) (step : Step) :
    logger.Effect step (logger.step step) := by
  cases step with
  | start size =>
      unfold AuditLogger.step
      dsimp only
      cases AuditQueue.ofSize size with
      | ok queue => exact .started size queue
      | error refused => exact .silent rfl .refl
  | stop number meanwhile => exact effect_stop number meanwhile
  | log record => exact .silent rfl (keeps_log record)
  | progress number progress => exact .silent rfl (keeps_progress number progress)

/-- What holds of a logger at each moment since it had only handlers of its own. -/
structure Attached (others : List Nat) (propagates : Bool) (refused : List Nat)
    (logger : AuditLogger) : Prop where
  handlers : logger.handlers = others.map LogHandler.other
    ++ (logger.running.filter (· ∉ refused)).map LogHandler.queue
  known : ∀ number ∈ refused, number < logger.queues.length
  untouched : logger.queues.length = 0 → logger.propagates = propagates
  settled : logger.queues.length ≠ 0 → logger.running = [] → logger.propagates = true

variable {others : List Nat} {propagates : Bool} {refused : List Nat}

theorem attached_ofHandlers : (ofHandlers others propagates).Attached others propagates [] where
  handlers := (List.append_nil _).symm
  known := List.forall_mem_nil _
  untouched := fun _ => rfl
  settled := fun started => absurd rfl started

/-- Detaching a queue takes it out of those that are attached, and leaves the other handlers. -/
theorem Attached.handlers_erase (attached : logger.Attached others propagates refused)
    (number : Nat) :
    logger.handlers.erase (.queue number) = others.map LogHandler.other
      ++ ((logger.running.filter (· ∉ refused)).filter (· != number)).map LogHandler.queue := by
  have foreign : LogHandler.queue number ∉ others.map LogHandler.other := by simp
  have injective : Function.Injective LogHandler.queue := fun _ _ same => LogHandler.queue.inj same
  have distinct : (logger.running.filter (· ∉ refused)).Nodup := logger.nodup_running.filter _
  rw [attached.handlers, List.erase_append_right _ foreign, ← List.map_erase injective,
    distinct.erase_eq_filter]

theorem Attached.start (attached : logger.Attached others propagates refused)
    (queue : AuditQueue) : (logger.start queue).Attached others propagates refused := by
  have longer : (logger.start queue).queues.length = logger.queues.length + 1 :=
    List.length_append
  have fresh : logger.queues.length ∉ refused := fun member =>
    Nat.lt_irrefl _ (attached.known _ member)
  have kept : [logger.queues.length].filter (· ∉ refused) = [logger.queues.length] :=
    List.filter_cons_of_pos (decide_eq_true fresh)
  have runs := logger.running_start queue
  constructor
  · rw [runs, List.filter_append, kept, List.map_append, ← List.append_assoc,
      ← attached.handlers]
    rfl
  · intro number member
    rw [longer]
    exact Nat.lt_succ_of_lt (attached.known number member)
  · intro unstarted
    rw [longer] at unstarted
    cases unstarted
  · intro _ idle
    rw [runs] at idle
    exact absurd idle (List.append_ne_nil_of_right_ne_nil _ (List.cons_ne_nil _ _))

theorem Attached.effect (attached : logger.Attached others propagates refused) {step : Step}
    {next : AuditLogger} (effect : logger.Effect step next) :
    next.Attached others propagates (refused ++ logger.refusedBy step) := by
  cases effect with
  | started size queue =>
      have none : logger.refusedBy (.start size) = [] := rfl
      rw [none, List.append_nil]
      exact attached.start queue
  | @stopped number meanwhile next accepted detaches passes left =>
      rw [accepted, List.append_nil]
      constructor
      · rw [detaches.handlers, attached.handlers_erase, left, List.filter_filter,
          List.filter_filter]
        simp only [Bool.and_comm]
      · rw [detaches.length]
        exact attached.known
      · intro unstarted
        have started := detaches.started
        rw [detaches.length] at unstarted
        omega
      · exact fun _ _ => passes
  | @refused number meanwhile next failed detaches same stays =>
      have started := detaches.started
      rw [failed]
      constructor
      · rw [detaches.handlers, attached.handlers_erase, stays, List.filter_filter]
        congr 2
        apply List.filter_congr
        intro other _
        rw [Bool.eq_iff_iff]
        simp [and_comm]
      · intro other member
        rw [detaches.length]
        rcases List.mem_append.mp member with earlier | latest
        · exact attached.known other earlier
        · exact List.mem_singleton.mp latest ▸ started
      · rw [detaches.length]
        intro unstarted
        omega
      · intro _ idle
        have ran := detaches.ran
        rw [← stays, idle] at ran
        cases ran
  | silent accepted keeps =>
      rw [accepted, List.append_nil]
      constructor
      · rw [keeps.handlers, keeps.running, attached.handlers]
      · rw [keeps.length]
        exact attached.known
      · rw [keeps.length, keeps.propagates]
        exact attached.untouched
      · rw [keeps.length, keeps.running, keeps.propagates]
        exact attached.settled

/-- The history of the calls that failed grows with each step. -/
theorem Attached.run (attached : logger.Attached others propagates refused) (steps : List Step) :
    (logger.run steps).Attached others propagates (refused ++ logger.refused steps) := by
  induction steps generalizing logger refused with
  | nil => exact (List.append_nil refused).symm ▸ attached
  | cons first rest induction =>
      rw [AuditLogger.refused, ← List.append_assoc]
      exact induction (attached.effect (logger.effect_step first))

/-- A step decides on whether records are passed on exactly if it starts or stops a queue. -/
theorem propagates_step (logger : AuditLogger) (step : Step) :
    (logger.step step).propagates
      = if (logger.step step).running = logger.running then logger.propagates
        else step.propagates := by
  have effect := logger.effect_step step
  generalize logger.step step = next at effect ⊢
  cases effect with
  | started size queue =>
      have changed : (logger.start queue).running ≠ logger.running := by
        rw [running_start]
        exact fun same => List.cons_ne_nil _ _ (List.append_right_eq_self.mp same)
      rw [if_neg changed]
      rfl
  | @stopped number meanwhile next _ detaches passes left =>
      have changed : next.running ≠ logger.running := by
        intro same
        have ran := detaches.ran
        rw [← same, left] at ran
        simp at ran
      rw [if_neg changed, passes]
      rfl
  | refused _ _ same stays => rw [if_pos stays, same]
  | silent _ keeps => rw [if_pos keeps.running, keeps.propagates]

theorem propagates_run (logger : AuditLogger) (steps : List Step) :
    (logger.run steps).propagates
      = ((logger.effective steps).getLast?.map Step.propagates).getD logger.propagates := by
  induction steps generalizing logger with
  | nil => rfl
  | cons first rest induction =>
      have opened : logger.run (first :: rest) = (logger.step first).run rest := rfl
      have flag := logger.propagates_step first
      rw [opened, effective, induction, flag]
      split
      next => rfl
      next =>
        rw [List.getLast?_cons]
        cases ((logger.step first).effective rest).getLast? with
        | none => rfl
        | some last => rfl

theorem running_of_effective_eq_nil {steps : List Step} (idle : logger.effective steps = []) :
    (logger.run steps).running = logger.running := by
  induction steps generalizing logger with
  | nil => rfl
  | cons first rest induction =>
      rw [effective] at idle
      split at idle
      next same => exact (induction idle).trans same
      next => cases idle

/-- Handlers are always as they were before the first start, but for the queues that still run and
that no call which failed has detached. A logger that runs queues passes no records on exactly if the
last step to start or to stop one was a start; one that no longer does has the handlers that it had,
and passes records on as before exactly if it did so then, or none was started. -/
theorem run_ofHandlers (others : List Nat) (propagates : Bool) (steps : List Step) :
    let before := ofHandlers others propagates
    let now := before.run steps
    now.handlers = before.handlers
        ++ (now.running.filter (· ∉ before.refused steps)).map LogHandler.queue
      ∧ (now.running ≠ [] → (now.propagates = false
        ↔ ∃ size, (before.effective steps).getLast? = some (.start size)))
      ∧ (now.running = [] → now.handlers = before.handlers
        ∧ (now.propagates = propagates ↔ propagates = true ∨ now.queues = [])) := by
  intro before now
  have attached : now.Attached others propagates (before.refused steps) :=
    attached_ofHandlers.run steps
  refine ⟨attached.handlers, ?_, ?_⟩
  · intro runs
    have flag : now.propagates
        = ((before.effective steps).getLast?.map Step.propagates).getD before.propagates :=
      propagates_run before steps
    rw [flag]
    cases last : (before.effective steps).getLast? with
    | none =>
        have unchanged : now.running = before.running :=
          running_of_effective_eq_nil (List.getLast?_eq_none_iff.mp last)
        rw [unchanged] at runs
        exact absurd rfl runs
    | some step =>
        cases step with
        | start size => exact iff_of_true rfl ⟨size, rfl⟩
        | stop => exact iff_of_false nofun fun ⟨_, same⟩ => nomatch same
        | log => exact iff_of_false nofun fun ⟨_, same⟩ => nomatch same
        | progress => exact iff_of_false nofun fun ⟨_, same⟩ => nomatch same
  · intro idle
    constructor
    · rw [attached.handlers, idle]
      exact List.append_nil _
    by_cases started : now.queues = []
    · exact iff_of_true (attached.untouched (List.length_eq_zero_iff.mpr started)) (.inr started)
    · rw [attached.settled (fun none => started (List.length_eq_zero_iff.mp none)) idle,
        or_iff_left started]
      exact eq_comm

/-- A queue is stopped while another one runs, a logger that passed nothing on is made to, and a
queue whose only place is taken while another record is in hand is detached without being stopped. -/
theorem run_ofHandlers_overlapping :
    let record : LogRecord := ⟨Report.auditLogger, .error, Text.ofString "blocked", none⟩
    let overlapping := (ofHandlers [] true).run [.start 1, .start 1, .stop 0 []]
    let quiet := (ofHandlers [] false).run [.start 1, .stop 0 []]
    let full := (ofHandlers [] true).run [.start 1, .log record, .progress 0 .take, .log record]
    overlapping.running = [1] ∧ overlapping.propagates = true
      ∧ quiet.running = [] ∧ quiet.propagates = true
      ∧ full.fault? (.stop 0 []) = some .queueFull
      ∧ (full.stop 0).running = [0] ∧ (full.stop 0).handlers = []
      ∧ (full.stop 0).propagates = false := by
  decide

end AuditLogger

end Escaping
