import Escaping.Audit.Report

/-!
Audit queues. Between a logger and its handlers a bounded queue takes records; a listener takes
them out in order and hands each to every handler that wants its level. A record that finds the
queue full is dropped and counted.
-/

namespace Escaping

structure AuditQueue where
  capacity : Nat
  /-- Records that wait, the oldest first. -/
  waiting : List LogRecord
  inHand : Option LogRecord
  /-- Records that the listener has handed on, the oldest first. -/
  delivered : List LogRecord
  dropped : Nat
deriving DecidableEq

namespace AuditQueue

def empty (capacity : Nat) : AuditQueue := ⟨capacity, [], none, [], 0⟩

/-- The capacity of a queue for which none is chosen. -/
def standardCapacity : Nat := 1024

def isFull (queue : AuditQueue) : Bool := queue.capacity ≤ queue.waiting.length

inductive Step where
  | log (record : LogRecord)
  | take
  | deliver
deriving DecidableEq

def log (queue : AuditQueue) (record : LogRecord) : AuditQueue :=
  if queue.waiting.length < queue.capacity then
    ⟨queue.capacity, queue.waiting ++ [record], queue.inHand, queue.delivered, queue.dropped⟩
  else ⟨queue.capacity, queue.waiting, queue.inHand, queue.delivered, queue.dropped + 1⟩

/-- A listener with a record in hand takes no other. -/
def take (queue : AuditQueue) : AuditQueue :=
  match queue.inHand, queue.waiting with
  | none, record :: rest => ⟨queue.capacity, rest, some record, queue.delivered, queue.dropped⟩
  | _, _ => queue

def deliver (queue : AuditQueue) : AuditQueue :=
  match queue.inHand with
  | some record =>
      ⟨queue.capacity, queue.waiting, none, queue.delivered ++ [record], queue.dropped⟩
  | none => queue

def step (queue : AuditQueue) : Step → AuditQueue
  | .log record => queue.log record
  | .take => queue.take
  | .deliver => queue.deliver

def run (queue : AuditQueue) (steps : List Step) : AuditQueue := steps.foldl step queue

/-- A step of the listener of a queue. -/
inductive Progress where
  | take
  | deliver
deriving DecidableEq

def Progress.step : Progress → Step
  | .take => .take
  | .deliver => .deliver

/-- What a listener makes of its queue while nothing is logged. -/
def goOn (queue : AuditQueue) (progress : List Progress) : AuditQueue :=
  queue.run (progress.map Progress.step)

def drain (queue : AuditQueue) : AuditQueue :=
  ⟨queue.capacity, [], none, queue.delivered ++ queue.inHand.toList ++ queue.waiting, queue.dropped⟩

/-- The records that a handler gets: the delivered ones that are at least as severe as its
level. -/
def received (queue : AuditQueue) (level : Level) : List LogRecord :=
  queue.delivered.filter fun record => level.severity ≤ record.level.severity

/-- Draining is what a listener does by taking and handing on until nothing waits. -/
theorem drain_eq_run (queue : AuditQueue) :
    queue.drain
      = queue.run (.deliver :: (List.replicate queue.waiting.length [Step.take, .deliver]).flatten) := by
  obtain ⟨capacity, waiting, inHand, delivered, dropped⟩ := queue
  have fromEmptyHand : ∀ waiting delivered,
      (⟨capacity, waiting, none, delivered, dropped⟩ : AuditQueue).run
          (List.replicate waiting.length [Step.take, .deliver]).flatten
        = ⟨capacity, [], none, delivered ++ waiting, dropped⟩ := by
    intro waiting
    induction waiting with
    | nil => simp [run]
    | cons head tail induction =>
        intro delivered
        simpa [run, List.replicate_succ, step, take, deliver] using induction (delivered ++ [head])
  cases inHand with
  | none => simpa [run, step, deliver, drain] using (fromEmptyHand waiting delivered).symm
  | some record =>
      simpa [run, step, deliver, drain] using (fromEmptyHand waiting (delivered ++ [record])).symm

end AuditQueue

/-- The fault of a queue that could hold nothing. -/
structure EmptyCapacity where
  size : Int
deriving DecidableEq

def EmptyCapacity.message (fault : EmptyCapacity) : Text :=
  Text.ofString "queue_size must be positive: " ++ Text.integer fault.size

def AuditQueue.ofSize (size : Int) : Except EmptyCapacity AuditQueue :=
  if size < 1 then .error ⟨size⟩ else .ok (.empty size.toNat)

end Escaping
