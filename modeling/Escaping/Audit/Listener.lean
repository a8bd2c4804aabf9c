import Escaping.Audit.Queue

/-!
Listeners. A listener takes the records of its queue one at a time and hands each to its handlers in
turn. A handler keeps the records that are at least as severe as its threshold.
-/

namespace Escaping

/-- A handler behind a queue, with the records that it kept, the oldest first. -/
structure Recipient where
  threshold : Int
  records : List LogRecord
deriving DecidableEq

def LogRecord.reaches (record : LogRecord) (threshold : Int) : Bool :=
  decide (threshold ≤ record.level.severity)

def Recipient.hand (record : LogRecord) (recipient : Recipient) : Recipient :=
  if record.reaches recipient.threshold then
    ⟨recipient.threshold, recipient.records ++ [record]⟩
  else recipient

/-- The record that is handed on in a step. -/
def AuditQueue.handedOn (queue : AuditQueue) : Step → Option LogRecord
  | .deliver => queue.inHand
  | _ => none

structure AuditListener where
  queue : AuditQueue
  recipients : List Recipient

namespace AuditListener

/-- A listener on an empty queue, with a handler for each threshold. -/
def ofSize (size : Int) (thresholds : List Int) : Except EmptyCapacity AuditListener :=
  (AuditQueue.ofSize size).map fun queue => ⟨queue, thresholds.map (⟨·, []⟩)⟩

/-- A record that is handed on goes to every handler. -/
def step (listener : AuditListener) (step : AuditQueue.Step) : AuditListener :=
  ⟨listener.queue.step step,
    match listener.queue.handedOn step with
    | some record => listener.recipients.map (Recipient.hand record)
    | none => listener.recipients⟩

def run (listener : AuditListener) (steps : List AuditQueue.Step) : AuditListener :=
  steps.foldl step listener

/-- What handlers keep has no effect on the queue. -/
@[simp] theorem queue_run (listener : AuditListener) (steps : List AuditQueue.Step) :
    (listener.run steps).queue = listener.queue.run steps := by
  induction steps generalizing listener with
  | nil => rfl
  | cons first rest induction => exact induction (listener.step first)

end AuditListener

end Escaping
