import Escaping.Audit.Queue

/-!
Attaching queues to a logger. A queue that is started becomes a handler of the logger, which then
no longer passes records on to its parents. To stop a queue is to detach it, to leave its listener
some time, and then to put a mark behind the records that still wait, at which the listener ends. A
queue that is full by then has no room for the mark: the call fails and the queue, now detached, goes
on. Stopping a stopped queue does nothing.
-/

namespace Escaping

/-- A handler of a logger: one that was there before, or a started queue by its number. -/
inductive LogHandler where
  | other (number : Nat)
  | queue (number : Nat)
deriving DecidableEq, Repr

/-- A queue that was started on a logger. -/
structure StartedQueue where
  queue : AuditQueue
  stopped : Bool
deriving DecidableEq

structure AuditLogger where
  handlers : List LogHandler
  /-- Whether records go on to the handlers of parent loggers. -/
  propagates : Bool
  /-- The queues that were started. The number of a queue is its place among them. -/
  queues : List StartedQueue
deriving DecidableEq

/-- Why a queue is not started, or not stopped. -/
inductive AttachmentFault where
  | emptyCapacity (fault : EmptyCapacity)
  | queueFull
deriving DecidableEq

namespace AuditLogger

def ofHandlers (others : List Nat) (propagates : Bool) : AuditLogger :=
  ⟨others.map LogHandler.other, propagates, []⟩

def start (logger : AuditLogger) (queue : AuditQueue := .empty AuditQueue.standardCapacity) :
    AuditLogger :=
  ⟨logger.handlers ++ [.queue logger.queues.length], false, logger.queues ++ [⟨queue, false⟩]⟩

/-- Whether a call to stop a queue fails: it was not stopped before, and is full after what its
listener does meanwhile. -/
def refuses (logger : AuditLogger) (number : Nat) (meanwhile : List AuditQueue.Progress) : Bool :=
  match logger.queues[number]? with
  | some ⟨queue, false⟩ => (queue.goOn meanwhile).isFull
  | _ => false

/-- Stops a queue by its number. The listener has time for some progress before it is told to end,
and hands on all that waits if it is. -/
def stop (logger : AuditLogger) (number : Nat) (meanwhile : List AuditQueue.Progress := []) :
    AuditLogger :=
  match logger.queues[number]? with
  | some ⟨queue, false⟩ =>
      let detached := logger.handlers.erase (.queue number)
      let rest := queue.goOn meanwhile
      if rest.isFull then
        ⟨detached, logger.propagates, logger.queues.set number ⟨rest, false⟩⟩
      else ⟨detached, true, logger.queues.set number ⟨rest.drain, true⟩⟩
  | _ => logger

/-- A record goes to the queues that are attached. -/
def log (logger : AuditLogger) (record : LogRecord) : AuditLogger :=
  ⟨logger.handlers, logger.propagates, logger.queues.mapIdx fun number started =>
    if .queue number ∈ logger.handlers then ⟨started.queue.log record, started.stopped⟩
    else started⟩

def progress (logger : AuditLogger) (number : Nat) (progress : AuditQueue.Progress) :
    AuditLogger :=
  ⟨logger.handlers, logger.propagates, logger.queues.modify number fun started =>
    ⟨started.queue.step progress.step, started.stopped⟩⟩

def runs (logger : AuditLogger) (number : Nat) : Bool :=
  logger.queues[number]?.any fun started => !started.stopped

/-- The queues that were started and not stopped, the oldest first. -/
def running (logger : AuditLogger) : List Nat :=
  (List.range logger.queues.length).filter logger.runs

/-- A queue of some size is started or one is stopped by its number, a record is logged, or a
listener goes on. -/
inductive Step where
  | start (size : Int)
  | stop (number : Nat) (meanwhile : List AuditQueue.Progress)
  | log (record : LogRecord)
  | progress (number : Nat) (progress : AuditQueue.Progress)
deriving DecidableEq

/-- The fault that a step ends in, if it is a call that fails. -/
def fault? (logger : AuditLogger) : Step → Option AttachmentFault
  | .start size =>
      match AuditQueue.ofSize size with
      | .ok _ => none
      | .error fault => some (.emptyCapacity fault)
  | .stop number meanwhile => if logger.refuses number meanwhile then some .queueFull else none
  | _ => none

/-- Nothing is attached where the size of a queue is refused. -/
def step (logger : AuditLogger) : Step → AuditLogger
  | .start size =>
      match AuditQueue.ofSize size with
      | .ok queue => logger.start queue
      | .error _ => logger
  | .stop number meanwhile => logger.stop number meanwhile
  | .log record => logger.log record
  | .progress number progress => logger.progress number progress

def run (logger : AuditLogger) (steps : List Step) : AuditLogger := steps.foldl step logger

end AuditLogger

end Escaping
