import Escaping.Audit.Report

/-!
Audit sinks. A sink is given every report; what it does with one shows as events. A sink that
fails, at once or halfway through, cannot disturb the work that reports to it: the failure is
logged and nothing else happens.
-/

namespace Escaping

/-- Something that can be observed beside the result of a call. -/
inductive AuditEvent where
  | reported (report : Report)
  | logged (record : LogRecord)

/-- What a sink makes of a report: the events it causes, and the kind of the failure that it ends
in, if it ends in one. -/
structure Reception where
  events : List AuditEvent
  failure : Option Text

structure Sink where
  shown : Text
  receive : Report → Reception

namespace Sink

def canonicalLogger : Text := Text.ofString "ctxcodec.canonicalize"

def recording : Sink := ⟨Text.ofString "<RecordingSink>", fun report => ⟨[.reported report], none⟩⟩

def failing : Sink :=
  ⟨Text.ofString "<FailingSink>", fun _ => ⟨[], some (Text.ofString "RuntimeError")⟩⟩

/-- A sink that does not say what to do with a report. -/
def unspecified : Sink :=
  ⟨Text.ofString "<ctxcodec.audit.AuditSink object>",
    fun _ => ⟨[], some (Text.ofString "NotImplementedError")⟩⟩

def logging (logger : Text) : Sink :=
  ⟨Text.ofString "<ctxcodec.audit.LoggingAuditSink object>",
    fun report => ⟨[.logged (report.record logger)], none⟩⟩

def standard : Sink := logging Report.auditLogger

def failureRecord (sink : Sink) (kind : Text) : LogRecord :=
  ⟨canonicalLogger, .error,
    Text.ofString "Audit sink " ++ sink.shown ++ Text.ofString " failed", some kind⟩

def tell (sink : Sink) (report : Report) : List AuditEvent :=
  let reception := sink.receive report
  reception.events
    ++ (reception.failure.map fun kind => .logged (sink.failureRecord kind)).toList

end Sink

/-- The result of a call together with what was observed during it. -/
structure Audited (Failure Result : Type) where
  outcome : Except Failure Result
  events : List AuditEvent

namespace Audited

def ofExcept {Failure Result : Type} (outcome : Except Failure Result) : Audited Failure Result :=
  ⟨outcome, []⟩

/-- Goes on with a result; events follow one another, and a failure ends the work. -/
def andThen {Failure First Second : Type} (first : Audited Failure First)
    (next : First → Audited Failure Second) : Audited Failure Second :=
  match first.outcome with
  | .error failure => ⟨.error failure, first.events⟩
  | .ok result =>
      let second := next result
      ⟨second.outcome, first.events ++ second.events⟩

@[simp] theorem ok_andThen {Failure First Second : Type} (result : First)
    (next : First → Audited Failure Second) : andThen ⟨.ok result, []⟩ next = next result := rfl

def mapFailure {First Second Result : Type} (change : First → Second)
    (audited : Audited First Result) : Audited Second Result :=
  ⟨audited.outcome.mapError change, audited.events⟩

instance {Failure : Type} : Monad (Audited Failure) where
  pure result := ⟨.ok result, []⟩
  bind := andThen

end Audited

end Escaping
