import Escaping.Failure

/-!
Errors as callers make them. The messages of an error, its codec and its method may then be any
values. The error keeps them, and it shows its log message.
-/

namespace Escaping

structure ErrorDraft where
  kind : EscapingError.Kind
  user : Value
  log : Value
  /-- What the error is about: the codec of an encoding fault, or a method that is not allowed. -/
  subject : Value

namespace ErrorDraft

/-- The user message is logged too where there is no log message that counts as true. -/
def of (kind : EscapingError.Kind) (user log subject : Value) : ErrorDraft :=
  ⟨kind, user, if log.isTruthy then log else user, subject⟩

def ofMethod (method : Value) : ErrorDraft :=
  let notice := (EscapingError.methodNotAllowed method.shown).notice
  ⟨.methodNotAllowed, .text notice.user, .text notice.log, method⟩

/-- An error from arguments in order, of which all but the first may be left out. Intrusions are
not made of messages. -/
def ofArguments? (kind : EscapingError.Kind) (arguments : List Value) : Option ErrorDraft :=
  match kind, arguments with
  | .methodNotAllowed, [method] => some (ofMethod method)
  | .encoding, [user, log, codec] => some (of kind user log codec)
  | .any, [user] | .encoding, [user] | .configuration, [user] =>
      some (of kind user .absent .absent)
  | .any, [user, log] | .encoding, [user, log] | .configuration, [user, log] =>
      some (of kind user log .absent)
  | _, _ => none

def message (draft : ErrorDraft) : Text := draft.log.shown

/-- Messages that are texts make the notice of the same messages. -/
theorem of_texts (kind : EscapingError.Kind) (user log : Text) (subject : Value) :
    let notice := Notice.of user (some log)
    of kind (.text user) (.text log) subject
      = ⟨kind, .text notice.user, .text notice.log, subject⟩ := by
  by_cases empty : log.isEmpty <;> simp [of, Notice.of, Value.isTruthy, empty]

end ErrorDraft

end Escaping
