import Escaping.Canonical.IntrusionSignal
import Escaping.Value

/-!
Audit reports and the log records they become. A report tells what was detected, in which input,
and whether the input was blocked. In a record the input stands in its quoted form, cut to a
bounded length, so that it can neither forge a line nor flood a log.
-/

namespace Escaping

structure Report where
  signal : IntrusionSignal
  input : Value
  /-- The choice that decided on the input, which blocks it by counting as true. -/
  decision : Value

inductive Level where
  | notSet
  | debug
  | info
  | warning
  | error
  | critical
deriving DecidableEq, Repr

namespace Level

def severity : Level → Nat
  | .notSet => 0
  | .debug => 10
  | .info => 20
  | .warning => 30
  | .error => 40
  | .critical => 50

def name : Level → Text
  | .notSet => Text.ofString "NOTSET"
  | .debug => Text.ofString "DEBUG"
  | .info => Text.ofString "INFO"
  | .warning => Text.ofString "WARNING"
  | .error => Text.ofString "ERROR"
  | .critical => Text.ofString "CRITICAL"

def all : List Level := [.notSet, .debug, .info, .warning, .error, .critical]

def ofName? (name : Text) : Option Level :=
  if name = Text.ofString "WARN" then some .warning
  else if name = Text.ofString "FATAL" then some .critical
  else all.find? fun level => level.name = name

end Level

structure UnknownLevel where
  name : Text
deriving DecidableEq

def UnknownLevel.message (fault : UnknownLevel) : Text :=
  Text.ofString "Unknown level: " ++ Quoted.text fault.name

def Level.named (name : Text) : Except UnknownLevel Level :=
  (Level.ofName? name).elim (.error ⟨name⟩) .ok

structure LogRecord where
  logger : Text
  level : Level
  message : Text
  failure : Option Text
deriving DecidableEq

namespace Snippet

def maxLength : Nat := 80

def cut (text : Text) : Text :=
  if maxLength < text.length then text.take (maxLength - 3) ++ Text.ofString "..." else text

/-- A bounded rendering of untrusted input on one line. -/
def ofValue (value : Value) : Text := cut value.quoted

theorem length_cut_le (text : Text) : (cut text).length ≤ maxLength := by
  unfold cut
  split
  next long =>
    have dots : (Text.ofString "...").length = 3 := by decide
    simp only [List.length_append, List.length_take, dots, maxLength] at long ⊢
    omega
  next short => omega

end Snippet

namespace Report

def auditLogger : Text := Text.ofString "ctxcodec.audit"

def blocked (report : Report) : Bool := report.decision.isTruthy

/-- Blocked input is logged as an error and tolerated input as a warning. -/
def level (report : Report) : Level := if report.blocked then .error else .warning

def message (report : Report) : Text :=
  Text.ofString (if report.blocked then "Blocked input: " else "Tolerated input: ")
    ++ report.signal.logMessage ++ Text.ofString " in " ++ Snippet.ofValue report.input

def record (logger : Text) (report : Report) : LogRecord :=
  ⟨logger, report.level, report.message, none⟩

end Report

end Escaping
