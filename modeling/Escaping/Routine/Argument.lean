import Escaping.Failure
import Escaping.Uri

/-!
Arguments of routines. An argument may be any value; it is read as what a routine needs, and one of
another kind is a misuse.
-/

namespace Escaping

namespace Argument

/-- The operations that a kind of value has, as far as routines ask for them. -/
def operations : Value → List String
  | .text _ => ["encode", "lstrip", "find", "startswith"]
  | .octets _ => ["decode", "lstrip", "find", "startswith"]
  | .scheme _ => ["encode", "decode"]
  | _ => []

/-- What an argument of the wrong kind ends in: it has the operation that it is asked for, but for
other uses, or it is without it. -/
def refusal (operation : String) (argument : Value) : Misuse :=
  if operation ∈ operations argument then .wrongKind
  else .missingOperation argument.kindName operation

def textFor (operation : String) : Value → Except Misuse Text
  | .text text => .ok text
  | argument => .error (refusal operation argument)

def octetsFor (operation : String) : Value → Except Misuse Octets
  | .octets octets => .ok octets
  | argument => .error (refusal operation argument)

def text : Value → Except Misuse Text
  | .text text => .ok text
  | _ => .error .wrongKind

def integer : Value → Except Misuse Int
  | .integer number => .ok number
  | .boolean flag => .ok (if flag then 1 else 0)
  | _ => .error .wrongKind

def character : Value → Except Misuse CodePoint
  | .text [point] => .ok point
  | _ => .error .wrongKind

/-- Characters one after the other: those of a text, or those that a list holds. -/
def characters : Value → Except Misuse Text
  | .text text => .ok text
  | .list items => items.mapM character
  | .octets [] => .ok []
  | _ => .error .wrongKind

/-- A set of characters to look for; what else a list holds is never found. -/
def characterSet : Value → Except Misuse (List CodePoint)
  | .text text => .ok text
  | .list items => .ok (items.filterMap fun item => (character item).toOption)
  | _ => .error .wrongKind

def pair (argument : Value) : Except Misuse (Value × Value) :=
  match argument.items? with
  | none => .error .wrongKind
  | some [first, second] => .ok (first, second)
  | some items => .error (if items.length < 2 then .tooFewItems items.length else .tooManyItems)

/-- A parameter of a query. Without a value the name stands alone and has to be a text. -/
def parameter : Value × Value → Except Misuse QueryParameter
  | (name, .absent) => (text name).map fun name => ⟨name, none⟩
  | (name, value) => .ok ⟨name.shown, some value.shown⟩

def query (argument : Value) : Except Misuse (Option (List QueryParameter)) :=
  match argument with
  | .absent => .ok none
  | argument => do
      let items ← argument.items?.elim (.error .wrongKind) .ok
      let pairs ← items.mapM pair
      let parameters ← pairs.mapM parameter
      pure (some parameters)

end Argument

end Escaping
