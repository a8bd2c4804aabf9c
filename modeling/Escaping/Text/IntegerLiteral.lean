import Escaping.Text.Blank
import Escaping.Text.DecimalDigit
import Escaping.Text.Quoted

/-!
Integers as people write them: blanks around, an optional sign, an optional marker of the base,
digits of any script, and single underscores between digits.
-/

namespace Escaping

namespace IntegerLiteral

inductive Fault where
  /-- Bases are 0, which lets the marker decide, and 2 to 36. -/
  | unusableBase
  | malformed (base : Int) (text : Text)
deriving DecidableEq

def Fault.message : Fault → Text
  | .unusableBase => "int() base must be >= 2 and <= 36, or 0"
  | .malformed base text =>
      Text.ofString "invalid literal for int() with base " ++ Text.integer base ++ Text.ofString ": "
        ++ Quoted.text text

/-- Blanks around a literal: those of ASCII but the four separators, and all others. -/
def isPadding (point : CodePoint) : Bool :=
  point.isBlank && !(0x1c ≤ point.val && point.val ≤ 0x1f)

def digit? (point : CodePoint) : Option Nat :=
  if point.isLetter then some point.digitValue else DecimalDigit.value? point

def markedBase? (letter : CodePoint) : Option Nat :=
  if letter = 'x' ∨ letter = 'X' then some 16
  else if letter = 'o' ∨ letter = 'O' then some 8
  else if letter = 'b' ∨ letter = 'B' then some 2
  else none

def isZero (point : CodePoint) : Bool := digit? point == some 0

/-- The number of unsigned digits in a base, if underscores only stand between digits. -/
def digits? (base : Nat) (text : Text) : Option Nat := do
  let groups := Text.splitAt '_' text
  if groups.any List.isEmpty then none
  let digits ← groups.flatten.mapM digit?
  if digits.all (· < base) then some (Digits.toNat base digits) else none

/-- An unsigned literal after its marker; one underscore may follow the marker. -/
def afterMarker (base : Nat) (text : Text) : Option Nat :=
  match text with
  | head :: tail => digits? base (if head = '_' then tail else head :: tail)
  | [] => none

/-- An unsigned literal. In base 0 a leading zero without a marker only writes zero. -/
def unsigned? (base : Nat) (text : Text) : Option Nat :=
  match text with
  | zero :: letter :: rest =>
      match if isZero zero then markedBase? letter else none with
      | some marked =>
          if base = 0 ∨ base = marked then afterMarker marked rest
          else digits? base (zero :: letter :: rest)
      | none =>
          if base = 0 then
            if isZero zero then (digits? 10 text).filter (· == 0) else digits? 10 text
          else digits? base text
  | _ => digits? (if base = 0 then 10 else base) text

def signed? (base : Nat) (text : Text) : Option Int :=
  match text with
  | head :: tail =>
      if head = '+' then (unsigned? base tail).map Int.ofNat
      else if head = '-' then (unsigned? base tail).map fun number => -(number : Int)
      else (unsigned? base text).map Int.ofNat
  | [] => none

def read (text : Text) (base : Int) : Except Fault Int :=
  if base < 0 ∨ base = 1 ∨ 36 < base then .error .unusableBase
  else match signed? base.toNat (Text.trim isPadding text) with
    | some number => .ok number
    | none => .error (.malformed base text)

end IntegerLiteral

end Escaping
