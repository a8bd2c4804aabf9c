import Escaping.Binary64
import Escaping.Scheme
import Escaping.Text.Quoted

/-!
Values as callers and settings files supply them. Encoders take any value and work on the text it
shows as; settings are checked for having the right kind.
-/

namespace Escaping

structure Date where
  year : Nat
  month : Nat
  day : Nat
deriving DecidableEq, Repr

structure TimeOfDay where
  hour : Nat
  minute : Nat
  second : Nat
  microsecond : Nat
deriving DecidableEq, Repr

/-- A date, a time, or both with an optional offset from universal time in minutes. -/
inductive Moment where
  | date (date : Date)
  | time (time : TimeOfDay)
  | dateTime (date : Date) (time : TimeOfDay) (offset : Option Int)
deriving DecidableEq, Repr

inductive Value where
  | absent
  | boolean (value : Bool)
  | integer (value : Int)
  | float (value : Binary64)
  | text (value : Text)
  | octets (value : Octets)
  | list (items : List Value)
  | scheme (value : Scheme)
  | table (entries : List (Text × Value))
  | moment (value : Moment)

namespace Moment

def call (name : String) (arguments : List Text) : Text :=
  Text.ofString name ++ Text.ofString "("
    ++ Text.join (Text.ofString ", ") arguments ++ Text.ofString ")"

def dateNumbers (date : Date) : List Text := [date.year, date.month, date.day].map Text.decimal

/-- The numbers of a time; seconds are left out where they and all that follows them are zero. -/
def timeNumbers (time : TimeOfDay) : List Text :=
  let fraction := if time.microsecond = 0 then [] else [time.microsecond]
  let seconds := if time.second = 0 ∧ fraction.isEmpty then [] else [time.second]
  ([time.hour, time.minute] ++ seconds ++ fraction).map Text.decimal

def offsetShown (minutes : Int) : Text :=
  if minutes = 0 then Text.ofString "datetime.timezone.utc"
  else
    let seconds := minutes * 60
    let part (label : String) (number : Int) : List Text :=
      if number = 0 then [] else [Text.ofString label ++ Text.integer number]
    call "datetime.timezone"
      [call "datetime.timedelta"
        (part "days=" (seconds.fdiv 86400) ++ part "seconds=" (seconds.fmod 86400))]

def shown : Moment → Text
  | .date day => call "datetime.date" (dateNumbers day)
  | .time clock => call "datetime.time" (timeNumbers clock)
  | .dateTime day clock offset =>
      call "datetime.datetime"
        (dateNumbers day ++ timeNumbers clock
          ++ (offset.map fun minutes => Text.ofString "tzinfo=" ++ offsetShown minutes).toList)

end Moment

namespace Value

mutual
/-- How a value shows inside a message or inside another value: texts in their quoted form. -/
def quoted : Value → Text
  | .absent => Text.ofString "None"
  | .boolean value => Text.ofString (if value then "True" else "False")
  | .integer value => Text.integer value
  | .float value => value.written
  | .text value => Quoted.text value
  | .octets value => Quoted.octets value
  | .list items =>
      Text.ofString "[" ++ Text.join (Text.ofString ", ") (quotedItems items) ++ Text.ofString "]"
  | .scheme value => value.codec.shown
  | .table entries =>
      Text.ofString "\x7b" ++ Text.join (Text.ofString ", ") (quotedEntries entries)
        ++ Text.ofString "\x7d"
  | .moment value => value.shown

def quotedItems : List Value → List Text
  | [] => []
  | head :: tail => quoted head :: quotedItems tail

def quotedEntries : List (Text × Value) → List Text
  | [] => []
  | (key, value) :: tail =>
      (Quoted.text key ++ Text.ofString ": " ++ quoted value) :: quotedEntries tail
end

def shown : Value → Text
  | .text value => value
  | value => value.quoted

/-- An integer of more decimal digits than this cannot be shown. -/
def maxDigits : Nat := 4300

/-- A value of more levels than this cannot be shown. -/
def maxLevels : Nat := 992

mutual
def hasShortIntegers : Value → Bool
  | .integer value => value.natAbs < Nat.pow 10 maxDigits
  | .list items => haveShortIntegers items
  | .table entries => entriesHaveShortIntegers entries
  | _ => true

def haveShortIntegers : List Value → Bool
  | [] => true
  | head :: tail => hasShortIntegers head && haveShortIntegers tail

def entriesHaveShortIntegers : List (Text × Value) → Bool
  | [] => true
  | (_, value) :: tail => hasShortIntegers value && entriesHaveShortIntegers tail
end

mutual
def levels : Value → Nat
  | .list items => itemLevels items + 1
  | .table entries => entryLevels entries + 1
  | _ => 1

def itemLevels : List Value → Nat
  | [] => 0
  | head :: tail => max (levels head) (itemLevels tail)

def entryLevels : List (Text × Value) → Nat
  | [] => 0
  | (_, value) :: tail => max (levels value) (entryLevels tail)
end

def kindName : Value → Text
  | .absent => Text.ofString "NoneType"
  | .boolean _ => Text.ofString "bool"
  | .integer _ => Text.ofString "int"
  | .float _ => Text.ofString "float"
  | .text _ => Text.ofString "str"
  | .octets _ => Text.ofString "bytes"
  | .list _ => Text.ofString "list"
  | .scheme _ => Text.ofString "Codec"
  | .table _ => Text.ofString "dict"
  | .moment (.date _) => Text.ofString "datetime.date"
  | .moment (.time _) => Text.ofString "datetime.time"
  | .moment (.dateTime _ _ _) => Text.ofString "datetime.datetime"

/-- Whether a value counts as true where a choice is wanted: zero, and whatever is absent or
empty, counts as false. -/
def isTruthy : Value → Bool
  | .absent => false
  | .boolean value => value
  | .integer value => value != 0
  | .float value => !value.isZero
  | .text value => !value.isEmpty
  | .octets value => !value.isEmpty
  | .list items => !items.isEmpty
  | .scheme _ => true
  | .table entries => !entries.isEmpty
  | .moment _ => true

@[simp] theorem isTruthy_boolean (value : Bool) : (boolean value).isTruthy = value := rfl

def text? : Value → Option Text
  | .absent => none
  | value => some value.shown

def ofText? : Option Text → Value
  | none => .absent
  | some result => .text result

/-- The items of a value that can be gone through; a text gives its characters, octets give
numbers, and a table gives its keys. -/
def items? : Value → Option (List Value)
  | .list items => some items
  | .text value => some (value.map fun point => .text [point])
  | .octets value => some (value.map fun octet => .integer octet.toNat)
  | .table entries => some (entries.map fun (key, _) => .text key)
  | _ => none

/-- Lists and tables are compound; no set can hold them or be asked for them. -/
def isAtomic : Value → Bool
  | .list _ | .table _ => false
  | _ => true

end Value

end Escaping
