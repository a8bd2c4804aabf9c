import Escaping.Value

/-!
Scalars of TOML: keys, strings, numbers, dates and times. A reader takes the text from where a
scalar starts and gives the scalar with the text after it.
-/

namespace Escaping

namespace Toml

inductive Fault where
  | malformed
  /-- A decimal integer has more digits than are read. -/
  | integerTooLong (digits : Nat)
  | nestedTooDeep
deriving DecidableEq, Repr

/-- What was read, and the text after it. -/
abbrev Reading (Result : Type) := Except Fault (Result × Text)

def malformed {Result : Type} : Reading Result := .error .malformed

def isSpace (point : CodePoint) : Bool := point.val = 0x20 || point.val = 0x9

def lineEnd : CodePoint := .ofNat 0xa

def backslash : CodePoint := .ofNat 0x5c

def doubleQuote : CodePoint := .ofNat 0x22

def singleQuote : CodePoint := .ofNat 0x27

def skipSpace (text : Text) : Text := text.dropWhile isSpace

def skipSpaceAndLineEnds (text : Text) : Text :=
  text.dropWhile fun point => isSpace point || point = lineEnd

/-- ASCII controls but the tab, which no comment and no string on one line may hold. -/
def isForbidden (point : CodePoint) : Bool :=
  (point.val < 0x20 && point.val != 0x9) || point.val = 0x7f

/-- The controls that a string over several lines may not hold. -/
def isForbiddenInLines (point : CodePoint) : Bool := isForbidden point && point != lineEnd

def skipComment (text : Text) : Except Fault Text :=
  if text.head? = some (CodePoint.ofChar '#') then
    if (text.takeWhile (· ≠ lineEnd)).any isForbidden then .error .malformed
    else .ok (text.dropWhile (· ≠ lineEnd))
  else .ok text

def startsTriple (quote : CodePoint) : Text → Bool
  | first :: second :: third :: _ => first = quote && second = quote && third = quote
  | _ => false

def escaped? (letter : CodePoint) : Option CodePoint :=
  if letter = 'b' then some (.ofNat 0x8)
  else if letter = 't' then some (.ofNat 0x9)
  else if letter = 'n' then some (.ofNat 0xa)
  else if letter = 'f' then some (.ofNat 0xc)
  else if letter = 'r' then some (.ofNat 0xd)
  else if letter = doubleQuote ∨ letter = backslash then some letter
  else none

/-- A character by its number in a fixed count of hexadecimal digits; surrogates have none. -/
def readNumberedCharacter (width : Nat) (text : Text) : Reading CodePoint :=
  let digits := text.take width
  if digits.length = width ∧ digits.all CodePoint.isHexDigit then
    let number := Text.number 16 digits
    if number < 0xd800 ∨ (0xdfff < number ∧ number < 0x110000) then
      .ok (.ofNat number, text.drop width)
    else malformed
  else malformed

/-- The text after a backslash that ends a line: blanks are skipped up to the next character, and
the line has to end where blanks were skipped before it. -/
def skipLineBreak (text : Text) : Except Fault Text :=
  match skipSpace text with
  | [] => .ok []
  | head :: tail =>
      if head = lineEnd then .ok (skipSpaceAndLineEnds tail) else .error .malformed

/-- An escape after its backslash, as the text that it adds. -/
def readEscape (multiLine : Bool) (text : Text) : Reading Text :=
  match text with
  | [] => malformed
  | letter :: rest =>
      if multiLine && (isSpace letter || letter = lineEnd) then
        (skipLineBreak (letter :: rest)).map fun after => ([], after)
      else if letter = 'u' then
        (readNumberedCharacter 4 rest).map fun (point, after) => ([point], after)
      else if letter = 'U' then
        (readNumberedCharacter 8 rest).map fun (point, after) => ([point], after)
      else match escaped? letter with
        | some point => .ok ([point], rest)
        | none => malformed

/-- The contents of a string in double quotes and what follows it. Each step takes at least one
character, so the length of the text bounds the steps. -/
def readBasicContents (multiLine : Bool) : Nat → Text → Text → Reading Text
  | 0, _, _ => malformed
  | _ + 1, _, [] => malformed
  | steps + 1, reversed, head :: tail =>
      if head = doubleQuote then
        if !multiLine then .ok (reversed.reverse, tail)
        else if startsTriple doubleQuote (head :: tail) then .ok (reversed.reverse, tail.drop 2)
        else readBasicContents multiLine steps (head :: reversed) tail
      else if head = backslash then
        match readEscape multiLine tail with
        | .ok (added, rest) =>
            readBasicContents multiLine steps (added.reverse ++ reversed) rest
        | .error fault => .error fault
      else if (if multiLine then isForbiddenInLines head else isForbidden head) then malformed
      else readBasicContents multiLine steps (head :: reversed) tail

def readBasic (text : Text) : Reading Text := readBasicContents false (text.length + 1) [] text

def readLiteral (text : Text) : Reading Text :=
  match Text.cutFirst singleQuote text with
  | some (contents, rest) => if contents.any isForbidden then malformed else .ok (contents, rest)
  | none => malformed

/-- The contents of a string that ends at three single quotes. -/
def readLiteralLines : Text → Reading Text
  | [] => malformed
  | head :: tail =>
      if startsTriple singleQuote (head :: tail) then .ok ([], tail.drop 2)
      else if isForbiddenInLines head then malformed
      else match readLiteralLines tail with
        | .ok (contents, rest) => .ok (head :: contents, rest)
        | .error fault => .error fault

/-- Up to two more quotes after the end of a string over several lines belong to it. -/
def withTrailingQuotes (quote : CodePoint) (contents rest : Text) : Text × Text :=
  let extra := (rest.take 2).takeWhile (· = quote)
  (contents ++ extra, rest.drop extra.length)

/-- A string over several lines, after its opening quotes; a line end right after them is no part
of it. -/
def readLines (quote : CodePoint) (text : Text) : Reading Text :=
  let start := if text.head? = some lineEnd then text.drop 1 else text
  let contents :=
    if quote = doubleQuote then readBasicContents true (start.length + 1) [] start
    else readLiteralLines start
  contents.map fun (contents, rest) => withTrailingQuotes quote contents rest

def readString (quote : CodePoint) (text : Text) : Reading Text :=
  if startsTriple quote text then readLines quote (text.drop 3)
  else if quote = doubleQuote then readBasic (text.drop 1)
  else readLiteral (text.drop 1)

def isBareKey (point : CodePoint) : Bool :=
  point.isAlphanumeric || point.val = 0x2d || point.val = 0x5f

/-- One part of a key: bare, or a string on one line. -/
def readKeyPart (text : Text) : Reading Text :=
  match text with
  | [] => malformed
  | head :: tail =>
      if isBareKey head then .ok (text.takeWhile isBareKey, text.dropWhile isBareKey)
      else if head = singleQuote then readLiteral tail
      else if head = doubleQuote then readBasic tail
      else malformed

/-- The parts of a key, joined by points. Each part takes a character. -/
def readKeyParts : Nat → Text → Except Fault (List Text × Text)
  | 0, _ => malformed
  | parts + 1, text => do
      let (part, afterPart) ← readKeyPart text
      match skipSpace afterPart with
      | [] => .ok ([part], [])
      | head :: tail =>
          if head = '.' then
            let (others, rest) ← readKeyParts parts (skipSpace tail)
            .ok (part :: others, rest)
          else .ok ([part], head :: tail)

def readKey (text : Text) : Reading (List Text) := readKeyParts (text.length + 1) text

/-- A maximal run of digits with single underscores between them. -/
def digitRun (isDigit : CodePoint → Bool) : Text → Text
  | [] => []
  | [last] => if isDigit last then [last] else []
  | head :: next :: rest =>
      if isDigit head then head :: digitRun isDigit (next :: rest)
      else if head = '_' ∧ isDigit next then head :: digitRun isDigit (next :: rest)
      else []

/-- A run that starts with a digit. -/
def leadingRun (isDigit : CodePoint → Bool) (text : Text) : Text :=
  if text.head?.any isDigit then digitRun isDigit text else []

def withoutUnderscores (text : Text) : Text := text.filter (· ≠ CodePoint.ofChar '_')

/-- An integer in base 16, 8 or 2 after its leading zero, with its length. -/
def markedInteger? (text : Text) : Option (Int × Text) :=
  match text with
  | letter :: rest =>
      let read (base : Nat) (isDigit : CodePoint → Bool) : Option (Int × Text) :=
        let run := leadingRun isDigit rest
        if run.isEmpty then none
        else some (Text.number base (withoutUnderscores run), rest.drop run.length)
      if letter = 'x' then read 16 CodePoint.isHexDigit
      else if letter = 'o' then read 8 fun point => 0x30 ≤ point.val && point.val ≤ 0x37
      else if letter = 'b' then read 2 fun point => 0x30 ≤ point.val && point.val ≤ 0x31
      else none
  | [] => none

/-- The whole part of a decimal number: a zero, or digits that start with another one. -/
def wholePart (text : Text) : Text :=
  if text.head? = some (CodePoint.ofChar '0') then text.take 1
  else leadingRun CodePoint.isDecimalDigit text

def fractionPart : Text → Text
  | [] => []
  | head :: tail =>
      if head = '.' then
        let run := leadingRun CodePoint.isDecimalDigit tail
        if run.isEmpty then [] else head :: run
      else []

def signPart (text : Text) : Text :=
  (text.take 1).takeWhile fun point => point.val = 0x2b || point.val = 0x2d

def isMinus (sign : Text) : Bool := sign.any fun point => point.val = 0x2d

def exponentPart : Text → Text
  | [] => []
  | letter :: rest =>
      if letter = 'e' ∨ letter = 'E' then
        let sign := signPart rest
        let run := leadingRun CodePoint.isDecimalDigit (rest.drop sign.length)
        if run.isEmpty then [] else letter :: sign ++ run
      else []

/-- A decimal number from its sign on. With a fraction or an exponent it is a float. -/
def readDecimal (text : Text) : Reading Value :=
  let sign := signPart text
  let unsigned := text.drop sign.length
  let whole := wholePart unsigned
  let afterWhole := unsigned.drop whole.length
  let fraction := fractionPart afterWhole
  let exponent := exponentPart (afterWhole.drop fraction.length)
  let rest := afterWhole.drop (fraction.length + exponent.length)
  let digits := withoutUnderscores whole
  let negative := isMinus sign
  if whole.isEmpty then malformed
  else if fraction.isEmpty && exponent.isEmpty then
    if Value.maxDigits < digits.length then .error (.integerTooLong digits.length)
    else
      let number : Int := Text.number 10 digits
      .ok (.integer (if negative then -number else number), rest)
  else match Binary64.read? (withoutUnderscores (sign ++ whole ++ fraction ++ exponent)) with
    | some number => .ok (.float number, rest)
    | none => malformed

/-- An infinity or a number that is none, by name. -/
def readNamedNumber (text : Text) : Reading Value :=
  let sign := signPart text
  let name := (text.drop sign.length).take 3
  let rest := text.drop (sign.length + 3)
  if name = Text.ofString "inf" then .ok (.float (.infinite (isMinus sign)), rest)
  else if name = Text.ofString "nan" then .ok (.float .notANumber, rest)
  else malformed

def readNumber (text : Text) : Reading Value :=
  let marked := if text.head? = some (CodePoint.ofChar '0') then markedInteger? (text.drop 1) else none
  match marked with
  | some (number, rest) => .ok (.integer number, rest)
  | none =>
      match readDecimal text with
      | .error .malformed => readNamedNumber text
      | reading => reading

def fixedDigits? (width : Nat) (text : Text) : Option (Nat × Text) :=
  let digits := text.take width
  if digits.length = width ∧ digits.all CodePoint.isDecimalDigit then
    some (Text.number 10 digits, text.drop width)
  else none

/-- A fixed count of digits whose number lies between two bounds. -/
def boundedDigits? (width least greatest : Nat) (text : Text) : Option (Nat × Text) :=
  (fixedDigits? width text).filter fun (number, _) => least ≤ number && number ≤ greatest

def expect? (expected : Char) : Text → Option Text
  | [] => none
  | head :: tail => if head = expected then some tail else none

/-- The digits after the point of a second, six of which count. -/
def readMicroseconds (text : Text) : Nat × Text :=
  match text with
  | [] => (0, [])
  | head :: tail =>
      let digits := tail.takeWhile CodePoint.isDecimalDigit
      if head = '.' ∧ !digits.isEmpty then
        let counted := digits.take 6
        (Text.number 10 counted * Nat.pow 10 (6 - counted.length), tail.drop digits.length)
      else (0, text)

def readTime? (text : Text) : Option (TimeOfDay × Text) := do
  let (hour, rest) ← boundedDigits? 2 0 23 text
  let rest ← expect? ':' rest
  let (minute, rest) ← boundedDigits? 2 0 59 rest
  let rest ← expect? ':' rest
  let (second, rest) ← boundedDigits? 2 0 59 rest
  let (microsecond, rest) := readMicroseconds rest
  some (⟨hour, minute, second, microsecond⟩, rest)

def readDate? (text : Text) : Option (Date × Text) := do
  let (year, rest) ← fixedDigits? 4 text
  let rest ← expect? '-' rest
  let (month, rest) ← boundedDigits? 2 1 12 rest
  let rest ← expect? '-' rest
  let (day, rest) ← boundedDigits? 2 1 31 rest
  some (⟨year, month, day⟩, rest)

def isLeapYear (year : Nat) : Bool :=
  year % 4 = 0 && (year % 100 != 0 || year % 400 = 0)

def daysInMonth (year month : Nat) : Nat :=
  if month = 2 then if isLeapYear year then 29 else 28
  else if month = 4 ∨ month = 6 ∨ month = 9 ∨ month = 11 then 30
  else 31

def exists? (date : Date) : Bool := 1 ≤ date.year && date.day ≤ daysInMonth date.year date.month

def readSignedOffset? (sign : Int) (text : Text) : Option (Int × Text) := do
  let (hours, rest) ← boundedDigits? 2 0 23 text
  let rest ← expect? ':' rest
  let (minutes, rest) ← boundedDigits? 2 0 59 rest
  some (sign * (hours * 60 + minutes : Nat), rest)

def readOffset (text : Text) : Option Int × Text :=
  match text with
  | [] => (none, [])
  | head :: tail =>
      if head = 'Z' ∨ head = 'z' then (some 0, tail)
      else
        let offset :=
          if head = '+' then readSignedOffset? 1 tail
          else if head = '-' then readSignedOffset? (-1) tail
          else none
        match offset with
        | some (minutes, rest) => (some minutes, rest)
        | none => (none, text)

def readTimeAfterDate? (text : Text) : Option (TimeOfDay × Text) :=
  match text with
  | [] => none
  | head :: tail => if head = 'T' ∨ head = 't' ∨ head = ' ' then readTime? tail else none

/-- A date, a time or both. Nothing is read where neither starts; a date that does not exist is
a fault. -/
def readMoment? (text : Text) : Option (Reading Value) :=
  match readDate? text with
  | some (date, afterDate) =>
      some <|
        if !exists? date then malformed
        else match readTimeAfterDate? afterDate with
          | some (time, afterTime) =>
              let (offset, rest) := readOffset afterTime
              .ok (.moment (.dateTime date time offset), rest)
          | none => .ok (.moment (.date date), afterDate)
  | none => (readTime? text).map fun (time, rest) => .ok (.moment (.time time), rest)

end Toml

end Escaping
