import Escaping.Toml.Scalar

/-!
Documents of TOML. A document is a sequence of statements, one to a line, that build a table:
assignments, headers of tables, and headers of items in arrays of tables. A table may be extended
in some ways and not in others, which is kept track of by the paths of tables.
-/

namespace Escaping

namespace Toml

abbrev Table := List (Text × Value)

abbrev Path := List Text

namespace Table

def get? (table : Table) (key : Text) : Option Value := table.lookup key

def put (table : Table) (key : Text) (value : Value) : Table :=
  match table with
  | [] => [(key, value)]
  | (each, before) :: rest =>
      if each = key then (each, value) :: rest else (each, before) :: put rest key value

/-- Changes the table at a path below a table, which is made where it is missing. With
`throughLists`, a list of tables stands for its last item. -/
def changeAt (throughLists : Bool) (change : Table → Option Table) : Path → Table → Option Table
  | [], table => change table
  | key :: path, table =>
      match table.get? key with
      | none => (changeAt throughLists change path []).map fun inner => table.put key (.table inner)
      | some (.table inner) =>
          (changeAt throughLists change path inner).map fun inner => table.put key (.table inner)
      | some (.list items) =>
          match throughLists, items.getLast? with
          | true, some (.table inner) =>
              (changeAt throughLists change path inner).map fun inner =>
                table.put key (.list (items.dropLast ++ [.table inner]))
          | _, _ => none
      | some _ => none

def add? (key : Text) (value : Value) (table : Table) : Option Table :=
  if (table.get? key).isSome then none else some (table.put key value)

/-- Adds an empty table to the list of tables under a key. -/
def addItem? (key : Text) (table : Table) : Option Table :=
  match table.get? key with
  | none => some (table.put key (.list [.table []]))
  | some (.list items) => some (table.put key (.list (items ++ [.table []])))
  | some _ => none

def addAt? (throughLists : Bool) (path : Path) (value : Value) (table : Table) : Option Table :=
  match path.getLast? with
  | none => none
  | some key => changeAt throughLists (add? key value) path.dropLast table

end Table

/-- Whether a value holds others, and is closed once it has been written inline. -/
def isContainer : Value → Bool
  | .list _ | .table _ => true
  | _ => false

/-- Whether a path leads to or into one of some places. -/
def isUnder (places : List Path) (path : Path) : Bool := places.any fun place => place.isPrefixOf path

def skipFiller (text : Text) : Except Fault Text :=
  match _remaining : skipSpaceAndLineEnds text with
  | [] => .ok []
  | head :: tail =>
      if head ≠ '#' then .ok (head :: tail)
      else if (tail.takeWhile (· ≠ lineEnd)).any isForbidden then .error .malformed
      else skipFiller (tail.dropWhile (· ≠ lineEnd))
termination_by text.length
decreasing_by
  have blanks := (List.dropWhile_suffix (fun point => isSpace point || point = lineEnd)
    (l := text)).length_le
  have comment := (List.dropWhile_suffix (· ≠ lineEnd) (l := tail)).length_le
  have remaining := congrArg List.length _remaining
  simp only [skipSpaceAndLineEnds, List.length_cons] at blanks remaining
  omega

/-- How far values may nest. An array counts for two of these steps and an inline table for
three. -/
def maxNesting : Nat := 986

/-- The nesting inside a value, from the nesting around it and the steps it counts for. -/
def nestedBy (steps nesting : Nat) : Except Fault Nat :=
  if maxNesting < nesting + steps then .error .nestedTooDeep else .ok (nesting + steps)

mutual
/-- A value of any kind, inside others that nest so far. The depth bounds how values and items nest
and follow one another. -/
def readValue : Nat → Nat → Text → Except Fault (Value × Text)
  | 0, _, _ => malformed
  | depth + 1, nesting, text =>
      match text with
      | [] => malformed
      | head :: tail =>
          if head = doubleQuote ∨ head = singleQuote then
            (readString head text).map fun (contents, rest) => (.text contents, rest)
          else if head = '[' then do
            let nesting ← nestedBy 2 nesting
            let start ← skipFiller tail
            match expect? ']' start with
            | some rest => .ok (.list [], rest)
            | none =>
                let (items, rest) ← readItems depth nesting start
                .ok (.list items, rest)
          else if head.val = 0x7b then do
            let nesting ← nestedBy 3 nesting
            match skipSpace tail with
            | [] => malformed
            | first :: rest =>
                if first.val = 0x7d then .ok (.table [], rest)
                else
                  let (entries, rest) ← readEntries depth nesting [] [] (first :: rest)
                  .ok (.table entries, rest)
          else match Text.stripOpening (Text.ofString "true") text,
              Text.stripOpening (Text.ofString "false") text, readMoment? text with
            | some rest, _, _ => .ok (.boolean true, rest)
            | _, some rest, _ => .ok (.boolean false, rest)
            | _, _, some reading => reading
            | _, _, _ => readNumber text

def readItems : Nat → Nat → Text → Except Fault (List Value × Text)
  | 0, _, _ => malformed
  | depth + 1, nesting, text => do
      let (item, afterItem) ← readValue depth nesting text
      let filled ← skipFiller afterItem
      match filled with
      | [] => malformed
      | head :: tail =>
          if head = ']' then .ok ([item], tail)
          else if head = ',' then do
            let next ← skipFiller tail
            match expect? ']' next with
            | some rest => .ok ([item], rest)
            | none =>
                let (items, rest) ← readItems depth nesting next
                .ok (item :: items, rest)
          else malformed

def readEntries : Nat → Nat → List Path → Table → Text → Except Fault (Table × Text)
  | 0, _, _, _, _ => malformed
  | depth + 1, nesting, closed, table, text => do
      let (path, afterKey) ← readKey text
      match expect? '=' afterKey with
      | none => malformed
      | some afterSign =>
          let (value, afterValue) ← readValue depth nesting (skipSpace afterSign)
          if isUnder closed path then malformed
          else match table.addAt? false path value with
            | none => malformed
            | some table =>
                match skipSpace afterValue with
                | [] => malformed
                | head :: tail =>
                    if head.val = 0x7d then .ok (table, tail)
                    else if head = ',' then
                      readEntries depth nesting
                        (if isContainer value then path :: closed else closed) table (skipSpace tail)
                    else malformed
end

structure Document where
  table : Table
  /-- The path of the header that assignments belong to. -/
  header : Path
  /-- Tables that a header has opened, or a dotted key before the last header. -/
  opened : List Path
  /-- Tables that dotted keys have opened since the last header. -/
  pending : List Path
  /-- Inline values, which nothing can be added to. -/
  closed : List Path

namespace Document

def empty : Document := ⟨[], [], [], [], []⟩

/-- Tables of dotted keys cannot be opened by a header any more once another header follows. -/
def settle (document : Document) : Document :=
  ⟨document.table, document.header, document.pending ++ document.opened, [], document.closed⟩

/-- Opens a table, which must not have been opened before. -/
def openTable (document : Document) (path : Path) : Option Document :=
  if document.opened.contains path || isUnder document.closed path then none
  else (document.table.changeAt true some path).map fun table =>
    ⟨table, path, path :: document.opened, document.pending, document.closed⟩

/-- Opens a new item of an array of tables. What was said about the item before is forgotten. -/
def openItem (document : Document) (path : Path) : Option Document :=
  if isUnder document.closed path then none
  else match path.getLast? with
    | none => none
    | some key =>
        (document.table.changeAt true (Table.addItem? key) path.dropLast).map fun table =>
          ⟨table, path, path :: document.opened.filter fun each => !path.isPrefixOf each,
            document.pending, document.closed.filter fun each => !path.isPrefixOf each⟩

/-- The tables between the header and the last part of a key. -/
def innerPaths (header path : Path) : List Path :=
  ((List.range path.length).drop 1).map fun count => header ++ path.take count

def assign (document : Document) (path : Path) (value : Value) : Option Document :=
  let inner := innerPaths document.header path
  let parent := document.header ++ path.dropLast
  if inner.any document.opened.contains || isUnder document.closed parent then none
  else (document.table.addAt? true (document.header ++ path) value).map fun table =>
    ⟨table, document.header, document.opened, inner ++ document.pending,
      if isContainer value then (document.header ++ path) :: document.closed else document.closed⟩

def accept {Result : Type} (result : Option Result) : Except Fault Result :=
  match result with
  | some result => .ok result
  | none => .error .malformed

def readHeader (document : Document) (isItem : Bool) (text : Text) :
    Except Fault (Document × Text) := do
  let (path, afterKey) ← readKey (skipSpace text)
  let opened ← accept (if isItem then document.openItem path else document.openTable path)
  let afterFirst ← accept (expect? ']' afterKey)
  let rest ← if isItem then accept (expect? ']' afterFirst) else .ok afterFirst
  .ok (opened, rest)

def readAssignment (document : Document) (text : Text) : Except Fault (Document × Text) := do
  let (path, afterKey) ← readKey text
  let afterSign ← accept (expect? '=' afterKey)
  let start := skipSpace afterSign
  let (value, rest) ← readValue (2 * start.length + 2) 0 start
  let assigned ← accept (document.assign path value)
  .ok (assigned, rest)

def startsKey (point : CodePoint) : Bool :=
  isBareKey point || point = doubleQuote || point = singleQuote

/-- A statement, which may be missing, up to the blanks after it. -/
def readStatement (document : Document) (text : Text) : Except Fault (Document × Text) :=
  match text with
  | [] => .ok (document, [])
  | head :: tail =>
      if startsKey head then readAssignment document text
      else if head = '[' then
        match expect? '[' tail with
        | some rest => readHeader document.settle true rest
        | none => readHeader document.settle false tail
      else if head = '#' ∨ head = lineEnd then .ok (document, text)
      else .error .malformed

def readStatements : Nat → Document → Text → Except Fault Document
  | 0, _, _ => .error .malformed
  | lines + 1, document, text => do
      let (document, afterStatement) ← readStatement document (skipSpace text)
      let rest ← skipComment (skipSpace afterStatement)
      match rest with
      | [] => .ok document
      | head :: tail =>
          if head = lineEnd then readStatements lines document tail else .error .malformed

/-- Line ends of two characters count as one. -/
def unifyLineEnds : Text → Text
  | [] => []
  | [last] => [last]
  | head :: next :: rest =>
      if head.val = 0xd ∧ next = lineEnd then lineEnd :: unifyLineEnds rest
      else head :: unifyLineEnds (next :: rest)

def read (text : Text) : Except Fault Table :=
  let lines := unifyLineEnds text
  (readStatements (lines.length + 1) .empty lines).map Document.table

end Document

end Toml

end Escaping
