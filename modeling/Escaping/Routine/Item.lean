import Escaping.Routine.Argument

/-!
Items. Codecs escape the items of a value one after the other, most of the time the characters of
a text. Some escape other items too: a codec that goes by number takes a single octet, and one that
does not look at how long a text is takes any text.
-/

namespace Escaping

namespace Item

def all (value : Value) : Except Misuse (List Value) :=
  value.items?.elim (.error .wrongKind) .ok

/-- The escape of a single octet, by codecs that go by number. None of the characters that stand
for themselves or have a name is an octet. -/
def byNumber? (scheme : Scheme) (octet : UInt8) : Option Text :=
  let point := CodePoint.ofNat octet.toNat
  match scheme with
  | .html | .xPath => some (Html.byNumber point)
  | .xml | .xmlAttribute => some (Xml.byNumber point)
  | .javaScript => some (JavaScript.byNumber point.val)
  | .vbScript => some (VBScript.call point)
  | .css => some (Css.byNumber point.val)
  | .json =>
      if point.val < 0x20 then some (StringLiteral.unitEscape .lowerDigit point.val) else none
  | _ => none

/-- The escape of a text that is no single character, by codecs that do not look at its length. -/
def ofRun? (scheme : Scheme) (run : Text) : Option Text :=
  match scheme with
  | .percent => some (Percent.escapeRun run)
  | .posixShell | .windowsShell | .mySql => some (scheme.codec.lead.toList ++ run)
  | .oracle => some run
  | _ => none

/-- What becomes of an item that has no escape. An octet that is safe in a directory stays as it
is, and one that is not is asked for its own octets; percent-encoding asks any item for them. -/
def withoutEscape (scheme : Scheme) (item : Value) : Except Misuse (Option Text) :=
  let stays (isSafe : CodePoint → Bool) : Except Misuse (Option Text) :=
    match item with
    | .octets [octet] =>
        if isSafe (.ofNat octet.toNat) then .ok none else .error (Argument.refusal "encode" item)
    | _ => .error .wrongKind
  match scheme with
  | .ldapFilter => stays Ldap.isFilterSafe
  | .ldapName => stays Ldap.isNameSafe
  | .percent => .error (if item.isAtomic then Argument.refusal "encode" item else .wrongKind)
  | _ => .error .wrongKind

/-- Escapes one item; there is no text for an item that stays as it is and is none. -/
def escape (scheme : Scheme) (immune : List CodePoint) (item : Value) :
    Except Misuse (Option Text) :=
  let escaped := match item with
    | .text [point] => some (scheme.codec.encodePoint immune point)
    | .text run => ofRun? scheme run
    | .octets [octet] => byNumber? scheme octet
    | _ => none
  match escaped with
  | some text => .ok (some text)
  | none => withoutEscape scheme item

def escapeAll (scheme : Scheme) (immune : List CodePoint) (items : List Value) :
    Except Misuse Text := do
  let parts ← items.mapM (escape scheme immune)
  match parts.mapM id with
  | some texts => pure texts.flatten
  | none => .error .wrongKind

def encode (scheme : Scheme) (immune : List CodePoint) : Value → Except Misuse Text
  | .text text => .ok (scheme.codec.encode immune text)
  | value => do escapeAll scheme immune (← all value)

def encodeRange (scheme : Scheme) (immune : List CodePoint) (first last : Value) :
    Except Misuse (List Text) := do
  let texts := scheme.codec.encodeRange? immune (← Argument.integer first) (← Argument.integer last)
  texts.elim (.error .outsideCodeSpace) .ok

private theorem mapM_escape_characters (scheme : Scheme) (immune : List CodePoint) (text : Text) :
    (text.map fun point => Value.text [point]).mapM (escape scheme immune)
      = Except.ok (text.map fun point => some (scheme.codec.encodePoint immune point)) := by
  induction text with
  | nil => rfl
  | cons head tail induction =>
      rw [List.map_cons, List.mapM_cons, induction]
      rfl

private theorem mapM_id_texts (escape : CodePoint → Text) (text : Text) :
    (text.map fun point => some (escape point)).mapM id = some (text.map escape) := by
  induction text with
  | nil => rfl
  | cons head tail induction =>
      rw [List.map_cons, List.mapM_cons, induction]
      rfl

theorem escapeAll_characters (scheme : Scheme) (immune : List CodePoint) (text : Text) :
    escapeAll scheme immune (text.map fun point => .text [point])
      = .ok (scheme.codec.encode immune text) := by
  simp only [escapeAll, mapM_escape_characters, bind, Except.bind, mapM_id_texts]
  rw [Codec.encode, List.flatMap_def]
  rfl

/-! Items of string expressions. -/

/-- Whether a text is among immune ones, which come as a list or as all parts of one text. -/
def isImmuneText (run : Text) : Value → Except Misuse Bool
  | .text whole => .ok (run.isPartOf whole)
  | .list items => .ok (items.any fun item =>
      match item with
      | .text text => decide (text = run)
      | _ => false)
  | _ => .error .wrongKind

def isImmuneOctet (octet : UInt8) : Value → Except Misuse Bool
  | .octets whole => .ok (decide (octet ∈ whole))
  | .list items => .ok (items.any fun item =>
      match item with
      | .octets octets => decide (octets = [octet])
      | _ => false)
  | _ => .error .wrongKind

/-- The term of one item. Only texts can stand in a literal; what is not plain has to be a single
character or octet. -/
def term (immune item : Value) : Except Misuse VBScript.Term := do
  match item with
  | .text run =>
      if ← isImmuneText run immune then pure (.literal run)
      else match run with
        | [point] =>
            pure (if point.isAlphanumeric then .literal [point] else .character point)
        | _ => .error .wrongKind
  | .octets [octet] =>
      if ← isImmuneOctet octet immune then .error .wrongKind
      else pure (.character (.ofNat octet.toNat))
  | _ => .error .wrongKind

def expression (immune value : Value) : Except Misuse Text := do
  let terms ← (← all value).mapM (term immune)
  pure (VBScript.expression (VBScript.joinLiterals terms))

end Item

end Escaping
