import Escaping.Canonical.Canonicalizer

/-!
Configurations. A configuration names the schemes that canonicalization reads, says which kinds of
repeated encoding are tolerated, and which unsafe methods may be called. It is made from settings
that may hold any values, and only from valid ones.
-/

namespace Escaping

structure Configuration where
  schemes : List Scheme
  allowMultiple : Bool
  allowMixed : Bool
  unsafeMethods : List UnsafeMethod
deriving DecidableEq

inductive SettingKey where
  | schemes
  | allowMultiple
  | allowMixed
  | unsafeMethods
deriving DecidableEq, Repr

namespace SettingKey

def all : List SettingKey := [.schemes, .allowMultiple, .allowMixed, .unsafeMethods]

def name : SettingKey → Text
  | .schemes => Text.ofString "default_codecs"
  | .allowMultiple => Text.ofString "allow_multiple_encoding"
  | .allowMixed => Text.ofString "allow_mixed_encoding"
  | .unsafeMethods => Text.ofString "allow_unsafe_methods"

def ofName? (name : Text) : Option SettingKey := all.find? fun key => key.name = name

theorem mem_all (key : SettingKey) : key ∈ all := by cases key <;> decide

theorem ofName?_name (key : SettingKey) : ofName? key.name = some key := by cases key <;> decide

end SettingKey

/-- Settings as they are given: a value for each key that is set. -/
structure Settings where
  value? : SettingKey → Option Value

namespace Settings

def none : Settings := ⟨fun _ => Option.none⟩

def set (settings : Settings) (key : SettingKey) (value : Value) : Settings :=
  ⟨fun each => if each = key then some value else settings.value? each⟩

/-- Settings that are given by name; every name has to be that of a key. -/
def ofFields? (fields : List (Text × Value)) : Option Settings :=
  fields.foldlM
    (fun settings (name, value) => (SettingKey.ofName? name).map fun key => settings.set key value)
    none

/-- The settings of the first, and those of the second for keys that the first does not set. -/
def orElse (settings others : Settings) : Settings :=
  ⟨fun key => (settings.value? key).or (others.value? key)⟩

end Settings

namespace Configuration

def standard : Configuration := ⟨Scheme.defaults, false, false, []⟩

def isText (text : Text) : Value → Bool
  | .text other => other = text
  | _ => false

/-- The scheme for one item of a list of codec names; each name may occur once. -/
def scheme (items : List Value) (item : Value) : Except Failure Scheme :=
  match item with
  | .text name =>
      if name = EncodingFault.base64Name then .error (.ofConfigurationFault .wholeBufferCodec)
      else match Scheme.ofName? name with
        | none => .error (.ofConfigurationFault (.unknownCodec item))
        | some found =>
            if 1 < items.countP (isText name) then
              .error (.ofConfigurationFault (.duplicateCodec found))
            else .ok found
  | _ =>
      if item.isAtomic then .error (.ofConfigurationFault (.unknownCodec item))
      else .error (.misuse .wrongKind)

def schemesOf : Option Value → Except Failure (List Scheme)
  | none => .ok Scheme.defaults
  | some (.text _) => .error (.ofConfigurationFault .codecsNotAList)
  | some value =>
      match value.items? with
      | none => .error (.misuse .wrongKind)
      | some [] => .error (.ofConfigurationFault .codecsEmpty)
      | some items => items.mapM (scheme items)

/-- A flag that is off unless it is set, and then to a boolean. -/
def flagOf (key : SettingKey) : Option Value → Except Failure Bool
  | none => .ok false
  | some (.boolean flag) => .ok flag
  | some value => .error (.ofConfigurationFault (.notABoolean key.name value))

def texts? : List Value → Option (List Text)
  | [] => some []
  | .text text :: rest => (texts? rest).map (text :: ·)
  | _ :: _ => none

def isMethod : Value → Bool
  | .text name => (UnsafeMethod.ofName? name).isSome
  | _ => false

/-- The methods that some items name, if they all name one. -/
def methodsOfItems (items : List Value) : Except Failure (List UnsafeMethod) :=
  if items.any fun item => !item.isAtomic then .error (.misuse .wrongKind)
  else
    let unknown := items.filter fun item => !isMethod item
    if unknown.isEmpty then
      .ok (UnsafeMethod.all.filter fun method => items.any (isText method.name))
    else match texts? unknown with
      | none => .error (.misuse .wrongKind)
      | some names => .error (.ofConfigurationFault (.unknownMethods (Text.sorted names.eraseDups)))

/-- The unsafe methods for a setting; without one, none is allowed. -/
def methodsOf : Option Value → Except Failure (List UnsafeMethod)
  | none => .ok []
  | some (.text _) => .error (.ofConfigurationFault .methodsNotAList)
  | some value =>
      match value.items? with
      | none => .error (.misuse .wrongKind)
      | some items => methodsOfItems items

def ofSettings (settings : Settings) : Except Failure Configuration := do
  let schemes ← schemesOf (settings.value? .schemes)
  let allowMultiple ← flagOf .allowMultiple (settings.value? .allowMultiple)
  let allowMixed ← flagOf .allowMixed (settings.value? .allowMixed)
  let unsafeMethods ← methodsOf (settings.value? .unsafeMethods)
  pure ⟨schemes, allowMultiple, allowMixed, unsafeMethods⟩

def policy (configuration : Configuration) : Policy :=
  .ofFlags (!configuration.allowMultiple) (!configuration.allowMixed)

def allows (configuration : Configuration) (method : UnsafeMethod) : Bool :=
  decide (method ∈ configuration.unsafeMethods)

/-- Quoted names in parentheses; a comma follows a single one. -/
def shownNames (names : List Text) : Text :=
  Text.ofString "(" ++ Text.join (Text.ofString ", ") (names.map Quoted.text)
    ++ Text.ofString (if names.length = 1 then ",)" else ")")

def shownFlag (flag : Bool) : Text := Text.ofString (if flag then "True" else "False")

def shown (configuration : Configuration) : Text :=
  Text.ofString "EncoderConfig(default_codecs="
    ++ shownNames (configuration.schemes.map Scheme.name)
    ++ Text.ofString ", allow_multiple_encoding=" ++ shownFlag configuration.allowMultiple
    ++ Text.ofString ", allow_mixed_encoding=" ++ shownFlag configuration.allowMixed
    ++ Text.ofString ", allow_unsafe_methods="
    ++ shownNames (configuration.unsafeMethods.map UnsafeMethod.name) ++ Text.ofString ")"

/-- No setting of a configuration can be changed. -/
def assign (_configuration : Configuration) (_name : Text) (_value : Value) :
    Except Failure Configuration :=
  .error (.misuse .immutable)

end Configuration

end Escaping
