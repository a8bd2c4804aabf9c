import Escaping.Settings.Configuration
import Escaping.Settings.FileSystem
import Escaping.Text.Blank
import Escaping.Toml.Document

/-!
Where settings come from. Each key is taken from an environment variable if that is set, else from
the file, else from the defaults. The file is read first, and a fault in it is a fault even where
variables set every key.
-/

namespace Escaping

abbrev Environment := List (Text × Text)

namespace Environment

def get? (environment : Environment) (name : Text) : Option Text := environment.lookup name

def opening : Text := Text.ofString "CTXCODEC_"

/-- The name of a key in upper case, which consists of ASCII letters and underscores. -/
def upperName (key : SettingKey) : Text :=
  key.name.map fun point => if point.isLetter then .ofNat (point.val - 0x20) else point

def variableOf (key : SettingKey) : Text := opening ++ upperName key

/-- The file that the environment names, unless the name is empty. -/
def configuredFile? (environment : Environment) : Option Text :=
  (environment.get? (opening ++ Text.ofString "CONFIG")).filter fun path => !path.isEmpty

def trueWords : List Text := ["1", "true", "yes", "on"].map Text.ofString

def falseWords : List Text := ["0", "false", "no", "off"].map Text.ofString

/-- The boolean for the value of a variable, in any case and with any blanks around it. Only ASCII
letters have to be lowered, since no other letter becomes one of those in the accepted words. -/
def flag? (text : Text) : Option Bool :=
  let word := Text.lowerAscii text.strip
  if word ∈ trueWords then some true
  else if word ∈ falseWords then some false
  else none

/-- The names in a list with commas; blanks around a name and blank names do not count. -/
def names (text : Text) : List Text :=
  ((Text.splitAt ',' text).map Text.strip).filter fun name => !name.isEmpty

def settingOf (key : SettingKey) (text : Text) : Except ConfigurationFault Value :=
  match key with
  | .allowMultiple | .allowMixed =>
      match flag? text with
      | some flag => .ok (.boolean flag)
      | none => .error (.variableNotABoolean (variableOf key) text)
  | .schemes | .unsafeMethods => .ok (.list ((names text).map Value.text))

def addSetting (environment : Environment) (settings : Settings) (key : SettingKey) :
    Except ConfigurationFault Settings :=
  match environment.get? (variableOf key) with
  | none => .ok settings
  | some text => (settingOf key text).map fun value => settings.set key value

def settings (environment : Environment) : Except ConfigurationFault Settings :=
  SettingKey.all.foldlM (addSetting environment) Settings.none

end Environment

namespace SettingsFile

def tableName : Text := Text.ofString "encoder"

def arrayKeys : List SettingKey := [.schemes, .unsafeMethods]

def isArray : Value → Bool
  | .list _ => true
  | _ => false

/-- The keys of a table that are none of those allowed, in ascending order. -/
def unknownKeys (allowed : List Text) (table : Toml.Table) : List Text :=
  Text.sorted ((table.map Prod.fst).filter (· ∉ allowed))

/-- The table of settings in a document; without one there are no settings. -/
def settingsTable (path : Text) (document : Toml.Table) : Except ConfigurationFault Toml.Table :=
  let unknown := unknownKeys [tableName] document
  if !unknown.isEmpty then .error (.unknownTables path unknown)
  else match document.get? tableName with
    | none => .ok []
    | some (.table table) => .ok table
    | some _ => .error (.settingsNotATable path)

/-- The settings of a table, all of whose keys have to be known. -/
def settingsOf (path : Text) (table : Toml.Table) : Except ConfigurationFault Settings :=
  let unknown := unknownKeys (SettingKey.all.map SettingKey.name) table
  if !unknown.isEmpty then .error (.unknownKeys path unknown)
  else
    let settings : Settings := ⟨fun key => table.get? key.name⟩
    match arrayKeys.find? fun key => (settings.value? key).any fun value => !isArray value with
    | some key => .error (.notAnArray path key.name)
    | none => .ok settings

def document (path : Text) (octets : Octets) : Except Failure Toml.Table :=
  match Utf8.decode? octets with
  | none => .error (.misuse .undecodableFile)
  | some text =>
      match Toml.Document.read text with
      | .ok table => .ok table
      | .error .malformed => .error (.ofConfigurationFault (.malformedFile path))
      | .error (.integerTooLong digits) => .error (.misuse (.integerTooLongToRead digits))
      | .error .nestedTooDeep => .error (.misuse .nestedTooDeepToRead)

def load (files : FileSystem) (path : Text) : Except Failure Settings :=
  match FileSystem.octetsOfPath? path with
  | none => .error (.misuse .unencodablePath)
  | some location =>
      if 0 ∈ location then .error (.misuse .nulInPath)
      else match files.read location with
        | .error fault => .error (.ofConfigurationFault (.unreadableFile path fault))
        | .ok octets => do
            let document ← document path octets
            let table ← (settingsTable path document).mapError Failure.ofConfigurationFault
            (settingsOf path table).mapError Failure.ofConfigurationFault

end SettingsFile

namespace Configuration

/-- The configuration for the file at a path, if one is given or named by the environment, and for
the environment, whose settings win over those of the file. -/
def load (files : FileSystem) (path : Option Text) (environment : Environment) :
    Except Failure Configuration := do
  let fromFile ← match path.or environment.configuredFile? with
    | some path => SettingsFile.load files path
    | none => .ok Settings.none
  let fromEnvironment ← environment.settings.mapError Failure.ofConfigurationFault
  ofSettings (fromEnvironment.orElse fromFile)

end Configuration

end Escaping
