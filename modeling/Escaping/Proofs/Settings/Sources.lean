import Escaping.Proofs.Settings.Checks

/-!
What the sources of settings give. Variables of the environment stand for texts and booleans only,
and every fault in one of them is told of. A file is read if its path stands for a name, its
contents are text, and the text stays within the limits of its reader.
-/

namespace Escaping

open Failure

namespace Environment

variable {environment : Environment} {key : SettingKey} {value : Value}

/-- A variable is set for a key, and its text stands for a value. -/
def Sets (environment : Environment) (key : SettingKey) (value : Value) : Prop :=
  ∃ text, environment.get? (variableOf key) = some text ∧ settingOf key text = .ok value

theorem settingOf_of_array (array : key ∈ SettingsFile.arrayKeys) (text : Text) :
    settingOf key text = .ok (.list ((names text).map Value.text)) := by
  cases key with
  | schemes => rfl
  | unsafeMethods => rfl
  | allowMultiple => exact absurd array (by decide)
  | allowMixed => exact absurd array (by decide)

theorem settingOf_of_flag (single : key ∉ SettingsFile.arrayKeys) (text : Text) :
    settingOf key text
      = ((flag? text).map fun flag => Except.ok (.boolean flag)).getD
        (.error (.variableNotABoolean (variableOf key) text)) := by
  cases key with
  | schemes => exact absurd (by decide) single
  | unsafeMethods => exact absurd (by decide) single
  | allowMultiple =>
      rw [settingOf]
      cases flag? text with
      | none => rfl
      | some flag => rfl
  | allowMixed =>
      rw [settingOf]
      cases flag? text with
      | none => rfl
      | some flag => rfl

theorem Sets.list (sets : environment.Sets key value) (array : key ∈ SettingsFile.arrayKeys) :
    ∃ names : List Text, value = .list (names.map Value.text) := by
  rcases sets with ⟨text, _, read⟩
  rw [settingOf_of_array array] at read
  exact ⟨names text, (Except.ok.inj read).symm⟩

theorem Sets.flag (sets : environment.Sets key value) (single : key ∉ SettingsFile.arrayKeys) :
    ∃ flag, value = .boolean flag := by
  rcases sets with ⟨text, _, read⟩
  rw [settingOf_of_flag single] at read
  cases flagged : flag? text with
  | none =>
      rw [flagged] at read
      cases read
  | some flag =>
      rw [flagged] at read
      exact ⟨flag, (Except.ok.inj read).symm⟩

theorem given?_of_settingOf {text : Text} {fault : ConfigurationFault}
    (refused : settingOf key text = .error fault) : fault.given? = none := by
  by_cases array : key ∈ SettingsFile.arrayKeys
  · rw [settingOf_of_array array] at refused
    cases refused
  · rw [settingOf_of_flag array] at refused
    cases flagged : flag? text with
    | none =>
        rw [flagged] at refused
        cases refused
        rfl
    | some flag =>
        rw [flagged] at refused
        cases refused

/-- A key is left open where its variable is not set, and otherwise takes what its text stands for;
only a text that stands for nothing is a fault. -/
theorem addSetting_cases (environment : Environment) (settings : Settings) (key : SettingKey) :
    addSetting environment settings key = .ok settings
      ∨ (∃ value, environment.Sets key value
        ∧ addSetting environment settings key = .ok (settings.set key value))
      ∨ ∃ fault, fault.given? = none ∧ addSetting environment settings key = .error fault := by
  unfold addSetting
  cases given : environment.get? (variableOf key) with
  | none => exact .inl rfl
  | some text =>
      cases read : settingOf key text with
      | ok value => exact .inr (.inl ⟨value, ⟨text, given, read⟩, by simp [read, Except.map]⟩)
      | error fault =>
          exact .inr (.inr ⟨fault, given?_of_settingOf read, by simp [read, Except.map]⟩)

/-- Every setting comes from a variable of its own key. -/
theorem sets_of_foldlM {keys : List SettingKey} {start last : Settings}
    (folded : keys.foldlM (addSetting environment) start = .ok last)
    (begins : ∀ key, ∀ value ∈ start.value? key, environment.Sets key value) :
    ∀ key, ∀ value ∈ last.value? key, environment.Sets key value := by
  induction keys generalizing start with
  | nil =>
      cases folded
      exact begins
  | cons first rest induction =>
      rw [List.foldlM_cons] at folded
      rcases addSetting_cases environment start first with
        open' | ⟨value, sets, added⟩ | ⟨_, _, refused⟩
      · rw [open'] at folded
        exact induction folded begins
      · rw [added] at folded
        apply induction folded
        intro key other member
        simp only [Settings.set] at member
        split at member
        next same =>
          cases member
          exact same ▸ sets
        next => exact begins key other member
      · rw [refused] at folded
        cases folded

theorem given?_of_foldlM {keys : List SettingKey} {start : Settings} {fault : ConfigurationFault}
    (folded : keys.foldlM (addSetting environment) start = .error fault) :
    fault.given? = none := by
  induction keys generalizing start with
  | nil => cases folded
  | cons first rest induction =>
      rw [List.foldlM_cons] at folded
      rcases addSetting_cases environment start first with
        open' | ⟨value, _, added⟩ | ⟨other, unquoted, refused⟩
      · rw [open'] at folded
        exact induction folded
      · rw [added] at folded
        exact induction folded
      · rw [refused] at folded
        cases folded
        exact unquoted

theorem sets_of_settings {settings : Settings} (read : environment.settings = .ok settings)
    (key : SettingKey) : ∀ value ∈ settings.value? key, environment.Sets key value :=
  sets_of_foldlM read (fun _ _ member => (nomatch member)) key

end Environment

namespace SettingsFile

variable {files : FileSystem} {path : Text}

/-- The contents are text in UTF-8 that does not go beyond the limits of its reader. -/
def Readable (octets : Octets) : Prop :=
  ∃ text, Utf8.decode? octets = some text
    ∧ (∀ digits, Toml.Document.read text ≠ .error (.integerTooLong digits))
    ∧ Toml.Document.read text ≠ .error .nestedTooDeep

/-- The path stands for the name of a file, and if there is such a file, it is readable. -/
def Legible (files : FileSystem) (path : Text) : Prop :=
  ∃ location, FileSystem.octetsOfPath? path = some location ∧ 0 ∉ location
    ∧ ∀ octets, files.read location = .ok octets → Readable octets

theorem explained_document_iff (path : Text) (octets : Octets) :
    Explained (document path octets) ↔ Readable octets := by
  unfold document Readable
  cases Utf8.decode? octets with
  | none =>
      apply iff_of_false (not_explained_misuse _)
      intro readable
      rcases readable with ⟨_, decoded, _⟩
      cases decoded
  | some text =>
      simp only [Option.some.injEq, exists_eq_left']
      cases Toml.Document.read text with
      | ok table => exact iff_of_true (explained_ok table) ⟨fun _ => nofun, nofun⟩
      | error fault =>
          cases fault with
          | malformed => exact iff_of_true (explained_of_unquoted rfl) ⟨fun _ => nofun, nofun⟩
          | integerTooLong digits =>
              exact iff_of_false (not_explained_misuse _) fun bounded => bounded.1 digits rfl
          | nestedTooDeep =>
              exact iff_of_false (not_explained_misuse _) fun bounded => bounded.2 rfl

theorem given?_of_settingsTable {document : Toml.Table} {fault : ConfigurationFault}
    (refused : settingsTable path document = .error fault) : fault.given? = none := by
  unfold settingsTable at refused
  dsimp only at refused
  split at refused
  next =>
    cases refused
    rfl
  next =>
    split at refused
    next => cases refused
    next => cases refused
    next =>
      cases refused
      rfl

theorem given?_of_settingsOf {table : Toml.Table} {fault : ConfigurationFault}
    (refused : settingsOf path table = .error fault) : fault.given? = none := by
  unfold settingsOf at refused
  dsimp only at refused
  split at refused
  next =>
    cases refused
    rfl
  next =>
    split at refused
    next =>
      cases refused
      rfl
    next => cases refused

theorem hasArrays_of_settingsOf {table : Toml.Table} {settings : Settings}
    (read : settingsOf path table = .ok settings) : settings.HasArrays := by
  unfold settingsOf at read
  dsimp only at read
  split at read
  next => cases read
  next =>
    split at read
    next => cases read
    next found =>
      cases read
      intro key array value member
      have given : table.get? key.name = some value := member
      have fits := List.find?_eq_none.mp found key array
      rw [given] at fits
      cases value with
      | list items => exact ⟨items, rfl⟩
      | _ => exact absurd rfl fits

/-- The settings in the contents of a file. -/
def settingsIn (path : Text) (octets : Octets) : Except Failure Settings :=
  (document path octets).bind fun document =>
    ((settingsTable path document).mapError ofConfigurationFault).bind fun table =>
      (settingsOf path table).mapError ofConfigurationFault

theorem load_cases (files : FileSystem) (path : Text) :
    (FileSystem.octetsOfPath? path = none
        ∧ load files path = .error (.misuse .unencodablePath))
      ∨ ∃ location, FileSystem.octetsOfPath? path = some location
        ∧ ((0 ∈ location ∧ load files path = .error (.misuse .nulInPath))
          ∨ (0 ∉ location ∧ ∃ fault, files.read location = .error fault
            ∧ load files path = .error (.ofConfigurationFault (.unreadableFile path fault)))
          ∨ (0 ∉ location ∧ ∃ octets, files.read location = .ok octets
            ∧ load files path = settingsIn path octets)) := by
  unfold load
  cases FileSystem.octetsOfPath? path with
  | none => exact .inl ⟨rfl, rfl⟩
  | some location =>
      refine .inr ⟨location, rfl, ?_⟩
      dsimp only
      split
      next broken => exact .inl ⟨broken, rfl⟩
      next whole =>
        cases files.read location with
        | error fault => exact .inr (.inl ⟨whole, fault, rfl, rfl⟩)
        | ok octets => exact .inr (.inr ⟨whole, octets, rfl, rfl⟩)

theorem explained_settingsIn_iff (path : Text) (octets : Octets) :
    Explained (settingsIn path octets) ↔ Readable octets := by
  rw [settingsIn, explained_bind_iff, explained_document_iff]
  apply and_iff_left
  intro document _
  apply explained_bind_iff.mpr
  refine ⟨explained_mapError fun fault refused => given?_of_settingsTable refused, ?_⟩
  intro table _
  exact explained_mapError fun fault refused => given?_of_settingsOf refused

theorem explained_load_iff : Explained (load files path) ↔ Legible files path := by
  unfold Legible
  rcases load_cases files path with
    ⟨nameless, loaded⟩ | ⟨location, named, ⟨broken, loaded⟩ | ⟨whole, fault, missing, loaded⟩
      | ⟨whole, octets, read, loaded⟩⟩
  · rw [nameless, loaded]
    apply iff_of_false (not_explained_misuse _)
    intro legible
    rcases legible with ⟨_, stands, _⟩
    cases stands
  · rw [named, loaded]
    apply iff_of_false (not_explained_misuse _)
    intro legible
    rcases legible with ⟨_, ⟨⟩, without, _⟩
    exact absurd broken without
  · rw [named, loaded]
    apply iff_of_true (explained_of_unquoted rfl)
    refine ⟨location, rfl, whole, ?_⟩
    intro octets read
    rw [missing] at read
    cases read
  · rw [named, loaded, explained_settingsIn_iff]
    constructor
    · intro readable
      refine ⟨location, rfl, whole, ?_⟩
      intro others same
      rw [read] at same
      cases same
      exact readable
    · intro legible
      rcases legible with ⟨_, ⟨⟩, _, readable⟩
      exact readable octets read

theorem hasArrays_of_load {settings : Settings} (loaded : load files path = .ok settings) :
    settings.HasArrays := by
  rcases load_cases files path with
    ⟨_, refused⟩ | ⟨location, _, ⟨_, refused⟩ | ⟨_, fault, _, refused⟩ | ⟨_, octets, _, opened⟩⟩
  · rw [refused] at loaded
    cases loaded
  · rw [refused] at loaded
    cases loaded
  · rw [refused] at loaded
    cases loaded
  · rw [opened, settingsIn, bind_eq_ok_iff] at loaded
    rcases loaded with ⟨document, _, afterDocument⟩
    rcases bind_eq_ok_iff.mp afterDocument with ⟨table, _, finished⟩
    exact hasArrays_of_settingsOf ((mapError_eq_ok_iff _).mp finished)

end SettingsFile

end Escaping
