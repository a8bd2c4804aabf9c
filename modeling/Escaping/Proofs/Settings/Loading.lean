import Escaping.Proofs.Settings.Sources

/-!
When loading settings is explained. It ends in a configuration or in an error that tells of a faulty
one, unless a file is not legible or a check comes to a value from a file that cannot be told of.
-/

namespace Escaping

open Failure

namespace Settings

variable {environment : Environment} {overriding file : Settings}

theorem HasArrays.orElse (read : environment.settings = .ok overriding) (arrays : file.HasArrays) :
    (overriding.orElse file).HasArrays := by
  intro key array value member
  rcases Option.or_eq_some_iff.mp member with given | ⟨_, given⟩
  · rcases (Environment.sets_of_settings read key value given).list array with ⟨names, listed⟩
    exact ⟨_, listed⟩
  · exact arrays key array value given

/-- What variables set is told of, whatever it is. -/
theorem explicable_of_environment (read : environment.settings = .ok overriding) :
    (overriding.orElse none).Explicable := by
  have fromVariables : ∀ key value, (overriding.orElse none).value? key = some value →
      environment.Sets key value := by
    intro key value given
    rcases Option.or_eq_some_iff.mp given with given | ⟨_, given⟩
    · exact Environment.sets_of_settings read key value given
    · cases given
  have flags : ∀ key, key ∉ SettingsFile.arrayKeys →
      ∀ given ∈ (overriding.orElse none).value? key, given.Showable := by
    intro key single value given
    rcases (fromVariables key value given).flag single with ⟨flag, rfl⟩
    exact (Value.showable_iff_of_isAtomic rfl).mpr rfl
  have texts : ∀ key, key ∈ SettingsFile.arrayKeys → ∀ items,
      (overriding.orElse none).value? key = some (.list items) →
        ∀ item ∈ items, ∃ name, item = .text name := by
    intro key array items given item member
    rcases (fromVariables key _ given).list array with ⟨names, listed⟩
    cases listed
    rcases List.mem_map.mp member with ⟨name, _, same⟩
    exact ⟨name, same.symm⟩
  exact {
    schemes := by
      intro items given item found
      rcases texts .schemes (by decide) items given item (List.mem_of_find?_eq_some found) with
        ⟨name, rfl⟩
      exact ⟨rfl, rfl⟩
    allowMultiple := fun _ => flags .allowMultiple (by decide)
    allowMixed := fun _ _ => flags .allowMixed (by decide)
    unsafeMethods := fun _ _ _ => texts .unsafeMethods (by decide) }

end Settings

namespace Configuration

variable (files : FileSystem) (path : Option Text) (environment : Environment)

/-- The settings of the file that is named, if one is. -/
def fileSettings : Except Failure Settings :=
  match path.or environment.configuredFile? with
  | some named => SettingsFile.load files named
  | none => .ok Settings.none

theorem load_eq :
    load files path environment
      = (fileSettings files path environment).bind fun file =>
        (environment.settings.mapError ofConfigurationFault).bind fun overriding =>
          ofSettings (overriding.orElse file) := by
  unfold load fileSettings
  cases path.or environment.configuredFile? with
  | some named => rfl
  | none => rfl

theorem explained_fileSettings_iff :
    Explained (fileSettings files path environment)
      ↔ ∀ named ∈ path.or environment.configuredFile?, SettingsFile.Legible files named := by
  unfold fileSettings
  cases path.or environment.configuredFile? with
  | none => exact iff_of_true (explained_ok _) fun _ given => nomatch given
  | some named =>
      dsimp only
      rw [SettingsFile.explained_load_iff]
      simp

theorem hasArrays_of_fileSettings {files : FileSystem} {path : Option Text}
    {environment : Environment} {file : Settings}
    (read : fileSettings files path environment = .ok file) : file.HasArrays := by
  unfold fileSettings at read
  split at read
  next => exact SettingsFile.hasArrays_of_load read
  next =>
    cases read
    intro _ _ _ given
    cases given

/-- Loading settings gives a configuration or an error of the configuration exactly where the file
is legible and the settings, once they are put together, are such that their first fault can be told
of. Without a file it always does. -/
theorem load_explained :
    (Explained (load files path environment)
        ↔ (∀ named ∈ path.or environment.configuredFile?, SettingsFile.Legible files named)
          ∧ ∀ file overriding, fileSettings files path environment = .ok file →
            environment.settings = .ok overriding → (overriding.orElse file).Explicable)
      ∧ (path.or environment.configuredFile? = none →
        Explained (load files path environment)) := by
  have characterized : Explained (load files path environment)
      ↔ (∀ named ∈ path.or environment.configuredFile?, SettingsFile.Legible files named)
        ∧ ∀ file overriding, fileSettings files path environment = .ok file →
          environment.settings = .ok overriding → (overriding.orElse file).Explicable := by
    rw [load_eq, explained_bind_iff, explained_fileSettings_iff]
    apply and_congr_right
    intro _
    constructor
    · intro explained file overriding read given
      rcases explained_bind_iff.mp (explained file read) with ⟨_, following⟩
      have settled := following overriding ((mapError_eq_ok_iff _).mpr given)
      exact (explained_ofSettings_iff (.orElse given (hasArrays_of_fileSettings read))).mp settled
    · intro explicable file read
      apply explained_bind_iff.mpr
      refine ⟨explained_mapError fun fault refused => Environment.given?_of_foldlM refused, ?_⟩
      intro overriding given
      have given := (mapError_eq_ok_iff _).mp given
      apply (explained_ofSettings_iff (.orElse given (hasArrays_of_fileSettings read))).mpr
      exact explicable file overriding read given
  refine ⟨characterized, ?_⟩
  intro unnamed
  apply characterized.mpr
  rw [unnamed]
  refine ⟨fun _ given => (nomatch given), ?_⟩
  intro file overriding read given
  unfold fileSettings at read
  rw [unnamed] at read
  cases read
  exact Settings.explicable_of_environment given

/-- Octets that are no UTF-8, and a list in place of the name of a codec, are not told of. -/
theorem load_explained_undecodable :
    ¬Explained (load (FileTree.ofPaths [("c.toml", .file [0xff])]) (some "c.toml") [])
      ∧ ¬Explained (load
        (FileTree.ofPaths [("c.toml",
          .file (Utf8.encode (Text.ofString "[encoder]\ndefault_codecs = [[]]\n")))])
        (some "c.toml") []) := by
  constructor
  · exact not_explained_of_misuse? (by decide +kernel : misuse? _ = some .undecodableFile)
  · exact not_explained_of_misuse? (by decide +kernel : misuse? _ = some .wrongKind)

end Configuration

end Escaping
