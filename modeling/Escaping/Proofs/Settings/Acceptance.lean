import Escaping.Proofs.Settings.Sources

/-!
Which files are accepted. A file is read as a document, which may hold the table of settings and
nothing else. All keys of the table have to be known, and those that stand for several names take
arrays; what the values are is not looked at further.
-/

namespace Escaping

open Failure

namespace SettingsFile

variable {files : FileSystem} {path : Text} {settings : Settings}

/-- A document holds at most the table of settings, whose keys are all known and have arrays where
they stand for several names. -/
structure Accepts (document table : Toml.Table) : Prop where
  only : ∀ entry ∈ document, entry.1 = tableName
  settings : (document.get? tableName).getD (.table []) = .table table
  known : ∀ entry ∈ table, ∃ key : SettingKey, entry.1 = key.name
  arrays : ∀ key ∈ arrayKeys, ∀ value ∈ table.get? key.name, ∃ items, value = .list items

/-- The file at a path can be read, and is a document. -/
def Reads (files : FileSystem) (path : Text) (document : Toml.Table) : Prop :=
  ∃ location octets text, FileSystem.octetsOfPath? path = some location ∧ 0 ∉ location
    ∧ files.read location = .ok octets ∧ Utf8.decode? octets = some text
    ∧ Toml.Document.read text = .ok document

theorem isEmpty_unknownKeys_iff (allowed : List Text) (table : Toml.Table) :
    (unknownKeys allowed table).isEmpty = true ↔ ∀ entry ∈ table, entry.1 ∈ allowed := by
  have permuted : (unknownKeys allowed table).Perm ((table.map Prod.fst).filter (· ∉ allowed)) :=
    List.mergeSort_perm _ _
  rw [permuted.isEmpty_eq]
  simp

theorem settingsTable_eq_ok_iff {document table : Toml.Table} :
    settingsTable path document = .ok table
      ↔ (∀ entry ∈ document, entry.1 = tableName)
        ∧ (document.get? tableName).getD (.table []) = .table table := by
  have only : (unknownKeys [tableName] document).isEmpty = true
      ↔ ∀ entry ∈ document, entry.1 = tableName := by
    rw [isEmpty_unknownKeys_iff]
    simp
  rw [settingsTable, ← only]
  cases (unknownKeys [tableName] document).isEmpty with
  | false => simp
  | true =>
      cases document.get? tableName with
      | none => simp
      | some value => cases value <;> simp

theorem isArray_iff (value : Value) : isArray value = true ↔ ∃ items, value = .list items := by
  cases value <;> simp [isArray]

theorem settingsOf_eq_ok_iff {table : Toml.Table} :
    settingsOf path table = .ok settings
      ↔ (∀ entry ∈ table, ∃ key : SettingKey, entry.1 = key.name)
        ∧ (∀ key ∈ arrayKeys, ∀ value ∈ table.get? key.name, ∃ items, value = .list items)
        ∧ settings = ⟨fun key => table.get? key.name⟩ := by
  have known : (unknownKeys (SettingKey.all.map SettingKey.name) table).isEmpty = true
      ↔ ∀ entry ∈ table, ∃ key : SettingKey, entry.1 = key.name := by
    rw [isEmpty_unknownKeys_iff]
    simp [SettingKey.mem_all, eq_comm]
  have arrays : (∀ key ∈ arrayKeys, ∀ value ∈ table.get? key.name, ∃ items, value = .list items)
      ↔ arrayKeys.find? (fun key => (table.get? key.name).any fun value => !isArray value)
        = none := by
    simp [List.find?_eq_none, ← isArray_iff, Option.any_eq_false]
  rw [settingsOf, ← known, arrays]
  cases (unknownKeys (SettingKey.all.map SettingKey.name) table).isEmpty with
  | false => simp
  | true =>
      dsimp only
      cases arrayKeys.find? fun key => (table.get? key.name).any fun value => !isArray value with
      | some key => simp
      | none => simp [eq_comm]

theorem document_eq_ok_iff {octets : Octets} {table : Toml.Table} :
    document path octets = .ok table
      ↔ ∃ text, Utf8.decode? octets = some text ∧ Toml.Document.read text = .ok table := by
  unfold document
  cases Utf8.decode? octets with
  | none => simp
  | some text =>
      simp only [Option.some.injEq, exists_eq_left']
      cases Toml.Document.read text with
      | ok document => simp
      | error fault => cases fault <;> simp

theorem load_eq_ok_iff :
    load files path = .ok settings
      ↔ ∃ document table, Reads files path document ∧ Accepts document table
        ∧ settings = ⟨fun key => table.get? key.name⟩ := by
  have opened {octets : Octets} :
      settingsIn path octets = .ok settings
        ↔ ∃ document table, (∃ text, Utf8.decode? octets = some text
            ∧ Toml.Document.read text = .ok document) ∧ Accepts document table
          ∧ settings = ⟨fun key => table.get? key.name⟩ := by
    rw [settingsIn, bind_eq_ok_iff]
    simp only [document_eq_ok_iff, bind_eq_ok_iff, mapError_eq_ok_iff, settingsTable_eq_ok_iff,
      settingsOf_eq_ok_iff]
    constructor
    · rintro ⟨document, read, table, ⟨only, within⟩, known, arrays, same⟩
      exact ⟨document, table, read, ⟨only, within, known, arrays⟩, same⟩
    · rintro ⟨document, table, read, ⟨only, within, known, arrays⟩, same⟩
      exact ⟨document, read, table, ⟨only, within⟩, known, arrays, same⟩
  rcases load_cases files path with
    ⟨nameless, loaded⟩ | ⟨location, named, ⟨broken, loaded⟩ | ⟨whole, fault, missing, loaded⟩
      | ⟨whole, octets, read, loaded⟩⟩
  · simp [loaded, Reads, nameless]
  · simp [loaded, Reads, named, broken]
  · simp [loaded, Reads, named, missing]
  · rw [loaded, opened]
    simp [Reads, named, whole, read]

end SettingsFile

end Escaping
