import Escaping.Proofs.Settings.Acceptance
import Escaping.Proofs.Settings.Loading
import Escaping.Proofs.Text.Cutting
import Escaping.Proofs.Text.Spelling

/-!
How settings are resolved. Each key has its value from its own variable, else from the file, else by
default, whatever the other keys are set to. A file that is named has to be accepted first, and
lists of names mean the same in variables as in files.
-/

namespace Escaping

open Failure

/-- The value of a key that nothing sets. -/
def SettingKey.standard : SettingKey → Value
  | .schemes => .list (Scheme.defaults.map fun scheme => .text scheme.name)
  | .allowMultiple => .boolean false
  | .allowMixed => .boolean false
  | .unsafeMethods => .list []

namespace Environment

variable {environment others : Environment} {key : SettingKey} {file : Settings}

/-- The boolean that a text spells in any case and with any blanks around it. -/
def spelled? (text : Text) : Option Bool :=
  let word := Text.lowerAfter [] text.strip
  if word ∈ trueWords then some true
  else if word ∈ falseWords then some false
  else none

/-- What a variable stands for: a list of names, or a boolean where it spells one. -/
def parsed? (key : SettingKey) (text : Text) : Option Value :=
  if key ∈ SettingsFile.arrayKeys then some (.list ((names text).map Value.text))
  else (spelled? text).map Value.boolean

/-- The value of the variable of a key. -/
def read? (environment : Environment) (key : SettingKey) : Option Value :=
  (environment.get? (variableOf key)).bind (parsed? key)

/-- The fault of a variable that is set but stands for nothing. -/
def fault? (environment : Environment) (key : SettingKey) : Option ConfigurationFault :=
  (environment.get? (variableOf key)).bind fun text =>
    if (parsed? key text).isNone then some (.variableNotABoolean (variableOf key) text) else none

/-- The value of a key: that of its variable, else that of the file, else the default. -/
def chosen (environment : Environment) (file : Settings) (key : SettingKey) : Value :=
  ((environment.read? key).or (file.value? key)).getD key.standard

/-- The configuration for the chosen values of all keys, unless a variable is at fault. -/
def resolve (environment : Environment) (file : Settings) : Except Failure Configuration :=
  match SettingKey.all.findSome? environment.fault? with
  | some fault => .error (.error (.configuration fault.notice))
  | none => Configuration.ofSettings ⟨fun key => some (environment.chosen file key)⟩

/-- Only ASCII letters have to be lowered to tell whether a text spells a boolean. -/
theorem flag?_eq_spelled? (text : Text) : flag? text = spelled? text := by
  have unshared : ∀ words ∈ [trueWords, falseWords], ∀ word ∈ words, ∀ letter ∈ word,
      letter.isUnshared = true := by
    decide
  have trueWord := Text.lowerAfter_mem_iff (unshared trueWords (by decide)) [] text.strip
  have falseWord := Text.lowerAfter_mem_iff (unshared falseWords (by decide)) [] text.strip
  simp only [flag?, spelled?, trueWord, falseWord]

theorem settingOf_eq (key : SettingKey) (text : Text) :
    settingOf key text = match parsed? key text with
      | some value => .ok value
      | none => .error (.variableNotABoolean (variableOf key) text) := by
  by_cases array : key ∈ SettingsFile.arrayKeys
  · rw [parsed?, if_pos array, settingOf_of_array array]
  · rw [parsed?, if_neg array, settingOf_of_flag array, flag?_eq_spelled?]
    cases spelled? text with
    | none => rfl
    | some flag => rfl

/-- Settings in which some keys are set by their variables. -/
def overlay (environment : Environment) (keys : List SettingKey) (settings : Settings) : Settings :=
  ⟨fun key =>
    if key ∈ keys then (environment.read? key).or (settings.value? key) else settings.value? key⟩

theorem overlay_overlay (first : SettingKey) (rest : List SettingKey) (settings : Settings) :
    environment.overlay rest (environment.overlay [first] settings)
      = environment.overlay (first :: rest) settings := by
  simp only [overlay, List.mem_cons, List.not_mem_nil, or_false, Settings.mk.injEq]
  funext key
  by_cases same : key = first
  · by_cases later : key ∈ rest
    · simp [same, same ▸ later, ← Option.or_assoc]
    · simp [same, same ▸ later]
  · simp [same]

theorem overlay_of_read? {value : Value} (read : environment.read? key = some value)
    (settings : Settings) : environment.overlay [key] settings = settings.set key value := by
  simp only [overlay, Settings.set, List.mem_singleton, Settings.mk.injEq]
  funext each
  split
  next same => rw [same, read, Option.some_or]
  next => rfl

theorem overlay_of_unread (unread : environment.read? key = none) (settings : Settings) :
    environment.overlay [key] settings = settings := by
  have kept : ∀ each, (environment.overlay [key] settings).value? each = settings.value? each := by
    intro each
    simp only [overlay, List.mem_singleton]
    split
    next same => rw [same, unread, Option.none_or]
    next => rfl
  exact congrArg Settings.mk (funext kept)

theorem addSetting_eq (environment : Environment) (settings : Settings) (key : SettingKey) :
    addSetting environment settings key = match environment.fault? key with
      | some fault => .error fault
      | none => .ok (environment.overlay [key] settings) := by
  unfold addSetting fault?
  cases given : environment.get? (variableOf key) with
  | none =>
      have unread : environment.read? key = none := by rw [read?, given]; rfl
      exact congrArg Except.ok (overlay_of_unread unread settings).symm
  | some text =>
      dsimp only [Option.bind_some]
      rw [settingOf_eq]
      cases parsed : parsed? key text with
      | none => rfl
      | some value =>
          have read : environment.read? key = some value := by rw [read?, given]; exact parsed
          exact congrArg Except.ok (overlay_of_read? read settings).symm

/-- The first variable at fault ends the reading of variables, and otherwise each key is set by its
own variable. -/
theorem foldlM_addSetting (keys : List SettingKey) (settings : Settings) :
    keys.foldlM (addSetting environment) settings
      = match keys.findSome? environment.fault? with
        | some fault => .error fault
        | none => .ok (environment.overlay keys settings) := by
  induction keys generalizing settings with
  | nil => simp [overlay]; rfl
  | cons first rest induction =>
      rw [List.foldlM_cons, addSetting_eq, List.findSome?_cons]
      cases environment.fault? first with
      | some fault => rfl
      | none => exact (induction _).trans (by rw [overlay_overlay])

theorem settings_eq (environment : Environment) :
    environment.settings = match SettingKey.all.findSome? environment.fault? with
      | some fault => .error fault
      | none => .ok ⟨environment.read?⟩ := by
  have every : environment.overlay SettingKey.all Settings.none = ⟨environment.read?⟩ := by
    simp only [overlay, SettingKey.mem_all, if_true, Settings.none, Option.or_none]
  rw [settings, foldlM_addSetting, every]

/-- The fault of a variable is told of as it is, since it quotes no value but the text. -/
theorem ofConfigurationFault_of_fault? {fault : ConfigurationFault}
    (found : environment.fault? key = some fault) :
    ofConfigurationFault fault = .error (.configuration fault.notice) := by
  rcases Option.bind_eq_some_iff.mp found with ⟨text, _, refused⟩
  split at refused
  next =>
    cases refused
    rfl
  next => cases refused

end Environment

namespace Configuration

/-- Setting what is left open to its default changes nothing. -/
theorem ofSettings_standard (settings : Settings) :
    ofSettings ⟨fun key => some ((settings.value? key).getD key.standard)⟩
      = ofSettings settings := by
  have schemes (value : Option Value) :
      schemesOf (some (value.getD SettingKey.schemes.standard)) = schemesOf value := by
    cases value with
    | none => rfl
    | some value => rfl
  have flags {key : SettingKey} (unset : key.standard = .boolean false) (value : Option Value) :
      flagOf key (some (value.getD key.standard)) = flagOf key value := by
    rw [unset]
    cases value with
    | none => rfl
    | some value => rfl
  have methods (value : Option Value) :
      methodsOf (some (value.getD SettingKey.unsafeMethods.standard)) = methodsOf value := by
    cases value with
    | none => rfl
    | some value => rfl
  simp only [ofSettings, schemes, flags (rfl : SettingKey.allowMultiple.standard = _),
    flags (rfl : SettingKey.allowMixed.standard = _), methods]

variable {files : FileSystem} {path : Option Text} {environment : Environment} {file : Settings}

theorem load_eq_resolve (read : fileSettings files path environment = .ok file) :
    load files path environment = environment.resolve file := by
  rw [load_eq, read, Environment.settings_eq, Environment.resolve]
  cases found : SettingKey.all.findSome? environment.fault? with
  | some fault =>
      rcases List.exists_of_findSome?_eq_some found with ⟨key, _, refused⟩
      exact congrArg Except.error (Environment.ofConfigurationFault_of_fault? refused)
  | none => exact (ofSettings_standard _).symm

end Configuration

namespace Environment

variable {environment others : Environment} {key : SettingKey} {file otherFile : Settings}

/-- A name that is told apart from others in a list: it is not empty, holds no comma, and has no
blanks around it. -/
structure Listable (name : Text) : Prop where
  nonempty : name ≠ []
  comma : CodePoint.ofChar ',' ∉ name
  head : ∀ first ∈ name.head?, first.isBlank = false
  last : ∀ last ∈ name.getLast?, last.isBlank = false

/-- The items of a list hold names in order, with any blanks around them and blank items between
them. -/
inductive Lists : List Text → List Text → Prop
  | nil : Lists [] []
  | blank {names items : List Text} {item : Text} (blank : ∀ point ∈ item, point.isBlank = true)
      (rest : Lists names items) : Lists names (item :: items)
  | name {names items : List Text} {left right name : Text}
      (opening : ∀ point ∈ left, point.isBlank = true)
      (closing : ∀ point ∈ right, point.isBlank = true) (listable : Listable name)
      (rest : Lists names items) : Lists (name :: names) ((left ++ (name ++ right)) :: items)

theorem comma_not_mem_of_blank {text : Text} (blank : ∀ point ∈ text, point.isBlank = true) :
    CodePoint.ofChar ',' ∉ text :=
  fun member => absurd (blank _ member) (by decide)

theorem Lists.comma_not_mem {names items : List Text} (lists : Lists names items) :
    ∀ item ∈ items, CodePoint.ofChar ',' ∉ item := by
  induction lists with
  | nil => exact List.forall_mem_nil _
  | blank blank _ induction =>
      exact List.forall_mem_cons.mpr ⟨comma_not_mem_of_blank blank, induction⟩
  | name opening closing listable _ induction =>
      refine List.forall_mem_cons.mpr ⟨?_, induction⟩
      simp only [List.mem_append, not_or]
      exact ⟨comma_not_mem_of_blank opening, listable.comma, comma_not_mem_of_blank closing⟩

theorem Lists.stripped {names items : List Text} (lists : Lists names items) :
    (items.map Text.strip).filter (fun name => !name.isEmpty) = names := by
  induction lists with
  | nil => rfl
  | @blank _ _ item blank _ induction =>
      have stripped : item.strip = [] := Text.trim_of_dropped blank
      rw [List.map_cons, stripped]
      exact induction
  | @name _ _ left right name opening closing listable _ induction =>
      have stripped : (left ++ (name ++ right)).strip = name :=
        Text.trim_append opening closing listable.nonempty listable.head listable.last
      have kept : (!name.isEmpty) = true := by simp [listable.nonempty]
      rw [List.map_cons, stripped, List.filter_cons, if_pos kept, induction]

/-- The names of a list are read from its items, whatever blanks there are. -/
theorem names_join {names items : List Text} (lists : Lists names items) :
    Environment.names (Text.join [','] items) = names := by
  by_cases none : items = []
  · subst none
    exact lists.stripped
  · rw [Environment.names, Text.splitAt_join none lists.comma_not_mem, lists.stripped]

/-- A list of names that was in a variable is in an array of the file, and nothing else changed. -/
structure MovesToFile (key : SettingKey) (names : List Text) (environment others : Environment)
    (file otherFile : Settings) : Prop where
  unset : others.get? (variableOf key) = none
  array : otherFile.value? key = some (.list (names.map Value.text))
  sameVariables : ∀ each, each ≠ key →
    others.get? (variableOf each) = environment.get? (variableOf each)
  sameSettings : ∀ each, each ≠ key → otherFile.value? each = file.value? each

theorem fault?_of_array (array : key ∈ SettingsFile.arrayKeys) : environment.fault? key = none := by
  unfold fault?
  cases environment.get? (variableOf key) with
  | none => rfl
  | some text => simp [parsed?, array]

theorem MovesToFile.resolve_eq {names items : List Text} (array : key ∈ SettingsFile.arrayKeys)
    (moves : MovesToFile key names environment others file otherFile) (lists : Lists names items)
    (given : environment.get? (variableOf key) = some (Text.join [','] items)) :
    environment.resolve file = others.resolve otherFile := by
  have faults : environment.fault? = others.fault? := by
    funext each
    by_cases same : each = key
    · rw [same, fault?_of_array array, fault?_of_array array]
    · rw [fault?, fault?, moves.sameVariables each same]
  have values : environment.chosen file = others.chosen otherFile := by
    funext each
    by_cases same : each = key
    · have read : environment.read? key = some (.list (names.map Value.text)) := by
        rw [read?, given, Option.bind_some, parsed?, if_pos array, names_join lists]
      have unread : others.read? key = none := by
        rw [read?, moves.unset, Option.bind_none]
      rw [same, chosen, chosen, read, unread, moves.array]
      rfl
    · rw [chosen, chosen, read?, read?, moves.sameVariables each same, moves.sameSettings each same]
  rw [resolve, resolve, faults, values]

end Environment

namespace Configuration

/-- The file that settings are read from: that of a path, else that which the environment names. -/
def NamesFile (path : Option Text) (environment : Environment) (named : Text) : Prop :=
  path = some named
    ∨ path = none ∧ environment.get? (Text.ofString "CTXCODEC_CONFIG") = some named ∧ named ≠ []

theorem namesFile_iff (path : Option Text) (environment : Environment) (named : Text) :
    NamesFile path environment named ↔ path.or environment.configuredFile? = some named := by
  have name : Environment.opening ++ Text.ofString "CONFIG" = Text.ofString "CTXCODEC_CONFIG" := by
    decide
  simp [NamesFile, Option.or_eq_some_iff, Environment.configuredFile?, name]

/-- A file that is named is read first, and its faults come before all others. If it is accepted,
every key is resolved for itself, and a list in a variable is worth as much as one in a file. -/
theorem load_resolves (files : FileSystem) (path : Option Text) (environment : Environment) :
    (∀ named, NamesFile path environment named →
        fileSettings files path environment = SettingsFile.load files named)
      ∧ ((∀ named, ¬NamesFile path environment named) →
        fileSettings files path environment = .ok Settings.none)
      ∧ (∀ named settings, SettingsFile.load files named = .ok settings
        ↔ ∃ document table, SettingsFile.Reads files named document
          ∧ SettingsFile.Accepts document table
          ∧ settings = ⟨fun key => table.get? key.name⟩)
      ∧ (∀ failure, fileSettings files path environment = .error failure →
        load files path environment = .error failure)
      ∧ ∀ file, fileSettings files path environment = .ok file →
        load files path environment = environment.resolve file
          ∧ ∀ key ∈ SettingsFile.arrayKeys, ∀ names items, Environment.Lists names items →
            environment.get? (Environment.variableOf key) = some (Text.join [','] items) →
            ∀ otherFiles otherPath others otherFile,
              fileSettings otherFiles otherPath others = .ok otherFile →
              Environment.MovesToFile key names environment others file otherFile →
              load files path environment = load otherFiles otherPath others := by
  refine ⟨?_, ?_, fun named settings => SettingsFile.load_eq_ok_iff, ?_, ?_⟩
  · intro named names
    rw [fileSettings, (namesFile_iff path environment named).mp names]
  · intro unnamed
    have none : path.or environment.configuredFile? = none :=
      Option.eq_none_iff_forall_ne_some.mpr fun named names =>
        unnamed named ((namesFile_iff path environment named).mpr names)
    rw [fileSettings, none]
  · intro failure refused
    rw [load_eq, refused]
    rfl
  · intro file read
    refine ⟨load_eq_resolve read, ?_⟩
    intro key array names items lists given otherFiles otherPath others otherFile otherRead moves
    rw [load_eq_resolve read, load_eq_resolve otherRead, moves.resolve_eq array lists given]

theorem texts?_eq_some {items : List Value} {names : List Text}
    (texts : texts? items = some names) : items = names.map Value.text := by
  fun_induction texts? items generalizing names with
  | case1 =>
      cases texts
      rfl
  | case2 text rest induction =>
      rcases Option.map_eq_some_iff.mp texts with ⟨others, behind, joined⟩
      rw [← joined, induction behind, List.map_cons]
  | case3 => cases texts

/-- Two names in a variable, with blanks around them and a blank item between them. -/
theorem load_resolves_blankItem :
    let files : FileSystem := FileTree.ofPaths [("c.toml", .file (Utf8.encode
      (Text.ofString "[encoder]\ndefault_codecs = ['PercentCodec', 'CSSCodec']\n")))]
    load files none [("CTXCODEC_DEFAULT_CODECS", " PercentCodec ,, CSSCodec")]
      = load files (some "c.toml") [] := by
  intro files
  let environment : Environment := [("CTXCODEC_DEFAULT_CODECS", " PercentCodec ,, CSSCodec")]
  let names : List Text := ["PercentCodec", "CSSCodec"]
  -- Values are not compared, so what the file holds is told by the texts in it.
  let setting (key : SettingKey) : Option Value :=
    (fileSettings files (some "c.toml") []).toOption.bind fun file => file.value? key
  have accepted : (fileSettings files (some "c.toml") []).isOk = true := by decide +kernel
  rcases isOk_iff.mp accepted with ⟨file, read⟩
  have settings : ∀ key, setting key = file.value? key := fun key => by
    simp only [setting, read, Except.toOption, Option.bind_some]
  have array : file.value? .schemes = some (.list (names.map Value.text)) := by
    have texts : ((setting .schemes).bind Value.items?).bind texts? = some names := by
      decide +kernel
    rw [settings] at texts
    rcases Option.bind_eq_some_iff.mp texts with ⟨items, listed, named⟩
    rcases Option.bind_eq_some_iff.mp listed with ⟨value, given, within⟩
    rcases hasArrays_of_fileSettings read .schemes (by decide) value given with ⟨held, rfl⟩
    cases within
    rw [given, texts?_eq_some named]
  have unset : ∀ key ∈ SettingKey.all, key ≠ .schemes →
      (setting key).isNone = true ∧ environment.get? (Environment.variableOf key) = none := by
    decide +kernel
  have listable : ∀ name ∈ names, Environment.Listable name := by
    refine List.forall_mem_cons.mpr ⟨?_, List.forall_mem_singleton.mpr ?_⟩
    · exact ⟨by decide, by decide, by decide, by decide⟩
    · exact ⟨by decide, by decide, by decide, by decide⟩
  have space : ∀ point ∈ Text.ofString " ", point.isBlank = true := by decide
  have nothing : ∀ point ∈ Text.ofString "", point.isBlank = true := by decide
  have lists : Environment.Lists names [" PercentCodec ", "", " CSSCodec"] :=
    .name space space (listable _ List.mem_cons_self)
      (.blank nothing (.name space nothing (listable _ (List.mem_cons_of_mem _ List.mem_cons_self))
        .nil))
  have moves : Environment.MovesToFile .schemes names environment [] Settings.none file := {
    unset := rfl
    array := array
    sameVariables := fun each other => (unset each each.mem_all other).2.symm
    sameSettings := fun each other => by
      rw [← settings, Option.isNone_iff_eq_none.mp (unset each each.mem_all other).1]
      rfl }
  rcases load_resolves files none environment with ⟨_, unnamed, _, _, resolves⟩
  have noFile := unnamed fun named names => by
    have absent : environment.configuredFile? = none := by decide +kernel
    rw [namesFile_iff, absent] at names
    cases names
  exact (resolves Settings.none noFile).2 .schemes (by decide) names _ lists (by decide +kernel)
    files (some "c.toml") [] file read moves

end Configuration

end Escaping
