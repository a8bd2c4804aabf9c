import Escaping.Proofs.Settings.Explained
import Escaping.Settings.Source

/-!
Which checks of settings are explained. The codecs are looked up one after the other, the flags have
to be booleans, and the names of methods are sorted if some are unknown. Each check explains its
fault unless it comes to a value that cannot be looked up, sorted or shown.
-/

namespace Escaping

open Failure

namespace Configuration

/-- Nothing but lists, tables and integers of many digits keep an item from being told of. -/
theorem explained_scheme_iff (items : List Value) (item : Value) :
    Explained (scheme items item) ↔ item.isAtomic = true ∧ item.hasShortIntegers = true := by
  unfold scheme
  split
  next name =>
    refine iff_of_true ?_ ⟨rfl, rfl⟩
    split
    next => exact explained_of_unquoted rfl
    next =>
      split
      next =>
        exact (explained_quoting_iff rfl).mpr ((Value.showable_iff_of_isAtomic rfl).mpr rfl)
      next =>
        split
        next => exact explained_of_unquoted rfl
        next found _ _ => exact explained_ok found
  next =>
    split
    next atomic =>
      rw [explained_quoting_iff rfl, Value.showable_iff_of_isAtomic atomic]
      exact (and_iff_right atomic).symm
    next compound =>
      exact iff_of_false (not_explained_misuse _) fun both => compound both.1

theorem explained_schemesOf_iff {value : Option Value}
    (array : ∀ given ∈ value, ∃ items, given = .list items) :
    Explained (schemesOf value)
      ↔ ∀ items, value = some (.list items) →
        ∀ item ∈ items.find? fun item => !(scheme items item).isOk,
          item.isAtomic = true ∧ item.hasShortIntegers = true := by
  cases value with
  | none => exact iff_of_true (explained_ok _) fun _ given => nomatch given
  | some given =>
      rcases array given rfl with ⟨items, rfl⟩
      have first : Explained (schemesOf (some (.list items)))
          ↔ ∀ item ∈ items.find? fun item => !(scheme items item).isOk,
            Explained (scheme items item) := by
        cases items with
        | nil => exact iff_of_true (explained_of_unquoted rfl) fun _ member => nomatch member
        | cons head tail => exact explained_mapM_iff
      simp only [first, explained_scheme_iff, Option.some.injEq, Value.list.injEq, forall_eq']

theorem explained_flagOf_iff (key : SettingKey) (value : Option Value) :
    Explained (flagOf key value) ↔ ∀ given ∈ value, given.Showable := by
  unfold flagOf
  split
  next => exact iff_of_true (explained_ok false) fun _ member => nomatch member
  next flag =>
    apply iff_of_true (explained_ok flag)
    intro given member
    cases member
    exact (Value.showable_iff_of_isAtomic rfl).mpr rfl
  next value _ =>
    rw [explained_quoting_iff rfl]
    simp

theorem texts?_eq_none_iff (items : List Value) :
    texts? items = none ↔ ¬∀ item ∈ items, ∃ name, item = .text name := by
  fun_induction texts? items with
  | case1 => simp
  | case2 text rest induction => simp [induction]
  | case3 head tail other =>
      refine ⟨fun _ all => ?_, fun _ => rfl⟩
      rcases all head List.mem_cons_self with ⟨name, same⟩
      exact other name same

/-- Names of methods have to be texts, known or not. -/
theorem explained_methodsOfItems_iff (items : List Value) :
    Explained (methodsOfItems items) ↔ ∀ item ∈ items, ∃ name, item = .text name := by
  unfold methodsOfItems
  split
  next compound =>
    apply iff_of_false (not_explained_misuse _)
    intro texts
    rcases List.any_eq_true.mp compound with ⟨item, member, refused⟩
    rcases texts item member with ⟨name, rfl⟩
    cases refused
  next =>
    have named : (∀ item ∈ items.filter fun item => !isMethod item, ∃ name, item = .text name)
        ↔ ∀ item ∈ items, ∃ name, item = .text name := by
      constructor
      · intro unknown item member
        cases known : isMethod item with
        | false => exact unknown item (List.mem_filter.mpr ⟨member, by rw [known]; rfl⟩)
        | true =>
            cases item with
            | text name => exact ⟨name, rfl⟩
            | _ => cases known
      · intro texts item member
        exact texts item (List.mem_filter.mp member).1
    rw [← named]
    dsimp only
    generalize items.filter (fun item => !isMethod item) = unknown
    split
    next empty =>
      rw [List.isEmpty_iff.mp empty]
      exact iff_of_true (explained_ok _) fun _ member => nomatch member
    next =>
      split
      next unsorted =>
        exact iff_of_false (not_explained_misuse _) ((texts?_eq_none_iff unknown).mp unsorted)
      next names sorted =>
        apply iff_of_true (explained_of_unquoted rfl)
        apply Classical.not_not.mp
        intro mixed
        rw [(texts?_eq_none_iff unknown).mpr mixed] at sorted
        cases sorted

theorem explained_methodsOf_iff {value : Option Value}
    (array : ∀ given ∈ value, ∃ items, given = .list items) :
    Explained (methodsOf value)
      ↔ ∀ items, value = some (.list items) → ∀ item ∈ items, ∃ name, item = .text name := by
  cases value with
  | none => exact iff_of_true (explained_ok []) fun _ given => nomatch given
  | some given =>
      rcases array given rfl with ⟨items, rfl⟩
      have opened : methodsOf (some (.list items)) = methodsOfItems items := rfl
      simp only [opened, explained_methodsOfItems_iff, Option.some.injEq, Value.list.injEq,
        forall_eq']

end Configuration

namespace Settings

/-- The settings that have to be arrays are. -/
def HasArrays (settings : Settings) : Prop :=
  ∀ key ∈ SettingsFile.arrayKeys, ∀ value ∈ settings.value? key, ∃ items, value = .list items

/-- The checks are made one after the other, and the first that fails is told of. An item or a flag
has to be such that a message can quote it, and names of methods have to be texts. -/
structure Explicable (settings : Settings) : Prop where
  schemes : ∀ items, settings.value? .schemes = some (.list items) →
    ∀ item ∈ items.find? fun item => !(Configuration.scheme items item).isOk,
      item.isAtomic = true ∧ item.hasShortIntegers = true
  allowMultiple : (Configuration.schemesOf (settings.value? .schemes)).isOk = true →
    ∀ given ∈ settings.value? .allowMultiple, given.Showable
  allowMixed : (Configuration.schemesOf (settings.value? .schemes)).isOk = true →
    (Configuration.flagOf .allowMultiple (settings.value? .allowMultiple)).isOk = true →
    ∀ given ∈ settings.value? .allowMixed, given.Showable
  unsafeMethods : (Configuration.schemesOf (settings.value? .schemes)).isOk = true →
    (Configuration.flagOf .allowMultiple (settings.value? .allowMultiple)).isOk = true →
    (Configuration.flagOf .allowMixed (settings.value? .allowMixed)).isOk = true →
    ∀ items, settings.value? .unsafeMethods = some (.list items) →
      ∀ item ∈ items, ∃ name, item = .text name

end Settings

theorem Configuration.explained_ofSettings_iff {settings : Settings} (arrays : settings.HasArrays) :
    Explained (ofSettings settings) ↔ settings.Explicable := by
  have opened : ofSettings settings
      = (schemesOf (settings.value? .schemes)).bind fun schemes =>
        (flagOf .allowMultiple (settings.value? .allowMultiple)).bind fun allowMultiple =>
        (flagOf .allowMixed (settings.value? .allowMixed)).bind fun allowMixed =>
        (methodsOf (settings.value? .unsafeMethods)).bind fun unsafeMethods =>
          .ok ⟨schemes, allowMultiple, allowMixed, unsafeMethods⟩ := rfl
  have codecs := explained_schemesOf_iff (arrays .schemes (by decide))
  have multiple := explained_flagOf_iff .allowMultiple (settings.value? .allowMultiple)
  have mixed := explained_flagOf_iff .allowMixed (settings.value? .allowMixed)
  have methods := explained_methodsOf_iff (arrays .unsafeMethods (by decide))
  rw [opened]
  simp only [explained_bind_iff, codecs, multiple, mixed, methods]
  constructor
  · intro explained
    rcases explained with ⟨first, afterSchemes⟩
    exact {
      schemes := first
      allowMultiple := fun resolved => by
        rcases isOk_iff.mp resolved with ⟨schemes, resolved⟩
        exact (afterSchemes schemes resolved).1
      allowMixed := fun resolved flagged => by
        rcases isOk_iff.mp resolved with ⟨schemes, resolved⟩
        rcases isOk_iff.mp flagged with ⟨flag, flagged⟩
        exact ((afterSchemes schemes resolved).2 flag flagged).1
      unsafeMethods := fun resolved flagged again => by
        rcases isOk_iff.mp resolved with ⟨schemes, resolved⟩
        rcases isOk_iff.mp flagged with ⟨flag, flagged⟩
        rcases isOk_iff.mp again with ⟨other, again⟩
        exact (((afterSchemes schemes resolved).2 flag flagged).2 other again).1 }
  · intro explicable
    refine ⟨explicable.schemes, fun schemes resolved => ?_⟩
    have accepted := isOk_iff.mpr ⟨schemes, resolved⟩
    refine ⟨explicable.allowMultiple accepted, fun flag flagged => ?_⟩
    have restricted := isOk_iff.mpr ⟨flag, flagged⟩
    refine ⟨explicable.allowMixed accepted restricted, fun other again => ?_⟩
    refine ⟨explicable.unsafeMethods accepted restricted (isOk_iff.mpr ⟨other, again⟩), ?_⟩
    intro named _
    exact explained_ok _

end Escaping
