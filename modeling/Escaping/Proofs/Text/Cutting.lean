import Escaping.Text.Basic

/-!
Cutting a text at delimiters. Each way to cut has one result, and it is the only one that puts the
text together again from parts that hold no delimiter where none may stand.
-/

namespace Escaping

namespace Text

/-- No delimiter stands in a text. -/
def Avoids (delimiters : List CodePoint) (text : Text) : Prop := ∀ point ∈ text, point ∉ delimiters

instance (delimiters : List CodePoint) (text : Text) : Decidable (Avoids delimiters text) :=
  inferInstanceAs (Decidable (∀ point ∈ text, point ∉ delimiters))

/-- A text is empty or starts with a delimiter. -/
def StartsIn (delimiters : List CodePoint) (text : Text) : Prop :=
  ∀ head tail, text = head :: tail → head ∈ delimiters

variable {separator : CodePoint} {delimiters : List CodePoint} {text before after : Text}

@[simp] theorem avoids_nil (text : Text) : Avoids [] text := fun _ _ => List.not_mem_nil

@[simp] theorem avoids_cons_iff :
    Avoids (separator :: delimiters) text ↔ separator ∉ text ∧ Avoids delimiters text := by
  constructor
  · intro avoids
    exact ⟨fun member => avoids separator member List.mem_cons_self,
      fun point member here => avoids point member (List.mem_cons_of_mem _ here)⟩
  · rintro ⟨outside, avoids⟩ point member here
    rcases List.mem_cons.mp here with rfl | later
    · exact outside member
    · exact avoids point member later

theorem avoids_append_iff :
    Avoids delimiters (before ++ after) ↔ Avoids delimiters before ∧ Avoids delimiters after :=
  List.forall_mem_append

theorem not_mem_cons_iff {head : CodePoint} {tail : Text} :
    separator ∉ head :: tail ↔ head ≠ separator ∧ separator ∉ tail := by
  rw [List.mem_cons, not_or, eq_comm]

/-- What precedes the first delimiter, and what starts with it. -/
theorem takeWhile_dropWhile_eq_iff :
    (text.takeWhile (· ∉ delimiters) = before ∧ text.dropWhile (· ∉ delimiters) = after)
      ↔ text = before ++ after ∧ Avoids delimiters before ∧ StartsIn delimiters after := by
  constructor
  · rintro ⟨rfl, rfl⟩
    refine ⟨List.takeWhile_append_dropWhile.symm, ?_, ?_⟩
    · intro point member
      exact of_decide_eq_true (List.all_eq_true.mp List.all_takeWhile point member)
    · intro head tail equal
      have stopped := List.head?_dropWhile_not (fun point => decide (point ∉ delimiters)) text
      rw [equal] at stopped
      simpa using stopped
  · rintro ⟨rfl, avoids, starts⟩
    have kept : ∀ point ∈ before, decide (point ∉ delimiters) = true := fun point member =>
      decide_eq_true (avoids point member)
    rw [List.takeWhile_append_of_pos kept, List.dropWhile_append_of_pos kept]
    cases after with
    | nil => exact ⟨List.append_nil before, rfl⟩
    | cons head tail =>
        have stops := starts head tail rfl
        simp [stops]

theorem cutFirst_eq_none_iff : cutFirst separator text = none ↔ separator ∉ text := by
  induction text with
  | nil => simp [cutFirst]
  | cons head tail induction =>
      rw [cutFirst, not_mem_cons_iff, ← induction]
      split
      next equal => simp [equal]
      next different => simp [different]

theorem cutFirst_eq_some_iff :
    cutFirst separator text = some (before, after)
      ↔ text = before ++ separator :: after ∧ separator ∉ before := by
  constructor
  · intro cut
    induction text generalizing before with
    | nil => cases cut
    | cons head tail induction =>
        rw [cutFirst] at cut
        split at cut
        next equal =>
          cases cut
          exact ⟨equal ▸ rfl, List.not_mem_nil⟩
        next different =>
          rcases Option.map_eq_some_iff.mp cut with ⟨⟨opening, rest⟩, inTail, equal⟩
          cases equal
          rcases induction inTail with ⟨rfl, outside⟩
          exact ⟨rfl, not_mem_cons_iff.mpr ⟨different, outside⟩⟩
  · rintro ⟨rfl, outside⟩
    induction before with
    | nil => simp [cutFirst]
    | cons head tail induction =>
        rcases not_mem_cons_iff.mp outside with ⟨different, later⟩
        rw [List.cons_append, cutFirst, if_neg different, induction later]
        rfl

theorem cutLast_eq_none_iff : cutLast separator text = none ↔ separator ∉ text := by
  induction text with
  | nil => simp [cutLast]
  | cons head tail induction =>
      rw [cutLast, not_mem_cons_iff, ← induction]
      split
      next found => simp [found]
      next absent => simp [absent]

theorem cutLast_eq_some_iff :
    cutLast separator text = some (before, after)
      ↔ text = before ++ separator :: after ∧ separator ∉ after := by
  constructor
  · intro cut
    induction text generalizing before with
    | nil => cases cut
    | cons head tail induction =>
        rw [cutLast] at cut
        split at cut
        next opening rest found =>
          cases cut
          rcases induction found with ⟨rfl, outside⟩
          exact ⟨rfl, outside⟩
        next absent =>
          split at cut
          next equal =>
            cases cut
            exact ⟨equal ▸ rfl, cutLast_eq_none_iff.mp absent⟩
          next => cases cut
  · rintro ⟨rfl, outside⟩
    induction before with
    | nil => simp [cutLast, cutLast_eq_none_iff.mpr outside]
    | cons head tail induction => rw [List.cons_append, cutLast, induction]

/-- What stands behind the last separator ends what stands behind any other. -/
theorem suffix_of_last_separator {opening last : Text}
    (equal : before ++ separator :: after = opening ++ separator :: last)
    (outside : separator ∉ last) : last <:+ after := by
  rcases List.append_eq_append_iff.mp equal with ⟨between, _, behind⟩ | ⟨between, _, behind⟩
  · cases between with
    | nil =>
        cases behind
        exact List.suffix_refl _
    | cons head tail =>
        cases behind
        exact (List.suffix_cons separator last).trans (List.suffix_append tail _)
  · cases between with
    | nil =>
        cases behind
        exact List.suffix_refl _
    | cons head tail =>
        cases behind
        exact absurd (List.mem_append_right tail List.mem_cons_self) outside

theorem stripOpening_eq_some_iff {opening rest : Text} :
    stripOpening opening text = some rest ↔ text = opening ++ rest := by
  constructor
  · exact fun stripped => (append_of_stripOpening stripped).symm
  · rintro rfl
    induction opening with
    | nil => rfl
    | cons head tail induction => rw [List.cons_append, stripOpening, if_pos rfl, induction]

theorem stripOpening_eq_none_iff {opening : Text} :
    stripOpening opening text = none ↔ ¬opening <+: text := by
  rw [Option.eq_none_iff_forall_not_mem]
  constructor
  · rintro absent ⟨rest, equal⟩
    exact absent rest (stripOpening_eq_some_iff.mpr equal.symm)
  · intro outside rest stripped
    exact outside ⟨rest, (stripOpening_eq_some_iff.mp stripped).symm⟩

theorem splitAt_of_not_mem (outside : separator ∉ text) : splitAt separator text = [text] := by
  induction text with
  | nil => rfl
  | cons head tail induction =>
      rcases not_mem_cons_iff.mp outside with ⟨different, later⟩
      rw [splitAt, if_neg different, induction later]

theorem splitAt_append (outside : separator ∉ before) (after : Text) :
    splitAt separator (before ++ separator :: after) = before :: splitAt separator after := by
  induction before with
  | nil => simp [splitAt]
  | cons head tail induction =>
      rcases not_mem_cons_iff.mp outside with ⟨different, later⟩
      rw [List.cons_append, splitAt, if_neg different, induction later]

/-- What holds no separator goes to the first part of what follows it. -/
theorem splitAt_append_of_not_mem {part : Text} {others : List Text} (outside : separator ∉ before)
    (split : splitAt separator after = part :: others) :
    splitAt separator (before ++ after) = (before ++ part) :: others := by
  induction before with
  | nil => exact split
  | cons head tail induction =>
      rcases not_mem_cons_iff.mp outside with ⟨different, later⟩
      rw [List.cons_append, splitAt, if_neg different, induction later]
      rfl

theorem not_mem_of_mem_splitAt {part : Text} (member : part ∈ splitAt separator text) :
    separator ∉ part := by
  induction text generalizing part with
  | nil =>
      cases List.mem_singleton.mp member
      exact List.not_mem_nil
  | cons head tail induction =>
      rw [splitAt] at member
      split at member
      next equal =>
        rcases List.mem_cons.mp member with rfl | later
        · exact List.not_mem_nil
        · exact induction later
      next different =>
        split at member
        next empty => exact absurd empty (splitAt_ne_nil separator tail)
        next first others parts =>
          rcases List.mem_cons.mp member with rfl | later
          · have outside := induction (parts ▸ List.mem_cons_self)
            exact not_mem_cons_iff.mpr ⟨different, outside⟩
          · exact induction (parts ▸ List.mem_cons_of_mem _ later)

theorem splitAt_join : ∀ {parts : List Text}, parts ≠ [] → (∀ part ∈ parts, separator ∉ part) →
    splitAt separator (join [separator] parts) = parts
  | [], nonempty, _ => absurd rfl nonempty
  | [part], _, outside => splitAt_of_not_mem (outside part List.mem_cons_self)
  | part :: next :: rest, _, outside => by
      have behind := splitAt_join (List.cons_ne_nil next rest) fun each member =>
        outside each (List.mem_cons_of_mem part member)
      rw [join, List.append_assoc, List.singleton_append,
        splitAt_append (outside part List.mem_cons_self), behind]

/-- There is one part more than there are separators. -/
theorem length_splitAt (separator : CodePoint) (text : Text) :
    (splitAt separator text).length = text.count separator + 1 := by
  induction text with
  | nil => rfl
  | cons head tail induction =>
      rw [splitAt, List.count_cons]
      split
      next equal => simp [equal, induction]
      next different =>
        cases parts : splitAt separator tail with
        | nil => exact absurd parts (splitAt_ne_nil separator tail)
        | cons part others => simpa [parts, different] using induction

/-- Writing each code point on its own, the separator as it stands and no other with a separator,
writes the parts one by one. -/
theorem splitAt_flatMap {write : CodePoint → Text} (kept : write separator = [separator])
    (outside : ∀ point, point ≠ separator → separator ∉ write point) (text : Text) :
    splitAt separator (text.flatMap write)
      = (splitAt separator text).map fun part => part.flatMap write := by
  induction text with
  | nil => rfl
  | cons head tail induction =>
      rw [List.flatMap_cons, splitAt]
      split
      next equal =>
        rw [equal, kept, List.singleton_append, splitAt, if_pos rfl, induction]
        rfl
      next different =>
        cases parts : splitAt separator tail with
        | nil => exact absurd parts (splitAt_ne_nil separator tail)
        | cons part others =>
            rw [parts] at induction
            rw [splitAt_append_of_not_mem (outside head different) induction]
            rfl

/-- A code point other than the separator stands in joined parts where it stands in one of them. -/
theorem not_mem_join_iff {point : CodePoint} (different : point ≠ separator) :
    ∀ {parts : List Text}, point ∉ join [separator] parts ↔ ∀ part ∈ parts, point ∉ part
  | [] => by simp [join]
  | [part] => by simp [join]
  | part :: next :: rest => by
      have later := @not_mem_join_iff point different (next :: rest)
      rw [List.forall_mem_cons, ← later]
      simp [join, different]

theorem splitAt_eq_iff {parts : List Text} :
    splitAt separator text = parts
      ↔ text = join [separator] parts ∧ parts ≠ [] ∧ ∀ part ∈ parts, separator ∉ part := by
  constructor
  · rintro rfl
    exact ⟨(join_splitAt separator text).symm, splitAt_ne_nil separator text,
      fun part member => not_mem_of_mem_splitAt member⟩
  · rintro ⟨rfl, nonempty, outside⟩
    exact splitAt_join nonempty outside

end Text

end Escaping
