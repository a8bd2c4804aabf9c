import Escaping.Proofs.Text.Cutting
import Escaping.Uri

/-!
The cuts that take a reference apart. Each one says which text it gives back and what its parts may
hold, and no other parts fit the same text.
-/

namespace Escaping

namespace Uri

open Text

variable {text rest : Text}

theorem upTo_eq_iff {delimiters : List CodePoint} {part : Text} :
    upTo delimiters text = (part, rest)
      ↔ text = part ++ rest ∧ Avoids delimiters part ∧ StartsIn delimiters rest := by
  rw [upTo, Prod.mk.injEq]
  exact takeWhile_dropWhile_eq_iff

/-- The text opens like a scheme: something without delimiters comes before a colon. -/
def OpensScheme (text : Text) : Prop :=
  ∃ name rest, name ≠ [] ∧ Avoids [':', '/', '?', '#'] name
    ∧ text = name ++ (':' : CodePoint) :: rest

theorem splitScheme_eq_some_iff {name : Text} :
    splitScheme text = (some name, rest)
      ↔ text = name ++ (':' : CodePoint) :: rest
        ∧ name ≠ [] ∧ Avoids [':', '/', '?', '#'] name := by
  constructor
  · intro cut
    unfold splitScheme at cut
    split at cut
    next head tail delimiter behind found =>
      split at cut
      next colon =>
        cases cut
        rcases upTo_eq_iff.mp found with ⟨whole, avoids, _⟩
        exact ⟨colon ▸ whole, List.cons_ne_nil head tail, avoids⟩
      next => cases cut
    next => cases cut
  · rintro ⟨whole, nonempty, avoids⟩
    have found : upTo [':', '/', '?', '#'] text = (name, (':' : CodePoint) :: rest) :=
      upTo_eq_iff.mpr ⟨whole, avoids, by rintro _ _ ⟨⟩; exact List.mem_cons_self⟩
    rcases List.exists_cons_of_ne_nil nonempty with ⟨head, tail, rfl⟩
    rw [splitScheme, found]
    rfl

theorem splitScheme_eq_none_iff :
    splitScheme text = (none, rest) ↔ text = rest ∧ ¬OpensScheme rest := by
  have unchanged : ∀ {after}, splitScheme text = (none, after) → text = after := by
    intro after cut
    unfold splitScheme at cut
    split at cut
    next =>
      split at cut
      next => cases cut
      next => cases cut; rfl
    next => cases cut; rfl
  constructor
  · intro cut
    cases unchanged cut
    refine ⟨rfl, ?_⟩
    rintro ⟨name, after, nonempty, avoids, whole⟩
    rw [splitScheme_eq_some_iff.mpr ⟨whole, nonempty, avoids⟩] at cut
    cases cut
  · rintro ⟨rfl, closed⟩
    rcases cut : splitScheme text with ⟨scheme, after⟩
    cases scheme with
    | none => rw [← unchanged cut]
    | some name =>
        rcases splitScheme_eq_some_iff.mp cut with ⟨whole, nonempty, avoids⟩
        exact absurd ⟨name, after, nonempty, avoids, whole⟩ closed

/-- A text is cut into a scheme and the rest where it opens like one. -/
theorem splitScheme_eq_iff {scheme : Option Text} :
    splitScheme text = (scheme, rest)
      ↔ text = around [] scheme [':'] ++ rest
        ∧ (∀ name ∈ scheme, name ≠ [] ∧ Avoids [':', '/', '?', '#'] name)
        ∧ (scheme = none → ¬OpensScheme rest) := by
  cases scheme with
  | none => simp [splitScheme_eq_none_iff, around]
  | some name => simp [splitScheme_eq_some_iff, around]

section Behind

variable {opening : Text} {delimiters : List CodePoint}

/-- What follows an opening up to a delimiter, if the text starts so. -/
def splitBehind (opening : Text) (delimiters : List CodePoint) (text : Text) : Option Text × Text :=
  match stripOpening opening text with
  | none => (none, text)
  | some rest => (some (upTo delimiters rest).1, (upTo delimiters rest).2)

theorem splitAuthority_eq_splitBehind (text : Text) :
    splitAuthority text = splitBehind slashes ['/', '?', '#'] text := rfl

theorem splitAfter_eq_splitBehind (delimiter : CodePoint) (delimiters : List CodePoint)
    (text : Text) :
    splitAfter delimiter delimiters text = splitBehind [delimiter] delimiters text := by
  cases text with
  | nil => rfl
  | cons head tail =>
      rw [splitAfter, splitBehind, stripOpening]
      split
      next => rfl
      next => rfl

/-- The part is absent where the text does not start with the opening. -/
theorem splitBehind_eq_iff {part : Option Text} :
    splitBehind opening delimiters text = (part, rest)
      ↔ text = around opening part [] ++ rest
        ∧ (∀ content ∈ part, Avoids delimiters content)
        ∧ (part ≠ none → StartsIn delimiters rest)
        ∧ (part = none → ¬opening <+: rest) := by
  unfold splitBehind
  split
  next absent =>
    have plain := stripOpening_eq_none_iff.mp absent
    cases part with
    | none =>
        constructor
        · rintro ⟨⟩
          exact ⟨rfl, by rintro _ ⟨⟩, fun present => absurd rfl present, fun _ => plain⟩
        · rintro ⟨rfl, _⟩
          rfl
    | some content =>
        constructor
        · rintro ⟨⟩
        · rintro ⟨rfl, _⟩
          rw [around, List.append_nil, List.append_assoc] at plain
          exact absurd (List.prefix_append opening _) plain
  next behind stripped =>
    rw [stripOpening_eq_some_iff.mp stripped]
    cases part with
    | none =>
        constructor
        · rintro ⟨⟩
        · rintro ⟨rfl, _, _, plain⟩
          exact absurd (List.prefix_append opening behind) (plain rfl)
    | some content =>
        have cut := @upTo_eq_iff behind rest delimiters content
        rw [Prod.ext_iff] at cut
        simp [around, cut]

end Behind

/-- The user information ends at the last at sign. -/
theorem splitUserInfo_eq_some_iff {userInfo : Text} :
    splitUserInfo text = (some userInfo, rest)
      ↔ text = userInfo ++ (.ofChar '@') :: rest ∧ .ofChar '@' ∉ rest := by
  rw [← cutLast_eq_some_iff, splitUserInfo]
  split
  next found => simp [found]
  next absent => simp [absent]

theorem splitUserInfo_eq_none_iff :
    splitUserInfo text = (none, rest) ↔ text = rest ∧ .ofChar '@' ∉ text := by
  rw [← cutLast_eq_none_iff, splitUserInfo]
  split
  next found => simp [found]
  next absent => simp [absent]

theorem splitUserInfo_eq_iff {userInfo : Option Text} :
    splitUserInfo text = (userInfo, rest)
      ↔ text = around [] userInfo ['@'] ++ rest ∧ .ofChar '@' ∉ rest := by
  cases userInfo with
  | none => exact splitUserInfo_eq_none_iff.trans (and_congr_right fun equal => equal ▸ Iff.rfl)
  | some userInfo => simp [splitUserInfo_eq_some_iff, around]

/-- Every colon of the text has a closing bracket behind it. -/
def ColonsEnclosed (text : Text) : Prop :=
  ∀ before after, text = before ++ (.ofChar ':') :: after → .ofChar ']' ∈ after

/-- The port follows the last colon. -/
theorem splitPort_eq_some_iff {host port : Text} :
    splitPort text = (host, some port)
      ↔ text = host ++ (.ofChar ':') :: port ∧ .ofChar ':' ∉ port ∧ .ofChar ']' ∉ port := by
  rw [← and_assoc, ← cutLast_eq_some_iff, splitPort]
  split
  next before after found =>
    split
    next enclosed =>
      rw [found]
      constructor
      · rintro ⟨⟩
      · rintro ⟨⟨⟩, outside⟩
        exact absurd enclosed outside
    next outside =>
      rw [found]
      constructor
      · rintro ⟨⟩
        exact ⟨rfl, outside⟩
      · rintro ⟨⟨⟩, _⟩
        rfl
  next absent => simp [absent]

theorem splitPort_eq_none_iff {host : Text} :
    splitPort text = (host, none) ↔ text = host ∧ ColonsEnclosed text := by
  rw [splitPort]
  split
  next before after found =>
    rcases cutLast_eq_some_iff.mp found with ⟨whole, outside⟩
    have closed : .ofChar ']' ∈ after ↔ ColonsEnclosed text := by
      constructor
      · intro enclosed opening behind equal
        exact (suffix_of_last_separator (equal.symm.trans whole) outside).mem enclosed
      · exact fun enclosed => enclosed before after whole
    rw [← closed]
    split
    next enclosed => simp [enclosed]
    next open' => simp [open']
  next absent =>
    have enclosed : ColonsEnclosed text := by
      rintro before after rfl
      exact absurd (List.mem_append_right before List.mem_cons_self) (cutLast_eq_none_iff.mp absent)
    simp [enclosed]

theorem splitPort_eq_iff {host : Text} {port : Option Text} :
    splitPort text = (host, port)
      ↔ text = host ++ around [':'] port []
        ∧ (∀ part ∈ port, .ofChar ':' ∉ part ∧ .ofChar ']' ∉ part)
        ∧ (port = none → ColonsEnclosed host) := by
  cases port with
  | none =>
      rw [splitPort_eq_none_iff, around, List.append_nil]
      exact and_congr_right fun equal => by simp [equal]
  | some port => simp [splitPort_eq_some_iff, around]

theorem joinParameter_absent (name : Text) : joinParameter ⟨name, none⟩ = name :=
  List.append_nil name

theorem joinParameter_value (name value : Text) :
    joinParameter ⟨name, some value⟩ = name ++ (.ofChar '=') :: value := by
  rw [joinParameter, around, List.append_nil, List.singleton_append]

/-- The value of a parameter follows its first equals sign. -/
theorem splitParameter_eq_iff {parameter : QueryParameter} :
    splitParameter text = parameter
      ↔ text = joinParameter parameter ∧ .ofChar '=' ∉ parameter.name := by
  constructor
  · rintro rfl
    unfold splitParameter
    split
    next name value found =>
      rw [joinParameter_value]
      exact cutFirst_eq_some_iff.mp found
    next absent =>
      rw [joinParameter_absent]
      exact ⟨rfl, cutFirst_eq_none_iff.mp absent⟩
  · rcases parameter with ⟨name, value⟩
    rintro ⟨rfl, outside⟩
    cases value with
    | none => rw [splitParameter, joinParameter_absent, cutFirst_eq_none_iff.mpr outside]
    | some value =>
        rw [splitParameter, joinParameter_value, cutFirst_eq_some_iff.mpr ⟨rfl, outside⟩]

/-- A query has at least one parameter, and no parameter holds an ampersand. -/
theorem splitQuery_eq_iff {parameters : List QueryParameter} :
    splitQuery text = parameters
      ↔ text = joinQuery parameters ∧ parameters ≠ []
        ∧ ∀ parameter ∈ parameters,
          .ofChar '&' ∉ joinParameter parameter ∧ .ofChar '=' ∉ parameter.name := by
  constructor
  · rintro rfl
    rcases splitAt_eq_iff.mp (rfl : splitAt '&' text = _) with ⟨whole, nonempty, outside⟩
    have rejoined : (splitQuery text).map joinParameter = splitAt '&' text := by
      rw [splitQuery, List.map_map]
      exact List.map_id'' (fun part => (splitParameter_eq_iff.mp rfl).1.symm) _
    refine ⟨?_, fun empty => nonempty (List.map_eq_nil_iff.mp empty), ?_⟩
    · rw [joinQuery, rejoined]
      exact whole
    · intro parameter member
      rcases List.mem_map.mp member with ⟨part, inParts, rfl⟩
      rcases splitParameter_eq_iff.mp (rfl : splitParameter part = _) with ⟨equal, noEquals⟩
      exact ⟨equal ▸ outside part inParts, noEquals⟩
  · rintro ⟨rfl, nonempty, fits⟩
    have parts : splitAt '&' (joinQuery parameters) = parameters.map joinParameter := by
      refine splitAt_eq_iff.mpr ⟨rfl, fun empty => nonempty (List.map_eq_nil_iff.mp empty), ?_⟩
      exact List.forall_mem_map.mpr fun parameter member => (fits parameter member).1
    rw [splitQuery, parts, List.map_map]
    conv => rhs; rw [← List.map_id parameters]
    exact List.map_congr_left fun parameter member =>
      splitParameter_eq_iff.mpr ⟨rfl, (fits parameter member).2⟩

end Uri

end Escaping
