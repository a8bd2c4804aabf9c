import Escaping.Proofs.Uri.Splitting

/-!
The five parts of the generic syntax: scheme, authority, path, query and fragment. Every text is
written with them in exactly one way, because each part stops before the first delimiter that may
follow it.
-/

namespace Escaping

namespace Uri

open Text

theorem startsIn_around (delimiter : CodePoint) (part : Option Text) :
    StartsIn [delimiter] (around [delimiter] part []) := by
  cases part with
  | none => rintro _ _ ⟨⟩
  | some part =>
      rintro _ _ ⟨⟩
      exact List.mem_cons_self

section Endings

variable {text path after : Text}

/-- What follows a path does not make it look like an authority. -/
theorem slashes_prefix_append_iff (starts : StartsIn ['?', '#'] after) :
    slashes <+: path ++ after ↔ slashes <+: path := by
  have noSlash : ∀ {rest}, after ≠ (.ofChar '/') :: rest := fun equal =>
    absurd (starts _ _ equal) (by decide)
  constructor
  · rintro ⟨rest, whole⟩
    match path with
    | [] => exact absurd whole.symm noSlash
    | [first] => exact absurd (List.cons.inj whole).2.symm noSlash
    | first :: second :: others =>
        rcases List.cons.inj whole with ⟨rfl, later⟩
        rcases List.cons.inj later with ⟨rfl, _⟩
        exact ⟨others, rfl⟩
  · exact fun opens => opens.trans (List.prefix_append path after)

/-- What follows a path does not make it look like a scheme. -/
theorem opensScheme_append_iff (starts : StartsIn ['?', '#'] after) :
    OpensScheme (path ++ after) ↔ OpensScheme path := by
  have noColon : ∀ {rest}, after ≠ (.ofChar ':') :: rest := fun equal =>
    absurd (starts _ _ equal) (by decide)
  constructor
  · rintro ⟨name, rest, nonempty, avoids, whole⟩
    rcases List.append_eq_append_iff.mp whole with ⟨between, rfl, behind⟩ | ⟨between, rfl, behind⟩
    · cases between with
      | nil => exact absurd behind noColon
      | cons head tail =>
          have delimiter := starts head _ behind
          have outside := avoids head (List.mem_append_right path List.mem_cons_self)
          exact absurd (List.mem_cons_of_mem _ (List.mem_cons_of_mem _ delimiter)) outside
    · cases between with
      | nil => exact absurd behind.symm noColon
      | cons head tail =>
          cases (List.cons.inj behind).1
          exact ⟨name, tail, nonempty, avoids, rfl⟩
  · rintro ⟨name, rest, nonempty, avoids, rfl⟩
    exact ⟨name, rest ++ after, nonempty, avoids, by rw [List.append_assoc, List.cons_append]⟩

/-- In a path only colons and slashes keep what stands before a colon from being a scheme. -/
theorem not_opensScheme_iff (avoids : Avoids ['?', '#'] path) :
    ¬OpensScheme path
      ↔ ∀ before after, path = before ++ (.ofChar ':') :: after → before ≠ [] →
        ¬Avoids [':', '/'] before := by
  constructor
  · rintro closed before after rfl nonempty plain
    have others : Avoids ['?', '#'] before := (avoids_append_iff.mp avoids).1
    simp only [avoids_cons_iff, avoids_nil, and_true] at plain others
    exact closed ⟨before, after, nonempty, by simp [plain, others], rfl⟩
  · rintro closed ⟨before, after, nonempty, plain, whole⟩
    simp only [avoids_cons_iff, avoids_nil, and_true] at plain
    exact closed before after whole nonempty (by simp [plain])

theorem not_opensScheme_slashes (rest : Text) : ¬OpensScheme (slashes ++ rest) := by
  rintro ⟨name, behind, nonempty, avoids, whole⟩
  cases name with
  | nil => exact nonempty rfl
  | cons head tail =>
      rcases List.cons.inj whole with ⟨rfl, _⟩
      exact absurd (avoids (.ofChar '/') List.mem_cons_self) (by decide)

/-- An authority ends where a path starts with a slash or is empty. -/
theorem startsIn_append_iff (avoids : Avoids ['?', '#'] path) (starts : StartsIn ['?', '#'] after) :
    StartsIn ['/', '?', '#'] (path ++ after) ↔ StartsIn ['/'] path := by
  cases path with
  | nil =>
      refine ⟨fun _ => by rintro _ _ ⟨⟩, fun _ head tail equal => ?_⟩
      exact List.mem_cons_of_mem _ (starts head tail equal)
  | cons head tail =>
      have outside := avoids head List.mem_cons_self
      constructor
      · rintro opens _ _ ⟨⟩
        rcases List.mem_cons.mp (opens head _ rfl) with slash | other
        · exact List.mem_singleton.mpr slash
        · exact absurd other outside
      · rintro opens _ _ ⟨⟩
        exact List.mem_cons.mpr (.inl (List.mem_singleton.mp (opens head tail rfl)))

theorem splitFragment_eq_iff {fragment : Option Text} (starts : StartsIn ['#'] text) :
    (splitAfter '#' [] text).1 = fragment ↔ text = around ['#'] fragment [] := by
  cases text with
  | nil => cases fragment <;> simp [splitAfter, around]
  | cons head tail =>
      cases List.mem_singleton.mp (starts head tail rfl)
      have cut : splitAfter '#' [] ((.ofChar '#') :: tail) = (some tail, []) := by
        rw [splitAfter_eq_splitBehind, splitBehind_eq_iff]
        simp [around, StartsIn]
      rw [cut]
      cases fragment <;> simp [around]

end Endings

/-- A reference cut at the delimiters that every reference has. -/
structure Parts where
  scheme : Option Text
  authority : Option Text
  path : Text
  query : Option Text
  fragment : Option Text

namespace Parts

def ofText (text : Text) : Parts :=
  let (scheme, afterScheme) := splitScheme text
  let (authority, afterAuthority) := splitAuthority afterScheme
  let (path, afterPath) := upTo ['?', '#'] afterAuthority
  let (query, afterQuery) := splitAfter '?' ['#'] afterPath
  ⟨scheme, authority, path, query, (splitAfter '#' [] afterQuery).1⟩

/-- What follows the path. -/
def ending (parts : Parts) : Text := around ['?'] parts.query [] ++ around ['#'] parts.fragment []

/-- What follows the scheme. -/
def hierarchy (parts : Parts) : Text :=
  around slashes parts.authority [] ++ (parts.path ++ parts.ending)

def toText (parts : Parts) : Text := around [] parts.scheme [':'] ++ parts.hierarchy

/-- No part holds a delimiter that would end it, and none is taken for another one. -/
structure WellFormed (parts : Parts) : Prop where
  scheme : ∀ name ∈ parts.scheme, name ≠ [] ∧ Avoids [':', '/', '?', '#'] name
  authority : ∀ authority ∈ parts.authority, Avoids ['/', '?', '#'] authority
  path : Avoids ['?', '#'] parts.path
  rooted : parts.authority ≠ none → StartsIn ['/'] parts.path
  unrooted : parts.authority = none → ¬slashes <+: parts.path
  relative : parts.scheme = none → parts.authority = none → ¬OpensScheme parts.path
  query : ∀ query ∈ parts.query, Avoids ['#'] query

variable {parts : Parts} {text : Text}

theorem startsIn_ending (parts : Parts) : StartsIn ['?', '#'] parts.ending := by
  rcases parts with ⟨_, _, _, query, fragment⟩
  cases query with
  | none =>
      intro head tail equal
      exact List.mem_cons_of_mem _ (startsIn_around '#' fragment head tail equal)
  | some query =>
      rintro _ _ ⟨⟩
      exact List.mem_cons_self

/-- Two slashes keep what follows from looking like a scheme. -/
theorem opensScheme_hierarchy_iff (parts : Parts) :
    OpensScheme parts.hierarchy ↔ parts.authority = none ∧ OpensScheme parts.path := by
  rw [hierarchy]
  cases parts.authority with
  | none => simp [around, opensScheme_append_iff parts.startsIn_ending]
  | some authority =>
      rw [around, List.append_nil, List.append_assoc]
      simp [not_opensScheme_slashes]

/-- The text behind the query is empty or starts the fragment. -/
theorem startsIn_of_splitAfter {query : Option Text} {afterQuery : Text}
    (starts : StartsIn ['?', '#'] text)
    (cut : splitAfter '?' ['#'] text = (query, afterQuery)) : StartsIn ['#'] afterQuery := by
  rw [splitAfter_eq_splitBehind] at cut
  rcases splitBehind_eq_iff.mp cut with ⟨rfl, _, closed, absent⟩
  cases query with
  | none =>
      rintro head tail rfl
      rcases List.mem_cons.mp (starts head tail rfl) with rfl | fragment
      · exact absurd ⟨tail, rfl⟩ (absent rfl)
      · exact fragment
  | some query => exact closed (Option.some_ne_none query)

/-- The parts of a text are well-formed and make up the text again. -/
theorem toText_ofText (text : Text) : text = (ofText text).toText ∧ (ofText text).WellFormed := by
  rcases schemeCut : splitScheme text with ⟨scheme, afterScheme⟩
  rcases authorityCut : splitAuthority afterScheme with ⟨authority, afterAuthority⟩
  rcases pathCut : upTo ['?', '#'] afterAuthority with ⟨path, afterPath⟩
  rcases queryCut : splitAfter '?' ['#'] afterPath with ⟨query, afterQuery⟩
  simp only [ofText, schemeCut, authorityCut, pathCut, queryCut]
  rcases upTo_eq_iff.mp pathCut with ⟨rfl, inPath, ended⟩
  rcases fragmentCut : (splitAfter '#' [] afterQuery).1 with fragment
  rw [splitFragment_eq_iff (startsIn_of_splitAfter ended queryCut)] at fragmentCut
  rcases splitScheme_eq_iff.mp schemeCut with ⟨rfl, named, schemeless⟩
  rw [splitAuthority_eq_splitBehind] at authorityCut
  rcases splitBehind_eq_iff.mp authorityCut with ⟨rfl, authorized, opened, plain⟩
  rw [splitAfter_eq_splitBehind] at queryCut
  rcases splitBehind_eq_iff.mp queryCut with ⟨rfl, queried, _⟩
  subst fragmentCut
  exact ⟨rfl, {
    scheme := named
    authority := authorized
    path := inPath
    rooted := fun present => (startsIn_append_iff inPath ended).mp (opened present)
    unrooted := fun absent opens =>
      plain absent ((slashes_prefix_append_iff ended).mpr opens)
    relative := fun noScheme noAuthority opens =>
      schemeless noScheme ((opensScheme_hierarchy_iff _).mpr ⟨noAuthority, opens⟩)
    query := queried }⟩

section Cuts

variable (wellFormed : parts.WellFormed)
include wellFormed

theorem splitScheme_toText : splitScheme parts.toText = (parts.scheme, parts.hierarchy) := by
  refine splitScheme_eq_iff.mpr ⟨rfl, wellFormed.scheme, fun noScheme opens => ?_⟩
  rcases (opensScheme_hierarchy_iff parts).mp opens with ⟨noAuthority, inPath⟩
  exact wellFormed.relative noScheme noAuthority inPath

theorem splitAuthority_hierarchy :
    splitAuthority parts.hierarchy = (parts.authority, parts.path ++ parts.ending) := by
  have starts := parts.startsIn_ending
  rw [splitAuthority_eq_splitBehind]
  refine splitBehind_eq_iff.mpr ⟨rfl, wellFormed.authority, fun present => ?_, fun absent => ?_⟩
  · exact (startsIn_append_iff wellFormed.path starts).mpr (wellFormed.rooted present)
  · exact fun opens => wellFormed.unrooted absent ((slashes_prefix_append_iff starts).mp opens)

theorem upTo_ending :
    upTo ['?', '#'] (parts.path ++ parts.ending) = (parts.path, parts.ending) :=
  upTo_eq_iff.mpr ⟨rfl, wellFormed.path, parts.startsIn_ending⟩

theorem splitAfter_ending :
    splitAfter '?' ['#'] parts.ending = (parts.query, around ['#'] parts.fragment []) := by
  have starts := startsIn_around '#' parts.fragment
  rw [splitAfter_eq_splitBehind]
  refine splitBehind_eq_iff.mpr ⟨rfl, wellFormed.query, fun _ => starts, ?_⟩
  rintro _ ⟨tail, equal⟩
  exact absurd (starts _ tail equal.symm) (by decide)

/-- Well-formed parts are what their text is split into. -/
theorem ofText_toText : ofText parts.toText = parts := by
  have fragment := (splitFragment_eq_iff (startsIn_around '#' parts.fragment)).mpr rfl
  simp only [ofText, splitScheme_toText wellFormed, splitAuthority_hierarchy wellFormed,
    upTo_ending wellFormed, splitAfter_ending wellFormed, fragment]

end Cuts

/-- A text has one way to be written with well-formed parts. -/
theorem ofText_eq_iff : ofText text = parts ↔ text = parts.toText ∧ parts.WellFormed := by
  constructor
  · rintro rfl
    exact toText_ofText text
  · rintro ⟨rfl, wellFormed⟩
    exact ofText_toText wellFormed

end Parts

end Uri

end Escaping
