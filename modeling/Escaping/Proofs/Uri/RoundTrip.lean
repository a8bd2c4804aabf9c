import Escaping.Proofs.Uri.Parts

/-!
References taken apart and put together. Splitting gives well-formed components, from which the same
text is put together again, and well-formed components are what their text is split into.
-/

namespace Escaping

namespace Uri

open Text

/-- Components that a text can be split into. -/
structure WellFormed (uri : Uri) : Prop where
  scheme : ∀ scheme ∈ uri.scheme, scheme ≠ [] ∧ Avoids [':', '/', '?', '#'] scheme
  hostless : uri.host = none → uri.userInfo = none ∧ uri.port = none
  userInfo : ∀ userInfo ∈ uri.userInfo, Avoids ['/', '?', '#'] userInfo
  host : ∀ host ∈ uri.host, Avoids ['/', '?', '#', '@'] host
  port : ∀ port ∈ uri.port, Avoids ['/', '?', '#', '@', ':', ']'] port
  portless : uri.port = none → ∀ host ∈ uri.host, ColonsEnclosed host
  path : Avoids ['?', '#'] uri.path
  rooted : uri.host ≠ none → StartsIn ['/'] uri.path
  unrooted : uri.host = none → ¬slashes <+: uri.path
  relative : uri.scheme = none → uri.host = none → ∀ before after,
    uri.path = before ++ (.ofChar ':') :: after → before ≠ [] → ¬Avoids [':', '/'] before
  query : ∀ parameters ∈ uri.query, parameters ≠ []
    ∧ ∀ parameter ∈ parameters, Avoids ['&', '=', '#'] parameter.name
      ∧ ∀ value ∈ parameter.value, Avoids ['&', '#'] value

/-- The authority that holds the host with what belongs to it. -/
def authority (uri : Uri) : Option Text :=
  uri.host.map fun host => around [] uri.userInfo ['@'] ++ (host ++ around [':'] uri.port [])

def parts (uri : Uri) : Parts :=
  ⟨uri.scheme, uri.authority, uri.path, uri.query.map joinQuery, uri.fragment⟩

theorem around_slashes_authority (uri : Uri) :
    around slashes uri.authority [] = uri.joinAuthority := by
  rw [authority, joinAuthority]
  cases uri.host with
  | none => rfl
  | some host => simp only [Option.map_some, around, List.append_nil, List.append_assoc]

theorem toText_parts (uri : Uri) : uri.parts.toText = uri.toText := by
  simp only [Parts.toText, Parts.hierarchy, Parts.ending, parts, around_slashes_authority, toText,
    List.append_assoc]

/-- Where what stands around a part is harmless, only the part counts. -/
theorem avoids_around_iff {delimiters : List CodePoint} {before after : Text} {part : Option Text}
    (avoids : Avoids delimiters (before ++ after)) :
    Avoids delimiters (around before part after)
      ↔ ∀ content ∈ part, Avoids delimiters content := by
  rcases avoids_append_iff.mp avoids with ⟨inBefore, inAfter⟩
  cases part with
  | none => exact ⟨fun _ => by rintro _ ⟨⟩, fun _ => by rintro _ ⟨⟩⟩
  | some content =>
      rw [around, avoids_append_iff, avoids_append_iff]
      simp [inBefore, inAfter]

/-- What the parts of an authority may hold, so that it is cut between them. -/
theorem authority_avoids_iff {userInfo port : Option Text} {host : Text} :
    (Avoids ['/', '?', '#'] (around [] userInfo ['@'] ++ (host ++ around [':'] port []))
      ∧ .ofChar '@' ∉ host ++ around [':'] port []
      ∧ ∀ part ∈ port, .ofChar ':' ∉ part ∧ .ofChar ']' ∉ part)
    ↔ (∀ part ∈ userInfo, Avoids ['/', '?', '#'] part) ∧ Avoids ['/', '?', '#', '@'] host
      ∧ ∀ part ∈ port, Avoids ['/', '?', '#', '@', ':', ']'] part := by
  have atSign : (.ofChar '@' ∉ host ++ around [':'] port [])
      ↔ Avoids ['@'] (host ++ around [':'] port []) := by
    simp only [avoids_cons_iff, avoids_nil, and_true]
  rw [atSign, avoids_append_iff, avoids_append_iff, avoids_append_iff,
    avoids_around_iff (by decide), avoids_around_iff (by decide), avoids_around_iff (by decide)]
  simp only [avoids_cons_iff, avoids_nil, and_true]
  constructor
  · rintro ⟨⟨inUserInfo, ⟨slash, mark, sign⟩, inPort⟩, ⟨inHost, behind⟩, cut⟩
    refine ⟨inUserInfo, ⟨slash, mark, sign, inHost⟩, fun part member => ?_⟩
    rcases inPort part member with ⟨portSlash, portMark, portSign⟩
    exact ⟨portSlash, portMark, portSign, behind part member, cut part member⟩
  · rintro ⟨inUserInfo, ⟨slash, mark, sign, inHost⟩, inPort⟩
    refine ⟨⟨inUserInfo, ⟨slash, mark, sign⟩, fun part member => ?_⟩,
      ⟨inHost, fun part member => ?_⟩, fun part member => ?_⟩
    · rcases inPort part member with ⟨portSlash, portMark, portSign, _⟩
      exact ⟨portSlash, portMark, portSign⟩
    · exact (inPort part member).2.2.2.1
    · exact (inPort part member).2.2.2.2

theorem not_mem_joinParameter_iff {point : CodePoint} (different : point ≠ .ofChar '=')
    {parameter : QueryParameter} :
    point ∉ joinParameter parameter
      ↔ point ∉ parameter.name ∧ ∀ value ∈ parameter.value, point ∉ value := by
  rcases parameter with ⟨name, value⟩
  cases value with
  | none => simp [joinParameter_absent]
  | some value => simp [joinParameter_value, different]

/-- What the names and values of a query may hold, so that it is cut between them. -/
theorem query_avoids_iff {parameters : List QueryParameter} :
    (Avoids ['#'] (joinQuery parameters)
      ∧ ∀ parameter ∈ parameters,
        .ofChar '&' ∉ joinParameter parameter ∧ .ofChar '=' ∉ parameter.name)
    ↔ ∀ parameter ∈ parameters, Avoids ['&', '=', '#'] parameter.name
      ∧ ∀ value ∈ parameter.value, Avoids ['&', '#'] value := by
  have ampersand := @not_mem_joinParameter_iff '&' (by decide)
  have numberSign := @not_mem_joinParameter_iff '#' (by decide)
  have parted : .ofChar '#' ∉ joinQuery parameters
      ↔ ∀ parameter ∈ parameters, .ofChar '#' ∉ joinParameter parameter := by
    rw [joinQuery, not_mem_join_iff (by decide), List.forall_mem_map]
  simp only [avoids_cons_iff, avoids_nil, and_true, parted, ampersand, numberSign]
  constructor
  · rintro ⟨avoids, fits⟩ parameter member
    rcases avoids parameter member with ⟨name, values⟩
    rcases fits parameter member with ⟨⟨alsoName, alsoValues⟩, equals⟩
    exact ⟨⟨alsoName, equals, name⟩, fun value inside =>
      ⟨alsoValues value inside, values value inside⟩⟩
  · intro fits
    refine ⟨fun parameter member => ?_, fun parameter member => ?_⟩
    · rcases fits parameter member with ⟨⟨_, _, name⟩, values⟩
      exact ⟨name, fun value inside => (values value inside).2⟩
    · rcases fits parameter member with ⟨⟨name, equals, _⟩, values⟩
      exact ⟨⟨name, fun value inside => (values value inside).1⟩, equals⟩

namespace Parts

/-- The components of the parts: the authority and the query are cut further. -/
def components (parts : Parts) : Uri :=
  match parts.authority with
  | none =>
      ⟨parts.scheme, none, none, none, parts.path, parts.query.map splitQuery, parts.fragment⟩
  | some authority =>
      let (userInfo, hostAndPort) := splitUserInfo authority
      let (host, port) := splitPort hostAndPort
      ⟨parts.scheme, userInfo, some host, port, parts.path, parts.query.map splitQuery,
        parts.fragment⟩

variable {parts : Parts}

theorem components_ofText (text : Text) : (Parts.ofText text).components = Uri.ofText text := rfl

theorem map_joinQuery_splitQuery (query : Option Text) :
    (query.map splitQuery).map joinQuery = query := by
  cases query with
  | none => rfl
  | some query =>
      have whole := (splitQuery_eq_iff.mp (rfl : splitQuery query = _)).1
      rw [Option.map_some, Option.map_some, ← whole]

theorem parts_components (parts : Parts) : parts.components.parts = parts := by
  rcases parts with ⟨scheme, authority, path, query, fragment⟩
  have queried := map_joinQuery_splitQuery query
  cases authority with
  | none => simp only [components, Uri.parts, Uri.authority, Option.map_none, queried]
  | some authority =>
      rcases userInfoCut : splitUserInfo authority with ⟨userInfo, hostAndPort⟩
      rcases portCut : splitPort hostAndPort with ⟨host, port⟩
      rcases splitUserInfo_eq_iff.mp userInfoCut with ⟨whole, _⟩
      rcases splitPort_eq_iff.mp portCut with ⟨rfl, _⟩
      simp only [components, userInfoCut, portCut, Uri.parts, Uri.authority, Option.map_some,
        queried, ← whole]

end Parts

/-- Components that the cuts of an authority and a query give. -/
structure Cut (uri : Uri) : Prop where
  hostless : uri.host = none → uri.userInfo = none ∧ uri.port = none
  userInfo : ∀ host ∈ uri.host, .ofChar '@' ∉ host ++ around [':'] uri.port []
  port : ∀ part ∈ uri.port, .ofChar ':' ∉ part ∧ .ofChar ']' ∉ part
  portless : uri.port = none → ∀ host ∈ uri.host, ColonsEnclosed host
  query : ∀ parameters ∈ uri.query, parameters ≠ [] ∧ ∀ parameter ∈ parameters,
    .ofChar '&' ∉ joinParameter parameter ∧ .ofChar '=' ∉ parameter.name

theorem cut_components (parts : Parts) : parts.components.Cut := by
  rcases parts with ⟨scheme, authority, path, query, fragment⟩
  have queried : ∀ parameters ∈ query.map splitQuery, parameters ≠ [] ∧ ∀ parameter ∈ parameters,
      .ofChar '&' ∉ joinParameter parameter ∧ .ofChar '=' ∉ parameter.name := by
    intro parameters member
    rcases Option.map_eq_some_iff.mp member with ⟨text, _, cut⟩
    exact (splitQuery_eq_iff.mp cut).2
  cases authority with
  | none =>
      exact ⟨fun _ => ⟨rfl, rfl⟩, by rintro _ ⟨⟩, by rintro _ ⟨⟩, fun _ => by rintro _ ⟨⟩, queried⟩
  | some authority =>
      rcases userInfoCut : splitUserInfo authority with ⟨userInfo, hostAndPort⟩
      rcases portCut : splitPort hostAndPort with ⟨host, port⟩
      rcases splitUserInfo_eq_iff.mp userInfoCut with ⟨_, behind⟩
      rcases splitPort_eq_iff.mp portCut with ⟨rfl, inPort, portless⟩
      simp only [Parts.components, userInfoCut, portCut]
      exact ⟨by rintro ⟨⟩, by rintro _ ⟨⟩; exact behind, inPort,
        fun absent => by rintro _ ⟨⟩; exact portless absent, queried⟩

/-- Components are cut from their own parts where the cuts fall between them. -/
theorem components_parts {uri : Uri} (cut : uri.Cut) : uri.parts.components = uri := by
  rcases uri with ⟨scheme, userInfo, host, port, path, query, fragment⟩
  have queried : (query.map joinQuery).map splitQuery = query := by
    cases query with
    | none => rfl
    | some parameters =>
        have fits := cut.query parameters rfl
        rw [Option.map_some, Option.map_some, splitQuery_eq_iff.mpr ⟨rfl, fits⟩]
  cases host with
  | none =>
      rcases cut.hostless rfl with ⟨noUserInfo, noPort⟩
      cases noUserInfo
      cases noPort
      simp only [parts, authority, Parts.components, Option.map_none, queried]
  | some host =>
      have userInfoCut := splitUserInfo_eq_iff.mpr
        ⟨(rfl : around [] userInfo ['@'] ++ (host ++ around [':'] port []) = _),
          cut.userInfo host rfl⟩
      have portCut := splitPort_eq_iff.mpr
        ⟨(rfl : host ++ around [':'] port [] = _), cut.port,
          fun absent => cut.portless absent host rfl⟩
      simp only [parts, authority, Parts.components, Option.map_some, queried, userInfoCut, portCut]

section Fields

variable {uri : Uri}

theorem authority_eq_none_iff : uri.authority = none ↔ uri.host = none := Option.map_eq_none_iff

theorem WellFormed.parts (wellFormed : uri.WellFormed) : uri.parts.WellFormed where
  scheme := wellFormed.scheme
  authority := by
    intro authority member
    rcases Option.map_eq_some_iff.mp member with ⟨host, present, rfl⟩
    exact (authority_avoids_iff.mpr
      ⟨wellFormed.userInfo, wellFormed.host host present, wellFormed.port⟩).1
  path := wellFormed.path
  rooted present := wellFormed.rooted fun absent => present (authority_eq_none_iff.mpr absent)
  unrooted absent := wellFormed.unrooted (authority_eq_none_iff.mp absent)
  relative noScheme absent :=
    (not_opensScheme_iff wellFormed.path).mpr
      (wellFormed.relative noScheme (authority_eq_none_iff.mp absent))
  query := by
    intro query member
    rcases Option.map_eq_some_iff.mp member with ⟨parameters, present, rfl⟩
    exact (query_avoids_iff.mpr (wellFormed.query parameters present).2).1

theorem WellFormed.cut (wellFormed : uri.WellFormed) : uri.Cut where
  hostless := wellFormed.hostless
  userInfo host present :=
    (authority_avoids_iff.mpr
      ⟨wellFormed.userInfo, wellFormed.host host present, wellFormed.port⟩).2.1
  port part member := by
    have avoids := wellFormed.port part member
    simp only [avoids_cons_iff] at avoids
    exact ⟨avoids.2.2.2.2.1, avoids.2.2.2.2.2.1⟩
  portless := wellFormed.portless
  query parameters present := by
    rcases wellFormed.query parameters present with ⟨nonempty, fits⟩
    exact ⟨nonempty, (query_avoids_iff.mpr fits).2⟩

theorem Cut.wellFormed (cut : uri.Cut) (parts : uri.parts.WellFormed) : uri.WellFormed := by
  have fits : ∀ host, uri.host = some host → _ := fun host present => authority_avoids_iff.mp
    ⟨parts.authority _ (congrArg (Option.map _) present), cut.userInfo host present, cut.port⟩
  exact {
    scheme := parts.scheme
    hostless := cut.hostless
    userInfo := by
      intro userInfo member
      cases present : uri.host with
      | none =>
          rw [(cut.hostless present).1] at member
          cases member
      | some host => exact (fits host present).1 userInfo member
    host := fun host present => (fits host present).2.1
    port := by
      intro port member
      cases present : uri.host with
      | none =>
          rw [(cut.hostless present).2] at member
          cases member
      | some host => exact (fits host present).2.2 port member
    portless := cut.portless
    path := parts.path
    rooted := fun present => parts.rooted fun absent => present (authority_eq_none_iff.mp absent)
    unrooted := fun absent => parts.unrooted (authority_eq_none_iff.mpr absent)
    relative := fun noScheme absent =>
      (not_opensScheme_iff parts.path).mp
        (parts.relative noScheme (authority_eq_none_iff.mpr absent))
    query := by
      intro parameters present
      rcases cut.query parameters present with ⟨nonempty, parted⟩
      have outside := parts.query _ (congrArg (Option.map joinQuery) present)
      exact ⟨nonempty, query_avoids_iff.mp ⟨outside, parted⟩⟩ }

/-- Components are well-formed where the parts are that they make up and the cuts fall between
them. -/
theorem wellFormed_iff : uri.WellFormed ↔ uri.parts.WellFormed ∧ uri.Cut :=
  ⟨fun wellFormed => ⟨wellFormed.parts, wellFormed.cut⟩, fun ⟨parts, cut⟩ => cut.wellFormed parts⟩

end Fields

/-- A text has one way to be put together from well-formed components. -/
theorem ofText_eq_iff {text : Text} {uri : Uri} :
    ofText text = uri ↔ text = uri.toText ∧ uri.WellFormed := by
  rw [← Parts.components_ofText, wellFormed_iff, ← toText_parts, ← and_assoc, ← Parts.ofText_eq_iff]
  constructor
  · rintro rfl
    exact ⟨(Parts.parts_components _).symm, cut_components _⟩
  · rintro ⟨whole, cut⟩
    rw [whole, components_parts cut]

theorem ofText_toText_eq_self_iff {uri : Uri} : ofText uri.toText = uri ↔ uri.WellFormed := by
  rw [ofText_eq_iff]
  exact and_iff_right rfl

/-- The well-formed components are those that some text is split into. -/
theorem exists_ofText_eq_iff {uri : Uri} : (∃ text, ofText text = uri) ↔ uri.WellFormed := by
  constructor
  · intro present
    rcases present with ⟨text, cut⟩
    exact (ofText_eq_iff.mp cut).2
  · intro wellFormed
    exact ⟨uri.toText, ofText_toText_eq_self_iff.mpr wellFormed⟩

/-- Splitting and joining undo each other between all texts and the well-formed components. -/
theorem ofText_toText_inverse :
    (∀ text : Text, (ofText text).WellFormed ∧ (ofText text).toText = text)
      ∧ ∀ uri : Uri, ofText uri.toText = uri ↔ uri.WellFormed := by
  constructor
  · intro text
    rcases ofText_eq_iff.mp (rfl : ofText text = _) with ⟨whole, wellFormed⟩
    exact ⟨wellFormed, whole.symm⟩
  · intro uri
    rw [ofText_eq_iff]
    exact and_iff_right rfl

/-- The last at sign ends the user information, and a colon in brackets starts no port. -/
example : ofText (Text.ofString "//a@b@[::1]?x=1=2&#?")
    = ⟨none, some (Text.ofString "a@b"), some (Text.ofString "[::1]"), none, [],
      some [⟨Text.ofString "x", some (Text.ofString "1=2")⟩, ⟨[], none⟩],
      some (Text.ofString "?")⟩ := by
  decide +kernel

end Uri

end Escaping
