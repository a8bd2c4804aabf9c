import Escaping.Audit.Sink
import Escaping.Uri

/-!
Operations on the components of a reference. Where an operation returns on all of them it has
changed each one, and where it leaves each one alone it leaves the reference alone. Components that
become shorter make the reference shorter.
-/

namespace Escaping

theorem Audited.outcome_bind_eq_ok_iff {Failure First Second : Type} {first : Audited Failure First}
    {next : First → Audited Failure Second} {result : Second} :
    (first >>= next).outcome = .ok result
      ↔ ∃ value, first.outcome = .ok value ∧ (next value).outcome = .ok result := by
  rcases first with ⟨outcome, events⟩
  cases outcome with
  | error failure =>
      constructor
      · intro returned
        cases returned
      · intro both
        rcases both with ⟨_, returned, _⟩
        cases returned
  | ok value =>
      constructor
      · intro returned
        exact ⟨value, rfl, returned⟩
      · intro both
        rcases both with ⟨_, ⟨⟩, returned⟩
        exact returned

/-- One text is shorter than another, or as long where something holds. -/
def ShorterUnless (unchanged : Prop) (before after : Text) : Prop :=
  after.length < before.length ∨ (after.length = before.length ∧ unchanged)

namespace ShorterUnless

variable {unchanged other : Prop} {before after first second : Text}

theorem refl (text : Text) : ShorterUnless True text text := .inr ⟨rfl, trivial⟩

theorem mono (shorter : ShorterUnless unchanged before after) (implies : unchanged → other) :
    ShorterUnless other before after :=
  shorter.imp_right fun same => ⟨same.1, implies same.2⟩

theorem append (left : ShorterUnless unchanged before after)
    (right : ShorterUnless other first second) :
    ShorterUnless (unchanged ∧ other) (before ++ first) (after ++ second) := by
  unfold ShorterUnless
  rw [List.length_append, List.length_append]
  rcases left with shorter | ⟨same, holds⟩
  · rcases right with also | ⟨length, _⟩
    · exact .inl (by omega)
    · exact .inl (by omega)
  · rcases right with shorter | ⟨length, also⟩
    · exact .inl (by omega)
    · exact .inr ⟨by omega, holds, also⟩

theorem of_eq (shorter : ShorterUnless unchanged before after) (same : after = before) :
    unchanged := by
  rcases shorter with shorter | ⟨_, holds⟩
  · rw [same] at shorter
    exact absurd shorter (Nat.lt_irrefl _)
  · exact holds

end ShorterUnless

def QueryParameter.map (change : Text → Text) (parameter : QueryParameter) : QueryParameter :=
  ⟨change parameter.name, parameter.value.map change⟩

def QueryParameter.Each (holds : Text → Prop) (parameter : QueryParameter) : Prop :=
  holds parameter.name ∧ ∀ value ∈ parameter.value, holds value

namespace Uri

/-- The components, each of them changed. -/
def map (change : Text → Text) (uri : Uri) : Uri :=
  ⟨uri.scheme.map change, uri.userInfo.map change, uri.host.map change, uri.port.map change,
    change uri.path, uri.query.map (List.map (QueryParameter.map change)), uri.fragment.map change⟩

/-- Something holds of every component that is present. -/
structure Each (holds : Text → Prop) (uri : Uri) : Prop where
  scheme : ∀ scheme ∈ uri.scheme, holds scheme
  userInfo : ∀ userInfo ∈ uri.userInfo, holds userInfo
  host : ∀ host ∈ uri.host, holds host
  port : ∀ port ∈ uri.port, holds port
  path : holds uri.path
  query : ∀ parameters ∈ uri.query, ∀ parameter ∈ parameters, parameter.Each holds
  fragment : ∀ fragment ∈ uri.fragment, holds fragment

theorem Each.mono {holds others : Text → Prop} {uri : Uri} (each : uri.Each holds)
    (implies : ∀ text, holds text → others text) : uri.Each others where
  scheme content present := implies content (each.scheme content present)
  userInfo content present := implies content (each.userInfo content present)
  host content present := implies content (each.host content present)
  port content present := implies content (each.port content present)
  path := implies _ each.path
  query parameters present parameter member := by
    rcases each.query parameters present parameter member with ⟨name, value⟩
    exact ⟨implies _ name, fun content inside => implies content (value content inside)⟩
  fragment content present := implies content (each.fragment content present)

section Operations

variable {Failure : Type} {operation : Text → Audited Failure Text} {change : Text → Text}
  {holds : Text → Prop}

section Returned

variable (sound : ∀ {text result : Text}, (operation text).outcome = .ok result →
  result = change text ∧ holds result)
include sound

theorem onPart_returned {part result : Option Text}
    (returned : (onPart operation part).outcome = .ok result) :
    result = part.map change ∧ ∀ content ∈ result, holds content := by
  cases part with
  | none =>
      cases returned
      exact ⟨rfl, fun _ present => nomatch present⟩
  | some part =>
      rcases Audited.outcome_bind_eq_ok_iff.mp returned with ⟨value, performed, ⟨⟩⟩
      rcases sound performed with ⟨rfl, held⟩
      refine ⟨rfl, ?_⟩
      intro content present
      cases present
      exact held

theorem onParameters_returned {parameters result : List QueryParameter}
    (returned : (onParameters operation parameters).outcome = .ok result) :
    result = parameters.map (QueryParameter.map change)
      ∧ ∀ parameter ∈ result, parameter.Each holds := by
  induction parameters generalizing result with
  | nil =>
      cases returned
      exact ⟨rfl, fun _ member => nomatch member⟩
  | cons parameter rest induction =>
      rcases Audited.outcome_bind_eq_ok_iff.mp returned with ⟨name, named, afterName⟩
      rcases Audited.outcome_bind_eq_ok_iff.mp afterName with ⟨value, valued, afterValue⟩
      rcases Audited.outcome_bind_eq_ok_iff.mp afterValue with ⟨others, following, ⟨⟩⟩
      rcases sound named with ⟨rfl, nameHeld⟩
      rcases onPart_returned sound valued with ⟨rfl, valueHeld⟩
      rcases induction following with ⟨rfl, othersHeld⟩
      refine ⟨rfl, ?_⟩
      intro each member
      rcases List.mem_cons.mp member with rfl | later
      · exact ⟨nameHeld, valueHeld⟩
      · exact othersHeld each later

theorem onQuery_returned {query result : Option (List QueryParameter)}
    (returned : (onQuery operation query).outcome = .ok result) :
    result = query.map (List.map (QueryParameter.map change))
      ∧ ∀ parameters ∈ result, ∀ parameter ∈ parameters, parameter.Each holds := by
  cases query with
  | none =>
      cases returned
      exact ⟨rfl, fun _ present => nomatch present⟩
  | some parameters =>
      rcases Audited.outcome_bind_eq_ok_iff.mp returned with ⟨results, performed, ⟨⟩⟩
      rcases onParameters_returned sound performed with ⟨rfl, held⟩
      refine ⟨rfl, ?_⟩
      intro others present
      cases present
      exact held

/-- Where an operation returns on all components, it has changed each of them. -/
theorem onComponents_returned {uri result : Uri}
    (returned : (onComponents operation uri).outcome = .ok result) :
    result = uri.map change ∧ result.Each holds := by
  rcases Audited.outcome_bind_eq_ok_iff.mp returned with ⟨query, queried, afterQuery⟩
  rcases Audited.outcome_bind_eq_ok_iff.mp afterQuery with ⟨scheme, named, afterScheme⟩
  rcases Audited.outcome_bind_eq_ok_iff.mp afterScheme with ⟨userInfo, informed, afterUserInfo⟩
  rcases Audited.outcome_bind_eq_ok_iff.mp afterUserInfo with ⟨host, hosted, afterHost⟩
  rcases Audited.outcome_bind_eq_ok_iff.mp afterHost with ⟨port, ported, afterPort⟩
  rcases Audited.outcome_bind_eq_ok_iff.mp afterPort with ⟨path, routed, afterPath⟩
  rcases Audited.outcome_bind_eq_ok_iff.mp afterPath with ⟨fragment, fragmented, ⟨⟩⟩
  rcases onQuery_returned sound queried with ⟨rfl, queryHeld⟩
  rcases onPart_returned sound named with ⟨rfl, schemeHeld⟩
  rcases onPart_returned sound informed with ⟨rfl, userInfoHeld⟩
  rcases onPart_returned sound hosted with ⟨rfl, hostHeld⟩
  rcases onPart_returned sound ported with ⟨rfl, portHeld⟩
  rcases sound routed with ⟨rfl, pathHeld⟩
  rcases onPart_returned sound fragmented with ⟨rfl, fragmentHeld⟩
  exact ⟨rfl, schemeHeld, userInfoHeld, hostHeld, portHeld, pathHeld, queryHeld, fragmentHeld⟩

end Returned

/-- An operation leaves a text alone without a word to any sink. -/
def Fixes (operation : Text → Audited Failure Text) (text : Text) : Prop :=
  operation text = ⟨.ok text, []⟩

theorem onPart_of_fixed {part : Option Text}
    (fixed : ∀ content ∈ part, Fixes operation content) :
    onPart operation part = ⟨.ok part, []⟩ := by
  cases part with
  | none => rfl
  | some part =>
      rw [onPart, fixed part rfl]
      rfl

theorem onParameters_of_fixed {parameters : List QueryParameter}
    (fixed : ∀ parameter ∈ parameters, parameter.Each (Fixes operation)) :
    onParameters operation parameters = ⟨.ok parameters, []⟩ := by
  induction parameters with
  | nil => rfl
  | cons parameter rest induction =>
      rcases fixed parameter List.mem_cons_self with ⟨name, value⟩
      have following := induction fun each member => fixed each (List.mem_cons_of_mem _ member)
      rw [onParameters, name, onPart_of_fixed value, following]
      rfl

theorem onQuery_of_fixed {query : Option (List QueryParameter)}
    (fixed : ∀ parameters ∈ query, ∀ parameter ∈ parameters, parameter.Each (Fixes operation)) :
    onQuery operation query = ⟨.ok query, []⟩ := by
  cases query with
  | none => rfl
  | some parameters =>
      rw [onQuery, onParameters_of_fixed (fixed parameters rfl)]
      rfl

theorem onComponents_of_fixed {uri : Uri} (fixed : uri.Each (Fixes operation)) :
    onComponents operation uri = ⟨.ok uri, []⟩ := by
  rw [onComponents, onQuery_of_fixed fixed.query, onPart_of_fixed fixed.scheme,
    onPart_of_fixed fixed.userInfo, onPart_of_fixed fixed.host, onPart_of_fixed fixed.port,
    fixed.path, onPart_of_fixed fixed.fragment]
  rfl

end Operations

section Lengths

variable {change : Text → Text} {holds : Text → Prop}
  (shortens : ∀ text, ShorterUnless (holds text) text (change text))
include shortens

theorem shorterUnless_around (before after : Text) (part : Option Text) :
    ShorterUnless (∀ content ∈ part, holds content)
      (around before part after) (around before (part.map change) after) := by
  cases part with
  | none => exact (ShorterUnless.refl []).mono fun _ _ present => nomatch present
  | some content =>
      have whole := ((ShorterUnless.refl before).append (shortens content)).append (.refl after)
      apply whole.mono
      intro both other present
      cases present
      exact both.1.2

theorem shorterUnless_joinParameter (parameter : QueryParameter) :
    ShorterUnless (parameter.Each holds)
      (joinParameter parameter) (joinParameter (parameter.map change)) :=
  (shortens parameter.name).append (shorterUnless_around shortens ['='] [] parameter.value)

theorem shorterUnless_joinQuery (parameters : List QueryParameter) :
    ShorterUnless (∀ parameter ∈ parameters, parameter.Each holds)
      (joinQuery parameters) (joinQuery (parameters.map (QueryParameter.map change))) := by
  induction parameters with
  | nil => exact (ShorterUnless.refl []).mono fun _ _ member => nomatch member
  | cons parameter rest induction =>
      have first := shorterUnless_joinParameter shortens parameter
      cases rest with
      | nil =>
          apply first.mono
          intro held each member
          rw [List.mem_singleton.mp member]
          exact held
      | cons next others =>
          have whole := (first.append (.refl ['&'])).append induction
          apply whole.mono
          intro all each member
          rcases List.mem_cons.mp member with rfl | later
          · exact all.1.1
          · exact all.2 each later

theorem shorterUnless_joinAuthority {uri : Uri}
    (hostless : uri.host = none → uri.userInfo = none ∧ uri.port = none) :
    ShorterUnless ((∀ content ∈ uri.userInfo, holds content) ∧ (∀ content ∈ uri.host, holds content)
        ∧ ∀ content ∈ uri.port, holds content)
      uri.joinAuthority (uri.map change).joinAuthority := by
  rcases uri with ⟨scheme, userInfo, host, port, path, query, fragment⟩
  cases host with
  | none =>
      rcases hostless rfl with ⟨rfl, rfl⟩
      have absent : ∀ content ∈ (none : Option Text), holds content := by
        intro content present
        cases present
      exact (ShorterUnless.refl []).mono fun _ => ⟨absent, absent, absent⟩
  | some host =>
      have before := (ShorterUnless.refl slashes).append
        (shorterUnless_around shortens [] ['@'] userInfo)
      have whole := (before.append (shortens host)).append
        (shorterUnless_around shortens [':'] [] port)
      apply whole.mono
      intro all
      refine ⟨all.1.1.2, ?_, all.2⟩
      intro content present
      cases present
      exact all.1.2

/-- Changing components makes the text shorter unless none of them becomes shorter. -/
theorem shorterUnless_toText {uri : Uri}
    (hostless : uri.host = none → uri.userInfo = none ∧ uri.port = none) :
    ShorterUnless (uri.Each holds) uri.toText (uri.map change).toText := by
  have query : ShorterUnless
      (∀ parameters ∈ uri.query, ∀ parameter ∈ parameters, parameter.Each holds)
      (around ['?'] (uri.query.map joinQuery) [])
      (around ['?'] ((uri.map change).query.map joinQuery) []) := by
    unfold map
    cases uri.query with
    | none => exact (ShorterUnless.refl []).mono fun _ _ present => nomatch present
    | some parameters =>
        have whole := ((ShorterUnless.refl ['?']).append
          (shorterUnless_joinQuery shortens parameters)).append (.refl [])
        apply whole.mono
        intro both other present
        cases present
        exact both.1.2
  have scheme := shorterUnless_around shortens [] [':'] uri.scheme
  have fragment := shorterUnless_around shortens ['#'] [] uri.fragment
  have authority := shorterUnless_joinAuthority shortens hostless
  have hierarchy := (scheme.append authority).append (shortens uri.path)
  have whole := (hierarchy.append query).append fragment
  apply whole.mono
  intro all
  rcases all with ⟨⟨⟨⟨inScheme, inUserInfo, inHost, inPort⟩, inPath⟩, inQuery⟩, inFragment⟩
  exact ⟨inScheme, inUserInfo, inHost, inPort, inPath, inQuery, inFragment⟩

end Lengths

end Uri

end Escaping
