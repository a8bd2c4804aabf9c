import Escaping.Encoder.Basic

/-!
Encoders for configurations. A configuration holds the schemes that its settings name, at least one
and none twice. A canonicalizer wants no more of a list of schemes than that each of them can decode,
so the one scheme that cannot is all that keeps an encoder from being made.
-/

namespace Escaping

open Failure

namespace Canonicalizer

variable {schemes : List Scheme} {fault : ConfigurationFault}

theorem ofSchemes_of_fault (found : firstFault? schemes = some fault) (sink : Sink) :
    ofSchemes schemes sink = .error fault := by
  unfold ofSchemes
  split
  next other given =>
    rw [found] at given
    cases given
    rfl
  next sound =>
    rw [found] at sound
    cases sound

theorem ofSchemes_of_sound (sound : firstFault? schemes = none) (sink : Sink) :
    ∃ canonicalizer, ofSchemes schemes sink = .ok canonicalizer
      ∧ canonicalizer.schemes = schemes ∧ canonicalizer.sink = sink := by
  unfold ofSchemes
  split
  next fault found =>
    rw [sound] at found
    cases found
  next => exact ⟨_, rfl, rfl, rfl⟩

/-- Among schemes that occur once, only the one that cannot decode is faulty. -/
theorem firstFault?_of_nodup (nonempty : schemes ≠ []) (distinct : schemes.Nodup) :
    firstFault? schemes
      = if .vbScript ∈ schemes then some (.cannotDecode .vbScript) else none := by
  have present : ¬schemes.isEmpty = true := by simpa using nonempty
  have once : ∀ scheme, ¬1 < schemes.count scheme := fun scheme =>
    Nat.not_lt_of_le (List.nodup_iff_count.mp distinct scheme)
  rw [firstFault?, if_neg present]
  -- Nothing occurs twice, which leaves only the search for a scheme that cannot decode.
  simp only [if_neg (once _)]
  split
  next member =>
    cases found : schemes.findSome? fun scheme =>
        if !scheme.canDecode then some (ConfigurationFault.cannotDecode scheme) else none with
    | none =>
        have refused := List.findSome?_eq_none_iff.mp found .vbScript member
        cases refused
    | some fault =>
        rcases List.exists_of_findSome?_eq_some found with ⟨scheme, _, refused⟩
        by_cases only : scheme = .vbScript
        · subst only
          exact refused.symm
        · rw [scheme.canDecode_iff.mpr only] at refused
          cases refused
  next absent =>
    apply List.findSome?_eq_none_iff.mpr
    intro scheme member
    have decodes := scheme.canDecode_iff.mpr fun same => absent (same ▸ member)
    rw [decodes]
    rfl

end Canonicalizer

namespace Configuration

variable {settings : Settings} {configuration : Configuration} {schemes : List Scheme}

/-- A setting names the schemes one after the other; without one they are the defaults. -/
def Names : Option Value → List Scheme → Prop
  | none, schemes => schemes = Scheme.defaults
  | some value, schemes => value.items? = some (schemes.map fun scheme => .text scheme.name)

theorem scheme_eq_ok {items : List Value} {item : Value} {found : Scheme}
    (resolved : scheme items item = .ok found) :
    item = .text found.name ∧ items.countP (isText found.name) ≤ 1 := by
  unfold scheme at resolved
  split at resolved
  next name =>
    split at resolved
    next => cases resolved
    next =>
      split at resolved
      next => cases resolved
      next known =>
        split at resolved
        next => cases resolved
        next once =>
          cases resolved
          have same : found.name = name := by simpa using List.find?_some known
          subst same
          exact ⟨rfl, Nat.le_of_not_lt once⟩
  next =>
    split at resolved
    next => cases resolved
    next => cases resolved

theorem mapM_scheme_eq_ok {all items : List Value} (resolved : items.mapM (scheme all) = .ok schemes) :
    items = schemes.map (fun each => .text each.name)
      ∧ ∀ each ∈ schemes, all.countP (isText each.name) ≤ 1 := by
  induction items generalizing schemes with
  | nil =>
      cases resolved
      exact ⟨rfl, fun _ member => nomatch member⟩
  | cons head tail induction =>
      rw [List.mapM_cons] at resolved
      rcases bind_eq_ok_iff.mp resolved with ⟨first, found, following⟩
      rcases bind_eq_ok_iff.mp following with ⟨others, rest, joined⟩
      cases joined
      rcases scheme_eq_ok found with ⟨named, once⟩
      rcases induction rest with ⟨namedRest, onceRest⟩
      constructor
      · rw [named, namedRest, List.map_cons]
      · intro each member
        rcases List.mem_cons.mp member with rfl | later
        · exact once
        · exact onceRest each later

/-- Names of schemes tell them apart, so a scheme occurs as often as its name. -/
theorem countP_isText_map_name (schemes : List Scheme) (each : Scheme) :
    (schemes.map fun other => Value.text other.name).countP (isText each.name)
      = schemes.count each := by
  rw [List.countP_map, List.count]
  apply List.countP_congr
  intro other _
  constructor
  · intro same
    have same : other.name = each.name := by simpa [isText] using same
    simp [Scheme.name_injective same]
  · intro same
    have same : other = each := by simpa using same
    simp [isText, same]

/-- The schemes for a setting are those that it names; there are some, and none occurs twice. -/
theorem schemesOf_eq_ok {value : Option Value} (resolved : schemesOf value = .ok schemes) :
    Names value schemes ∧ schemes ≠ [] ∧ schemes.Nodup := by
  unfold schemesOf at resolved
  split at resolved
  next =>
    cases resolved
    exact ⟨rfl, by decide, by decide⟩
  next => cases resolved
  next value _ =>
    split at resolved
    next => cases resolved
    next => cases resolved
    next items filled listed =>
      rcases mapM_scheme_eq_ok resolved with ⟨named, once⟩
      refine ⟨by rw [Names, listed, named], ?_, ?_⟩
      · rintro rfl
        exact filled named
      · rw [List.nodup_iff_count]
        intro each
        by_cases member : each ∈ schemes
        · rw [← countP_isText_map_name, ← named]
          exact once each member
        · rw [List.count_eq_zero.mpr member]
          omega

theorem schemesOf_of_ofSettings (accepted : ofSettings settings = .ok configuration) :
    schemesOf (settings.value? .schemes) = .ok configuration.schemes := by
  rcases bind_eq_ok_iff.mp accepted with ⟨schemes, resolved, afterSchemes⟩
  rcases bind_eq_ok_iff.mp afterSchemes with ⟨_, _, afterMultiple⟩
  rcases bind_eq_ok_iff.mp afterMultiple with ⟨_, _, afterMixed⟩
  rcases bind_eq_ok_iff.mp afterMixed with ⟨_, _, finished⟩
  cases finished
  exact resolved

end Configuration

namespace Encoder

variable {settings : Settings} {configuration : Configuration}

theorem make_configured (configuration : Configuration) (sink : Sink) :
    make configuration none sink
      = ((Canonicalizer.ofSchemes configuration.schemes sink).mapError ofConfigurationFault).bind
        fun canonicalizer => .ok ⟨configuration, canonicalizer⟩ := rfl

theorem make_of_fault {fault : ConfigurationFault}
    (found : Canonicalizer.firstFault? configuration.schemes = some fault) (sink : Sink) :
    make configuration none sink = .error (.ofConfigurationFault fault) := by
  rw [make_configured, Canonicalizer.ofSchemes_of_fault found]
  rfl

theorem make_of_sound (sound : Canonicalizer.firstFault? configuration.schemes = none)
    (sink : Sink) :
    ∃ encoder, make configuration none sink = .ok encoder ∧ encoder.configuration = configuration
      ∧ encoder.canonicalizer.schemes = configuration.schemes
      ∧ encoder.canonicalizer.sink = sink := by
  rcases Canonicalizer.ofSchemes_of_sound sound sink with ⟨canonicalizer, made, schemes, same⟩
  rw [make_configured, made]
  exact ⟨⟨configuration, canonicalizer⟩, rfl, rfl, schemes, same⟩

theorem configuration_of_make {sink : Sink} {encoder : Encoder}
    (made : make configuration none sink = .ok encoder) :
    encoder.configuration = configuration := by
  rw [make_configured] at made
  rcases bind_eq_ok_iff.mp made with ⟨_, _, finished⟩
  cases finished
  rfl

/-- An encoder reads the schemes that the settings of its configuration name, in their order. It can
be made for every configuration that does not name the scheme that cannot decode. -/
theorem make_ofSettings (accepted : Configuration.ofSettings settings = .ok configuration)
    (sink : Sink) :
    Configuration.Names (settings.value? .schemes) configuration.schemes
      ∧ (.vbScript ∉ configuration.schemes →
        ∃ encoder, make configuration none sink = .ok encoder
          ∧ encoder.configuration = configuration
          ∧ encoder.canonicalizer.schemes = configuration.schemes
          ∧ encoder.canonicalizer.sink = sink)
      ∧ (.vbScript ∈ configuration.schemes →
        make configuration none sink = .error (.ofConfigurationFault (.cannotDecode .vbScript))) := by
  rcases Configuration.schemesOf_eq_ok (Configuration.schemesOf_of_ofSettings accepted) with
    ⟨named, nonempty, distinct⟩
  have fault := Canonicalizer.firstFault?_of_nodup nonempty distinct
  refine ⟨named, ?_, ?_⟩
  · intro decodable
    rw [if_neg decodable] at fault
    exact make_of_sound fault sink
  · intro undecodable
    rw [if_pos undecodable] at fault
    exact make_of_fault fault sink

/-- The order of the names is kept, also where it is not that of the defaults. -/
theorem make_ofSettings_reordered :
    let settings := Settings.none.set .schemes
      (.list [.text (Text.ofString "CSSCodec"), .text (Text.ofString "HTMLEntityCodec")])
    let configuration : Configuration := ⟨[.css, .html], false, false, []⟩
    Configuration.ofSettings settings = .ok configuration
      ∧ .vbScript ∉ configuration.schemes
      ∧ ∃ encoder, make configuration none Sink.standard = .ok encoder
        ∧ encoder.configuration = configuration
        ∧ encoder.canonicalizer.schemes = [.css, .html]
        ∧ encoder.canonicalizer.sink = Sink.standard := by
  intro settings configuration
  have accepted : Configuration.ofSettings settings = .ok configuration := by rfl
  have decodable : .vbScript ∉ configuration.schemes := by decide
  exact ⟨accepted, decodable, (make_ofSettings accepted Sink.standard).2.1 decodable⟩

/-- The scheme that cannot decode may be configured, and no encoder can be made then. -/
theorem make_ofSettings_undecodable :
    let settings := Settings.none.set .schemes (.list [.text (Text.ofString "VBScriptCodec")])
    let configuration : Configuration := ⟨[.vbScript], false, false, []⟩
    Configuration.ofSettings settings = .ok configuration
      ∧ ∀ sink, ¬∃ encoder, make configuration none sink = .ok encoder := by
  intro settings configuration
  refine ⟨by rfl, fun sink made => ?_⟩
  rcases made with ⟨encoder, made⟩
  rw [make_of_fault rfl] at made
  cases made

end Encoder

end Escaping
