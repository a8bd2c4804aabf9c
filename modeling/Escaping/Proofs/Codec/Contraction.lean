import Escaping.Proofs.Codec.Scanning
import Escaping.Proofs.Text.Utf8
import Escaping.Proofs.Codec.OctetRun
import Escaping.Scheme

/-!
Escapes are longer than what they stand for. This holds of every scheme, and it is why decoding a
text again and again comes to an end.
-/

namespace Escaping

/-- An escape lies within the text and takes more code points than it gives. The lead comes on top
of those counted as taken. -/
structure Decoder.Contracting (decoder : Decoder) : Prop where
  taken_le : ∀ {tail : Text} {found : Unescaped},
    decoder.unescape tail = some found → found.taken ≤ tail.length
  length_le : ∀ {tail : Text} {found : Unescaped},
    decoder.unescape tail = some found → found.text.length ≤ found.taken

theorem Decoder.Contracting.length_scan_le {decoder : Decoder} (contracting : decoder.Contracting)
    (text : Text) : (decoder.scan text).text.length + (decoder.scan text).count ≤ text.length := by
  fun_induction Decoder.scan decoder text with
  | case1 => exact Nat.le_refl 0
  | case2 head tail malformed induction =>
      rw [Replaced.text_keep, Replaced.count_keep, List.singleton_append, List.length_cons,
        List.length_cons]
      omega
  | case3 head tail found matched induction =>
      split at matched
      next lead =>
        have within := contracting.taken_le matched
        have shorter := contracting.length_le matched
        rw [List.length_drop] at induction
        rw [Replaced.text_replace, Replaced.count_replace, List.length_append, List.length_cons]
        omega
      next => cases matched

namespace CharacterReference

theorem length_digits?_le {base : Nat} {text : Text} {digits : Digits}
    (read : digits? base text = some digits) : digits.length ≤ text.length := by
  simp only [digits?] at read
  generalize (if base = 16 then CodePoint.isHexDigit else CodePoint.isDecimalDigit) = accepts
    at read
  split at read
  · cases read
  · cases read
    exact (List.takeWhile_prefix accepts).length_le

theorem length_numeric?_le {hexLetters : List CodePoint} {text : Text} {digits : Digits}
    (read : numeric? hexLetters text = some digits) : digits.length ≤ text.length := by
  cases text with
  | nil => cases read
  | cons letter rest =>
      simp only [numeric?] at read
      split at read
      · rcases Option.map_eq_some_iff.mp read with ⟨hexadecimal, digitsRead, rfl⟩
        exact Nat.succ_le_succ (length_digits?_le digitsRead)
      · exact length_digits?_le read

/-- A code point that follows what has been read lies within the text. -/
theorem lt_length_of_head?_drop {text : Text} {length : Nat} {next : CodePoint}
    (follows : (text.drop length).head? = some next) : length < text.length := by
  rw [List.head?_drop] at follows
  exact (List.getElem?_eq_some_iff.mp follows).1

end CharacterReference

/-- Each escape stands for one code point. It ends within the text and goes beyond the lead. -/
structure Decoder.ReadsPoints (decoder : Decoder) : Prop where
  bounds : ∀ {tail : Text} {found : Unescaped}, decoder.unescape tail = some found →
    found.text.length = 1 ∧ 1 ≤ found.taken ∧ found.taken ≤ tail.length

theorem Decoder.ReadsPoints.contracting {decoder : Decoder} (points : decoder.ReadsPoints) :
    decoder.Contracting where
  taken_le matched := (points.bounds matched).2.2
  length_le matched := by
    have bounds := points.bounds matched
    omega

namespace Html

open CharacterReference

theorem readsPoints : Decoder.ReadsPoints ⟨ampersand, unescape⟩ := by
  constructor
  intro tail found matched
  dsimp only at matched
  cases tail with
  | nil => cases matched
  | cons head rest =>
      rw [unescape] at matched
      split at matched
      · rcases Option.map_eq_some_iff.mp matched with ⟨digits, read, rfl⟩
        have within := length_numeric?_le read
        refine ⟨rfl, by dsimp only; omega, ?_⟩
        dsimp only
        split
        next closed =>
          have before := lt_length_of_head?_drop closed
          rw [List.length_cons]
          omega
        next =>
          rw [List.length_cons]
          omega
      · simp only [readNamed] at matched
        split at matched
        next closed =>
          rcases Option.map_eq_some_iff.mp matched with ⟨point, _, rfl⟩
          exact ⟨rfl, Nat.le_add_left 1 _, lt_length_of_head?_drop closed.2⟩
        next => cases matched

end Html

namespace Xml

open CharacterReference

theorem readsPoints : Decoder.ReadsPoints ⟨ampersand, unescape⟩ := by
  constructor
  intro tail found matched
  dsimp only at matched
  cases tail with
  | nil => cases matched
  | cons head rest =>
      rw [unescape] at matched
      split at matched
      · rcases Option.bind_eq_some_iff.mp matched with ⟨digits, _, read⟩
        split at read
        next closed =>
          have before := lt_length_of_head?_drop closed
          cases read
          exact ⟨rfl, Nat.le_add_left 1 _, by rw [List.length_cons]; dsimp only; omega⟩
        next => cases read
      · rcases Option.map_eq_some_iff.mp matched with ⟨entry, named, rfl⟩
        have opens := List.find?_some named
        rw [List.isPrefixOf_iff_prefix] at opens
        have within := opens.length_le
        rw [List.length_append, Text.ofString, List.length_map, String.length_toList,
          List.length_singleton] at within
        exact ⟨rfl, Nat.le_add_left 1 _, within⟩

end Xml

namespace StringLiteral

theorem length_of_fixedHex? {width number : Nat} {text : Text}
    (read : fixedHex? width text = some number) : width ≤ text.length := by
  simp only [fixedHex?] at read
  split at read
  next digits =>
    have taken := digits.1
    rw [List.length_take] at taken
    omega
  next => cases read

theorem length_of_lowUnit? {text : Text} {low : Nat} (read : lowUnit? text = some low) :
    6 ≤ text.length := by
  unfold lowUnit? at read
  split at read
  next lead letter digits =>
    split at read
    · have unit := Option.mem_filter_iff.mp read
      have enough := length_of_fixedHex? unit.1
      rw [List.length_cons, List.length_cons]
      omega
    · cases read
  next => cases read

/-- A unit escape gives one code point; it takes as much again if it is one of a pair. -/
theorem bounds_of_readUnit {digits : Text} {found : Unescaped}
    (read : readUnit digits = some found) :
    found.text.length = 1 ∧ 1 ≤ found.taken ∧ found.taken ≤ digits.length + 1 := by
  rcases Option.map_eq_some_iff.mp read with ⟨unit, first, rfl⟩
  have enough := length_of_fixedHex? first
  split
  next low second =>
    split at second
    · have following := length_of_lowUnit? second
      rw [List.length_drop] at following
      exact ⟨rfl, by dsimp only; omega, by dsimp only; omega⟩
    · cases second
  next => exact ⟨rfl, by dsimp only; omega, by dsimp only; omega⟩

end StringLiteral

namespace JavaScript

open StringLiteral

theorem readsPoints : Decoder.ReadsPoints ⟨backslash, unescape⟩ := by
  constructor
  intro tail found matched
  dsimp only at matched
  cases tail with
  | nil => cases matched
  | cons letter rest =>
      rw [unescape] at matched
      split at matched
      · rcases Option.map_eq_some_iff.mp matched with ⟨byte, read, rfl⟩
        exact ⟨rfl, Nat.le_add_left 1 2, Nat.succ_le_succ (length_of_fixedHex? read)⟩
      split at matched
      · exact bounds_of_readUnit matched
      · rcases Option.map_eq_some_iff.mp matched with ⟨point, _, rfl⟩
        exact ⟨rfl, Nat.le_refl 1, Nat.le_add_left 1 _⟩

end JavaScript

namespace Json

open StringLiteral

theorem readsPoints : Decoder.ReadsPoints ⟨backslash, unescape⟩ := by
  constructor
  intro tail found matched
  dsimp only at matched
  cases tail with
  | nil => cases matched
  | cons letter rest =>
      rw [unescape] at matched
      split at matched
      · exact bounds_of_readUnit matched
      · rcases Option.map_eq_some_iff.mp matched with ⟨point, _, rfl⟩
        exact ⟨rfl, Nat.le_refl 1, Nat.le_add_left 1 _⟩

end Json

namespace OctetRun

/-- A run gives at most one code point for each octet, and takes three for it. -/
theorem contracting (lead : CodePoint) : Decoder.Contracting ⟨lead, unescape lead⟩ where
  taken_le := by
    intro tail found matched
    simp only [unescape] at matched
    split at matched
    · cases matched
    · cases matched
      have within := length_read_le lead tail
      dsimp only
      omega
  length_le := by
    intro tail found matched
    simp only [unescape] at matched
    split at matched
    · cases matched
    next nonempty =>
      cases matched
      have positive : 0 < (read lead tail).length := by
        rw [List.length_pos_iff]
        simpa using nonempty
      have fewer := Utf8.length_decode_le (read lead tail)
      dsimp only
      omega

end OctetRun

namespace Css

theorem blankLength_le (text : Text) : blankLength text ≤ text.length := by
  have shown : ((text.take 2).map CodePoint.val).length ≤ text.length := by
    rw [List.length_map, List.length_take]
    exact Nat.min_le_right _ _
  unfold blankLength
  split
  next lineEnd =>
    rw [lineEnd, List.length_cons, List.length_cons] at shown
    omega
  next opening =>
    rw [opening, List.length_cons] at shown
    split <;> omega
  next => exact Nat.zero_le _

theorem readsPoints : Decoder.ReadsPoints ⟨backslash, unescape⟩ := by
  constructor
  intro tail found matched
  simp only [unescape] at matched
  split at matched
  · cases matched
  next nonempty =>
    cases matched
    have positive : 0 < ((tail.take 6).takeWhile CodePoint.isHexDigit).length := by
      rw [List.length_pos_iff]
      simpa using nonempty
    have within : ((tail.take 6).takeWhile CodePoint.isHexDigit).length ≤ tail.length :=
      Nat.le_trans (List.takeWhile_prefix _).length_le (List.take_prefix 6 tail).length_le
    have blank := blankLength_le (tail.drop ((tail.take 6).takeWhile CodePoint.isHexDigit).length)
    rw [List.length_drop] at blank
    refine ⟨rfl, ?_, ?_⟩
    all_goals
      dsimp only
      omega

end Css

theorem Shell.readsPoints (lead : CodePoint) : Decoder.ReadsPoints ⟨lead, Shell.unescape⟩ := by
  constructor
  intro tail found matched
  cases tail with
  | nil => cases matched
  | cons point rest =>
      cases matched
      exact ⟨rfl, Nat.le_refl 1, Nat.le_add_left 1 _⟩

theorem MySql.readsPoints : Decoder.ReadsPoints ⟨MySql.backslash, MySql.unescape⟩ := by
  constructor
  intro tail found matched
  cases tail with
  | nil => cases matched
  | cons letter rest =>
      cases matched
      exact ⟨rfl, Nat.le_refl 1, Nat.le_add_left 1 _⟩

theorem Oracle.readsPoints : Decoder.ReadsPoints ⟨Oracle.quote, Oracle.unescape⟩ := by
  constructor
  intro tail found matched
  dsimp only at matched
  cases tail with
  | nil => cases matched
  | cons point rest =>
      rw [Oracle.unescape] at matched
      split at matched
      · cases matched
        exact ⟨rfl, Nat.le_refl 1, Nat.le_add_left 1 _⟩
      · cases matched

namespace Scheme

/-- A scheme reads single code points, or runs of octets. -/
theorem readsPoints_or_readsOctets {scheme : Scheme} {decoder : Decoder}
    (decodes : scheme.codec.decoder = some decoder) :
    decoder.ReadsPoints ∨ ∃ lead, decoder = ⟨lead, OctetRun.unescape lead⟩ := by
  cases scheme with
  | html => exact .inl (Option.some.inj decodes ▸ Html.readsPoints)
  | percent => exact .inr ⟨_, (Option.some.inj decodes).symm⟩
  | javaScript => exact .inl (Option.some.inj decodes ▸ JavaScript.readsPoints)
  | vbScript => cases decodes
  | css => exact .inl (Option.some.inj decodes ▸ Css.readsPoints)
  | ldapFilter => exact .inr ⟨_, (Option.some.inj decodes).symm⟩
  | ldapName => exact .inr ⟨_, (Option.some.inj decodes).symm⟩
  | xml => exact .inl (Option.some.inj decodes ▸ Xml.readsPoints)
  | xmlAttribute => exact .inl (Option.some.inj decodes ▸ Xml.readsPoints)
  | xPath => exact .inl (Option.some.inj decodes ▸ Html.readsPoints)
  | json => exact .inl (Option.some.inj decodes ▸ Json.readsPoints)
  | posixShell => exact .inl (Option.some.inj decodes ▸ Shell.readsPoints _)
  | windowsShell => exact .inl (Option.some.inj decodes ▸ Shell.readsPoints _)
  | mySql => exact .inl (Option.some.inj decodes ▸ MySql.readsPoints)
  | oracle => exact .inl (Option.some.inj decodes ▸ Oracle.readsPoints)

theorem contracting {scheme : Scheme} {decoder : Decoder}
    (decodes : scheme.codec.decoder = some decoder) : decoder.Contracting := by
  rcases readsPoints_or_readsOctets decodes with points | ⟨lead, rfl⟩
  · exact points.contracting
  · exact OctetRun.contracting lead

/-- Each escape that a pass replaces makes the text shorter by at least one code point. -/
theorem length_decodePass_le (scheme : Scheme) (text : Text) :
    (scheme.codec.decodePass text).text.length + (scheme.codec.decodePass text).count
      ≤ text.length := by
  cases decodes : scheme.codec.decoder with
  | none =>
      rw [Codec.decodePass_of_none decodes]
      exact Nat.le_refl _
  | some decoder =>
      rw [Codec.decodePass_eq_scan decodes]
      exact (contracting decodes).length_scan_le text

end Scheme

end Escaping
