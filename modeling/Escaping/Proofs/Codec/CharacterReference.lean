import Escaping.Codec.Html
import Escaping.Codec.Xml
import Escaping.Proofs.Codec.Scanning
import Escaping.Proofs.Text.Digits

/-!
Character references read back. A reference by number denotes the number it was written for, a name
its own code point, and so HTML and XML give back every text, save that a code point no document can
hold comes back as the replacement character. They differ in the names they know, in which code
points those are, and in whether a numeric reference needs its semicolon.
-/

namespace Escaping

namespace CharacterReference

theorem number_significant (base : Nat) (digits : Text) :
    Text.number base (significant digits) = Text.number base digits := by
  induction digits with
  | nil => rfl
  | cons head tail induction =>
      by_cases zero : head.val = 0x30
      · have dropped : significant (head :: tail) = significant tail := by
          simp [significant, zero]
        rw [dropped, induction]
        simp [Text.number, Digits.toNat, CodePoint.digitValue, zero]
      · have kept : significant (head :: tail) = head :: tail := by
          simp [significant, zero]
        rw [kept]

theorem boundedNumber_of_length_le (base : Nat) {digits : Text} (short : digits.length ≤ 8) :
    boundedNumber base digits = Text.number base digits := by
  have shorter : (significant digits).length ≤ 8 :=
    Nat.le_trans (List.dropWhile_suffix _).length_le short
  rw [boundedNumber, List.drop_eq_nil_of_le shorter, List.isEmpty_nil, if_pos rfl,
    number_significant]

theorem boundedNumber_lowerHex {number : Nat} (inside : number < 0x110000) :
    boundedNumber 16 (Text.lowerHex number) = number := by
  have short : (Text.lowerHex number).length ≤ 8 := by
    rw [Text.lowerHex, List.length_map]
    exact Digits.length_ofNat_le (Nat.lt_trans inside (by decide))
  rw [boundedNumber_of_length_le 16 short, Text.number_lowerHex]

/-- Digits end where something else follows. -/
theorem digits?_lowerHex {number : Nat} (inside : number < 0x110000) {next : CodePoint}
    (stops : next.isHexDigit = false) (rest : Text) :
    digits? 16 (Text.lowerHex number ++ next :: rest)
      = some ⟨number, (Text.lowerHex number).length⟩ := by
  have run : (Text.lowerHex number ++ next :: rest).takeWhile CodePoint.isHexDigit
      = Text.lowerHex number := by
    rw [List.takeWhile_append_of_pos fun point member => Text.isHexDigit_of_mem_lowerHex member,
      List.takeWhile_cons_of_neg (by simp [stops]), List.append_nil]
  simp only [digits?, if_true, run, List.isEmpty_iff, Text.lowerHex_ne_nil, if_false,
    boundedNumber_lowerHex inside]

theorem numeric?_lowerHex {hexLetters : List CodePoint} (reads : .ofChar 'x' ∈ hexLetters)
    {number : Nat} (inside : number < 0x110000) (rest : Text) :
    numeric? hexLetters (.ofChar 'x' :: (Text.lowerHex number ++ semicolon :: rest))
      = some ⟨number, (Text.lowerHex number).length + 1⟩ := by
  have stops : semicolon.isHexDigit = false := by decide
  rw [numeric?, if_pos reads, digits?_lowerHex inside stops]
  rfl

theorem hexadecimal_eq (number : Nat) :
    hexadecimal number
      = ampersand :: numberSign :: .ofChar 'x' :: (Text.lowerHex number ++ [semicolon]) := by
  have opening : Text.ofString "&#x" = [ampersand, numberSign, .ofChar 'x'] := by decide
  rw [hexadecimal, opening]
  rfl

/-- A reference by number is read by a grammar that reads its digits up to the semicolon. -/
theorem reads_of_hexadecimal {unescape : Text → Option Unescaped} {number : Nat} {decoded : Text}
    (reads : ∀ rest, unescape
        (numberSign :: .ofChar 'x' :: (Text.lowerHex number ++ semicolon :: rest))
      = some ⟨decoded, (Text.lowerHex number).length + 3⟩) :
    Decoder.Reads ⟨ampersand, unescape⟩ (hexadecimal number) decoded := by
  refine ⟨_, hexadecimal_eq number, fun rest => ?_⟩
  have whole : (numberSign :: .ofChar 'x' :: (Text.lowerHex number ++ [semicolon])) ++ rest
      = numberSign :: .ofChar 'x' :: (Text.lowerHex number ++ semicolon :: rest) := by simp
  rw [whole]
  refine (reads rest).trans ?_
  simp

theorem head?_drop_lowerHex (number : Nat) (rest : Text) :
    ((.ofChar 'x' :: (Text.lowerHex number ++ semicolon :: rest)).drop
      ((Text.lowerHex number).length + 1)).head? = some semicolon := by
  simp

/-- Letters and digits are written raw, and everything else as a reference to its image. -/
structure Faithful (escape : CodePoint → Text) (unescape : Text → Option Unescaped)
    (image : CodePoint → CodePoint) : Prop where
  raw : ∀ {point : CodePoint}, point.isAlphanumeric = true → escape point = [point]
  kept : ∀ {point : CodePoint}, point.isAlphanumeric = true → image point = point
  reads : ∀ {point : CodePoint}, point.isAlphanumeric = false →
    Decoder.Reads ⟨ampersand, unescape⟩ (escape point) [image point]

theorem Faithful.restores {escape : CodePoint → Text} {unescape : Text → Option Unescaped}
    {image : CodePoint → CodePoint} (faithful : Faithful escape unescape image) :
    Decoder.Restores ⟨ampersand, unescape⟩ escape image := by
  intro point
  cases plain : point.isAlphanumeric with
  | false => exact .inr (faithful.reads plain)
  | true =>
      have different : point ≠ ampersand := CodePoint.ne_of_alphanumeric plain (by decide)
      exact .inl ⟨faithful.raw plain, different, faithful.kept plain⟩

/-- Reading gives the image of what was written, whatever follows; what is immune stands raw and is
read as it stands. -/
theorem Faithful.decode_encode_append {escape : CodePoint → Text}
    {unescape : Text → Option Unescaped} {image : CodePoint → CodePoint}
    (faithful : Faithful escape unescape image) {codec : Codec} (writes : codec.escape = escape)
    (decodes : codec.decoder = some ⟨ampersand, unescape⟩) {immune : List CodePoint}
    (escaped : ampersand ∉ immune) (text rest : Text) :
    codec.decode (codec.encode immune text ++ rest)
      = text.map (fun point => if point ∈ immune then point else image point)
        ++ codec.decode rest := by
  have restores := faithful.restores
  rw [← writes] at restores
  exact Codec.decode_encode_append_of_restores decodes restores escaped text rest

/-- What a reference consists of: letters, digits and the signs that enclose them. -/
def isReferencePoint (point : CodePoint) : Bool :=
  point.isAlphanumeric || decide (point ∈ [ampersand, numberSign, semicolon])

theorem isReferencePoint_of_mem_hexadecimal {number : Nat} {point : CodePoint}
    (member : point ∈ hexadecimal number) : isReferencePoint point = true := by
  simp only [hexadecimal_eq, List.mem_cons, List.mem_append, List.not_mem_nil, or_false] at member
  rcases member with rfl | rfl | rfl | digit | rfl
  · decide
  · decide
  · decide
  · have plain := CodePoint.isAlphanumeric_of_isHexDigit (Text.isHexDigit_of_mem_lowerHex digit)
    simp [isReferencePoint, plain]
  · decide

theorem isReferencePoint_of_mem_named {name : Text} {point : CodePoint}
    (alphanumeric : ∀ each ∈ name, each.isAlphanumeric = true) (member : point ∈ named name) :
    isReferencePoint point = true := by
  rcases List.mem_cons.mp member with rfl | rest
  · decide
  · rcases List.mem_append.mp rest with inName | last
    · simp [isReferencePoint, alphanumeric point inName]
    · rw [List.mem_singleton.mp last]
      decide

end CharacterReference

namespace EntityNames

/-- A number that tells the names of the table apart. -/
private def signature (name : Text) : Nat :=
  name.foldl (fun total point => total * 0x80 + point.val) 0

private theorem signatures_nodup :
    (table.map fun (name, _) => signature (Text.ofString name)).Nodup := by
  decide +kernel

private theorem table_well_formed : ∀ entry ∈ table,
    (∀ point ∈ Text.ofString entry.1, point.isAlphanumeric = true)
      ∧ (Text.ofString entry.1).head?.any CodePoint.isLetter = true
      ∧ Text.ofString entry.1 ≠ Text.ofString "apos" := by
  decide +kernel

private theorem find?_of_nodup {entries : List (String × Nat)} {entry : String × Nat}
    (distinct : (entries.map fun (name, _) => signature (Text.ofString name)).Nodup)
    (member : entry ∈ entries) :
    entries.find? (fun (each, _) => Text.ofString each = Text.ofString entry.1) = some entry := by
  induction entries with
  | nil => cases member
  | cons head tail induction =>
      rw [List.map_cons, List.nodup_cons] at distinct
      rcases List.mem_cons.mp member with rfl | later
      · simp
      · have different : Text.ofString head.1 ≠ Text.ofString entry.1 := by
          intro equal
          exact distinct.1 (List.mem_map.mpr ⟨entry, later, congrArg signature equal.symm⟩)
        rw [List.find?_cons_of_neg (by simpa using different)]
        exact induction distinct.2 later

/-- What the table holds: a letter and then letters and digits, which name the code point. -/
theorem readable_of_mem_table {entry : String × Nat} (member : entry ∈ table) :
    (∀ each ∈ Text.ofString entry.1, each.isAlphanumeric = true)
      ∧ (Text.ofString entry.1).head?.any CodePoint.isLetter = true
      ∧ Html.pointOf? (Text.ofString entry.1) = some (.ofNat entry.2) := by
  rcases table_well_formed entry member with ⟨alphanumeric, starts, notApostrophe⟩
  refine ⟨alphanumeric, starts, ?_⟩
  rw [Html.pointOf?, if_neg notApostrophe, pointOf?, find?_of_nodup signatures_nodup member,
    Option.map_some]

theorem readable_of_nameOf? {point : CodePoint} {name : Text} (named : nameOf? point = some name) :
    (∀ each ∈ name, each.isAlphanumeric = true)
      ∧ name.head?.any CodePoint.isLetter = true
      ∧ Html.pointOf? name = some point := by
  rcases Option.map_eq_some_iff.mp named with ⟨entry, found, rfl⟩
  have number : entry.2 = point.val := by simpa using List.find?_some found
  have readable := readable_of_mem_table (List.mem_of_find?_eq_some found)
  rwa [number, CodePoint.ofNat_val] at readable

theorem mem_table_of_pointOf? {name : Text} {point : CodePoint}
    (denotes : pointOf? name = some point) :
    ∃ entry ∈ table, Text.ofString entry.1 = name ∧ CodePoint.ofNat entry.2 = point := by
  rcases Option.map_eq_some_iff.mp denotes with ⟨entry, found, number⟩
  have same := List.find?_some found
  exact ⟨entry, List.mem_of_find?_eq_some found, of_decide_eq_true same, number⟩

end EntityNames

namespace Html

open CharacterReference

/-- What HTML reads back for a code point. -/
def legalized (point : CodePoint) : CodePoint :=
  if isIllegal point then .replacement else point

theorem isIllegal_iff (point : CodePoint) :
    isIllegal point = true
      ↔ (point.val ≤ 0x1f ∧ point.val ≠ 0x9 ∧ point.val ≠ 0xa ∧ point.val ≠ 0xd)
      ∨ (0x7f ≤ point.val ∧ point.val ≤ 0x9f) ∨ (0xd800 ≤ point.val ∧ point.val ≤ 0xdfff) := by
  unfold isIllegal CodePoint.isSurrogate
  split
  · simp
    omega
  · simp
    omega

/-- A legal code point, or the replacement character, is what its number refers to. -/
theorem ofReference_legalized (point : CodePoint) :
    CodePoint.ofReference (legalized point).val = legalized point := by
  unfold legalized
  split
  · decide
  · next legal =>
      rw [isIllegal_iff] at legal
      rw [CodePoint.ofReference, if_neg (by omega), CodePoint.ofNat_val]

theorem unescape_numberSign (tail : Text) : unescape (numberSign :: tail) = readNumeric tail := by
  rw [unescape, if_pos rfl]

theorem unescape_of_ne {head : CodePoint} (different : head ≠ numberSign) (tail : Text) :
    unescape (head :: tail) = readNamed (head :: tail) := by
  rw [unescape, if_neg different]

theorem reads_hexadecimal {number : Nat} (inside : number < 0x110000) :
    Decoder.Reads ⟨ampersand, unescape⟩ (hexadecimal number) [.ofReference number] := by
  apply reads_of_hexadecimal
  intro rest
  have marker : CodePoint.ofChar 'x' ∈ ([.ofChar 'x', .ofChar 'X'] : List CodePoint) := by simp
  rw [unescape_numberSign, readNumeric, numeric?_lowerHex marker inside, Option.map_some]
  simp only [head?_drop_lowerHex, if_true]
  congr 2
  omega

theorem reads_named {point : CodePoint} {name : Text}
    (written : EntityNames.nameOf? point = some name) :
    Decoder.Reads ⟨ampersand, unescape⟩ (named name) [point] := by
  refine ⟨name ++ [semicolon], rfl, fun rest => ?_⟩
  rcases EntityNames.readable_of_nameOf? written with ⟨alphanumeric, starts, denotes⟩
  cases name with
  | nil => simp at starts
  | cons first others =>
      have notNumber : first ≠ numberSign :=
        CodePoint.ne_of_alphanumeric (alphanumeric first List.mem_cons_self) (by decide)
      have run : (first :: others ++ semicolon :: rest).takeWhile CodePoint.isAlphanumeric
          = first :: others := by
        rw [List.takeWhile_append_of_pos alphanumeric,
          List.takeWhile_cons_of_neg (by decide), List.append_nil]
      have startsName : first.isLetter = true := by simpa using starts
      rw [List.append_assoc, List.singleton_append, List.cons_append]
      dsimp only
      rw [unescape_of_ne notNumber, ← List.cons_append, readNamed, run]
      simp [startsName, denotes]

/-- Every code point that is written as a reference is read back, or the replacement character is
in its place. -/
theorem reads_escape {point : CodePoint} (special : point.isAlphanumeric = false) :
    Decoder.Reads ⟨ampersand, unescape⟩ (escape point) [legalized point] := by
  simp only [escape, special, Bool.false_eq_true, if_false]
  split
  next name found =>
    split at found
    · cases found
    · next legal =>
        have same : legalized point = point := if_neg legal
        rw [same]
        exact reads_named found
  next =>
    have number : byNumber point = hexadecimal (legalized point).val := by
      unfold byNumber legalized
      split <;> rfl
    rw [number]
    have reads := reads_hexadecimal (legalized point).inRange
    rwa [ofReference_legalized] at reads

theorem isReferencePoint_of_mem_escape {point each : CodePoint} (member : each ∈ escape point) :
    isReferencePoint each = true := by
  unfold escape at member
  split at member
  next plain =>
    rw [List.mem_singleton.mp member]
    simp [isReferencePoint, plain]
  next =>
    split at member
    next name found =>
      split at found
      · cases found
      · exact isReferencePoint_of_mem_named (EntityNames.readable_of_nameOf? found).1 member
    next => exact isReferencePoint_of_mem_hexadecimal member

theorem legalized_of_alphanumeric {point : CodePoint} (plain : point.isAlphanumeric = true) :
    legalized point = point := by
  have bounds := CodePoint.bounds_of_alphanumeric plain
  apply if_neg
  rw [isIllegal_iff]
  omega

theorem faithful : Faithful escape unescape legalized where
  raw plain := if_pos plain
  kept plain := legalized_of_alphanumeric plain
  reads special := reads_escape special

/-- A text of legal code points comes back as it was. -/
theorem decode_encode {immune : List CodePoint} (escaped : ampersand ∉ immune) {text : Text}
    (legal : ∀ point ∈ text, isIllegal point = false) :
    codec.decode (codec.encode immune text) = text := by
  have whole : codec.decode (codec.encode immune text ++ []) = _ :=
    faithful.decode_encode_append rfl rfl escaped text []
  rw [List.append_nil, Codec.decode_nil, List.append_nil] at whole
  rw [whole]
  conv => rhs; rw [← List.map_id text]
  apply List.map_congr_left
  intro point member
  have same : legalized point = point := if_neg (by simp [legal point member])
  rw [same, ite_self, id]

/-- Looking for an ampersand first makes no difference. -/
theorem textContent_eq_decode (markup : Text) : textContent markup = codec.decode markup := by
  unfold textContent
  split
  next => rfl
  next absent =>
    have decodes : codec.decoder = some ⟨ampersand, unescape⟩ := rfl
    rw [Codec.decode_eq_scan decodes, Decoder.scan_of_not_mem absent]

end Html

namespace Xml

open CharacterReference

/-- What XML reads back for a code point. -/
def legalized (point : CodePoint) : CodePoint :=
  if isLegal point.val then point else .replacement

theorem isLegal_iff (number : Nat) :
    isLegal number = true
      ↔ (number = 0x9 ∨ number = 0xa ∨ number = 0xd) ∨ (0x20 ≤ number ∧ number ≤ 0xd7ff)
      ∨ (0xe000 ≤ number ∧ number ≤ 0xfffd) ∨ (0x10000 ≤ number ∧ number ≤ 0x10ffff) := by
  simp [isLegal, or_assoc]

theorem ofReference_legalized (point : CodePoint) :
    ofReference (legalized point).val = legalized point := by
  unfold legalized
  split
  next legal => rw [ofReference, if_pos legal, CodePoint.ofNat_val]
  next => decide

theorem isLegal_legalized (point : CodePoint) : isLegal (legalized point).val = true := by
  unfold legalized
  split
  next legal => exact legal
  next => decide

theorem byNumber_eq (point : CodePoint) : byNumber point = hexadecimal (legalized point).val := by
  unfold byNumber legalized
  split <;> rfl

theorem reads_hexadecimal {number : Nat} (inside : number < 0x110000) :
    Decoder.Reads ⟨ampersand, unescape⟩ (hexadecimal number) [ofReference number] := by
  apply reads_of_hexadecimal
  intro rest
  have marker : CodePoint.ofChar 'x' ∈ ([.ofChar 'x'] : List CodePoint) := by simp
  rw [unescape, if_pos rfl, readNumeric, numeric?_lowerHex marker inside, Option.bind_some]
  simp only [head?_drop_lowerHex, if_true]
  congr 2
  omega

/-- Each predefined name is read whatever follows its semicolon: none of them opens another. -/
theorem unescape_entity {entry : String × Nat} (member : entry ∈ entities) (rest : Text) :
    unescape (Text.ofString entry.1 ++ [semicolon] ++ rest)
      = some ⟨[.ofNat entry.2], (Text.ofString entry.1 ++ [semicolon]).length⟩ := by
  simp only [entities, List.mem_cons, List.not_mem_nil, or_false] at member
  rcases member with rfl | rfl | rfl | rfl | rfl
  all_goals rfl

theorem mem_entities_of_nameOf? {point : CodePoint} {name : Text}
    (written : nameOf? point = some name) :
    ∃ entry ∈ entities, entry.2 = point.val ∧ Text.ofString entry.1 = name := by
  rcases Option.map_eq_some_iff.mp written with ⟨entry, found, rfl⟩
  exact ⟨entry, List.mem_of_find?_eq_some found, by simpa using List.find?_some found, rfl⟩

theorem isLegal_of_nameOf? {point : CodePoint} {name : Text}
    (written : nameOf? point = some name) : isLegal point.val = true := by
  have legal : ∀ entry ∈ entities, isLegal entry.2 = true := by decide
  rcases mem_entities_of_nameOf? written with ⟨entry, member, number, _⟩
  exact number ▸ legal entry member

theorem reads_named {point : CodePoint} {name : Text} (written : nameOf? point = some name) :
    Decoder.Reads ⟨ampersand, unescape⟩ (named name) [point] := by
  rcases mem_entities_of_nameOf? written with ⟨entry, member, number, rfl⟩
  refine ⟨Text.ofString entry.1 ++ [semicolon], rfl, fun rest => ?_⟩
  have read := unescape_entity member rest
  rwa [number, CodePoint.ofNat_val] at read

theorem reads_escape {point : CodePoint} (special : point.isAlphanumeric = false) :
    Decoder.Reads ⟨ampersand, unescape⟩ (escape point) [legalized point] := by
  simp only [escape, special, Bool.false_eq_true, if_false]
  split
  next name written =>
    -- The five characters with a name are legal, so that they are their own images.
    have same : legalized point = point := if_pos (isLegal_of_nameOf? written)
    rw [same]
    exact reads_named written
  next =>
    have reads := reads_hexadecimal (legalized point).inRange
    rwa [ofReference_legalized, ← byNumber_eq] at reads

theorem legalized_of_alphanumeric {point : CodePoint} (plain : point.isAlphanumeric = true) :
    legalized point = point := by
  have bounds := CodePoint.bounds_of_alphanumeric plain
  apply if_pos
  rw [isLegal_iff]
  omega

theorem faithful : Faithful escape unescape legalized where
  raw plain := if_pos plain
  kept plain := legalized_of_alphanumeric plain
  reads special := reads_escape special

end Xml

end Escaping
