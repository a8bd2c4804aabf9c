import Escaping.Proofs.Codec.Escapes
import Escaping.Proofs.Codec.ReferenceGrammar
import Escaping.Scheme

/-!
Character references as the codecs read them. What they have in common, a run of digits and what
announces it, is read as the grammar says; the readers of HTML and XML add their names and the way
they close a reference, and come to the references of their own rules.
-/

namespace Escaping

namespace CharacterReference

section Reading

variable {base : Nat} {text digits rest : Text}

theorem DigitRun.takeWhile_eq (run : DigitRun base digits rest) :
    (digits ++ rest).takeWhile (CharacterReference.isDigit base) = digits := by
  rw [List.takeWhile_append_of_pos run.isDigit]
  cases rest with
  | nil => rw [List.takeWhile_nil, List.append_nil]
  | cons next others =>
      have stops := run.maximal next rfl
      rw [List.takeWhile_cons_of_neg (by simp [stops]), List.append_nil]

/-- What a text starts with is a run of digits unless it starts with no digit at all. -/
theorem digitRun_takeWhile (starts : text.takeWhile (isDigit base) ≠ []) :
    DigitRun base (text.takeWhile (isDigit base)) (text.dropWhile (isDigit base)) where
  nonempty := starts
  isDigit := List.all_eq_true.mp List.all_takeWhile
  maximal next follows := by
    have stopped := List.head?_dropWhile_not (isDigit base) text
    rw [follows] at stopped
    exact stopped

theorem exists_digitRun {digit : CodePoint} (starts : isDigit base digit = true) (text : Text) :
    ∃ digits rest, digit :: text = digits ++ rest ∧ DigitRun base digits rest := by
  have nonempty : (digit :: text).takeWhile (isDigit base) ≠ [] := by
    rw [List.takeWhile_cons_of_pos starts]
    exact List.cons_ne_nil _ _
  exact ⟨_, _, List.takeWhile_append_dropWhile.symm, digitRun_takeWhile nonempty⟩

theorem digits?_eq_some_iff {found : Digits} :
    digits? base text = some found
      ↔ ∃ digits rest, text = digits ++ rest ∧ DigitRun base digits rest
        ∧ found = ⟨boundedNumber base digits, digits.length⟩ := by
  have read : digits? base text = if (text.takeWhile (isDigit base)).isEmpty then none
      else some ⟨boundedNumber base (text.takeWhile (isDigit base)),
        (text.takeWhile (isDigit base)).length⟩ := rfl
  rw [read]
  constructor
  · intro outcome
    split at outcome
    next => cases outcome
    next starts =>
      cases outcome
      rw [List.isEmpty_iff] at starts
      exact ⟨_, _, List.takeWhile_append_dropWhile.symm, digitRun_takeWhile starts, rfl⟩
  · rintro ⟨digits, rest, rfl, run, rfl⟩
    rw [run.takeWhile_eq, if_neg]
    rw [List.isEmpty_iff]
    exact run.nonempty

/-- The letters that announce digits of base sixteen cannot be mistaken for digits of base ten. -/
theorem numeric?_eq_some_iff {rules : Rules} {found : Digits} :
    numeric? rules.hexLetters text = some found
      ↔ ∃ base marks digits rest, text = marks ++ (digits ++ rest) ∧ rules.Marks base marks
        ∧ DigitRun base digits rest
        ∧ found = ⟨boundedNumber base digits, digits.length + marks.length⟩ := by
  constructor
  · intro outcome
    cases text with
    | nil => cases outcome
    | cons letter tail =>
        rw [numeric?] at outcome
        split at outcome
        next announced =>
          rcases Option.map_eq_some_iff.mp outcome with ⟨read, here, rfl⟩
          rcases digits?_eq_some_iff.mp here with ⟨digits, rest, rfl, run, rfl⟩
          exact ⟨16, [letter], digits, rest, rfl, .hexadecimal announced, run, rfl⟩
        next =>
          rcases digits?_eq_some_iff.mp outcome with ⟨digits, rest, whole, run, rfl⟩
          exact ⟨10, [], digits, rest, whole, .decimal, run, rfl⟩
  · rintro ⟨base, marks, digits, rest, rfl, marked, run, rfl⟩
    have read := digits?_eq_some_iff.mpr ⟨digits, rest, rfl, run, rfl⟩
    cases marked with
    | hexadecimal announced =>
        rw [List.singleton_append, numeric?, if_pos announced, read]
        rfl
    | decimal =>
        cases digits with
        | nil => exact absurd rfl run.nonempty
        | cons first others =>
            have digit : first.isDecimalDigit = true := run.isDigit first List.mem_cons_self
            have unmarked : first ∉ rules.hexLetters := fun member => by
              rw [rules.lettered first member] at digit
              cases digit
            rw [List.nil_append, List.cons_append, numeric?, if_neg unmarked]
            exact read

end Reading

namespace Rules

variable {rules : Rules} {rest : Text} {closing : Nat}

theorem closes_iff_of_open (mayStayOpen : rules.mayStayOpen = true) :
    rules.Closes rest closing ↔ closing = if rest.head? = some semicolon then 1 else 0 := by
  constructor
  · intro closes
    cases closes with
    | closed ends => rw [if_pos ends]
    | unclosed _ goesOn => rw [if_neg goesOn]
  · rintro rfl
    split
    next ends => exact .closed ends
    next goesOn => exact .unclosed mayStayOpen goesOn

theorem closes_iff_of_closed (mustClose : rules.mayStayOpen = false) :
    rules.Closes rest closing ↔ rest.head? = some semicolon ∧ closing = 1 := by
  constructor
  · intro closes
    cases closes with
    | closed ends => exact ⟨ends, rfl⟩
    | unclosed mayStayOpen => cases mustClose.symm.trans mayStayOpen
  · rintro ⟨ends, rfl⟩
    exact .closed ends

theorem Marks.large {base : Nat} {marks : Text} (marked : rules.Marks base marks) : 10 ≤ base := by
  cases marked with
  | decimal => exact Nat.le_refl 10
  | hexadecimal => decide

/-- A reference by number is what the common part of both readers finds, and its closing. -/
theorem readsNumber_iff {text : Text} {unescaped : Unescaped} :
    rules.ReadsNumber text unescaped
      ↔ ∃ found closing, numeric? rules.hexLetters text = some found
        ∧ rules.Closes (text.drop found.length) closing
        ∧ unescaped = ⟨[rules.represented found.number], 1 + found.length + closing⟩ := by
  have behind : ∀ marks digits rest : Text,
      (marks ++ (digits ++ rest)).drop (digits.length + marks.length) = rest := by
    intro marks digits rest
    rw [Nat.add_comm, List.drop_length_add_append, List.drop_left]
  constructor
  · intro reads
    cases reads with
    | @intro base closing marks digits rest marked run closes =>
        refine ⟨_, closing, numeric?_eq_some_iff.mpr ⟨base, marks, digits, rest, rfl, marked, run,
          rfl⟩, ?_, ?_⟩
        · rw [behind]
          exact closes
        · rw [rules.represented_boundedNumber marked.large run.isDigit]
  · rintro ⟨found, closing, here, closes, rfl⟩
    rcases numeric?_eq_some_iff.mp here with ⟨base, marks, digits, rest, rfl, marked, run, rfl⟩
    rw [behind] at closes
    rw [rules.represented_boundedNumber marked.large run.isDigit]
    exact .intro marked run closes

/-- No name can be mistaken for a number. -/
theorem ReadsName.starts {text : Text} {unescaped : Unescaped}
    (reads : rules.ReadsName text unescaped) :
    ∃ head tail, text = head :: tail ∧ head ≠ numberSign := by
  cases reads with
  | @intro entry rest member =>
      have starts := rules.named entry member
      cases name : Text.ofString entry.1 with
      | nil =>
          rw [name] at starts
          cases starts
      | cons first others =>
          rw [name] at starts
          refine ⟨first, others ++ semicolon :: rest, rfl, ?_⟩
          intro sign
          have letter : first.isLetter = true := starts
          rw [sign] at letter
          revert letter
          decide

/-- What follows the ampersand decides which of two readers is asked. -/
theorem reads_iff {unescape readNumeric readNamed : Text → Option Unescaped}
    (empty : unescape [] = none)
    (dispatch : ∀ head tail, unescape (head :: tail)
      = if head = numberSign then readNumeric tail else readNamed (head :: tail))
    (numeric : ∀ {text unescaped},
      readNumeric text = some unescaped ↔ rules.ReadsNumber text unescaped)
    (named : ∀ {text unescaped}, readNamed text = some unescaped ↔ rules.ReadsName text unescaped)
    {text : Text} {unescaped : Unescaped} :
    unescape text = some unescaped ↔ rules.Reads text unescaped := by
  constructor
  · intro outcome
    cases text with
    | nil =>
        rw [empty] at outcome
        cases outcome
    | cons head tail =>
        rw [dispatch] at outcome
        split at outcome
        next sign =>
          rw [sign]
          exact .number (numeric.mp outcome)
        next => exact .name (named.mp outcome)
  · intro reads
    cases reads with
    | number reads =>
        rw [dispatch, if_pos rfl]
        exact numeric.mpr reads
    | name reads =>
        rcases reads.starts with ⟨head, tail, rfl, different⟩
        rw [dispatch, if_neg different]
        exact named.mpr reads

/-- Where the semicolon may be missing, one digit is enough for a number. -/
theorem exists_readsNumber (mayStayOpen : rules.mayStayOpen = true) {base : Nat} {marks : Text}
    (marked : rules.Marks base marks) {digit : CodePoint} (starts : isDigit base digit = true)
    (rest : Text) : ∃ unescaped, rules.ReadsNumber (marks ++ digit :: rest) unescaped := by
  rcases exists_digitRun starts rest with ⟨digits, behind, whole, run⟩
  rw [whole]
  exact ⟨_, .intro marked run ((closes_iff_of_open mayStayOpen).mpr rfl)⟩

theorem exists_reads_iff (mayStayOpen : rules.mayStayOpen = true) {text : Text} :
    (∃ unescaped, rules.Reads text unescaped)
      ↔ (∃ entry ∈ rules.names, Text.ofString entry.1 ++ [semicolon] <+: text)
      ∨ (∃ digit : CodePoint, digit.isDecimalDigit = true ∧ [numberSign, digit] <+: text)
      ∨ ∃ letter ∈ rules.hexLetters, ∃ digit : CodePoint, digit.isHexDigit = true
        ∧ [numberSign, letter, digit] <+: text := by
  constructor
  · rintro ⟨unescaped, reads⟩
    cases reads with
    | name reads =>
        cases reads with
        | @intro entry rest member =>
            refine .inl ⟨entry, member, rest, ?_⟩
            rw [List.append_assoc, List.singleton_append]
    | number reads =>
        cases reads with
        | @intro base closing marks digits rest marked run =>
            rcases List.exists_cons_of_ne_nil run.nonempty with ⟨first, others, rfl⟩
            have digit := run.isDigit first List.mem_cons_self
            cases marked with
            | decimal => exact .inr (.inl ⟨first, digit, others ++ rest, rfl⟩)
            | @hexadecimal letter announced =>
                exact .inr (.inr ⟨letter, announced, first, digit, others ++ rest, rfl⟩)
  · rintro (⟨entry, member, rest, rfl⟩ | ⟨digit, decimal, rest, rfl⟩
      | ⟨letter, announced, digit, hexadecimal, rest, rfl⟩)
    · rw [List.append_assoc, List.singleton_append]
      exact ⟨_, .name (.intro rest member)⟩
    · rcases exists_readsNumber mayStayOpen .decimal decimal rest with ⟨unescaped, reads⟩
      exact ⟨unescaped, .number reads⟩
    · rcases exists_readsNumber mayStayOpen (.hexadecimal announced) hexadecimal rest with
        ⟨unescaped, reads⟩
      exact ⟨unescaped, .number reads⟩

variable {text : Text} {position : Nat}

theorem exists_readsAt_iff (mayStayOpen : rules.mayStayOpen = true) :
    (∃ found, rules.ReadsAt text position found)
      ↔ (∃ entry ∈ rules.names,
        ampersand :: (Text.ofString entry.1 ++ [semicolon]) <+: text.drop position)
      ∨ (∃ digit : CodePoint, digit.isDecimalDigit = true
        ∧ [ampersand, numberSign, digit] <+: text.drop position)
      ∨ ∃ letter ∈ rules.hexLetters, ∃ digit : CodePoint, digit.isHexDigit = true
        ∧ [ampersand, numberSign, letter, digit] <+: text.drop position := by
  constructor
  · rintro ⟨_, ⟨here, reads⟩⟩
    rw [here]
    simp only [List.prefix_cons_inj]
    exact (exists_reads_iff mayStayOpen).mp ⟨_, reads⟩
  · have readAt : ∀ {tail}, text.drop position = ampersand :: tail →
        (∃ unescaped, rules.Reads tail unescaped) → ∃ found, rules.ReadsAt text position found :=
      fun here reads => reads.elim fun _ reads => ⟨_, .intro here reads⟩
    rintro (⟨entry, member, opens⟩ | ⟨digit, decimal, opens⟩
      | ⟨letter, announced, digit, hexadecimal, opens⟩)
    · rcases List.cons_prefix_iff.mp opens with ⟨tail, here, behind⟩
      exact readAt here ((exists_reads_iff mayStayOpen).mpr (.inl ⟨entry, member, behind⟩))
    · rcases List.cons_prefix_iff.mp opens with ⟨tail, here, behind⟩
      exact readAt here ((exists_reads_iff mayStayOpen).mpr (.inr (.inl ⟨digit, decimal, behind⟩)))
    · rcases List.cons_prefix_iff.mp opens with ⟨tail, here, behind⟩
      exact readAt here ((exists_reads_iff mayStayOpen).mpr
        (.inr (.inr ⟨letter, announced, digit, hexadecimal, behind⟩)))

theorem decodeAt_eq_some_iff {codec : Codec} {unescape : Text → Option Unescaped}
    (decodes : codec.decoder = some ⟨ampersand, unescape⟩)
    (reads : ∀ {text unescaped}, unescape text = some unescaped ↔ rules.Reads text unescaped)
    {found : Found} :
    codec.decodeAt text position = some found ↔ rules.ReadsAt text position found := by
  rw [Codec.decodeAt_eq_some_iff decodes]
  constructor
  · rintro ⟨tail, unescaped, here, read, rfl⟩
    exact .intro here (reads.mp read)
  · rintro ⟨here, read⟩
    exact ⟨_, _, here, reads.mpr read, rfl⟩

end Rules

end CharacterReference

namespace Html

open CharacterReference

variable {text : Text} {unescaped : Unescaped}

theorem readNumeric_eq_some_iff :
    readNumeric text = some unescaped ↔ Rules.html.ReadsNumber text unescaped := by
  constructor
  · intro outcome
    rcases Option.map_eq_some_iff.mp outcome with ⟨found, here, rfl⟩
    refine Rules.readsNumber_iff.mpr
      ⟨found, _, here, (Rules.closes_iff_of_open rfl).mpr rfl, ?_⟩
    rw [Rules.represented_html]
  · intro reads
    rcases Rules.readsNumber_iff.mp reads with ⟨found, closing, here, closes, rfl⟩
    have counted := (Rules.closes_iff_of_open rfl).mp closes
    refine Option.map_eq_some_iff.mpr ⟨found, here, ?_⟩
    rw [Rules.represented_html, counted]

theorem readable_of_mem_names {entry : String × Nat} (member : entry ∈ Rules.html.names) :
    (∀ each ∈ Text.ofString entry.1, each.isAlphanumeric = true)
      ∧ pointOf? (Text.ofString entry.1) = some (.ofNat entry.2) := by
  rcases List.mem_cons.mp member with rfl | inTable
  · exact ⟨by decide, rfl⟩
  · rcases EntityNames.readable_of_mem_table inTable with ⟨alphanumeric, _, denotes⟩
    exact ⟨alphanumeric, denotes⟩

theorem mem_names_of_pointOf? {name : Text} {point : CodePoint}
    (denotes : pointOf? name = some point) :
    ∃ entry ∈ Rules.html.names, Text.ofString entry.1 = name ∧ CodePoint.ofNat entry.2 = point := by
  unfold pointOf? at denotes
  split at denotes
  next apostrophe =>
    cases denotes
    exact ⟨_, List.mem_cons_self, apostrophe.symm, rfl⟩
  next =>
    rcases EntityNames.mem_table_of_pointOf? denotes with ⟨entry, member, spelled, number⟩
    exact ⟨entry, List.mem_cons_of_mem _ member, spelled, number⟩

theorem readNamed_eq_some_iff :
    readNamed text = some unescaped ↔ Rules.html.ReadsName text unescaped := by
  constructor
  · intro outcome
    simp only [readNamed] at outcome
    split at outcome
    next shaped =>
      -- The name is as long as it can be, and what follows it opens with a semicolon.
      rcases Option.map_eq_some_iff.mp outcome with ⟨point, denotes, rfl⟩
      rcases mem_names_of_pointOf? denotes with ⟨entry, member, spelled, rfl⟩
      rcases List.takeWhile_prefix CodePoint.isAlphanumeric with ⟨rest, whole⟩
      rw [← spelled] at whole shaped
      subst whole
      rw [List.drop_left] at shaped
      rcases List.head?_eq_some_iff.mp shaped.2 with ⟨others, rfl⟩
      rw [← spelled]
      exact .intro others member
    next => cases outcome
  · intro reads
    cases reads with
    | @intro entry rest member =>
        rcases readable_of_mem_names member with ⟨alphanumeric, denotes⟩
        have starts := Rules.html.named entry member
        have run : (Text.ofString entry.1 ++ semicolon :: rest).takeWhile CodePoint.isAlphanumeric
            = Text.ofString entry.1 := by
          rw [List.takeWhile_append_of_pos alphanumeric, List.takeWhile_cons_of_neg (by decide),
            List.append_nil]
        simp only [readNamed, run, starts, List.drop_left, List.head?_cons, and_self, if_true,
          denotes, Option.map_some]

theorem unescape_eq_some_iff : unescape text = some unescaped ↔ Rules.html.Reads text unescaped :=
  Rules.reads_iff rfl (fun _ _ => rfl) readNumeric_eq_some_iff readNamed_eq_some_iff

end Html

namespace Xml

open CharacterReference

variable {text : Text} {unescaped : Unescaped}

theorem readNumeric_eq_some_iff :
    readNumeric text = some unescaped ↔ Rules.xml.ReadsNumber text unescaped := by
  constructor
  · intro outcome
    rcases Option.bind_eq_some_iff.mp outcome with ⟨found, here, ended⟩
    split at ended
    next ends =>
      cases ended
      refine Rules.readsNumber_iff.mpr ⟨found, 1, here, .closed ends, ?_⟩
      rw [Rules.represented_xml]
    next => cases ended
  · intro reads
    rcases Rules.readsNumber_iff.mp reads with ⟨found, closing, here, closes, rfl⟩
    rcases (Rules.closes_iff_of_closed rfl).mp closes with ⟨ends, rfl⟩
    refine Option.bind_eq_some_iff.mpr ⟨found, here, ?_⟩
    rw [if_pos ends, Rules.represented_xml]

theorem readNamed_eq_some_iff :
    readNamed text = some unescaped ↔ Rules.xml.ReadsName text unescaped := by
  constructor
  · intro outcome
    rcases Option.map_eq_some_iff.mp outcome with ⟨⟨name, number⟩, found, rfl⟩
    have member : (name, number) ∈ Rules.xml.names := List.mem_of_find?_eq_some found
    have opens := List.find?_some found
    rcases List.isPrefixOf_iff_prefix.mp opens with ⟨rest, rfl⟩
    have length : (Text.ofString name).length = name.length := by
      rw [Text.ofString, List.length_map, String.length_toList]
    rw [List.append_assoc]
    dsimp only
    rw [← length]
    exact .intro rest member
  · intro reads
    rcases reads.starts with ⟨head, tail, same, different⟩
    cases reads with
    | @intro entry rest member =>
        have read := unescape_entity member rest
        rw [List.append_assoc, List.singleton_append, List.length_append, same] at read
        rw [unescape, if_neg different] at read
        rw [same]
        exact read

theorem unescape_eq_some_iff : unescape text = some unescaped ↔ Rules.xml.Reads text unescaped :=
  Rules.reads_iff rfl (fun _ _ => rfl) readNumeric_eq_some_iff readNamed_eq_some_iff

end Xml

namespace Scheme

open CharacterReference

/-- References are read at every position by the rules of their language, and at no other. For HTML
a name with its semicolon or a single digit is enough, and a number takes all of its digits with one
semicolon if that follows; XML always needs the semicolon. A number is replaced where no document
can hold it, and is its own code point otherwise, the replacement character included. Cutting off
long runs of digits changes nothing in this. -/
theorem decodeAt_reference (text : Text) (position : Nat) :
    (∀ scheme ∈ [Scheme.html, .xPath],
      (scheme.codec.decodeAt text position ≠ none
        ↔ (∃ entry ∈ ("apos", 0x27) :: EntityNames.table,
          ampersand :: (Text.ofString entry.1 ++ [semicolon]) <+: text.drop position)
        ∨ (∃ digit : CodePoint, digit.isDecimalDigit = true
          ∧ [ampersand, numberSign, digit] <+: text.drop position)
        ∨ ∃ letter ∈ ([.ofChar 'x', .ofChar 'X'] : List CodePoint), ∃ digit : CodePoint,
          digit.isHexDigit = true
          ∧ [ampersand, numberSign, letter, digit] <+: text.drop position)
      ∧ ∀ found, scheme.codec.decodeAt text position = some found
        ↔ Rules.html.ReadsAt text position found)
    ∧ (∀ scheme ∈ [Scheme.xml, .xmlAttribute], ∀ found,
      scheme.codec.decodeAt text position = some found ↔ Rules.xml.ReadsAt text position found)
    ∧ (∀ number, (Rules.html.represented number).val
      = if number = 0 ∨ (0xd800 ≤ number ∧ number ≤ 0xdfff) ∨ 0x10ffff < number then 0xfffd
        else number)
    ∧ (∀ number, (Rules.xml.represented number).val
      = if number = 0x9 ∨ number = 0xa ∨ number = 0xd ∨ (0x20 ≤ number ∧ number ≤ 0xd7ff)
          ∨ (0xe000 ≤ number ∧ number ≤ 0xfffd) ∨ (0x10000 ≤ number ∧ number ≤ 0x10ffff)
        then number else 0xfffd)
    ∧ ∀ base ∈ [10, 16], ∀ digits : Text, (∀ point ∈ digits, isDigit base point = true) →
      CodePoint.ofReference (boundedNumber base digits)
          = Rules.html.represented (Text.number base digits)
        ∧ Xml.ofReference (boundedNumber base digits)
          = Rules.xml.represented (Text.number base digits) := by
  refine ⟨?_, ?_, Rules.val_represented_html, Rules.val_represented_xml, ?_⟩
  · intro scheme member
    have reads : ∀ found, scheme.codec.decodeAt text position = some found
        ↔ Rules.html.ReadsAt text position found := by
      intro found
      simp only [List.mem_cons, List.not_mem_nil, or_false] at member
      rcases member with rfl | rfl
      · exact Rules.decodeAt_eq_some_iff rfl Html.unescape_eq_some_iff
      · exact Rules.decodeAt_eq_some_iff rfl Html.unescape_eq_some_iff
    refine ⟨?_, reads⟩
    rw [Option.ne_none_iff_exists']
    simp only [reads]
    exact Rules.exists_readsAt_iff rfl
  · intro scheme member found
    simp only [List.mem_cons, List.not_mem_nil, or_false] at member
    rcases member with rfl | rfl
    · exact Rules.decodeAt_eq_some_iff rfl Xml.unescape_eq_some_iff
    · exact Rules.decodeAt_eq_some_iff rfl Xml.unescape_eq_some_iff
  · intro base known digits digit
    have large : 10 ≤ base := by
      simp only [List.mem_cons, List.not_mem_nil, or_false] at known
      omega
    rw [← Rules.represented_html, ← Rules.represented_xml,
      Rules.represented_boundedNumber _ large digit, Rules.represented_boundedNumber _ large digit]
    exact ⟨rfl, rfl⟩

/-- Leading zeros do not count against a number, and nine significant digits are too many. -/
theorem decodeAt_reference_longRuns :
    (∃ found, Scheme.html.codec.decodeAt (Text.ofString "a&#X00000000000041") 1 = some found)
    ∧ Scheme.xml.codec.decodeAt (Text.ofString "&#x110000000;") 0
      = some ⟨[.replacement], 13⟩ := by
  constructor
  · have opens : [ampersand, numberSign, .ofChar 'X', .ofChar '0']
        <+: (Text.ofString "a&#X00000000000041").drop 1 := by decide
    have found := ((decodeAt_reference _ 1).1 .html (by decide)).1.mpr
      (.inr (.inr ⟨.ofChar 'X', by decide, .ofChar '0', by decide, opens⟩))
    exact Option.ne_none_iff_exists'.mp found
  · have run : DigitRun 16 (Text.ofString "110000000") [semicolon] :=
      ⟨by decide, by decide, fun next follows => by cases follows; decide⟩
    have marked : Rules.xml.Marks 16 [.ofChar 'x'] := .hexadecimal (by decide)
    have reads := Rules.ReadsNumber.intro marked run (.closed rfl)
    have replaced : Rules.xml.represented (Text.number 16 (Text.ofString "110000000"))
        = .replacement := by decide
    rw [replaced] at reads
    exact ((decodeAt_reference _ 0).2.1 .xml (by decide) _).mpr (.intro rfl (.number reads))

/-- A reference to the replacement character stands for it, although documents can hold it. -/
theorem decodeAt_reference_replacement :
    Rules.xml.admits (Text.number 16 (Text.ofString "fffd")) = true
      ∧ Scheme.xml.codec.decodeAt (Text.ofString "&#xfffd;") 0 = some ⟨[.replacement], 8⟩
      ∧ ¬∀ (digits : Text) (found : Found),
        Scheme.xml.codec.decodeAt (Text.ofString "&#x" ++ digits ++ [semicolon]) 0 = some found →
          (found.text = [.replacement] ↔ Rules.xml.admits (Text.number 16 digits) = false) := by
  have admitted : Rules.xml.admits (Text.number 16 (Text.ofString "fffd")) = true := by decide
  have read : Scheme.xml.codec.decodeAt (Text.ofString "&#xfffd;") 0
      = some ⟨[.replacement], 8⟩ := by decide +kernel
  refine ⟨admitted, read, fun outside => ?_⟩
  have replaced := (outside (Text.ofString "fffd") _ read).mp rfl
  rw [admitted] at replaced
  cases replaced

end Scheme

end Escaping
