import Escaping.Proofs.Codec.CharacterReference

/-!
The grammar of character references. HTML and XML differ in its rules only: the names they know, the
letters that announce hexadecimal digits, whether a reference by number may lack its semicolon, and
which numbers stand for themselves. The grammar reads a number from all of its digits, however many
they are. To stop at eight significant ones makes no difference, since more of them denote a number
past the code space.
-/

namespace Escaping

namespace CharacterReference

def isDigit (base : Nat) : CodePoint → Bool :=
  if base = 16 then CodePoint.isHexDigit else CodePoint.isDecimalDigit

/-- All the digits at the start of a text, of which there is at least one. -/
structure DigitRun (base : Nat) (digits rest : Text) : Prop where
  nonempty : digits ≠ []
  isDigit : ∀ point ∈ digits, isDigit base point = true
  maximal : ∀ next, rest.head? = some next → CharacterReference.isDigit base next = false

/-- The rules by which one language of markup reads references. -/
structure Rules where
  names : List (String × Nat)
  hexLetters : List CodePoint
  mayStayOpen : Bool
  admits : Nat → Bool
  lettered : ∀ letter ∈ hexLetters, letter.isDecimalDigit = false
  named : ∀ entry ∈ names, (Text.ofString entry.1).head?.any CodePoint.isLetter = true
  inCodeSpace : ∀ {number : Nat}, admits number = true → number < pastLast

namespace Rules

/-- The names of HTML 4 and one more. Numbers that are zero, a surrogate or past the code space do
not stand for themselves. -/
def html : Rules where
  names := ("apos", 0x27) :: EntityNames.table
  hexLetters := ['x', 'X']
  mayStayOpen := true
  admits number := !(number = 0 || (0xd800 ≤ number && number ≤ 0xdfff) || 0x10ffff < number)
  lettered := by decide
  named entry member := by
    rcases List.mem_cons.mp member with rfl | inTable
    · decide
    · exact (EntityNames.readable_of_mem_table inTable).2.1
  inCodeSpace admitted := by
    simp only [Bool.not_eq_true', Bool.or_eq_false_iff, decide_eq_false_iff_not] at admitted
    simp only [pastLast]
    omega

/-- The predefined names, and the numbers of the Char production. -/
def xml : Rules where
  names := [("lt", 0x3c), ("gt", 0x3e), ("amp", 0x26), ("quot", 0x22), ("apos", 0x27)]
  hexLetters := ['x']
  mayStayOpen := false
  admits number := number = 0x9 || number = 0xa || number = 0xd
    || (0x20 ≤ number && number ≤ 0xd7ff) || (0xe000 ≤ number && number ≤ 0xfffd)
    || (0x10000 ≤ number && number ≤ 0x10ffff)
  lettered := by decide
  named := by decide
  inCodeSpace admitted := by
    simp only [Bool.or_eq_true, Bool.and_eq_true, decide_eq_true_eq] at admitted
    simp only [pastLast]
    omega

variable (rules : Rules)

/-- The code point that a reference by number stands for. -/
def represented (number : Nat) : CodePoint :=
  if rules.admits number then .ofNat number else .replacement

/-- What stands between the number sign and digits of a base. -/
inductive Marks : Nat → Text → Prop
  | decimal : Marks 10 []
  | hexadecimal {letter : CodePoint} : letter ∈ rules.hexLetters → Marks 16 [letter]

/-- How many code points close a reference by number, given what follows its digits. -/
inductive Closes (rest : Text) : Nat → Prop
  | closed : rest.head? = some semicolon → Closes rest 1
  | unclosed : rules.mayStayOpen = true → rest.head? ≠ some semicolon → Closes rest 0

/-- A reference by number, from behind its number sign. -/
inductive ReadsNumber : Text → Unescaped → Prop
  | intro {base closing : Nat} {marks digits rest : Text} :
      rules.Marks base marks → DigitRun base digits rest → rules.Closes rest closing →
      ReadsNumber (marks ++ (digits ++ rest))
        ⟨[rules.represented (Text.number base digits)],
          1 + (digits.length + marks.length) + closing⟩

/-- A reference by name, which always has its semicolon. -/
inductive ReadsName : Text → Unescaped → Prop
  | intro {entry : String × Nat} (rest : Text) : entry ∈ rules.names →
      ReadsName (Text.ofString entry.1 ++ semicolon :: rest)
        ⟨[.ofNat entry.2], (Text.ofString entry.1).length + 1⟩

/-- What stands after the ampersand of a reference, and what it is read as. -/
inductive Reads : Text → Unescaped → Prop
  | number {tail : Text} {unescaped : Unescaped} :
      rules.ReadsNumber tail unescaped → Reads (numberSign :: tail) unescaped
  | name {text : Text} {unescaped : Unescaped} :
      rules.ReadsName text unescaped → Reads text unescaped

/-- A reference that stands at a position of a text. -/
inductive ReadsAt (text : Text) (position : Nat) : Found → Prop
  | intro {tail : Text} {unescaped : Unescaped} :
      text.drop position = ampersand :: tail → rules.Reads tail unescaped →
      ReadsAt text position ⟨unescaped.text, position + 1 + unescaped.taken⟩

end Rules

section Numbers

variable {base : Nat} {digits : Text}

theorem isHexDigit_of_isDigit {point : CodePoint} (digit : isDigit base point = true) :
    point.isHexDigit = true := by
  unfold isDigit at digit
  split at digit
  next => exact digit
  next =>
    rw [CodePoint.isHexDigit, digit]
    rfl

theorem digitValue_pos {point : CodePoint} (digit : point.isHexDigit = true)
    (significant : point.val ≠ 0x30) : 1 ≤ point.digitValue := by
  simp only [CodePoint.isHexDigit, CodePoint.isDecimalDigit, Bool.or_eq_true, Bool.and_eq_true,
    decide_eq_true_eq] at digit
  unfold CodePoint.digitValue
  split
  · omega
  split <;> omega

theorem pow_le_number {head : CodePoint} {tail : Text} (leading : 1 ≤ head.digitValue) :
    Nat.pow base tail.length ≤ Text.number base (head :: tail) := by
  rw [Text.number, List.map_cons, Digits.toNat_cons, List.length_map]
  exact Nat.le_add_right_of_le (Nat.le_mul_of_pos_left _ leading)

theorem val_ne_of_significant {head : CodePoint} {tail : Text}
    (starts : significant digits = head :: tail) : head.val ≠ 0x30 := by
  have leading := List.head?_dropWhile_not (fun point : CodePoint => point.val = 0x30) digits
  have same : digits.dropWhile (fun point : CodePoint => point.val = 0x30) = head :: tail := starts
  rw [same] at leading
  exact of_decide_eq_false leading

/-- More than eight significant digits denote a number past the code space, in either base. -/
theorem pastLast_le_number (large : 10 ≤ base)
    (digit : ∀ point ∈ digits, isDigit base point = true)
    (long : 8 < (significant digits).length) : pastLast ≤ Text.number base digits := by
  rw [← number_significant]
  cases starts : significant digits with
  | nil =>
      rw [starts] at long
      exact absurd long (Nat.not_lt_zero 8)
  | cons head tail =>
      have member : head ∈ digits := by
        apply (List.dropWhile_suffix _).subset
        rw [← significant, starts]
        exact List.mem_cons_self
      have positive : 1 ≤ head.digitValue :=
        digitValue_pos (isHexDigit_of_isDigit (digit head member)) (val_ne_of_significant starts)
      have places : 8 ≤ tail.length := by
        rw [starts] at long
        exact Nat.le_of_lt_succ long
      -- The leading digit alone is worth that much.
      calc pastLast ≤ Nat.pow 10 8 := by decide
        _ ≤ Nat.pow base 8 := Nat.pow_le_pow_left large 8
        _ ≤ Nat.pow base tail.length :=
          Nat.pow_le_pow_right (Nat.lt_of_lt_of_le (by decide) large) places
        _ ≤ Text.number base (head :: tail) := pow_le_number positive

/-- Where the number of a run of digits is not worked out, it lies past the code space as well. -/
theorem Rules.represented_boundedNumber (rules : Rules) (large : 10 ≤ base)
    (digit : ∀ point ∈ digits, isDigit base point = true) :
    rules.represented (boundedNumber base digits) = rules.represented (Text.number base digits) := by
  by_cases short : (significant digits).length ≤ 8
  · rw [boundedNumber, List.drop_eq_nil_of_le short, List.isEmpty_nil, if_pos rfl,
      number_significant]
  · have past := pastLast_le_number large digit (Nat.lt_of_not_le short)
    have outside : ∀ {number}, pastLast ≤ number → rules.represented number = .replacement := by
      intro number beyond
      apply if_neg
      exact fun admitted => Nat.not_lt_of_le beyond (rules.inCodeSpace admitted)
    have cut : boundedNumber base digits = pastLast := by
      apply if_neg
      rw [List.isEmpty_iff, List.drop_eq_nil_iff]
      exact short
    rw [cut, outside past, outside (Nat.le_refl _)]

theorem Rules.html_admits_iff (number : Nat) :
    html.admits number = true
      ↔ ¬(number = 0 ∨ (0xd800 ≤ number ∧ number ≤ 0xdfff)) ∧ number < 0x110000 := by
  simp only [html, Bool.not_eq_true', Bool.or_eq_false_iff, Bool.and_eq_false_iff,
    decide_eq_false_iff_not]
  omega

theorem Rules.represented_html (number : Nat) :
    html.represented number = CodePoint.ofReference number := by
  rw [CodePoint.ofReference]
  by_cases excluded : number = 0 ∨ (0xd800 ≤ number ∧ number ≤ 0xdfff)
  · rw [if_pos excluded]
    apply if_neg
    rw [html_admits_iff]
    exact fun admitted => admitted.1 excluded
  · rw [if_neg excluded]
    by_cases inside : number < 0x110000
    · exact if_pos ((html_admits_iff number).mpr ⟨excluded, inside⟩)
    · have outside : html.represented number = .replacement := by
        apply if_neg
        rw [html_admits_iff]
        exact fun admitted => inside admitted.2
      rw [outside, CodePoint.ofNat, dif_neg inside]

theorem Rules.xml_admits (number : Nat) : xml.admits number = Xml.isLegal number := by
  rw [Bool.eq_iff_iff, Xml.isLegal_iff]
  simp [xml, or_assoc]

/-- XML admits nothing that HTML does not. -/
theorem Rules.html_admits_of_xml {number : Nat} (admitted : xml.admits number = true) :
    html.admits number = true := by
  rw [xml_admits, Xml.isLegal_iff] at admitted
  rw [html_admits_iff]
  omega

theorem Rules.represented_xml (number : Nat) :
    Rules.xml.represented number = Xml.ofReference number := by
  rw [represented, xml_admits]
  rfl

theorem Rules.val_represented_html (number : Nat) :
    (html.represented number).val
      = if number = 0 ∨ (0xd800 ≤ number ∧ number ≤ 0xdfff) ∨ 0x10ffff < number then 0xfffd
        else number := by
  unfold represented
  split
  next admitted =>
    have bounds := (html_admits_iff number).mp admitted
    rw [CodePoint.val_ofNat bounds.2, if_neg (by omega)]
  next excluded =>
    rw [html_admits_iff] at excluded
    rw [if_pos (by omega)]
    rfl

theorem Rules.val_represented_xml (number : Nat) :
    (xml.represented number).val
      = if number = 0x9 ∨ number = 0xa ∨ number = 0xd ∨ (0x20 ≤ number ∧ number ≤ 0xd7ff)
          ∨ (0xe000 ≤ number ∧ number ≤ 0xfffd) ∨ (0x10000 ≤ number ∧ number ≤ 0x10ffff)
        then number else 0xfffd := by
  unfold represented
  split
  next admitted =>
    rw [CodePoint.val_ofNat (xml.inCodeSpace admitted)]
    rw [xml_admits, Xml.isLegal_iff] at admitted
    rw [if_pos (by omega)]
  next excluded =>
    rw [xml_admits, Xml.isLegal_iff] at excluded
    rw [if_neg (by omega)]
    rfl

end Numbers

end CharacterReference

end Escaping
