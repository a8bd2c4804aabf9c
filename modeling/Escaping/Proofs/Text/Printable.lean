import Escaping.Text.Quoted

/-!
Text that shows on one line just as it stands. Every code point of it is printable, so that none of
it breaks the line, steers how the line is laid out, or fails to show. Quoted forms are such texts,
whatever text they quote.
-/

namespace Escaping

namespace Printable

def controls : List (Nat × Nat) := [(0x0, 0x1f), (0x7f, 0x9f)]

/-- The separators of lines and of paragraphs. -/
def separators : List (Nat × Nat) := [(0x2028, 0x2029)]

/-- Code points that steer the layout of text and have no shape of their own, by the general
category Cf of Unicode 14. -/
def formats : List (Nat × Nat) :=
  [(0xad, 0xad), (0x600, 0x605), (0x61c, 0x61c), (0x6dd, 0x6dd), (0x70f, 0x70f), (0x890, 0x891),
   (0x8e2, 0x8e2), (0x180e, 0x180e), (0x200b, 0x200f), (0x202a, 0x202e), (0x2060, 0x2064),
   (0x2066, 0x206f), (0xfeff, 0xfeff), (0xfff9, 0xfffb), (0x110bd, 0x110bd), (0x110cd, 0x110cd),
   (0x13430, 0x13438), (0x1bca0, 0x1bca3), (0x1d173, 0x1d17a), (0xe0001, 0xe0001),
   (0xe0020, 0xe007f)]

def surrogates : List (Nat × Nat) := [(0xd800, 0xdfff)]

/-- First and last of each range of code points that act on the text around them. -/
def disruptive : List (Nat × Nat) := controls ++ separators ++ formats ++ surrogates

theorem disruptive_subset :
    ∀ range ∈ disruptive, ∃ outer ∈ excluded, outer.1 ≤ range.1 ∧ range.2 ≤ outer.2 := by
  decide +kernel

theorem disruptive_outside_ascii : ∀ range ∈ disruptive, range.2 < 0x20 ∨ 0x7f ≤ range.1 := by
  decide

/-- A code point that acts on the text around it is not printable. -/
theorem outside_of_isPrintable {point : CodePoint} (printable : point.isPrintable = true)
    {range : Nat × Nat} (member : range ∈ disruptive) :
    ¬(range.1 ≤ point.val ∧ point.val ≤ range.2) := by
  rintro ⟨above, below⟩
  unfold CodePoint.isPrintable at printable
  split at printable
  next ascii =>
    have visible := of_decide_eq_true printable
    have apart := disruptive_outside_ascii range member
    omega
  next =>
    rcases disruptive_subset range member with ⟨outer, inTable, first, last⟩
    rw [Bool.not_eq_true', List.any_eq_false] at printable
    have apart := printable outer inTable
    simp only [Bool.and_eq_true, decide_eq_true_eq] at apart
    omega

end Printable

namespace Text

def IsPrintable (text : Text) : Prop := ∀ point ∈ text, point.isPrintable = true

instance (text : Text) : Decidable text.IsPrintable :=
  inferInstanceAs (Decidable (∀ point ∈ text, point.isPrintable = true))

/-- A text that shows on one line as it stands. -/
structure OnOneLine (text : Text) : Prop where
  printable : text.IsPrintable
  harmless : ∀ point ∈ text, ∀ range ∈ Printable.disruptive,
    ¬(range.1 ≤ point.val ∧ point.val ≤ range.2)

theorem IsPrintable.onOneLine {text : Text} (printable : text.IsPrintable) : text.OnOneLine where
  printable := printable
  harmless point member _ inTable :=
    Printable.outside_of_isPrintable (printable point member) inTable

theorem IsPrintable.append {left right : Text} (first : left.IsPrintable)
    (second : right.IsPrintable) : (left ++ right).IsPrintable :=
  List.forall_mem_append.mpr ⟨first, second⟩

theorem IsPrintable.take {text : Text} (printable : text.IsPrintable) (length : Nat) :
    IsPrintable (text.take length) :=
  fun point member => printable point (List.mem_of_mem_take member)

theorem isPrintable_join {separator : Text} (between : separator.IsPrintable) :
    ∀ {parts : List Text}, (∀ part ∈ parts, part.IsPrintable) → (join separator parts).IsPrintable
  | [], _ => fun _ member => nomatch member
  | [part], each => each part List.mem_cons_self
  | part :: next :: rest, each => by
      rcases List.forall_mem_cons.mp each with ⟨first, others⟩
      exact (first.append between).append (isPrintable_join between others)

theorem isPrintable_decimal (number : Nat) : (decimal number).IsPrintable := by
  intro point member
  rcases List.mem_map.mp member with ⟨digit, inDigits, rfl⟩
  have small := Digits.lt_of_mem_ofNat (by omega) inDigits
  exact Quoted.isPrintable_lowerDigit (by omega)

theorem isPrintable_integer (number : Int) : (integer number).IsPrintable := by
  cases number with
  | ofNat number => exact isPrintable_decimal number
  | negSucc below =>
      have sign : (CodePoint.ofChar '-').isPrintable = true := by decide
      exact List.forall_mem_cons.mpr ⟨sign, isPrintable_decimal (below + 1)⟩

end Text

namespace Quoted

/-- The quotes that a text can stand in. -/
def quotes : List CodePoint := [singleQuote, doubleQuote]

theorem quoteFor_mem (text : Text) : quoteFor text ∈ quotes := by
  unfold quoteFor
  split <;> decide

variable {quote : CodePoint}

theorem mem_of_special (known : quote ∈ quotes) {point : CodePoint}
    (special : point = quote ∨ point = backslash) : point ∈ backslash :: quotes := by
  rcases special with rfl | rfl
  · exact List.mem_cons_of_mem _ known
  · exact List.mem_cons_self

theorem isPrintable_escape (known : quote ∈ quotes) (point : CodePoint) :
    (escape quote point).IsPrintable := by
  have marks : ∀ each ∈ backslash :: quotes, each.isPrintable = true := by decide
  unfold escape
  split
  next special =>
    have mark := marks point (mem_of_special known special)
    exact List.forall_mem_cons.mpr ⟨by decide, List.forall_mem_singleton.mpr mark⟩
  next =>
    split
    next letter short =>
      have letters : Text.IsPrintable [backslash, letter] := by
        unfold shortEscape? at short
        split at short <;> cases short <;> decide
      exact letters
    next =>
      split
      next printable => exact List.forall_mem_singleton.mpr printable
      next => exact fun _ member => isPrintable_of_mem_numericEscape member

/-- Whatever a text holds, its quoted form shows on one line. -/
theorem isPrintable_text (text : Text) : (Quoted.text text).IsPrintable := by
  have known := quoteFor_mem text
  have mark : (quoteFor text).isPrintable = true := by
    have marks : ∀ each ∈ quotes, each.isPrintable = true := by decide
    exact marks _ known
  have inside : Text.IsPrintable (text.flatMap (escape (quoteFor text))) := by
    intro point member
    rcases List.mem_flatMap.mp member with ⟨each, _, written⟩
    exact isPrintable_escape known each point written
  have opened : Text.IsPrintable (quoteFor text :: text.flatMap (escape (quoteFor text))) :=
    List.forall_mem_cons.mpr ⟨mark, inside⟩
  exact opened.append (List.forall_mem_singleton.mpr mark)

end Quoted

end Escaping
