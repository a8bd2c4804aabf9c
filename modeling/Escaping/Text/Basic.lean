import Escaping.Text.CodePoint

/-!
Texts are lists of code points. Lengths and positions count code points, and a high surrogate
followed by a low one stays two of them.
-/

namespace Escaping

abbrev Text := List CodePoint

instance : LawfulBEq Text := inferInstanceAs (LawfulBEq (List CodePoint))

namespace Text

def ofString (string : String) : Text := string.toList.map CodePoint.ofChar

instance : Coe String Text := ⟨ofString⟩

def join (separator : Text) : List Text → Text
  | [] => []
  | [item] => item
  | item :: next :: rest => item ++ separator ++ join separator (next :: rest)

def splitAt (separator : CodePoint) : Text → List Text
  | [] => [[]]
  | head :: tail =>
      if head = separator then [] :: splitAt separator tail
      else match splitAt separator tail with
        | [] => [[head]]
        | part :: parts => (head :: part) :: parts

def cutFirst (separator : CodePoint) : Text → Option (Text × Text)
  | [] => none
  | head :: tail =>
      if head = separator then some ([], tail)
      else (cutFirst separator tail).map fun (before, after) => (head :: before, after)

def cutLast (separator : CodePoint) : Text → Option (Text × Text)
  | [] => none
  | head :: tail =>
      match cutLast separator tail with
      | some (before, after) => some (head :: before, after)
      | none => if head = separator then some ([], tail) else none

def stripOpening : Text → Text → Option Text
  | [], text => some text
  | _ :: _, [] => none
  | expected :: opening, head :: tail =>
      if head = expected then stripOpening opening tail else none

def isPartOf (part : Text) : Text → Bool
  | [] => part.isEmpty
  | head :: tail => part.isPrefixOf (head :: tail) || isPartOf part tail

/-- Order by code points, a proper opening before what it opens. -/
def precedes : Text → Text → Bool
  | [], _ => true
  | _ :: _, [] => false
  | left :: lefts, right :: rights =>
      if left.val < right.val then true
      else if right.val < left.val then false
      else precedes lefts rights

def sorted (texts : List Text) : List Text := texts.mergeSort precedes

def trim (drops : CodePoint → Bool) (text : Text) : Text :=
  ((text.dropWhile drops).reverse.dropWhile drops).reverse

def lowerAscii (text : Text) : Text :=
  text.map fun point =>
    if 0x41 ≤ point.val && point.val ≤ 0x5a then CodePoint.ofNat (point.val + 0x20) else point

theorem splitAt_ne_nil (separator : CodePoint) (text : Text) : splitAt separator text ≠ [] := by
  cases text with
  | nil => simp [splitAt]
  | cons head tail =>
      simp only [splitAt]
      split
      · simp
      · split <;> simp

theorem join_splitAt (separator : CodePoint) (text : Text) :
    join [separator] (splitAt separator text) = text := by
  induction text with
  | nil => rfl
  | cons head tail induction =>
      simp only [splitAt]
      split
      next equal =>
        cases parts : splitAt separator tail with
        | nil => exact absurd parts (splitAt_ne_nil separator tail)
        | cons part rest => simp [join, ← parts, induction, equal]
      next =>
        cases parts : splitAt separator tail with
        | nil => exact absurd parts (splitAt_ne_nil separator tail)
        | cons part rest =>
            rw [parts] at induction
            cases rest with
            | nil => simpa [join] using induction
            | cons next others => simpa [join] using induction

theorem isPartOf_iff (part whole : Text) : part.isPartOf whole = true ↔ part <:+: whole := by
  induction whole with
  | nil => simp [isPartOf]
  | cons head tail induction =>
      rw [isPartOf, Bool.or_eq_true, induction, List.isPrefixOf_iff_prefix, List.infix_cons_iff]

theorem append_of_stripOpening {opening text rest : Text}
    (stripped : stripOpening opening text = some rest) : opening ++ rest = text := by
  induction opening generalizing text with
  | nil => simpa [stripOpening] using stripped.symm
  | cons expected opening induction =>
      cases text with
      | nil => simp [stripOpening] at stripped
      | cons head tail =>
          simp only [stripOpening] at stripped
          split at stripped
          next equal => simp [equal, induction stripped]
          next => simp at stripped

end Text

end Escaping
