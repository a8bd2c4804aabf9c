import Escaping.Codec.Basic

/-!
VBScript string expressions. String literals of VBScript have no escapes, so a text becomes a
concatenation of quoted runs of plain characters and of calls that give one character by number.
-/

namespace Escaping

namespace VBScript

def call (point : CodePoint) : Text :=
  Text.ofString "chrw(" ++ Text.decimal point.val ++ Text.ofString ")"

def escape (point : CodePoint) : Text := if point.isAlphanumeric then [point] else call point

def codec : Codec := ⟨Text.ofString "VBScriptCodec", escape, none⟩

inductive Term where
  | literal (run : Text)
  | character (point : CodePoint)
deriving DecidableEq

def Term.written : Term → Text
  | .literal run => Text.ofString "\"" ++ run ++ Text.ofString "\""
  | .character point => call point

def Term.value : Term → Text
  | .literal run => run
  | .character point => [point]

/-- Closes a run of plain characters, which is held in reverse; an empty run gives no term. -/
def closeRun (reversed : Text) (terms : List Term) : List Term :=
  if reversed.isEmpty then terms else .literal reversed.reverse :: terms

/-- The terms for a text, after a run of plain characters that is held in reverse. -/
def termsAfter (plain : CodePoint → Bool) (reversed : Text) : Text → List Term
  | [] => closeRun reversed []
  | head :: tail =>
      if plain head then termsAfter plain (head :: reversed) tail
      else closeRun reversed (.character head :: termsAfter plain [] tail)

/-- The terms for a text: maximal runs of plain characters, and single ones between them. -/
def terms (plain : CodePoint → Bool) (text : Text) : List Term := termsAfter plain [] text

def isPlain (immune : List CodePoint) (point : CodePoint) : Bool :=
  decide (point ∈ immune) || point.isAlphanumeric

def expression (terms : List Term) : Text :=
  Text.join (Text.ofString "&") (terms.map Term.written)

def encode (immune : List CodePoint) (text : Text) : Text :=
  expression (terms (isPlain immune) text)

/-- Joins literals that stand next to each other into one. -/
def joinLiterals : List Term → List Term
  | [] => []
  | .literal run :: rest =>
      match joinLiterals rest with
      | .literal next :: others => .literal (run ++ next) :: others
      | others => .literal run :: others
  | .character point :: rest => .character point :: joinLiterals rest

theorem value_closeRun (reversed : Text) (terms : List Term) :
    (closeRun reversed terms).flatMap Term.value
      = reversed.reverse ++ terms.flatMap Term.value := by
  cases reversed with
  | nil => rfl
  | cons head tail => simp [closeRun, Term.value]

theorem value_termsAfter (plain : CodePoint → Bool) (reversed text : Text) :
    (termsAfter plain reversed text).flatMap Term.value = reversed.reverse ++ text := by
  induction text generalizing reversed with
  | nil => simp [termsAfter, value_closeRun]
  | cons head tail induction =>
      rw [termsAfter]
      split
      · simp [induction]
      · simp [value_closeRun, induction, Term.value]

theorem value_joinLiterals (terms : List Term) :
    (joinLiterals terms).flatMap Term.value = terms.flatMap Term.value := by
  fun_induction joinLiterals terms with
  | case1 => rfl
  | case2 run rest next others joined induction =>
      rw [joined] at induction
      simpa [Term.value] using induction
  | case3 run rest others induction => simp [induction]
  | case4 point rest induction => simp [induction]

theorem value_terms (plain : CodePoint → Bool) (text : Text) :
    (terms plain text).flatMap Term.value = text := by
  simp [terms, value_termsAfter]

end VBScript

end Escaping
