import Escaping.Proofs.Encoder.Confinement
import Escaping.Proofs.Text.Cutting
import Mathlib.Data.List.Chain
import Mathlib.Data.List.Forall2

/-!
String expressions of VBScript. An expression is read without regard to how it was made: it is cut
at its ampersands, a term in quotes gives what it encloses, and a call gives the code point that it
names. The encoder closes a run of plain characters in two places, before a call and at the end, so
its terms are followed through the run that it holds.
-/

namespace Escaping

namespace VBScript

variable {plain : CodePoint → Bool} {term value other : Text}

def ampersand : CodePoint := .ofChar '&'

def quote : CodePoint := .ofNat 0x22

/-- What a term of an expression gives: letters, digits and four more signs in quotes stand for
themselves, and a call for the code point whose number it holds. -/
inductive Denotes : Text → Text → Prop
  | literal {run : Text} (nonempty : run ≠ [])
      (plain : ∀ point ∈ run, point.AlphanumericOr [',', '.', '_', ' ']) :
      Denotes (quote :: (run ++ [quote])) run
  | character {digits : Text} {point : CodePoint} (nonempty : digits ≠ [])
      (decimal : ∀ digit ∈ digits, digit.isDecimalDigit = true)
      (number : Text.number 10 digits = point.val) :
      Denotes (Text.ofString "chrw(" ++ digits ++ Text.ofString ")") [point]

def IsQuoted (term : Text) : Prop := term.head? = some quote

theorem Denotes.ne_nil (denotes : Denotes term value) : term ≠ [] := by
  cases denotes with
  | literal => exact List.cons_ne_nil _ _
  | character => exact List.cons_ne_nil _ _

/-- No term holds an ampersand, so cutting an expression there parts its terms. -/
theorem Denotes.ampersand_not_mem (denotes : Denotes term value) : ampersand ∉ term := by
  intro member
  cases denotes with
  | literal nonempty plain =>
      rcases List.mem_cons.mp member with impossible | later
      · exact absurd impossible (by decide)
      · rcases List.mem_append.mp later with inside | impossible
        · exact absurd (plain ampersand inside) (by decide)
        · exact absurd impossible (by decide)
  | character nonempty decimal number =>
      rcases List.mem_append.mp member with earlier | impossible
      · rcases List.mem_append.mp earlier with impossible | inside
        · exact absurd impossible (by decide)
        · exact absurd (decimal ampersand inside) (by decide)
      · exact absurd impossible (by decide)

/-- A term gives one text. -/
theorem Denotes.unique (denotes : Denotes term value) (again : Denotes term other) :
    value = other := by
  cases denotes with
  | literal nonempty plain =>
      generalize whole : quote :: (value ++ [quote]) = written at again
      cases again with
      | literal => exact List.append_cancel_right (List.cons.inj whole).2
      | character => exact absurd (List.cons.inj whole).1 (by decide)
  | @character digits point nonempty decimal number =>
      generalize whole : Text.ofString "chrw(" ++ digits ++ Text.ofString ")" = written at again
      cases again with
      | literal => exact absurd (List.cons.inj whole).1 (by decide)
      | @character others otherPoint _ _ otherNumber =>
          have same : digits = others :=
            List.append_cancel_left (List.append_cancel_right whole)
          have equal : point = otherPoint := by
            apply CodePoint.ext
            rw [← number, ← otherNumber, same]
          rw [equal]

theorem isPlain_iff (signs : List CodePoint) (point : CodePoint) :
    isPlain signs point = true ↔ point.AlphanumericOr signs := by
  simp [isPlain, CodePoint.AlphanumericOr, or_comm]

theorem denotes_call (point : CodePoint) : Denotes (call point) [point] := by
  exact .character (Text.decimal_ne_nil point.val)
    (fun digit member => Text.isDecimalDigit_of_mem_decimal member) (Text.number_decimal point.val)

/-- A term is writable unless it is an empty literal or one of characters that are not plain. -/
def Term.Writable (plain : CodePoint → Bool) : Term → Prop
  | .literal run => run ≠ [] ∧ ∀ point ∈ run, plain point = true
  | .character _ => True

theorem closeRun_cons (head : CodePoint) (tail : Text) (terms : List Term) :
    closeRun (head :: tail) terms = .literal (head :: tail).reverse :: terms := rfl

/-- Closing a run adds a literal of what the run holds, or nothing where it holds nothing. -/
theorem writable_closeRun {reversed : Text} {terms : List Term}
    (held : ∀ point ∈ reversed, plain point = true) (each : ∀ term ∈ terms, term.Writable plain) :
    ∀ term ∈ closeRun reversed terms, term.Writable plain := by
  cases reversed with
  | nil => exact each
  | cons head tail =>
      rw [closeRun_cons]
      refine List.forall_mem_cons.mpr ⟨⟨?_, ?_⟩, each⟩
      · simp
      · exact fun point member => held point (List.mem_reverse.mp member)

theorem writable_termsAfter {reversed text : Text}
    (held : ∀ point ∈ reversed, plain point = true) :
    ∀ term ∈ termsAfter plain reversed text, term.Writable plain := by
  induction text generalizing reversed with
  | nil => exact writable_closeRun held (List.forall_mem_nil _)
  | cons head tail induction =>
      rw [termsAfter]
      split
      next stands => exact induction (List.forall_mem_cons.mpr ⟨stands, held⟩)
      next =>
        have behind : ∀ term ∈ termsAfter plain [] tail, term.Writable plain :=
          induction (List.forall_mem_nil _)
        exact writable_closeRun held (List.forall_mem_cons.mpr ⟨trivial, behind⟩)

/-- Of two neighbouring terms at most one is a literal. -/
def Apart (first second : Text) : Prop := ¬(IsQuoted first ∧ IsQuoted second)

theorem not_isQuoted_call (point : CodePoint) : ¬IsQuoted (call point) := by
  intro quoted
  exact absurd (Option.some.inj quoted) (by decide)

/-- A run is closed behind nothing or before a call. -/
theorem isChain_closeRun (reversed : Text) {terms : List Term}
    (chain : (terms.map Term.written).IsChain Apart)
    (opens : ∀ first ∈ (terms.map Term.written).head?, ¬IsQuoted first) :
    ((closeRun reversed terms).map Term.written).IsChain Apart := by
  cases reversed with
  | nil => exact chain
  | cons head tail =>
      rw [closeRun_cons, List.map_cons]
      exact List.isChain_cons.mpr ⟨fun next member both => opens next member both.2, chain⟩

theorem isChain_termsAfter (reversed text : Text) :
    ((termsAfter plain reversed text).map Term.written).IsChain Apart := by
  -- The run that is held has no term yet, so the chain is built behind it from the end.
  induction text generalizing reversed with
  | nil => exact isChain_closeRun reversed .nil nofun
  | cons head tail induction =>
      rw [termsAfter]
      split
      next => exact induction (head :: reversed)
      next =>
        apply isChain_closeRun
        · rw [List.map_cons]
          apply List.isChain_cons.mpr
          exact ⟨fun next _ both => not_isQuoted_call head both.1, induction []⟩
        · intro first member
          cases member
          exact not_isQuoted_call head

theorem denotes_written {term : Term} (writable : term.Writable (isPlain [',', '.', '_', ' '])) :
    Denotes term.written term.value := by
  cases term with
  | literal run =>
      exact .literal writable.1 fun point member =>
        (isPlain_iff _ point).mp (writable.2 point member)
  | character point => exact denotes_call point

/-- The terms of a text, as they are written, give the pieces that the text consists of. -/
theorem denotes_terms (text : Text) :
    List.Forall₂ Denotes ((terms (isPlain [',', '.', '_', ' ']) text).map Term.written)
      ((terms (isPlain [',', '.', '_', ' ']) text).map Term.value) := by
  apply List.forall₂_map_left_iff.mpr
  apply List.forall₂_map_right_iff.mpr
  exact List.forall₂_same.mpr fun term member =>
    denotes_written (writable_termsAfter (List.forall_mem_nil _) term member)

theorem terms_eq_nil_iff (text : Text) : terms plain text = [] ↔ text = [] := by
  constructor
  · intro none
    have value := value_terms plain text
    rw [none] at value
    exact value.symm
  · rintro rfl
    rfl

/-- Terms are found again in the expression that joins them. -/
theorem splitAt_join_of_denotes {parts values : List Text} (nonempty : parts ≠ [])
    (denotes : List.Forall₂ Denotes parts values) :
    Text.splitAt ampersand (Text.join [ampersand] parts) = parts := by
  apply Text.splitAt_join nonempty
  have clean := denotes.imp fun _ _ each => And.intro each.ampersand_not_mem each
  exact ((List.forall₂_and_left _ _).mp clean).1

theorem splitAt_encode {text : Text} (nonempty : text ≠ []) :
    Text.splitAt ampersand (encode [',', '.', '_', ' '] text)
      = (terms (isPlain [',', '.', '_', ' ']) text).map Term.written := by
  apply splitAt_join_of_denotes _ (denotes_terms text)
  intro none
  exact nonempty ((terms_eq_nil_iff text).mp (List.map_eq_nil_iff.mp none))

/-- Nothing but an empty text is written as an empty expression, which no term could make up. -/
theorem encode_eq_nil_iff (text : Text) : encode [',', '.', '_', ' '] text = [] ↔ text = [] := by
  constructor
  · intro empty
    by_contra nonempty
    have written := denotes_terms text
    rw [← splitAt_encode nonempty, empty] at written
    rcases List.forall₂_cons_left_iff.mp written with ⟨value, _, denotes, _⟩
    exact denotes.ne_nil rfl
  · rintro rfl
    rfl

end VBScript

/-- A text is written as an expression that can be read in one way only, and reads as the text. -/
theorem Encoder.perform_vbScript_evaluates (encoder : Encoder) (text : Text) :
    ∃ output, encoder.perform (.encode .vbScript (.text text)) = ⟨.ok (.text output), []⟩
      ∧ (output = [] ↔ text = [])
      ∧ (text ≠ [] → ∃ values,
        List.Forall₂ VBScript.Denotes (Text.splitAt VBScript.ampersand output) values
          ∧ values.flatten = text
          ∧ (Text.splitAt VBScript.ampersand output).IsChain VBScript.Apart
          ∧ ∀ parts others, output = Text.join [VBScript.ampersand] parts →
            List.Forall₂ VBScript.Denotes parts others →
            parts = Text.splitAt VBScript.ampersand output ∧ others = values) := by
  refine ⟨Context.vbScript.encode text, rfl, VBScript.encode_eq_nil_iff text, fun nonempty => ?_⟩
  have written := VBScript.denotes_terms text
  have chain : ((VBScript.terms (VBScript.isPlain [',', '.', '_', ' ']) text).map
      VBScript.Term.written).IsChain VBScript.Apart := VBScript.isChain_termsAfter [] text
  rw [← VBScript.splitAt_encode nonempty] at written chain
  refine ⟨_, written, ?_, chain, ?_⟩
  · rw [← List.flatMap_def, VBScript.value_terms]
  · intro parts others equal denotes
    have several : parts ≠ [] := by
      rintro rfl
      exact nonempty ((VBScript.encode_eq_nil_iff text).mp equal)
    have same := VBScript.splitAt_join_of_denotes several denotes
    rw [← equal] at same
    refine ⟨same.symm, ?_⟩
    rw [← same] at denotes
    have oneValue : Relator.RightUnique VBScript.Denotes := fun _ _ _ => VBScript.Denotes.unique
    exact List.right_unique_forall₂' oneValue denotes written

/-- A run of plain characters stands between a quote and an ampersand, which are calls. -/
theorem Encoder.perform_vbScript_evaluates_quoteAndAmpersand :
    let encoder : Encoder := ⟨.standard, ⟨[.percent, .html], .failing, nofun, by decide, by decide⟩⟩
    let output := Text.ofString "chrw(34)&\"a b\"&chrw(38)"
    encoder.perform (.encode .vbScript (.text (Text.ofString "\"a b&"))) = ⟨.ok (.text output), []⟩
      ∧ ∃ values, List.Forall₂ VBScript.Denotes (Text.splitAt VBScript.ampersand output) values
        ∧ values.flatten = Text.ofString "\"a b&" := by
  intro encoder output
  have written : Context.vbScript.encode (Text.ofString "\"a b&") = output := by decide +kernel
  rcases encoder.perform_vbScript_evaluates (Text.ofString "\"a b&") with
    ⟨_, performed, _, evaluates⟩
  rw [perform_encode_text, written] at performed
  cases performed
  rcases evaluates (by decide) with ⟨values, denotes, whole, _⟩
  exact ⟨by rw [perform_encode_text, written], values, denotes, whole⟩

end Escaping
