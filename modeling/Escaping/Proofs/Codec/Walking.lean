import Escaping.Proofs.Codec.Contraction
import Escaping.Proofs.Codec.Escapes

/-!
The plain walk along a text. At each position it replaces the escape that starts there, or keeps the
code point that stands there; it looks for nothing ahead and reads nothing that has been written.
A pass of a codec jumps from lead to lead and copies what lies between them, and it comes to the
same. The walk cuts a text into pieces that make up the whole of it, each of them written once.
-/

namespace Escaping

namespace Codec

variable {codec : Codec} {decoder : Decoder} {text : Text} {position : Nat}

/-- Walks along a text from a position to its end, with what has been written and counted before. -/
def walkFrom (codec : Codec) (text : Text) (position : Nat) (written : Text) (count : Nat) :
    Replaced :=
  if within : position < text.length then
    match matched : codec.decodeAt text position with
    | some found => codec.walkFrom text found.stop (written ++ found.text) (count + 1)
    | none => codec.walkFrom text (position + 1) (written ++ [text[position]]) count
  else ⟨written, count⟩
termination_by text.length - position
decreasing_by
  · have behind := lt_stop_of_decodeAt matched
    omega
  · omega

/-- A walk adds to what it started with what a scan makes of the text ahead. -/
theorem walkFrom_eq_scan (decodes : codec.decoder = some decoder) (text : Text) (position : Nat)
    (written : Text) (count : Nat) :
    codec.walkFrom text position written count
      = ⟨written ++ (decoder.scan (text.drop position)).text,
        count + (decoder.scan (text.drop position)).count⟩ := by
  fun_induction walkFrom codec text position written count with
  | case1 position written count within found matched induction =>
      rw [decodeAt_eq_findAt decodes] at matched
      rw [induction, Decoder.scan_drop_of_some matched, Replaced.text_replace,
        Replaced.count_replace, List.append_assoc, Nat.add_assoc, Nat.add_comm 1]
  | case2 position written count within absent induction =>
      rw [decodeAt_eq_findAt decodes] at absent
      rw [induction, Decoder.scan_drop_of_none within absent, Replaced.text_keep,
        Replaced.count_keep, List.append_assoc]
  | case3 position written count beyond =>
      rw [List.drop_eq_nil_of_le (Nat.le_of_not_lt beyond), Decoder.scan_nil, List.append_nil,
        Nat.add_zero]

theorem walkFrom_of_none (encodesOnly : codec.decoder = none) (text : Text) (position : Nat)
    (written : Text) (count : Nat) :
    codec.walkFrom text position written count = ⟨written ++ text.drop position, count⟩ := by
  fun_induction walkFrom codec text position written count with
  | case1 position written count within found matched =>
      rw [decodeAt, encodesOnly] at matched
      cases matched
  | case2 position written count within absent induction =>
      rw [induction, List.append_assoc, List.singleton_append, ← List.drop_eq_getElem_cons within]
  | case3 position written count beyond =>
      rw [List.drop_eq_nil_of_le (Nat.le_of_not_lt beyond), List.append_nil]

/-- A pass of any codec is the walk along the whole text. -/
theorem decodePass_eq_walkFrom (codec : Codec) (text : Text) :
    codec.decodePass text = codec.walkFrom text 0 [] 0 := by
  cases decodes : codec.decoder with
  | none =>
      rw [decodePass_of_none decodes, walkFrom_of_none decodes, List.nil_append, List.drop_zero]
  | some decoder =>
      rw [decodePass_eq_scan decodes, walkFrom_eq_scan decodes, List.nil_append, List.drop_zero,
        Nat.zero_add]

end Codec

/-- A piece of a text, as a walk meets it: a code point that it keeps, or an escape that it replaces
by an image. -/
inductive Piece where
  | kept (point : CodePoint)
  | escape (source image : Text)
deriving DecidableEq

namespace Piece

def source : Piece → Text
  | kept point => [point]
  | escape source _ => source

def image : Piece → Text
  | kept point => [point]
  | escape _ image => image

def isEscape : Piece → Bool
  | kept _ => false
  | escape _ _ => true

/-- What the codec finds at a position of the text is this piece. -/
def StandsAt (codec : Codec) (text : Text) (position : Nat) : Piece → Prop
  | kept point => text[position]? = some point ∧ codec.decodeAt text position = none
  | escape source image =>
      source = (text.drop position).take source.length
        ∧ codec.decodeAt text position = some ⟨image, position + source.length⟩

end Piece

/-- Pieces that stand one behind the other, from a position to the end of the text. -/
inductive Codec.Cuts (codec : Codec) (text : Text) : Nat → List Piece → Prop
  | nil : Cuts codec text text.length []
  | cons {position : Nat} {piece : Piece} {pieces : List Piece} :
      piece.StandsAt codec text position →
      Cuts codec text (position + piece.source.length) pieces →
      Cuts codec text position (piece :: pieces)

namespace Codec.Cuts

variable {codec : Codec} {decoder : Decoder} {text : Text} {position : Nat} {pieces : List Piece}

/-- Pieces make up the text that they are cut from. -/
theorem flatMap_source (cuts : codec.Cuts text position pieces) :
    pieces.flatMap Piece.source = text.drop position := by
  induction cuts with
  | nil => rw [List.drop_length, List.flatMap_nil]
  | @cons position piece pieces stands _ induction =>
      rw [List.flatMap_cons, induction]
      cases piece with
      | kept point =>
          rcases List.getElem?_eq_some_iff.mp stands.1 with ⟨within, here⟩
          rw [List.drop_eq_getElem_cons within, here]
          rfl
      | escape source image =>
          have opening : source = (text.drop position).take source.length := stands.1
          have halves := List.take_append_drop source.length (text.drop position)
          rw [← opening, List.drop_drop] at halves
          exact halves

/-- A scan writes the images of the pieces, and counts those that are escapes. -/
theorem scan_eq (decodes : codec.decoder = some decoder)
    (cuts : codec.Cuts text position pieces) :
    decoder.scan (text.drop position)
      = ⟨pieces.flatMap Piece.image, pieces.countP Piece.isEscape⟩ := by
  induction cuts with
  | nil => rw [List.drop_length, Decoder.scan_nil, List.flatMap_nil, List.countP_nil]
  | @cons position piece pieces stands _ induction =>
      cases piece with
      | kept point =>
          rcases List.getElem?_eq_some_iff.mp stands.1 with ⟨within, here⟩
          have following : decoder.scan (text.drop (position + 1)) = _ := induction
          have absent := stands.2
          rw [decodeAt_eq_findAt decodes] at absent
          rw [Decoder.scan_drop_of_none within absent, following, here]
          rfl
      | escape source image =>
          have following : decoder.scan (text.drop (position + source.length)) = _ := induction
          have matched := stands.2
          rw [decodeAt_eq_findAt decodes] at matched
          rw [Decoder.scan_drop_of_some matched, following, List.countP_cons_of_pos (by rfl)]
          rfl

theorem image_of_none (encodesOnly : codec.decoder = none)
    (cuts : codec.Cuts text position pieces) :
    pieces.flatMap Piece.image = pieces.flatMap Piece.source
      ∧ pieces.countP Piece.isEscape = 0 := by
  induction cuts with
  | nil => exact ⟨rfl, rfl⟩
  | @cons position piece pieces stands _ induction =>
      cases piece with
      | kept point =>
          rw [List.flatMap_cons, List.flatMap_cons, induction.1,
            List.countP_cons_of_neg (by exact Bool.false_ne_true)]
          exact ⟨rfl, induction.2⟩
      | escape source image =>
          have matched := stands.2
          rw [decodeAt, encodesOnly] at matched
          cases matched

end Codec.Cuts

namespace Scheme

variable {scheme : Scheme} {text : Text} {position : Nat}

/-- An escape lies within the text, and it is longer than what it stands for. -/
theorem bounds_of_decodeAt {found : Found}
    (matched : scheme.codec.decodeAt text position = some found) :
    found.stop ≤ text.length ∧ position + found.text.length < found.stop := by
  cases decodes : scheme.codec.decoder with
  | none =>
      rw [Codec.decodeAt, decodes] at matched
      cases matched
  | some decoder =>
      rcases (Codec.decodeAt_eq_some_iff decodes).mp matched with
        ⟨tail, unescaped, here, read, same⟩
      subst same
      have within := (contracting decodes).taken_le read
      have shorter := (contracting decodes).length_le read
      have remaining := congrArg List.length here
      rw [List.length_drop, List.length_cons] at remaining
      dsimp only
      omega

/-- Every text is cut into pieces, from any position in it. -/
theorem exists_cuts (scheme : Scheme) (text : Text) (position : Nat)
    (within : position ≤ text.length) : ∃ pieces, scheme.codec.Cuts text position pieces := by
  rcases Nat.eq_or_lt_of_le within with finished | before
  · subst finished
    exact ⟨[], .nil⟩
  · cases matched : scheme.codec.decodeAt text position with
    | none =>
        rcases exists_cuts scheme text (position + 1) before with ⟨pieces, cuts⟩
        exact ⟨.kept text[position] :: pieces,
          .cons ⟨List.getElem?_eq_getElem before, matched⟩ cuts⟩
    | some found =>
        have bounds := bounds_of_decodeAt matched
        rcases exists_cuts scheme text found.stop bounds.1 with ⟨pieces, cuts⟩
        let source := (text.drop position).take (found.stop - position)
        have length : source.length = found.stop - position := by
          rw [List.length_take, List.length_drop]
          omega
        have stop : position + source.length = found.stop := by
          omega
        refine ⟨.escape source found.text :: pieces, .cons ⟨?_, ?_⟩ ?_⟩
        · rw [length]
        · rw [stop, matched]
        · rw [Piece.source, stop]
          exact cuts
termination_by text.length - position

/-- A pass is the plain walk from the start of the text to its end. It loses nothing and writes
nothing twice: the pieces that it meets make up the text, each one stands in the text itself, and
what the pass gives is their images in order and the number of the escapes among them. -/
theorem decodePass_eq_walk (scheme : Scheme) (text : Text) :
    scheme.codec.decodePass text = scheme.codec.walkFrom text 0 [] 0
      ∧ ∃ pieces, scheme.codec.Cuts text 0 pieces
        ∧ pieces.flatMap Piece.source = text
        ∧ scheme.codec.decodePass text
          = ⟨pieces.flatMap Piece.image, pieces.countP Piece.isEscape⟩ := by
  refine ⟨scheme.codec.decodePass_eq_walkFrom text, ?_⟩
  rcases exists_cuts scheme text 0 (Nat.zero_le _) with ⟨pieces, cuts⟩
  have whole := cuts.flatMap_source
  rw [List.drop_zero] at whole
  refine ⟨pieces, cuts, whole, ?_⟩
  cases decodes : scheme.codec.decoder with
  | none =>
      rcases cuts.image_of_none decodes with ⟨unchanged, nothing⟩
      rw [Codec.decodePass_of_none decodes, unchanged, whole, nothing]
  | some decoder =>
      rw [Codec.decodePass_eq_scan decodes, ← cuts.scan_eq decodes, List.drop_zero]

/-- A percent sign before an escape stays, and so does what comes out of the escape. -/
example : Percent.codec.walkFrom (Text.ofString "%%2541%") 0 [] 0
    = ⟨Text.ofString "%%41%", 1⟩ := by
  rw [← Codec.decodePass_eq_walkFrom]
  decide +kernel

end Scheme

end Escaping
