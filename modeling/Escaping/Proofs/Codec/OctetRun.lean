import Escaping.Codec.Ldap
import Escaping.Codec.Percent
import Escaping.Proofs.Codec.Scanning
import Escaping.Proofs.Text.Digits
import Escaping.Proofs.Text.Utf8

/-!
Octet runs read back. An encoder writes one character at a time and a decoder reads a whole run, so
what is proved of a character has to allow for a run that goes on after it: the octets of the
character and those that follow are decoded together, and come apart again.
-/

namespace Escaping

namespace OctetRun

variable {lead : CodePoint} {print : Nat → CodePoint}

/-- The octets of the run at the start of a text, which has a lead of its own. -/
def runAt (lead : CodePoint) : Text → Octets
  | head :: tail => if head = lead then read lead tail else []
  | [] => []

theorem runAt_lead (lead : CodePoint) (tail : Text) : runAt lead (lead :: tail) = read lead tail :=
  if_pos rfl

theorem read_cons {high low : CodePoint} {octet : UInt8} (written : octet? high low = some octet)
    (rest : Text) : read lead (high :: low :: rest) = octet :: runAt lead rest := by
  cases rest with
  | nil =>
      rw [read, written]
      rfl
  | cons next tail =>
      rw [read, written]
      rfl

/-- Every octet of a run takes a lead and two digits. -/
theorem length_read_le (lead : CodePoint) (text : Text) :
    3 * (read lead text).length ≤ text.length + 1 := by
  fun_induction read lead text with
  | case1 => simp
  | case2 high low rest octet written induction =>
      cases rest with
      | nil => simp
      | cons next tail =>
          simp only [List.length_cons] at induction ⊢
          split
          · omega
          · rw [List.length_nil]
            omega
  | case3 => simp

/-- An octet as the lead and two digits. -/
def writtenOctet (lead : CodePoint) (print : Nat → CodePoint) (octet : UInt8) : Text :=
  lead :: (Digits.fixed 16 2 octet.toNat).map print

theorem length_flatMap_writtenOctet (lead : CodePoint) (print : Nat → CodePoint)
    (octets : Octets) :
    (octets.flatMap (writtenOctet lead print)).length = 3 * octets.length := by
  induction octets with
  | nil => rfl
  | cons octet others induction =>
      rw [List.flatMap_cons, List.length_append, induction, writtenOctet, List.length_cons,
        List.length_map, Digits.length_fixed, List.length_cons]
      omega

theorem escape_eq (point : CodePoint) :
    escape lead print point = (Utf8.ofCodePoint point).flatMap (writtenOctet lead print) := rfl

theorem runAt_writtenOctet (prints : Digits.PrintsHex print) (octet : UInt8) (rest : Text) :
    runAt lead (writtenOctet lead print octet ++ rest) = octet :: runAt lead rest := by
  have small := octet.toNat_lt
  have both : octet? (print (octet.toNat / 16 % 16)) (print (octet.toNat % 16)) = some octet := by
    have number := prints.number_fixed 2 octet.toNat (by simpa using small)
    have digits : (Digits.fixed 16 2 octet.toNat).map print
        = [print (octet.toNat / 16 % 16), print (octet.toNat % 16)] := rfl
    rw [digits] at number
    rw [octet?, number, UInt8.ofNat_toNat]
    apply if_pos
    exact ⟨prints.isHexDigit (Nat.mod_lt _ (by omega)), prints.isHexDigit (Nat.mod_lt _ (by omega))⟩
  rw [writtenOctet, List.cons_append, runAt_lead]
  exact read_cons both rest

theorem runAt_flatMap_append (prints : Digits.PrintsHex print) (octets : Octets) (rest : Text) :
    runAt lead (octets.flatMap (writtenOctet lead print) ++ rest) = octets ++ runAt lead rest := by
  induction octets with
  | nil => rfl
  | cons octet others induction =>
      rw [List.flatMap_cons, List.append_assoc, runAt_writtenOctet prints, induction]
      rfl

/-- Where a text starts with a run, the run reads as one escape. -/
theorem unescape_of_runAt {text : Text} (run : runAt lead text ≠ []) :
    ∃ tail, text = lead :: tail
      ∧ unescape lead tail
        = some ⟨Utf8.decode (runAt lead text), 3 * (runAt lead text).length - 1⟩ := by
  cases text with
  | nil => exact absurd rfl run
  | cons head tail =>
      by_cases starts : head = lead
      · subst starts
        rw [runAt_lead] at run ⊢
        refine ⟨tail, rfl, ?_⟩
        simp [unescape, run]
      · exact absurd (if_neg starts) run

/-- Reading takes the run at the start of a text as one piece of UTF-8 and then goes on. -/
theorem scan_eq (lead : CodePoint) (text : Text) :
    (Decoder.scan ⟨lead, unescape lead⟩ text).text
      = Utf8.decode (runAt lead text)
        ++ (Decoder.scan ⟨lead, unescape lead⟩
          (text.drop (3 * (runAt lead text).length))).text := by
  by_cases empty : runAt lead text = []
  · simp [empty, Utf8.decode]
  · rcases unescape_of_runAt empty with ⟨tail, rfl, matched⟩
    have positive : 0 < (runAt lead (lead :: tail)).length := List.length_pos_iff.mpr empty
    have taken : 3 * (runAt lead (lead :: tail)).length
        = 3 * (runAt lead (lead :: tail)).length - 1 + 1 := by omega
    have read := @Decoder.scan_lead_of_some ⟨lead, unescape lead⟩ tail _ matched
    rw [read, Replaced.text_replace, taken, List.drop_succ_cons]
    rfl

/-- A character comes apart from the run that it opens. -/
theorem scan_escape_append (prints : Digits.PrintsHex print) {point : CodePoint}
    (scalar : point.isSurrogate = false) (rest : Text) :
    (Decoder.scan ⟨lead, unescape lead⟩ (escape lead print point ++ rest)).text
      = point :: (Decoder.scan ⟨lead, unescape lead⟩ rest).text := by
  have written := length_flatMap_writtenOctet lead print (Utf8.ofCodePoint point)
  rw [scan_eq, escape_eq, runAt_flatMap_append prints, Utf8.decode_ofCodePoint_append scalar,
    List.length_append, Nat.mul_add, ← written, List.drop_length_add_append, List.cons_append,
    ← scan_eq]

/-- Every character is read as something, even a surrogate. -/
theorem unescape_escape (lead : CodePoint) (prints : Digits.PrintsHex print) (point : CodePoint) :
    ∃ body, escape lead print point = lead :: body
      ∧ ∀ rest, unescape lead (body ++ rest) ≠ none := by
  have written : ∀ rest, runAt lead (escape lead print point ++ rest) ≠ [] := by
    intro rest empty
    rw [escape_eq, runAt_flatMap_append prints] at empty
    exact Utf8.ofCodePoint_ne_nil point (List.append_eq_nil_iff.mp empty).1
  rcases unescape_of_runAt (written []) with ⟨body, starts, _⟩
  rw [List.append_nil] at starts
  refine ⟨body, starts, fun rest => ?_⟩
  rcases unescape_of_runAt (written rest) with ⟨tail, whole, matched⟩
  rw [starts, List.cons_append, List.cons.injEq] at whole
  rw [whole.2, matched]
  exact Option.some_ne_none _

theorem mem_escape (prints : Digits.PrintsHex print) {point each : CodePoint}
    (member : each ∈ escape lead print point) : each = lead ∨ each.isAlphanumeric = true := by
  rcases List.mem_flatMap.mp member with ⟨octet, _, inOctet⟩
  rcases List.mem_cons.mp inOctet with rfl | digit
  · exact .inl rfl
  · exact .inr (CodePoint.isAlphanumeric_of_isHexDigit (prints.isHexDigit_of_mem_fixed digit))

/-- A codec that writes characters raw or by their octets gives back what it encodes, whatever
follows, as long as it has no surrogates to write. -/
theorem decode_encode_append {codec : Codec} (decodes : codec.decoder = some ⟨lead, unescape lead⟩)
    (prints : Digits.PrintsHex print)
    (writes : ∀ point, (codec.escape point = [point] ∧ point ≠ lead)
      ∨ codec.escape point = escape lead print point)
    {immune : List CodePoint} (escaped : lead ∉ immune) {text : Text}
    (scalar : ∀ point ∈ text, point ∉ immune → point.isSurrogate = false) (rest : Text) :
    codec.decode (codec.encode immune text ++ rest) = text ++ codec.decode rest := by
  have reads : ∀ point ∈ text, point ∉ immune → ∀ rest,
      codec.decode (codec.escape point ++ rest) = point :: codec.decode rest := by
    intro point member written rest
    rcases writes point with ⟨raw, different⟩ | octets
    · rw [raw]
      exact Codec.decode_cons_of_ne decodes different rest
    · rw [octets, Codec.decode_eq_scan decodes, Codec.decode_eq_scan decodes,
        scan_escape_append prints (scalar point member written)]
  rw [Codec.decode_encode_append decodes escaped reads]
  simp

end OctetRun

namespace Percent

theorem escape_of_alphanumeric {point : CodePoint} (plain : point.isAlphanumeric = true) :
    escape point = [point] := if_pos plain

theorem escape_of_not_alphanumeric {point : CodePoint} (special : point.isAlphanumeric = false) :
    escape point = OctetRun.escape percent .upperDigit point := if_neg (by simp [special])

theorem mem_escape {point each : CodePoint} (member : each ∈ escape point) :
    each = percent ∨ each.isAlphanumeric = true := by
  cases plain : point.isAlphanumeric with
  | true =>
      rw [escape_of_alphanumeric plain, List.mem_singleton] at member
      exact .inr (member ▸ plain)
  | false =>
      rw [escape_of_not_alphanumeric plain] at member
      exact OctetRun.mem_escape Digits.printsHex_upperDigit member

theorem decode_encode_append {immune : List CodePoint} (escaped : percent ∉ immune) {text : Text}
    (scalar : ∀ point ∈ text, point ∉ immune → point.isSurrogate = false) (rest : Text) :
    codec.decode (codec.encode immune text ++ rest) = text ++ codec.decode rest := by
  refine OctetRun.decode_encode_append rfl Digits.printsHex_upperDigit ?_ escaped scalar rest
  intro point
  cases plain : point.isAlphanumeric with
  | false => exact .inr (escape_of_not_alphanumeric plain)
  | true =>
      have different : point ≠ percent := CodePoint.ne_of_alphanumeric plain (by decide)
      exact .inl ⟨escape_of_alphanumeric plain, different⟩

/-- A text without surrogates comes back as it was. -/
theorem decode_encode {text : Text} (scalar : ∀ point ∈ text, point.isSurrogate = false) :
    codec.decode (codec.encode [] text) = text := by
  have whole := decode_encode_append (List.not_mem_nil : percent ∉ [])
    (fun point member _ => scalar point member) []
  simpa using whole

end Percent

namespace Ldap

/-- Both codecs keep what is safe in their place and write everything else by its octets. -/
theorem decode_encode_append {codec : Codec} {isSafe : CodePoint → Bool}
    (decodes : codec.decoder = some ⟨backslash, OctetRun.unescape backslash⟩)
    (writes : codec.escape = escape isSafe) (unsafeLead : isSafe backslash = false)
    {immune : List CodePoint} (escaped : backslash ∉ immune) {text : Text}
    (scalar : ∀ point ∈ text, point ∉ immune → point.isSurrogate = false) (rest : Text) :
    codec.decode (codec.encode immune text ++ rest) = text ++ codec.decode rest := by
  refine OctetRun.decode_encode_append decodes Digits.printsHex_lowerDigit ?_ escaped scalar rest
  intro point
  rw [writes]
  cases safe : isSafe point with
  | false => exact .inr (if_neg (by simp [safe]))
  | true =>
      have different : point ≠ backslash := by
        rintro rfl
        rw [unsafeLead] at safe
        cases safe
      exact .inl ⟨if_pos safe, different⟩

end Ldap

end Escaping
