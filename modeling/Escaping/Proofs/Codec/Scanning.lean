import Escaping.Codec.Basic

/-!
What a pass of a codec does to a text. A sweep jumps from lead to lead and copies what stands between
two escapes late; at each position that it comes to, what it has put out and what a walk along the
rest puts out are together the outcome of the walk. A pass counts nothing exactly where no escape
starts anywhere in the text. Escapes that are read back whole, whatever follows them, make decoding an
inverse of encoding.
-/

namespace Escaping

namespace Replaced

@[simp] theorem keep_keep (rest : Replaced) (first second : Text) :
    (rest.keep second).keep first = rest.keep (first ++ second) := by
  simp [keep]

@[simp] theorem text_keep (rest : Replaced) (verbatim : Text) :
    (rest.keep verbatim).text = verbatim ++ rest.text := rfl

@[simp] theorem count_keep (rest : Replaced) (verbatim : Text) :
    (rest.keep verbatim).count = rest.count := rfl

@[simp] theorem text_replace (rest : Replaced) (decoded : Text) :
    (rest.replace decoded).text = decoded ++ rest.text := rfl

@[simp] theorem count_replace (rest : Replaced) (decoded : Text) :
    (rest.replace decoded).count = rest.count + 1 := rfl

end Replaced

namespace Decoder

variable {decoder : Decoder} {head : CodePoint} {tail text : Text}

theorem scan_nil : decoder.scan [] = ⟨[], 0⟩ := by
  rw [scan]

theorem scan_cons_of_ne (different : head ≠ decoder.lead) :
    decoder.scan (head :: tail) = (decoder.scan tail).keep [head] := by
  rw [scan, if_neg different]

theorem scan_lead_of_none (malformed : decoder.unescape tail = none) :
    decoder.scan (decoder.lead :: tail) = (decoder.scan tail).keep [decoder.lead] := by
  rw [scan, if_pos rfl, malformed]

theorem scan_lead_of_some {found : Unescaped} (matched : decoder.unescape tail = some found) :
    decoder.scan (decoder.lead :: tail)
      = (decoder.scan (tail.drop found.taken)).replace found.text := by
  rw [scan, if_pos rfl, matched]

/-- A step of a scan either keeps a code point or reads an escape. -/
theorem scan_cons (decoder : Decoder) (head : CodePoint) (tail : Text) :
    (decoder.scan (head :: tail) = (decoder.scan tail).keep [head]
      ∧ (head = decoder.lead → decoder.unescape tail = none))
    ∨ ∃ found, head = decoder.lead ∧ decoder.unescape tail = some found
      ∧ decoder.scan (head :: tail)
        = (decoder.scan (tail.drop found.taken)).replace found.text := by
  by_cases lead : head = decoder.lead
  · subst lead
    cases read : decoder.unescape tail with
    | none => exact .inl ⟨scan_lead_of_none read, fun _ => rfl⟩
    | some found => exact .inr ⟨found, rfl, rfl, scan_lead_of_some read⟩
  · exact .inl ⟨scan_cons_of_ne lead, fun equal => absurd equal lead⟩

theorem scan_append_of_not_mem (rest : Text) (absent : decoder.lead ∉ text) :
    decoder.scan (text ++ rest) = (decoder.scan rest).keep text := by
  induction text with
  | nil => rfl
  | cons head tail induction =>
      have different : head ≠ decoder.lead := fun equal => absent (equal ▸ List.mem_cons_self)
      have remaining : decoder.lead ∉ tail := fun member =>
        absent (List.mem_cons_of_mem head member)
      rw [List.cons_append, scan_cons_of_ne different, induction remaining, Replaced.keep_keep]
      rfl

theorem scan_of_not_mem (absent : decoder.lead ∉ text) : decoder.scan text = ⟨text, 0⟩ := by
  have whole := scan_append_of_not_mem [] absent
  rw [List.append_nil, scan_nil] at whole
  rw [whole]
  simp [Replaced.keep]

/-- Behind a code point at a position stands what follows it there. -/
theorem drop_behind {position : Nat} (here : text.drop position = head :: tail) (taken : Nat) :
    text.drop (position + 1 + taken) = tail.drop taken := by
  rw [Nat.add_assoc, ← List.drop_drop, here, Nat.add_comm 1, List.drop_succ_cons]

section Positions

variable {position : Nat}

/-- Where an escape is found, a scan replaces it and goes on behind it. -/
theorem scan_drop_of_some {found : Found} (matched : decoder.findAt text position = some found) :
    decoder.scan (text.drop position)
      = (decoder.scan (text.drop found.stop)).replace found.text := by
  rcases findAt_eq_some_iff.mp matched with ⟨tail, unescaped, here, read, rfl⟩
  rw [here, scan_lead_of_some read, drop_behind here]

/-- Where none is found, a scan keeps the code point and goes on with the next one. -/
theorem scan_drop_of_none (within : position < text.length)
    (absent : decoder.findAt text position = none) :
    decoder.scan (text.drop position)
      = (decoder.scan (text.drop (position + 1))).keep [text[position]] := by
  have here := List.drop_eq_getElem_cons within
  rcases scan_cons decoder text[position] (text.drop (position + 1)) with
    ⟨kept, _⟩ | ⟨unescaped, lead, read, _⟩
  · rw [here, kept]
  · rw [lead] at here
    have matched := findAt_eq_some_iff.mpr ⟨_, unescaped, here, read, rfl⟩
    rw [absent] at matched
    cases matched

theorem scan_drop_of_leadFrom?_eq_none (ended : decoder.leadFrom? text position = none) :
    decoder.scan (text.drop position) = ⟨text.drop position, 0⟩ := by
  apply scan_of_not_mem
  intro member
  have absent := List.findIdx?_eq_none_iff.mp (Option.map_eq_none_iff.mp ended) _ member
  simp at absent

/-- A scan keeps what stands before the next lead. -/
theorem scan_drop_of_leadFrom?_eq_some {next : Nat}
    (follows : decoder.leadFrom? text position = some next) :
    decoder.scan (text.drop position)
      = (decoder.scan (text.drop next)).keep (Sweep.slice text position next) := by
  rcases Option.map_eq_some_iff.mp follows with ⟨offset, first, rfl⟩
  rcases List.findIdx?_eq_some_iff_getElem.mp first with ⟨inside, _, before⟩
  have absent : decoder.lead ∉ (text.drop position).take offset := by
    intro member
    rcases List.mem_take_iff_getElem.mp member with ⟨index, bound, here⟩
    have different := before index (by omega)
    rw [here] at different
    simp at different
  rw [Sweep.slice, Nat.add_sub_cancel_left, ← scan_append_of_not_mem _ absent, ← List.drop_drop,
    List.take_append_drop]

end Positions

theorem findAt_zero (decoder : Decoder) (head : CodePoint) (tail : Text) :
    decoder.findAt (head :: tail) 0
      = if head = decoder.lead then
          (decoder.unescape tail).map fun found => ⟨found.text, 1 + found.taken⟩
        else none := rfl

/-- What is found at a position does not hang on the code points before it. -/
theorem findAt_succ (decoder : Decoder) (head : CodePoint) (tail : Text) (position : Nat) :
    decoder.findAt (head :: tail) (position + 1)
      = (decoder.findAt tail position).map fun found => ⟨found.text, found.stop + 1⟩ := by
  unfold findAt
  rw [List.drop_succ_cons]
  cases tail.drop position with
  | nil => rfl
  | cons next rest =>
      by_cases lead : next = decoder.lead
      · simp only [if_pos lead, Option.map_map]
        congr 1
        funext found
        simp only [Function.comp_apply, Found.mk.injEq, true_and]
        omega
      · simp only [if_neg lead, Option.map_none]

/-- A pass counts nothing exactly where no escape starts anywhere. -/
theorem count_scan_eq_zero_iff (decoder : Decoder) (text : Text) :
    (decoder.scan text).count = 0 ↔ ∀ position, decoder.findAt text position = none := by
  induction text with
  | nil => simp [scan_nil, findAt]
  | cons head tail induction =>
      rcases scan_cons decoder head tail with ⟨kept, malformed⟩ | ⟨found, lead, matched, read⟩
      · rw [kept, Replaced.count_keep, induction]
        constructor
        · intro absent position
          cases position with
          | zero =>
              rw [findAt_zero]
              split
              next lead => rw [malformed lead, Option.map_none]
              next => rfl
          | succ position => rw [findAt_succ, absent position, Option.map_none]
        · intro absent position
          have shifted := absent (position + 1)
          rw [findAt_succ] at shifted
          exact Option.map_eq_none_iff.mp shifted
      · have present : decoder.findAt (head :: tail) 0 ≠ none := by
          rw [findAt_zero, if_pos lead, matched]
          exact Option.some_ne_none _
        rw [read, Replaced.count_replace]
        constructor
        · intro nothing
          exact absurd nothing (Nat.succ_ne_zero _)
        · intro absent
          exact absurd (absent 0) present

theorem scan_of_count_eq_zero (nothing : (decoder.scan text).count = 0) :
    decoder.scan text = ⟨text, 0⟩ := by
  induction text with
  | nil => exact scan_nil
  | cons head tail induction =>
      rcases scan_cons decoder head tail with ⟨kept, _⟩ | ⟨found, _, _, read⟩
      · rw [kept, Replaced.count_keep] at nothing
        rw [kept, induction nothing]
        rfl
      · rw [read, Replaced.count_replace] at nothing
        exact absurd nothing (Nat.succ_ne_zero _)

/-- An escape that reads somewhere in a text is counted, or one before it is. -/
theorem count_scan_ne_zero {before : Text} {found : Unescaped}
    (matched : decoder.unescape tail = some found) :
    (decoder.scan (before ++ decoder.lead :: tail)).count ≠ 0 := by
  intro nothing
  have absent := (count_scan_eq_zero_iff decoder _).mp nothing before.length
  simp [findAt, matched] at absent

/-- A written escape reads as a text, whatever follows it. -/
def Reads (decoder : Decoder) (escape decoded : Text) : Prop :=
  ∃ body, escape = decoder.lead :: body
    ∧ ∀ rest, decoder.unescape (body ++ rest) = some ⟨decoded, body.length⟩

theorem Reads.scan_append {escape decoded : Text} (reads : decoder.Reads escape decoded)
    (rest : Text) :
    decoder.scan (escape ++ rest) = (decoder.scan rest).replace decoded := by
  rcases reads with ⟨body, rfl, matched⟩
  rw [List.cons_append, scan_lead_of_some (matched rest), List.drop_left]

/-- Each code point is written as it stands, or as an escape that reads as its image whatever
follows. -/
def Restores (decoder : Decoder) (escape : CodePoint → Text) (image : CodePoint → CodePoint) :
    Prop :=
  ∀ point, (escape point = [point] ∧ point ≠ decoder.lead ∧ image point = point)
    ∨ decoder.Reads (escape point) [image point]

end Decoder

namespace Sweep

variable {sweep : Sweep} {decoder : Decoder} {text : Text} {position : Nat}

theorem slice_append_drop (text : Text) {start stop : Nat} (ordered : start ≤ stop) :
    slice text start stop ++ text.drop stop = text.drop start := by
  have behind : text.drop stop = (text.drop start).drop (stop - start) := by
    rw [List.drop_drop, Nat.add_sub_cancel' ordered]
  rw [slice, behind, List.take_append_drop]

theorem slice_append_slice (text : Text) {start middle stop : Nat} (before : start ≤ middle)
    (behind : middle ≤ stop) :
    slice text start middle ++ slice text middle stop = slice text start stop := by
  have lengths : stop - start = (middle - start) + (stop - middle) := by omega
  have rest : text.drop middle = (text.drop start).drop (middle - start) := by
    rw [List.drop_drop, Nat.add_sub_cancel' before]
  rw [slice, slice, slice, lengths, List.take_add, rest]

theorem slice_succ (text : Text) (within : position < text.length) :
    slice text position (position + 1) = [text[position]] := by
  rw [slice, Nat.add_sub_cancel_left, List.drop_eq_getElem_cons within, List.take_succ_cons,
    List.take_zero]

/-- A sweep has come to a position: its parts, the text that is not yet among them, and what a scan
makes of the text ahead are together what a scan makes of the whole text. -/
structure Reaches (sweep : Sweep) (decoder : Decoder) (text : Text) (position : Nat) : Prop where
  start_le : sweep.start ≤ position
  scan_eq : decoder.scan text
    = ⟨sweep.parts.reverse.flatten
        ++ (slice text sweep.start position ++ (decoder.scan (text.drop position)).text),
      sweep.count + (decoder.scan (text.drop position)).count⟩

theorem reaches_initial : initial.Reaches decoder text 0 where
  start_le := Nat.le_refl 0
  scan_eq := by
    show _ = Replaced.mk ([] ++ ([] ++ (decoder.scan (text.drop 0)).text))
      (0 + (decoder.scan (text.drop 0)).count)
    rw [List.drop_zero, List.nil_append, List.nil_append, Nat.zero_add]

theorem Reaches.next (reaches : sweep.Reaches decoder text position) {next : Nat}
    (follows : decoder.leadFrom? text position = some next) :
    sweep.Reaches decoder text next := by
  have ahead := (Decoder.bounds_of_leadFrom? follows).1
  constructor
  · exact Nat.le_trans reaches.start_le ahead
  · rw [reaches.scan_eq, Decoder.scan_drop_of_leadFrom?_eq_some follows, Replaced.text_keep,
      Replaced.count_keep, ← slice_append_slice text reaches.start_le ahead, List.append_assoc]

/-- A lead that starts no escape is passed over. -/
theorem Reaches.passOver (reaches : sweep.Reaches decoder text position)
    (within : position < text.length) (absent : decoder.findAt text position = none) :
    sweep.Reaches decoder text (position + 1) := by
  constructor
  · exact Nat.le_succ_of_le reaches.start_le
  · rw [reaches.scan_eq, Decoder.scan_drop_of_none within absent, Replaced.text_keep,
      Replaced.count_keep, ← slice_append_slice text reaches.start_le (Nat.le_succ position),
      slice_succ text within, List.append_assoc]

theorem Reaches.replace (reaches : sweep.Reaches decoder text position) {found : Found}
    (matched : decoder.findAt text position = some found) :
    (sweep.replace text position found).Reaches decoder text found.stop := by
  constructor
  · exact Nat.le_refl found.stop
  · have nothing : slice text found.stop found.stop = [] := by
      rw [slice, Nat.sub_self, List.take_zero]
    rw [reaches.scan_eq, Decoder.scan_drop_of_some matched, Replaced.text_replace,
      Replaced.count_replace]
    simp only [Sweep.replace, nothing, List.reverse_cons, List.flatten_append, List.flatten_cons,
      List.flatten_nil, List.append_nil, List.nil_append, List.append_assoc, Replaced.mk.injEq,
      true_and]
    omega

/-- Without a lead ahead, what has been swept together is the outcome of the scan. -/
theorem Reaches.finish_eq (reaches : sweep.Reaches decoder text position)
    (ended : decoder.leadFrom? text position = none) : sweep.finish text = decoder.scan text := by
  have scanned := reaches.scan_eq
  rw [Decoder.scan_drop_of_leadFrom?_eq_none ended, slice_append_drop text reaches.start_le,
    Nat.add_zero] at scanned
  unfold finish
  split
  next none =>
    have nothing : (decoder.scan text).count = 0 := by rw [scanned, none]
    exact (Decoder.scan_of_count_eq_zero nothing).symm
  next =>
    rw [scanned, List.reverse_cons, List.flatten_append, List.flatten_singleton]

end Sweep

/-- Jumping from lead to lead and walking along the text come to the same. -/
theorem Decoder.sweepFrom_eq_scan {decoder : Decoder} {text : Text} {sweep : Sweep}
    {position : Nat} (reaches : sweep.Reaches decoder text position) :
    decoder.sweepFrom text sweep position = decoder.scan text := by
  fun_induction sweepFrom decoder text sweep position with
  | case1 sweep position ended => exact reaches.finish_eq ended
  | case2 sweep position next follows absent induction =>
      have within := (bounds_of_leadFrom? follows).2
      exact induction ((reaches.next follows).passOver within absent)
  | case3 sweep position next follows found matched induction =>
      exact induction ((reaches.next follows).replace matched)

namespace Codec

variable {codec : Codec} {decoder : Decoder} {text : Text}

/-- No escape of the codec starts anywhere in the text. -/
def Plain (codec : Codec) (text : Text) : Prop :=
  ∀ position, codec.decodeAt text position = none

theorem decodeAt_eq_findAt (decodes : codec.decoder = some decoder) (text : Text)
    (position : Nat) : codec.decodeAt text position = decoder.findAt text position := by
  rw [decodeAt, decodes, Option.bind_some]

/-- A pass of a codec that decodes is a walk along the text, one code point at a time. -/
theorem decodePass_eq_scan (decodes : codec.decoder = some decoder) (text : Text) :
    codec.decodePass text = decoder.scan text := by
  simp only [decodePass, decodes]
  split
  next => exact Decoder.sweepFrom_eq_scan Sweep.reaches_initial
  next absent => exact (Decoder.scan_of_not_mem absent).symm

theorem decodePass_of_none (encodesOnly : codec.decoder = none) (text : Text) :
    codec.decodePass text = ⟨text, 0⟩ := by
  simp only [decodePass, encodesOnly]

theorem count_decodePass_eq_zero_iff (codec : Codec) (text : Text) :
    (codec.decodePass text).count = 0 ↔ codec.Plain text := by
  cases decodes : codec.decoder with
  | none => simp [decodePass_of_none decodes, Plain, decodeAt, decodes]
  | some decoder =>
      rw [decodePass_eq_scan decodes, Decoder.count_scan_eq_zero_iff]
      simp [Plain, decodeAt, decodes]

/-- A pass leaves a text alone exactly where it has no escape of the codec. -/
theorem decodePass_eq_self_iff (codec : Codec) (text : Text) :
    codec.decodePass text = ⟨text, 0⟩ ↔ codec.Plain text := by
  rw [← count_decodePass_eq_zero_iff]
  constructor
  · intro same
    rw [same]
  · intro nothing
    cases decodes : codec.decoder with
    | none => exact decodePass_of_none decodes text
    | some decoder =>
        rw [decodePass_eq_scan decodes] at nothing ⊢
        exact Decoder.scan_of_count_eq_zero nothing

/-- A text without the lead has no escapes. -/
theorem plain_of_lead_not_mem (absent : ∀ lead, codec.lead = some lead → lead ∉ text) :
    codec.Plain text := by
  rw [← decodePass_eq_self_iff]
  cases decodes : codec.decoder with
  | none => exact decodePass_of_none decodes text
  | some decoder =>
      have missing : decoder.lead ∉ text := absent decoder.lead (by simp [lead, decodes])
      rw [decodePass_eq_scan decodes, Decoder.scan_of_not_mem missing]

theorem plain_nil (codec : Codec) : codec.Plain [] :=
  plain_of_lead_not_mem fun _ _ => List.not_mem_nil

theorem decode_eq_scan (decodes : codec.decoder = some decoder) (text : Text) :
    codec.decode text = (decoder.scan text).text := by
  rw [decode, decodePass_eq_scan decodes]

@[simp] theorem decode_nil (codec : Codec) : codec.decode [] = [] := by
  cases decodes : codec.decoder with
  | none => rw [decode, decodePass_of_none decodes]
  | some decoder => rw [decode_eq_scan decodes, Decoder.scan_nil]

theorem decode_cons_of_ne (decodes : codec.decoder = some decoder) {head : CodePoint}
    (different : head ≠ decoder.lead) (tail : Text) :
    codec.decode (head :: tail) = head :: codec.decode tail := by
  rw [decode_eq_scan decodes, decode_eq_scan decodes, Decoder.scan_cons_of_ne different]
  rfl

theorem decode_append_of_reads (decodes : codec.decoder = some decoder) {escape decoded : Text}
    (reads : decoder.Reads escape decoded) (rest : Text) :
    codec.decode (escape ++ rest) = decoded ++ codec.decode rest := by
  rw [decode_eq_scan decodes, decode_eq_scan decodes, reads.scan_append]
  rfl

theorem encodePoint_nil (codec : Codec) (point : CodePoint) :
    codec.encodePoint [] point = codec.escape point := if_neg List.not_mem_nil

section Immune

variable {immune : List CodePoint} {image : CodePoint → CodePoint}

/-- An immune code point is read as it stands, so only an escape has to be read back. -/
theorem decode_encodePoint_append (decodes : codec.decoder = some decoder)
    (escaped : decoder.lead ∉ immune) {point : CodePoint}
    (reads : point ∉ immune → ∀ rest,
      codec.decode (codec.escape point ++ rest) = image point :: codec.decode rest)
    (rest : Text) :
    codec.decode (codec.encodePoint immune point ++ rest)
      = (if point ∈ immune then point else image point) :: codec.decode rest := by
  by_cases kept : point ∈ immune
  · have different : point ≠ decoder.lead := fun equal => escaped (equal ▸ kept)
    rw [encodePoint, if_pos kept, if_pos kept]
    exact decode_cons_of_ne decodes different rest
  · rw [encodePoint, if_neg kept, if_neg kept]
    exact reads kept rest

/-- Where each code point of a text is read back from its escape, so is the text. -/
theorem decode_encode_append (decodes : codec.decoder = some decoder)
    (escaped : decoder.lead ∉ immune)
    (reads : ∀ point ∈ text, point ∉ immune → ∀ rest,
      codec.decode (codec.escape point ++ rest) = image point :: codec.decode rest)
    (rest : Text) :
    codec.decode (codec.encode immune text ++ rest)
      = text.map (fun point => if point ∈ immune then point else image point)
        ++ codec.decode rest := by
  induction text with
  | nil => rfl
  | cons head tail induction =>
      have first := decode_encodePoint_append decodes escaped (reads head List.mem_cons_self)
      have following := induction fun point member => reads point (List.mem_cons_of_mem head member)
      rw [encode_cons, List.append_assoc, first, following, List.map_cons, List.cons_append]

/-- A codec that restores code points gives back their images, and the immune ones as they are. -/
theorem decode_encode_append_of_restores (decodes : codec.decoder = some decoder)
    (restores : decoder.Restores codec.escape image) (escaped : decoder.lead ∉ immune)
    (text rest : Text) :
    codec.decode (codec.encode immune text ++ rest)
      = text.map (fun point => if point ∈ immune then point else image point)
        ++ codec.decode rest := by
  apply decode_encode_append decodes escaped
  intro point _ _ rest
  rcases restores point with ⟨raw, different, same⟩ | reads
  · rw [raw, same]
    exact decode_cons_of_ne decodes different rest
  · exact decode_append_of_reads decodes reads rest

end Immune

end Codec

end Escaping
