import Escaping.Proofs.Codec.Closure
import Escaping.Proofs.Codec.Generated
import Escaping.Proofs.Text.Cutting
import Mathlib.Data.List.Forall2

/-!
Values for directories, in filters and in distinguished names. Each character of a value is written
on its own, as it stands or by the escapes of its octets. Where it stands in the value decides only
between these two forms, so the ends of a name are read back like its middle, even where an escape
at an end joins the run of escapes beside it.
-/

namespace Escaping

namespace Ldap

variable {raw : CodePoint → Prop} {text : Text} {forms : List Text}

/-- The sign that stands for any text in a filter. -/
def asterisk : CodePoint := .ofChar '*'

/-- ASCII text that is without some signs and in which every backslash starts an escape. -/
structure Contained (signs : List CodePoint) (output : Text) : Prop where
  ascii : ∀ point ∈ output, point.val < 0x80
  absent : ∀ sign ∈ signs, sign ∉ output
  escapes : ∀ start, output[start]? = some backslash →
    ∃ digits, Text.IsHex 2 digits ∧ backslash :: digits <+: output.drop start

/-- A code point stands raw where it may, or its octets are escaped. -/
def IsForm (raw : CodePoint → Prop) (point : CodePoint) (written : Text) : Prop :=
  (written = [point] ∧ raw point) ∨ written = escapeOctets point

theorem mem_escapeOctets {point each : CodePoint} (member : each ∈ escapeOctets point) :
    each = backslash ∨ each.isAlphanumeric = true :=
  OctetRun.mem_escape Digits.printsHex_lowerDigit member

theorem escapeOctets_ne_nil (point : CodePoint) : escapeOctets point ≠ [] := by
  rcases OctetRun.unescape_escape backslash Digits.printsHex_lowerDigit point with
    ⟨body, written, _⟩
  rw [escapeOctets, written]
  exact List.cons_ne_nil _ _

theorem lt_of_inRanges {ranges : List (Nat × Nat)} {number bound : Nat}
    (below : ∀ range ∈ ranges, range.2 < bound) (inside : inRanges ranges number = true) :
    number < bound := by
  rcases List.any_eq_true.mp inside with ⟨range, member, within⟩
  rw [Bool.and_eq_true, decide_eq_true_eq, decide_eq_true_eq] at within
  exact Nat.lt_of_le_of_lt within.2 (below range member)

theorem isNameSafe_ascii (point : CodePoint) (safe : isNameSafe point = true) :
    point.val < 0x80 :=
  lt_of_inRanges (by decide) (Bool.and_eq_true_iff.mp safe).2

theorem isFilterSafe_ascii (point : CodePoint) (safe : isFilterSafe point = true) :
    point.val < 0x80 :=
  lt_of_inRanges (by decide) (Bool.and_eq_true_iff.mp safe).2

theorem isForm_encodePoint {codec : Codec} {isSafe : CodePoint → Bool}
    (writes : codec.escape = escape isSafe) (immune : List CodePoint) (point : CodePoint) :
    IsForm (fun each => isSafe each = true ∨ each ∈ immune) point
      (codec.encodePoint immune point) := by
  rw [Codec.encodePoint, writes, escape]
  split
  next kept => exact .inl ⟨rfl, .inr kept⟩
  next =>
    split
    next safe => exact .inl ⟨rfl, .inl safe⟩
    next => exact .inr rfl

theorem forms_mapIdx {write : Nat → CodePoint → Text}
    (each : ∀ position point, IsForm raw point (write position point)) (text : Text) :
    List.Forall₂ (IsForm raw) text (text.mapIdx write) := by
  induction text generalizing write with
  | nil => exact .nil
  | cons head tail induction =>
      rw [List.mapIdx_cons]
      exact .cons (each 0 head) (induction fun position => each (position + 1))

/-- What is written in these forms is text of the grammar of octet runs. -/
theorem generates_of_forms (written : List.Forall₂ (IsForm raw) text forms) :
    (OctetRun.grammar backslash raw).Generates forms.flatten := by
  induction written with
  | nil => exact .nil
  | @cons point form _ _ first _ induction =>
      rw [List.flatten_cons]
      rcases first with ⟨rfl, stands⟩ | rfl
      · exact .raw stands induction
      · exact (OctetRun.generates_escape Digits.printsHex_lowerDigit point).append induction

/-- What is written in these forms is read back, whichever form each code point has. -/
theorem scan_of_forms (escaped : ¬raw backslash) (written : List.Forall₂ (IsForm raw) text forms)
    (scalar : ∀ point ∈ text, point.isSurrogate = false) :
    (Decoder.scan ⟨backslash, OctetRun.unescape backslash⟩ forms.flatten).text = text := by
  induction written with
  | nil => rw [List.flatten_nil, Decoder.scan_nil]
  | @cons point form others _ first _ induction =>
      rcases List.forall_mem_cons.mp scalar with ⟨here, later⟩
      rw [List.flatten_cons]
      rcases first with ⟨rfl, stands⟩ | rfl
      · have different : point ≠ backslash := fun equal => escaped (equal ▸ stands)
        rw [List.singleton_append, Decoder.scan_cons_of_ne different, Replaced.text_keep,
          induction later, List.singleton_append]
      · rw [escapeOctets, OctetRun.scan_escape_append Digits.printsHex_lowerDigit here,
          induction later]

/-- Where the code points that stand raw are in ASCII and none of some signs, the text is contained.
The signs must not occur in escapes. -/
theorem contained_of_generates {signs : List CodePoint} {output : Text}
    (ascii : ∀ point, raw point → point.val < 0x80) (escaped : ¬raw backslash)
    (excluded : ∀ sign ∈ signs, ¬raw sign ∧ sign ≠ backslash ∧ sign.isHexDigit = false)
    (generates : (OctetRun.grammar backslash raw).Generates output) :
    Contained signs output where
  ascii := by
    intro point member
    rcases generates.raw_or_lead_or_mem member with stands | rfl | ⟨body, digits, inside⟩
    · exact ascii point stands
    · exact show 0x5c < 0x80 from by decide
    · have bounds := CodePoint.bounds_of_alphanumeric
        (CodePoint.isAlphanumeric_of_isHexDigit (digits.isHexDigit point inside))
      omega
  absent := by
    intro sign member inOutput
    rcases excluded sign member with ⟨notRaw, different, noDigit⟩
    rcases generates.raw_or_lead_or_mem inOutput with stands | lead | ⟨body, digits, inside⟩
    · exact notRaw stands
    · exact different lead
    · rw [digits.isHexDigit sign inside] at noDigit
      cases noDigit
  escapes := by
    intro start found
    have clean : ∀ body, Text.IsHex 2 body → backslash ∉ body := by
      intro body digits inside
      exact absurd (digits.isHexDigit backslash inside) (by decide)
    rcases generates.exists_standsAt escaped clean found with ⟨body, stands⟩
    exact ⟨body, stands.written, stands.held⟩

/-- The characters come back exactly where none is a surrogate, whose octets are no UTF-8. -/
theorem decode_of_forms_iff {codec : Codec}
    (decodes : codec.decoder = some ⟨backslash, OctetRun.unescape backslash⟩)
    (ascii : ∀ point, raw point → point.val < 0x80) (escaped : ¬raw backslash)
    (written : List.Forall₂ (IsForm raw) text forms) :
    codec.decode forms.flatten = text ↔ ∀ point ∈ text, point.isSurrogate = false := by
  constructor
  · intro restored point member
    have contained : Contained [] forms.flatten :=
      contained_of_generates ascii escaped nofun (generates_of_forms written)
    have scalar : ∀ each ∈ forms.flatten, each.isSurrogate = false := by
      intro each inOutput
      have small := contained.ascii each inOutput
      exact CodePoint.isSurrogate_of_lt (by omega)
    rw [← restored] at member
    exact (OctetRun.keeps_scalar backslash).codec decodes _ scalar point member
  · intro scalar
    rw [Codec.decode_eq_scan decodes]
    exact scan_of_forms escaped written scalar

/-- How the character at a position of an attribute value is written: a space or a number sign at
the start and a space at the end by their escapes, and every other one as the codec writes it. -/
def nameForm (length position : Nat) (point : CodePoint) : Text :=
  if point = '#' ∧ position = 0 then Text.ofString "\\23"
  else if point = ' ' ∧ (position = 0 ∨ position + 1 = length) then Text.ofString "\\20"
  else nameCodec.encode [] [point]

theorem isLeadingSpecial_iff (point : CodePoint) :
    isLeadingSpecial point = true ↔ point = ' ' ∨ point = '#' := by
  simp only [isLeadingSpecial, Bool.or_eq_true, decide_eq_true_eq, CodePoint.ext_iff]
  exact Iff.rfl

theorem isTrailingSpecial_iff (point : CodePoint) :
    isTrailingSpecial point = true ↔ point = ' ' := by
  simp only [isTrailingSpecial, decide_eq_true_eq, CodePoint.ext_iff]
  exact Iff.rfl

theorem nameForm_eq (length position : Nat) (point : CodePoint) :
    nameForm length position point
      = if (position = 0 ∧ isLeadingSpecial point = true)
          ∨ (position + 1 = length ∧ isTrailingSpecial point = true) then escapeOctets point
        else nameCodec.encodePoint [] point := by
  have escapes : escapeOctets '#' = Text.ofString "\\23"
      ∧ escapeOctets ' ' = Text.ofString "\\20" := by decide +kernel
  unfold nameForm
  simp only [isLeadingSpecial_iff, isTrailingSpecial_iff]
  split
  next first =>
    rcases first with ⟨rfl, start⟩
    rw [if_pos (.inl ⟨start, .inr rfl⟩), escapes.1]
  next notFirst =>
    split
    next last =>
      rcases last with ⟨rfl, start | stop⟩
      · rw [if_pos (.inl ⟨start, .inl rfl⟩), escapes.2]
      · rw [if_pos (.inr ⟨stop, rfl⟩), escapes.2]
    next notLast =>
      rw [if_neg, Codec.encode_cons, Codec.encode_nil, List.append_nil]
      rintro (⟨start, rfl | rfl⟩ | ⟨stop, rfl⟩)
      · exact notLast ⟨rfl, .inl start⟩
      · exact notFirst ⟨rfl, start⟩
      · exact notLast ⟨rfl, .inr stop⟩

/-- Behind the start only the distance to the end counts. -/
theorem nameForm_succ (length position : Nat) :
    nameForm (length + 1) (position + 1 + 1) = nameForm length (position + 1) := by
  funext point
  simp [nameForm]

/-- The rest of a value is written in the forms that stand behind its start. -/
theorem encodeNameRest_eq (text : Text) :
    encodeNameRest text
      = (text.mapIdx fun position => nameForm (text.length + 1) (position + 1)).flatten := by
  fun_induction encodeNameRest text with
  | case1 => rfl
  | case2 last special => simp [nameForm_eq, special]
  | case3 last plain => simp [nameForm_eq, plain]
  | case4 head next rest induction =>
      -- Neither at the start nor at the end, where only the codec decides.
      have inside : nameForm ((head :: next :: rest).length + 1) (0 + 1) head
          = nameCodec.encodePoint [] head := by simp [nameForm_eq]
      rw [induction, List.mapIdx_cons (l := next :: rest), List.flatten_cons, inside]
      simp only [List.length_cons, nameForm_succ]

theorem encodeName_eq (text : Text) :
    encodeName text = (text.mapIdx (nameForm text.length)).flatten := by
  cases text with
  | nil => rfl
  | cons head tail =>
      rw [encodeName]
      split
      next special =>
        have start : nameForm (head :: tail).length 0 head = escapeOctets head := by
          simp [nameForm_eq, special]
        rw [encodeNameRest_eq, List.mapIdx_cons, List.flatten_cons, start, List.length_cons]
      next plain =>
        have start : nameForm ((head :: tail).length + 1) (0 + 1) head
            = nameForm (head :: tail).length 0 head := by simp [nameForm_eq, plain]
        rw [encodeNameRest_eq, List.mapIdx_cons, List.mapIdx_cons, List.flatten_cons,
          List.flatten_cons, start]
        simp only [List.length_cons, nameForm_succ]

/-- A form keeps a safe character that may stand at its position, or escapes the character. -/
theorem nameForm_cases (length position : Nat) (point : CodePoint) :
    (nameForm length position point = [point] ∧ isNameSafe point = true
      ∧ (position = 0 → point ≠ ' ' ∧ point ≠ '#') ∧ (position + 1 = length → point ≠ ' '))
    ∨ nameForm length position point = escapeOctets point := by
  rw [nameForm_eq]
  split
  next => exact .inr rfl
  next plain =>
    rcases not_or.mp plain with ⟨notFirst, notLast⟩
    rcases @isForm_encodePoint nameCodec _ rfl [] point with ⟨kept, safe | immune⟩ | escaped
    · refine .inl ⟨kept, safe, ?_, ?_⟩
      · intro start
        exact not_or.mp fun special => notFirst ⟨start, (isLeadingSpecial_iff point).mpr special⟩
      · intro stop special
        exact notLast ⟨stop, (isTrailingSpecial_iff point).mpr special⟩
    · cases immune
    · exact .inr escaped

theorem isForm_nameForm (length position : Nat) (point : CodePoint) :
    IsForm (isNameSafe · = true) point (nameForm length position point) := by
  rcases nameForm_cases length position point with ⟨kept, safe, _⟩ | escaped
  · exact .inl ⟨kept, safe⟩
  · exact .inr escaped

theorem ne_of_mem_escapeOctets {point sign each : CodePoint} (different : sign ≠ backslash)
    (special : sign.isAlphanumeric = false) (member : each ∈ escapeOctets point) : each ≠ sign := by
  rcases mem_escapeOctets member with rfl | plain
  · exact different.symm
  · exact CodePoint.ne_of_alphanumeric plain special

theorem head?_encodeName {first : CodePoint} (member : first ∈ (encodeName text).head?) :
    first ≠ ' ' ∧ first ≠ '#' := by
  cases text with
  | nil => cases member
  | cons head tail =>
      rw [encodeName_eq, List.mapIdx_cons, List.flatten_cons] at member
      rcases nameForm_cases (head :: tail).length 0 head with ⟨kept, _, start, _⟩ | escaped
      · rw [kept] at member
        cases member
        exact start rfl
      · rw [escaped, List.head?_append_of_ne_nil _ (escapeOctets_ne_nil head)] at member
        have inEscape := List.mem_of_mem_head? member
        exact ⟨ne_of_mem_escapeOctets (by decide) (by decide) inEscape,
          ne_of_mem_escapeOctets (by decide) (by decide) inEscape⟩

theorem getLast?_encodeName {last : CodePoint} (member : last ∈ (encodeName text).getLast?) :
    last ≠ ' ' := by
  rcases List.eq_nil_or_concat' text with rfl | ⟨front, final, rfl⟩
  · cases member
  · rw [encodeName_eq, List.mapIdx_concat, List.flatten_concat] at member
    rcases nameForm_cases (front ++ [final]).length front.length final with
      ⟨kept, _, _, stop⟩ | escaped
    · rw [kept, List.getLast?_concat] at member
      cases member
      exact stop (by rw [List.length_append, List.length_singleton])
    · rw [escaped, List.getLast?_append_of_ne_nil _ (escapeOctets_ne_nil final)] at member
      exact ne_of_mem_escapeOctets (by decide) (by decide) (List.mem_of_mem_getLast? member)

theorem forms_encodeName (text : Text) :
    List.Forall₂ (IsForm (isNameSafe · = true)) text (text.mapIdx (nameForm text.length)) :=
  forms_mapIdx (isForm_nameForm text.length) text

/-- Whatever its text, an attribute value neither starts nor ends in what a name would drop, and
holds none of the signs of names. It is what the codec writes but for its ends, and it reads as the
text exactly where that has no surrogates. -/
theorem encodeName_contained (text : Text) :
    (∀ first ∈ (encodeName text).head?, first ≠ ' ' ∧ first ≠ '#')
      ∧ (∀ last ∈ (encodeName text).getLast?, last ≠ ' ')
      ∧ Contained [.ofNat 0x0, .ofNat 0x22, '+', ',', ';', '<', '>', '/'] (encodeName text)
      ∧ encodeName text = (text.mapIdx (nameForm text.length)).flatten
      ∧ (nameCodec.decode (encodeName text) = text
        ↔ ∀ point ∈ text, point.isSurrogate = false) := by
  have written := forms_encodeName text
  refine ⟨fun _ => head?_encodeName, fun _ => getLast?_encodeName, ?_, encodeName_eq text, ?_⟩
  · rw [encodeName_eq]
    exact contained_of_generates isNameSafe_ascii (by decide) (by decide)
      (generates_of_forms written)
  · rw [encodeName_eq]
    exact decode_of_forms_iff rfl isNameSafe_ascii (by decide) written

/-- The escape of a space at the end joins the run of the character before it. -/
theorem encodeName_contained_joinedRun :
    encodeName [.ofNat 0xe9, ' '] = Text.ofString "\\c3\\a9\\20"
      ∧ Contained [.ofNat 0x0, .ofNat 0x22, '+', ',', ';', '<', '>', '/']
        (Text.ofString "\\c3\\a9\\20")
      ∧ nameCodec.decode (Text.ofString "\\c3\\a9\\20") = [.ofNat 0xe9, ' '] := by
  have written : encodeName [.ofNat 0xe9, ' '] = Text.ofString "\\c3\\a9\\20" := by
    decide +kernel
  rcases encodeName_contained [.ofNat 0xe9, ' '] with ⟨_, _, contained, _, restored⟩
  rw [written] at contained restored
  exact ⟨written, contained, restored.mpr (by decide)⟩

/-- What stands raw in a filter: what is safe there, and the asterisk where it is kept. -/
def FilterRaw (encodeWildcards : Bool) (point : CodePoint) : Prop :=
  isFilterSafe point = true ∨ point ∈ wildcards encodeWildcards

instance (encodeWildcards : Bool) (point : CodePoint) :
    Decidable (FilterRaw encodeWildcards point) :=
  inferInstanceAs (Decidable (_ ∨ _))

theorem filterRaw_ascii (encodeWildcards : Bool) (point : CodePoint)
    (stands : FilterRaw encodeWildcards point) : point.val < 0x80 := by
  rcases stands with safe | kept
  · exact isFilterSafe_ascii point safe
  · cases encodeWildcards with
    | true => cases kept
    | false =>
        rw [List.mem_singleton.mp kept]
        decide

theorem not_filterRaw_backslash : ∀ encodeWildcards, ¬FilterRaw encodeWildcards backslash := by
  decide

theorem forms_encodeFilter (text : Text) (encodeWildcards : Bool) :
    List.Forall₂ (IsForm (FilterRaw encodeWildcards)) text
      (text.map (filterCodec.encodePoint (wildcards encodeWildcards))) := by
  apply List.forall₂_map_right_iff.mpr
  exact List.forall₂_same.mpr fun point _ => isForm_encodePoint rfl _ point

theorem encodeFilter_eq (text : Text) (encodeWildcards : Bool) :
    encodeFilter text encodeWildcards
      = (text.map (filterCodec.encodePoint (wildcards encodeWildcards))).flatten :=
  List.flatMap_def

theorem contained_encodeFilter {signs : List CodePoint} {encodeWildcards : Bool}
    (excluded : ∀ sign ∈ signs,
      ¬FilterRaw encodeWildcards sign ∧ sign ≠ backslash ∧ sign.isHexDigit = false)
    (text : Text) : Contained signs (encodeFilter text encodeWildcards) := by
  rw [encodeFilter_eq]
  exact contained_of_generates (filterRaw_ascii encodeWildcards)
    (not_filterRaw_backslash encodeWildcards) excluded
    (generates_of_forms (forms_encodeFilter text encodeWildcards))

/-- Kept asterisks cut an encoded text where they cut the text itself, into the parts encoded. -/
theorem splitAt_encodeFilter (text : Text) :
    Text.splitAt asterisk (encodeFilter text false)
      = (Text.splitAt asterisk text).map fun part => encodeFilter part true := by
  have outside : ∀ point : CodePoint, point ≠ asterisk →
      asterisk ∉ filterCodec.encodePoint (wildcards false) point := by
    intro point different member
    rcases @isForm_encodePoint filterCodec _ rfl (wildcards false) point with ⟨kept, _⟩ | escaped
    · rw [kept] at member
      exact different (List.mem_singleton.mp member).symm
    · rw [escaped] at member
      exact ne_of_mem_escapeOctets (by decide) (by decide) member rfl
  rw [encodeFilter, Codec.encode, Text.splitAt_flatMap (by decide) outside]
  -- Within a part no asterisk stands, so that keeping them makes no difference there.
  apply List.map_congr_left
  intro part member
  apply List.flatMap_congr
  intro point inPart
  have notKept : point ∉ wildcards false := by
    intro kept
    have equal : point = asterisk := List.mem_singleton.mp kept
    exact Text.not_mem_of_mem_splitAt member (equal ▸ inPart)
  rw [Codec.encodePoint, if_neg notKept]
  exact (Codec.encodePoint_nil filterCodec point).symm

/-- A filter has the wildcards of its text and no others: keeping them cuts it where the text is
cut, and a text encoded without them has none. No other sign of filters comes out, and the result
reads as the text unless that holds surrogates. -/
theorem encodeFilter_wildcards (text : Text) :
    Text.splitAt asterisk (encodeFilter text false)
        = (Text.splitAt asterisk text).map (fun part => encodeFilter part true)
      ∧ (encodeFilter text false).count asterisk = text.count asterisk
      ∧ asterisk ∉ encodeFilter text true
      ∧ ∀ encodeWildcards,
        Contained ['(', ')', .ofNat 0x0, '/'] (encodeFilter text encodeWildcards)
          ∧ (filterCodec.decode (encodeFilter text encodeWildcards) = text
            ↔ ∀ point ∈ text, point.isSurrogate = false) := by
  refine ⟨splitAt_encodeFilter text, ?_, ?_, fun encodeWildcards => ⟨?_, ?_⟩⟩
  · have parts := congrArg List.length (splitAt_encodeFilter text)
    rw [List.length_map, Text.length_splitAt, Text.length_splitAt] at parts
    exact Nat.succ.inj parts
  · have contained : Contained [asterisk] (encodeFilter text true) :=
      contained_encodeFilter (by decide) text
    exact contained.absent asterisk List.mem_cons_self
  · apply contained_encodeFilter
    cases encodeWildcards <;> decide
  · rw [encodeFilter_eq]
    exact decode_of_forms_iff rfl (filterRaw_ascii encodeWildcards)
      (not_filterRaw_backslash encodeWildcards) (forms_encodeFilter text encodeWildcards)

/-- An escape that the text itself spells is no wildcard. -/
theorem encodeFilter_wildcards_spelledEscape :
    encodeFilter (Text.ofString "a*\\2a") false = Text.ofString "a*\\5c2a"
      ∧ Text.splitAt asterisk (Text.ofString "a*\\5c2a")
        = [Text.ofString "a", encodeFilter (Text.ofString "\\2a") true]
      ∧ filterCodec.decode (Text.ofString "a*\\5c2a") = Text.ofString "a*\\2a" := by
  have written : encodeFilter (Text.ofString "a*\\2a") false = Text.ofString "a*\\5c2a" := by
    decide +kernel
  rcases encodeFilter_wildcards (Text.ofString "a*\\2a") with ⟨parts, _, _, both⟩
  have restored := (both false).2.mpr (by decide)
  rw [written] at parts restored
  exact ⟨written, parts.trans (by decide +kernel), restored⟩

end Ldap

end Escaping
