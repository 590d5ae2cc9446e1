import Sigui.ContactUri
import Sigui.Utf8Scalars

/-! The two text validators: the one with tables for the second byte and the one that decodes and
checks the code point accept the same strings. -/
namespace Sigui.TextLanguage

open Utf8 Channel

def utf8Encode (scalars : List Char) : List UInt8 := scalars.flatMap String.utf8EncodeChar

def Allowed (scalars : List Char) : Prop :=
  ∀ c ∈ scalars, forbiddenControl c.val.toNat = false

/-- `contact_uri.c`'s `utf8_name_is_valid`; the one of `channel_store.c` also bounds the length. -/
def contactUtf8NameIsValid (text : List UInt8) : Bool := !text.isEmpty && utf8Scan text

section Steps

variable {bytes rest text : List UInt8} {v : Nat}

theorem continuation_iff (byte : UInt8) : continuation byte = true ↔ Continues byte := by
  simp only [continuation, Continues, decide_eq_true_eq]

theorem continuationByte_iff (byte : UInt8) : continuationByte byte = true ↔ Continues byte := by
  have hvalues : ∀ n < 256, (n &&& 0xC0 = 0x80 ↔ 0x80 ≤ n ∧ n ≤ 0xBF) := by decide +kernel
  rw [continuationByte, beq_iff_eq, ← UInt8.toNat_inj, UInt8.toNat_and]
  exact hvalues byte.toNat byte.toNat_lt

theorem userTextScan_encodes (h : Encodes bytes v) (byteCount characters : Nat) :
    userTextScan byteCount (bytes ++ rest) characters =
      if forbiddenControl v then ⟨.controlCharacter, byteCount, characters⟩
      else userTextScan byteCount rest (characters + 1) := by
  cases h with
  | one h =>
    conv_lhs => unfold userTextScan
    dsimp only [List.cons_append, List.nil_append]
    rw [if_pos h]
  | two h h1 =>
    conv_lhs => unfold userTextScan
    dsimp only [List.cons_append, List.nil_append]
    rw [if_neg (by omega), if_pos h, (continuation_iff _).mpr h1]
    rfl
  | @three b0 c1 c2 h h1 h2 hmin hsurrogate =>
    have htables : (!continuation c1 || !continuation c2 ||
        (b0.toNat == 0xE0 && decide (c1.toNat < 0xA0)) ||
        (b0.toNat == 0xED && decide (0x9F < c1.toNat))) = false := by
      have hv : scalarThree b0 c1 c2 =
        b0.toNat % 0x10 * 0x1000 + c1.toNat % 0x40 * 0x40 + c2.toNat % 0x40 := rfl
      rw [(continuation_iff _).mpr h1, (continuation_iff _).mpr h2]
      unfold Continues at h1 h2
      simp only [Bool.not_true, Bool.false_or, Bool.or_eq_false_iff, Bool.and_eq_false_iff,
        beq_eq_false_iff_ne, decide_eq_false_iff_not]
      omega
    conv_lhs => unfold userTextScan
    dsimp only [List.cons_append, List.nil_append]
    rw [if_neg (by omega), if_neg (by omega), if_pos h, htables, if_neg Bool.false_ne_true]
    rfl
  | @four b0 c1 c2 c3 h h1 h2 h3 hmin hmax =>
    have htables : (!continuation c1 || !continuation c2 || !continuation c3 ||
        (b0.toNat == 0xF0 && decide (c1.toNat < 0x90)) ||
        (b0.toNat == 0xF4 && decide (0x8F < c1.toNat))) = false := by
      have hv : scalarFour b0 c1 c2 c3 = b0.toNat % 0x08 * 0x40000 + c1.toNat % 0x40 * 0x1000 +
        c2.toNat % 0x40 * 0x40 + c3.toNat % 0x40 := rfl
      rw [(continuation_iff _).mpr h1, (continuation_iff _).mpr h2, (continuation_iff _).mpr h3]
      unfold Continues at h1 h2 h3
      simp only [Bool.not_true, Bool.false_or, Bool.or_eq_false_iff, Bool.and_eq_false_iff,
        beq_eq_false_iff_ne, decide_eq_false_iff_not]
      omega
    conv_lhs => unfold userTextScan
    dsimp only [List.cons_append, List.nil_append]
    rw [if_neg (by omega), if_neg (by omega), if_neg (by omega), if_pos h, htables,
      if_neg Bool.false_ne_true]
    rfl

theorem userTextScan_starts {lead : UInt8} {byteCount characters : Nat}
    (h : (userTextScan byteCount (lead :: text) characters).result = .ok) :
    ∃ bytes v rest, Encodes bytes v ∧ lead :: text = bytes ++ rest := by
  unfold userTextScan at h
  dsimp only at h
  by_cases hone : lead.toNat ≤ 0x7F
  · exact ⟨[lead], _, text, .one hone, rfl⟩
  rw [if_neg hone] at h
  by_cases htwo : 0xC2 ≤ lead.toNat ∧ lead.toNat ≤ 0xDF
  · rw [if_pos htwo] at h
    rcases text with _ | ⟨c1, rest⟩
    · cases h
    dsimp only at h
    by_cases h1 : continuation c1 = true
    · exact ⟨[lead, c1], _, rest, .two htwo ((continuation_iff _).mp h1), rfl⟩
    · rw [if_pos (by simpa using h1)] at h
      cases h
  rw [if_neg htwo] at h
  by_cases hthree : 0xE0 ≤ lead.toNat ∧ lead.toNat ≤ 0xEF
  · rw [if_pos hthree] at h
    rcases text with _ | ⟨c1, _ | ⟨c2, rest⟩⟩
    · cases h
    · cases h
    dsimp only at h
    split_ifs at h with htables
    simp only [Bool.not_eq_true, Bool.or_eq_false_iff, Bool.and_eq_false_iff, Bool.not_eq_false',
      beq_eq_false_iff_ne, decide_eq_false_iff_not, continuation_iff] at htables
    obtain ⟨⟨⟨h1, h2⟩, hlow⟩, hhigh⟩ := htables
    have hv : scalarThree lead c1 c2 =
      lead.toNat % 0x10 * 0x1000 + c1.toNat % 0x40 * 0x40 + c2.toNat % 0x40 := rfl
    refine ⟨[lead, c1, c2], _, rest, .three hthree h1 h2 ?_ ?_, rfl⟩
    · unfold Continues at h1 h2
      omega
    · unfold Continues at h1 h2
      omega
  rw [if_neg hthree] at h
  by_cases hfour : 0xF0 ≤ lead.toNat ∧ lead.toNat ≤ 0xF4
  · rw [if_pos hfour] at h
    rcases text with _ | ⟨c1, _ | ⟨c2, _ | ⟨c3, rest⟩⟩⟩
    · cases h
    · cases h
    · cases h
    dsimp only at h
    split_ifs at h with htables
    simp only [Bool.not_eq_true, Bool.or_eq_false_iff, Bool.and_eq_false_iff, Bool.not_eq_false',
      beq_eq_false_iff_ne, decide_eq_false_iff_not, continuation_iff] at htables
    obtain ⟨⟨⟨⟨h1, h2⟩, h3⟩, hlow⟩, hhigh⟩ := htables
    have hv : scalarFour lead c1 c2 c3 = lead.toNat % 0x08 * 0x40000 + c1.toNat % 0x40 * 0x1000 +
      c2.toNat % 0x40 * 0x40 + c3.toNat % 0x40 := rfl
    refine ⟨[lead, c1, c2, c3], _, rest, .four hfour h1 h2 h3 ?_ ?_, rfl⟩
    · unfold Continues at h1 h2 h3
      omega
    · unfold Continues at h1 h2 h3
      omega
  · rw [if_neg hfour] at h
    cases h

theorem codepointIsValid_iff (minimum codepoint : Nat) :
    codepointIsValid minimum codepoint = true ↔ minimum ≤ codepoint ∧ codepoint ≤ 0x10FFFF ∧
      ¬(0xD800 ≤ codepoint ∧ codepoint ≤ 0xDFFF) ∧ forbiddenControl codepoint = false := by
  simp only [codepointIsValid, forbiddenControl, Bool.and_eq_true, decide_eq_true_eq,
    Bool.not_eq_true', decide_eq_false_iff_not]
  omega

theorem codepointIsValid_eq {minimum codepoint : Nat} (hmin : minimum ≤ codepoint)
    (hmax : codepoint ≤ 0x10FFFF) (hsurrogate : ¬(0xD800 ≤ codepoint ∧ codepoint ≤ 0xDFFF)) :
    codepointIsValid minimum codepoint = !forbiddenControl codepoint := by
  rw [Bool.eq_iff_iff, codepointIsValid_iff, Bool.not_eq_true']
  exact ⟨fun h => h.2.2.2, fun h => ⟨hmin, hmax, hsurrogate, h⟩⟩

theorem utf8Scan_encodes (h : Encodes bytes v) :
    utf8Scan (bytes ++ rest) = (!forbiddenControl v && utf8Scan rest) := by
  cases h with
  | one h =>
    conv_lhs => unfold utf8Scan
    dsimp only [List.cons_append, List.nil_append]
    rw [if_pos h, codepointIsValid_eq (Nat.zero_le _) (by omega) (by omega)]
  | @two b0 c1 h h1 =>
    have hv : scalarTwo b0 c1 = b0.toNat % 0x20 * 0x40 + c1.toNat % 0x40 := rfl
    have hvalid : codepointIsValid 0x80 (scalarTwo b0 c1) =
        !forbiddenControl (scalarTwo b0 c1) := by
      unfold Continues at h1
      exact codepointIsValid_eq (by omega) (by omega) (by omega)
    conv_lhs => unfold utf8Scan
    dsimp only [List.cons_append, List.nil_append]
    rw [if_neg (by omega), if_pos h, (continuationByte_iff _).mpr h1, ← hvalid,
      Bool.true_and, hv]
  | @three b0 c1 c2 h h1 h2 hmin hsurrogate =>
    have hv : scalarThree b0 c1 c2 =
      b0.toNat % 0x10 * 0x1000 + c1.toNat % 0x40 * 0x40 + c2.toNat % 0x40 := rfl
    have hvalid := codepointIsValid_eq hmin (by omega) hsurrogate
    conv_lhs => unfold utf8Scan
    dsimp only [List.cons_append, List.nil_append]
    rw [if_neg (by omega), if_neg (by omega), if_pos h, (continuationByte_iff _).mpr h1,
      (continuationByte_iff _).mpr h2, ← hvalid]
    simp only [Bool.true_and, hv]
  | @four b0 c1 c2 c3 h h1 h2 h3 hmin hmax =>
    have hvalid := codepointIsValid_eq hmin hmax (by omega)
    conv_lhs => unfold utf8Scan
    dsimp only [List.cons_append, List.nil_append]
    rw [if_neg (by omega), if_neg (by omega), if_neg (by omega), if_pos h,
      (continuationByte_iff _).mpr h1, (continuationByte_iff _).mpr h2,
      (continuationByte_iff _).mpr h3, ← hvalid]
    simp only [Bool.true_and, scalarFour]

theorem utf8Scan_starts {lead : UInt8} (h : utf8Scan (lead :: text) = true) :
    ∃ bytes v rest, Encodes bytes v ∧ lead :: text = bytes ++ rest := by
  unfold utf8Scan at h
  dsimp only at h
  by_cases hone : lead.toNat ≤ 0x7F
  · exact ⟨[lead], _, text, .one hone, rfl⟩
  rw [if_neg hone] at h
  by_cases htwo : 0xC2 ≤ lead.toNat ∧ lead.toNat ≤ 0xDF
  · rw [if_pos htwo] at h
    rcases text with _ | ⟨c1, rest⟩
    · cases h
    simp only [Bool.and_eq_true, continuationByte_iff] at h
    exact ⟨[lead, c1], _, rest, .two htwo h.1.1, rfl⟩
  rw [if_neg htwo] at h
  by_cases hthree : 0xE0 ≤ lead.toNat ∧ lead.toNat ≤ 0xEF
  · rw [if_pos hthree] at h
    rcases text with _ | ⟨c1, _ | ⟨c2, rest⟩⟩
    · cases h
    · cases h
    simp only [Bool.and_eq_true, continuationByte_iff, codepointIsValid_iff] at h
    obtain ⟨⟨⟨h1, h2⟩, hmin, -, hsurrogate, -⟩, -⟩ := h
    exact ⟨[lead, c1, c2], _, rest, .three hthree h1 h2 hmin hsurrogate, rfl⟩
  rw [if_neg hthree] at h
  by_cases hfour : 0xF0 ≤ lead.toNat ∧ lead.toNat ≤ 0xF4
  · rw [if_pos hfour] at h
    rcases text with _ | ⟨c1, _ | ⟨c2, _ | ⟨c3, rest⟩⟩⟩
    · cases h
    · cases h
    · cases h
    simp only [Bool.and_eq_true, continuationByte_iff, codepointIsValid_iff] at h
    obtain ⟨⟨⟨⟨h1, h2⟩, h3⟩, hmin, hmax, -, -⟩, -⟩ := h
    exact ⟨[lead, c1, c2, c3], _, rest, .four hfour h1 h2 h3 hmin hmax, rfl⟩
  · rw [if_neg hfour] at h
    cases h

end Steps

section Language

variable {text : List UInt8}

theorem encodes_ne_nil {bytes : List UInt8} {v : Nat} (h : Encodes bytes v) : 0 < bytes.length := by
  cases h <;> exact Nat.succ_pos _

theorem utf8Encode_cons (c : Char) (scalars : List Char) :
    utf8Encode (c :: scalars) = String.utf8EncodeChar c ++ utf8Encode scalars :=
  List.flatMap_cons

theorem userTextScan_encode {scalars : List Char} (h : Allowed scalars)
    (byteCount characters : Nat) :
    userTextScan byteCount (utf8Encode scalars) characters =
      ⟨.ok, byteCount, characters + scalars.length⟩ := by
  induction scalars generalizing characters with
  | nil => rfl
  | cons c scalars ih =>
    obtain ⟨hc, hrest⟩ := List.forall_mem_cons.mp h
    rw [utf8Encode_cons, userTextScan_encodes (encodes_char c), hc, if_neg Bool.false_ne_true,
      ih hrest, List.length_cons, Nat.add_assoc, Nat.add_comm 1]

theorem utf8Scan_encode {scalars : List Char} (h : Allowed scalars) :
    utf8Scan (utf8Encode scalars) = true := by
  induction scalars with
  | nil => rfl
  | cons c scalars ih =>
    obtain ⟨hc, hrest⟩ := List.forall_mem_cons.mp h
    rw [utf8Encode_cons, utf8Scan_encodes (encodes_char c), hc, ih hrest]
    rfl

theorem encoded_of_steps (accepts : List UInt8 → Prop)
    (hstarts : ∀ lead text, accepts (lead :: text) →
      ∃ bytes v rest, Encodes bytes v ∧ lead :: text = bytes ++ rest)
    (hstep : ∀ bytes v rest, Encodes bytes v → accepts (bytes ++ rest) →
      forbiddenControl v = false ∧ accepts rest) :
    accepts text → ∃ scalars, text = utf8Encode scalars ∧ Allowed scalars := by
  generalize hn : text.length = n
  induction n using Nat.strong_induction_on generalizing text with
  | _ n ih =>
    intro h
    cases text with
    | nil => exact ⟨[], rfl, fun _ hc => absurd hc List.not_mem_nil⟩
    | cons lead text =>
      obtain ⟨bytes, v, rest, hbytes, hsplit⟩ := hstarts lead text h
      rw [hsplit] at h hn ⊢
      obtain ⟨hallowed, hrest⟩ := hstep bytes v rest hbytes h
      have hpos := encodes_ne_nil hbytes
      obtain ⟨scalars, rfl, hscalars⟩ :=
        ih rest.length (by rw [← hn, List.length_append]; omega) rfl hrest
      obtain ⟨c, rfl, rfl⟩ := hbytes.char
      exact ⟨c :: scalars, (utf8Encode_cons c scalars).symm,
        List.forall_mem_cons.mpr ⟨hallowed, hscalars⟩⟩

theorem utf8Scan_iff : utf8Scan text = true ↔ ∃ scalars, text = utf8Encode scalars ∧
    Allowed scalars := by
  constructor
  · apply encoded_of_steps fun text => utf8Scan text = true
    · exact fun lead text h => utf8Scan_starts h
    · intro bytes v rest hbytes h
      rw [utf8Scan_encodes hbytes, Bool.and_eq_true, Bool.not_eq_true'] at h
      exact h
  · rintro ⟨scalars, rfl, h⟩
    exact utf8Scan_encode h

theorem no_nul_of_utf8Scan (h : utf8Scan text = true) : 0 ∉ text := by
  obtain ⟨scalars, rfl, hallowed⟩ := utf8Scan_iff.mp h
  intro hmem
  obtain ⟨c, hc, hbyte⟩ := List.mem_flatMap.mp hmem
  have hcontrol := hallowed c hc
  have hform := encodes_char c
  generalize String.utf8EncodeChar c = bytes at hbyte hform
  have hnot : ∀ byte : UInt8, Continues byte → byte ≠ 0 := by
    rintro byte hbyte rfl
    exact absurd hbyte.1 (by decide)
  have hlead : ∀ (byte : UInt8) (n : Nat), 0 < n → n ≤ byte.toNat → byte ≠ 0 := by
    rintro byte n hpos hle rfl
    exact absurd (hpos.trans_le hle) (by decide)
  generalize c.val.toNat = v at hcontrol hform
  cases hform with
  | one h =>
    rw [← List.mem_singleton.mp hbyte] at hcontrol
    exact absurd hcontrol (by decide)
  | two h h1 =>
    simp only [List.mem_cons, List.not_mem_nil, or_false] at hbyte
    rcases hbyte with heq | heq
    · exact hlead _ 0xC2 (by decide) h.1 heq.symm
    · exact hnot _ h1 heq.symm
  | three h h1 h2 hmin hsurrogate =>
    simp only [List.mem_cons, List.not_mem_nil, or_false] at hbyte
    rcases hbyte with heq | heq | heq
    · exact hlead _ 0xE0 (by decide) h.1 heq.symm
    · exact hnot _ h1 heq.symm
    · exact hnot _ h2 heq.symm
  | four h h1 h2 h3 hmin hmax =>
    simp only [List.mem_cons, List.not_mem_nil, or_false] at hbyte
    rcases hbyte with heq | heq | heq | heq
    · exact hlead _ 0xF0 (by decide) h.1 heq.symm
    · exact hnot _ h1 heq.symm
    · exact hnot _ h2 heq.symm
    · exact hnot _ h3 heq.symm

theorem userTextScan_iff {byteCount : Nat} :
    (∃ characters, (userTextScan byteCount text characters).result = .ok) ↔
      ∃ scalars, text = utf8Encode scalars ∧ Allowed scalars := by
  constructor
  · apply encoded_of_steps fun text =>
      ∃ characters, (userTextScan byteCount text characters).result = .ok
    · rintro lead text ⟨characters, h⟩
      exact userTextScan_starts h
    · rintro bytes v rest hbytes ⟨characters, h⟩
      rw [userTextScan_encodes hbytes] at h
      cases hv : forbiddenControl v with
      | true =>
        rw [hv, if_pos rfl] at h
        cases h
      | false =>
        rw [hv, if_neg Bool.false_ne_true] at h
        exact ⟨rfl, characters + 1, h⟩
  · rintro ⟨scalars, rfl, h⟩
    exact ⟨0, by rw [userTextScan_encode h]⟩

/-- The validators accept exactly the encodings of allowed characters, and the one with tables
counts them. -/
theorem validators_agree (text : List UInt8)
    (hlen : 1 ≤ text.length ∧ text.length ≤ userTextMaxBytes) :
    (contactUtf8NameIsValid text = true ↔ (userTextValidateSpan text false).result = .ok) ∧
      (contactUtf8NameIsValid text = true ↔ ∃ scalars, text = utf8Encode scalars ∧
        Allowed scalars) ∧
      (text.length < channelNameLen → utf8NameIsValid text = contactUtf8NameIsValid text) ∧
      ∀ scalars, text = utf8Encode scalars → Allowed scalars →
        (userTextValidateSpan text false).characterCount = scalars.length := by
  have hspan : userTextValidateSpan text false = userTextScan text.length text 0 := by
    rw [userTextValidateSpan, if_neg (by omega), if_neg (by omega)]
  have hne : text.isEmpty = false := by
    rw [List.isEmpty_eq_false_iff]
    intro hnil
    rw [hnil] at hlen
    exact absurd hlen.1 (by decide)
  have hcontact : contactUtf8NameIsValid text = true ↔ ∃ scalars, text = utf8Encode scalars ∧
      Allowed scalars := by
    rw [contactUtf8NameIsValid, hne, ← utf8Scan_iff]
    rfl
  refine ⟨?_, hcontact, ?_, ?_⟩
  · rw [hcontact, hspan]
    constructor
    · rintro ⟨scalars, htext, h⟩
      rw [htext, userTextScan_encode h]
    · exact fun h => userTextScan_iff.mp ⟨0, h⟩
  · intro hshort
    rw [utf8NameIsValid, decide_eq_true hshort, Bool.and_true]
    rfl
  · intro scalars htext h
    rw [hspan, htext, userTextScan_encode h, Nat.zero_add]

theorem validators_agree_hi :
    (contactUtf8NameIsValid [104, 105] = true ↔
        (userTextValidateSpan [104, 105] false).result = .ok) ∧
      (contactUtf8NameIsValid [104, 105] = true ↔
        ∃ scalars, [104, 105] = utf8Encode scalars ∧ Allowed scalars) ∧
      (([104, 105] : List UInt8).length < channelNameLen →
        utf8NameIsValid [104, 105] = contactUtf8NameIsValid [104, 105]) ∧
      ∀ scalars, [104, 105] = utf8Encode scalars → Allowed scalars →
        (userTextValidateSpan [104, 105] false).characterCount = scalars.length :=
  validators_agree [104, 105] (by decide)

end Language

end Sigui.TextLanguage
