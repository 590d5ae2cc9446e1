import Sigui.ChannelOps

/-! How a name is written into a share URI and found there again: every byte that is not plain is
escaped, so neither a separator nor an equals sign is left in a value. -/
namespace Sigui.UriText

open Channel (decodeUriText hexValue hexByte)

def plainByte (value : UInt8) : Bool :=
  decide (65 ≤ value.toNat ∧ value.toNat ≤ 90) || decide (97 ≤ value.toNat ∧ value.toNat ≤ 122) ||
    decide (48 ≤ value.toNat ∧ value.toNat ≤ 57) || value == 45 || value == 95 || value == 46

/-- `"0123456789ABCDEF"[n]` -/
def upperHex (n : Nat) : UInt8 := .ofNat (if n < 10 then 48 + n else 55 + n)

def escapeByte (value : UInt8) : List UInt8 :=
  [37, upperHex (value.toNat / 16), upperHex (value.toNat % 16)]

/-- `encode_uri_name` and `encode_name` from the `out`-th byte of their buffer on. -/
def encodeFrom (destSize : Nat) : List UInt8 → Nat → Option (List UInt8)
  | [], _ => some []
  | value :: rest, out =>
    if plainByte value then
      if destSize ≤ out + 1 then none else (encodeFrom destSize rest (out + 1)).map (value :: ·)
    else if value = 32 then
      if destSize ≤ out + 1 then none else (encodeFrom destSize rest (out + 1)).map (43 :: ·)
    else if destSize ≤ out + 3 then none
    else (encodeFrom destSize rest (out + 3)).map (escapeByte value ++ ·)

def encodeUriName (name : List UInt8) (destSize : Nat) : Option (List UInt8) :=
  encodeFrom destSize name 0

section Encode

variable {text encoded : List UInt8} {destSize out : Nat}

def SafeByte (value : UInt8) : Prop := plainByte value = true ∨ value = 43 ∨ value = 37

theorem upperHex_spec {n : Nat} (h : n < 16) :
    plainByte (upperHex n) = true ∧ hexValue (upperHex n) = some (.ofNat n) := by
  have hcases : ∀ n : Fin 16, plainByte (upperHex n) = true ∧
      hexValue (upperHex n) = some (.ofNat n) := by
    decide
  exact hcases ⟨n, h⟩

theorem hexByte_escape (value : UInt8) :
    hexByte (upperHex (value.toNat / 16)) (upperHex (value.toNat % 16)) = some value := by
  have hlt := value.toNat_lt
  unfold hexByte
  rw [(upperHex_spec (show value.toNat / 16 < 16 by omega)).2,
    (upperHex_spec (show value.toNat % 16 < 16 by omega)).2]
  change some (UInt8.ofNat (value.toNat / 16) * 16 + UInt8.ofNat (value.toNat % 16)) = some value
  congr 1
  rw [← UInt8.toNat_inj, UInt8.toNat_add, UInt8.toNat_mul, UInt8.toNat_ofNat', UInt8.toNat_ofNat']
  change (value.toNat / 16 % 256 * 16 % 256 + value.toNat % 16 % 256) % 256 = value.toNat
  omega

theorem encodeFrom_fits (hfits : out + 3 * text.length < destSize) :
    ∃ encoded, encodeFrom destSize text out = some encoded ∧ encoded.length ≤ 3 * text.length := by
  induction text generalizing out with
  | nil => exact ⟨[], rfl, Nat.zero_le _⟩
  | cons value rest ih =>
    rw [List.length_cons] at hfits
    rw [encodeFrom]
    by_cases hplain : plainByte value = true
    · obtain ⟨tail, htail, hlen⟩ := ih (show out + 1 + 3 * rest.length < destSize by omega)
      rw [if_pos hplain, if_neg (by omega), htail]
      exact ⟨value :: tail, rfl, by simp only [List.length_cons]; omega⟩
    rw [if_neg hplain]
    by_cases hspace : value = 32
    · obtain ⟨tail, htail, hlen⟩ := ih (show out + 1 + 3 * rest.length < destSize by omega)
      rw [if_pos hspace, if_neg (by omega), htail]
      exact ⟨43 :: tail, rfl, by simp only [List.length_cons]; omega⟩
    · obtain ⟨tail, htail, hlen⟩ := ih (show out + 3 + 3 * rest.length < destSize by omega)
      rw [if_neg hspace, if_neg (by omega), htail]
      exact ⟨escapeByte value ++ tail, rfl, by
        simp only [escapeByte, List.length_append, List.length_cons, List.length_nil]
        omega⟩

theorem decodeUriText_plain {value : UInt8} {tail : List UInt8} (hpercent : value ≠ 37)
    (hzero : value ≠ 0) (h : decodeUriText tail = some text) :
    decodeUriText (value :: tail) = some ((if value = 43 then 32 else value) :: text) := by
  unfold decodeUriText
  rw [if_neg hpercent, if_neg hzero, h]
  rfl

theorem decodeUriText_escape {value : UInt8} {tail : List UInt8} (hzero : value ≠ 0)
    (h : decodeUriText tail = some text) :
    decodeUriText (escapeByte value ++ tail) = some (value :: text) := by
  change decodeUriText
    (37 :: upperHex (value.toNat / 16) :: upperHex (value.toNat % 16) :: tail) = _
  unfold decodeUriText
  rw [if_pos rfl]
  dsimp only
  rw [hexByte_escape]
  change (if value = 0 then none else _) = _
  rw [if_neg hzero, h]
  rfl

theorem encodeFrom_decodes (hnul : 0 ∉ text) (h : encodeFrom destSize text out = some encoded) :
    decodeUriText encoded = some text ∧ ∀ c ∈ encoded, SafeByte c := by
  induction text generalizing out encoded with
  | nil =>
    cases h
    exact ⟨rfl, fun c hc => absurd hc List.not_mem_nil⟩
  | cons value rest ih =>
    have hvalue : value ≠ 0 := fun hzero => hnul (hzero ▸ List.mem_cons_self)
    have hrest : 0 ∉ rest := fun hmem => hnul (List.mem_cons_of_mem _ hmem)
    rw [encodeFrom] at h
    by_cases hplain : plainByte value = true
    · rw [if_pos hplain] at h
      split_ifs at h with hfull
      obtain ⟨tail, htail, rfl⟩ := Option.map_eq_some_iff.mp h
      obtain ⟨hdecoded, hsafe⟩ := ih hrest htail
      have hpercent : value ≠ 37 := fun heq => absurd (heq ▸ hplain) (by decide)
      have hplus : value ≠ 43 := fun heq => absurd (heq ▸ hplain) (by decide)
      refine ⟨?_, List.forall_mem_cons.mpr ⟨.inl hplain, hsafe⟩⟩
      rw [decodeUriText_plain hpercent hvalue hdecoded, if_neg hplus]
    rw [if_neg hplain] at h
    by_cases hspace : value = 32
    · rw [if_pos hspace] at h
      split_ifs at h with hfull
      obtain ⟨tail, htail, rfl⟩ := Option.map_eq_some_iff.mp h
      obtain ⟨hdecoded, hsafe⟩ := ih hrest htail
      refine ⟨?_, List.forall_mem_cons.mpr ⟨.inr (.inl rfl), hsafe⟩⟩
      rw [decodeUriText_plain (by decide) (by decide) hdecoded, if_pos rfl, hspace]
    · rw [if_neg hspace] at h
      split_ifs at h with hfull
      obtain ⟨tail, htail, rfl⟩ := Option.map_eq_some_iff.mp h
      obtain ⟨hdecoded, hsafe⟩ := ih hrest htail
      have hlt := value.toNat_lt
      refine ⟨decodeUriText_escape hvalue hdecoded, fun c hc => ?_⟩
      rcases List.mem_append.mp hc with hescape | htail'
      · simp only [escapeByte, List.mem_cons, List.not_mem_nil, or_false] at hescape
        rcases hescape with rfl | rfl | rfl
        · exact .inr (.inr rfl)
        · exact .inl (upperHex_spec (by omega)).1
        · exact .inl (upperHex_spec (by omega)).1
      · exact hsafe c htail'

theorem SafeByte.no_separator {value : UInt8} (h : SafeByte value) :
    value ≠ 38 ∧ value ≠ 61 ∧ value ≠ 0 := by
  refine ⟨?_, ?_, ?_⟩
  all_goals
    rintro rfl
    revert h
    unfold SafeByte
    decide

end Encode

section Fields

variable {field value : List UInt8}

def fieldText (field value : List UInt8) : List UInt8 := field ++ 61 :: value

theorem takeWhile_field (h : 61 ∉ field) :
    (fieldText field value).takeWhile (· != 61) = field := by
  have hall : ∀ c ∈ field, (c != 61) = true := fun c hc => bne_iff_ne.mpr fun heq => h (heq ▸ hc)
  rw [fieldText, List.takeWhile_append_of_pos hall, List.takeWhile_cons_of_neg (by decide),
    List.append_nil]

theorem drop_field : (fieldText field value).drop field.length = 61 :: value := List.drop_left

theorem fieldText_clean {c : UInt8} (hfield : c ∉ field) (hvalue : ∀ c ∈ value, SafeByte c)
    (hequals : c ≠ 61) (hc : plainByte c = false ∧ c ≠ 43 ∧ c ≠ 37) :
    c ∉ fieldText field value := by
  intro hmem
  rcases List.mem_append.mp hmem with hfront | hrest
  · exact hfield hfront
  rcases List.mem_cons.mp hrest with heq | hin
  · exact hequals heq
  rcases hvalue c hin with hplain | hplus | hpercent
  · exact Bool.noConfusion (hc.1.symm.trans hplain)
  · exact hc.2.1 hplus
  · exact hc.2.2 hpercent

theorem fieldText_separators (hfield : 38 ∉ field ∧ 0 ∉ field) (hvalue : ∀ c ∈ value, SafeByte c) :
    38 ∉ fieldText field value ∧ 0 ∉ fieldText field value :=
  ⟨fieldText_clean hfield.1 hvalue (by decide) (by decide),
    fieldText_clean hfield.2 hvalue (by decide) (by decide)⟩

end Fields

end Sigui.UriText
