import Sigui.MeshCrypto
import Sigui.Wire

/-! What a text packet carries inside: the user text of a zero-padded plaintext, and the hash under
which a received packet is remembered. -/
namespace Sigui.TextPlaintext

def validateUserText (text : Option CStr) : EspErr :=
  match (userTextValidate text).result with
  | .ok => espOk
  | .tooLong => espErrInvalidSize
  | _ => espErrInvalidArg

theorem validateUserText_ok {text : Option CStr} :
    validateUserText text = espOk ↔ (userTextValidate text).result = .ok := by
  unfold validateUserText
  cases (userTextValidate text).result <;> decide

section View

/-- `d1l_meshcore_text_plaintext_view_t`; `text` has `text_length` bytes. -/
structure TextView where
  text : List UInt8
  textInfo : UserTextInfo
  extendedAttempt : Nat
  deriving DecidableEq

/-- `d1l_meshcore_text_plaintext_view` -/
def textPlaintextView (padded : List UInt8) (allowExtendedAttempt : Bool) (lowAttempt : Nat) :
    Option TextView :=
  if padded.length = 0 ∨ 3 < lowAttempt then none
  else
    let text := padded.takeWhile (· != 0)
    let attempt := (padded.getD (text.length + 1) 0).toNat
    let extended := decide (text.length < padded.length) && allowExtendedAttempt &&
      decide (text.length + 1 < padded.length) && decide (3 < attempt)
    if extended ∧ attempt % 4 ≠ lowAttempt then none
    else if (padded.drop (if extended then text.length + 2 else text.length)).any (· != 0) then none
    else
      let info := userTextValidateSpan text false
      if info.result ≠ .ok then none else some ⟨text, info, if extended then attempt else 0⟩

variable {text : List UInt8} {n : Nat}

theorem takeWhile_zeroPadded (hnul : 0 ∉ text) (n : Nat) :
    (text ++ List.replicate n 0).takeWhile (· != 0) = text := by
  have hall : ∀ c ∈ text, (c != 0) = true := fun c hc => bne_iff_ne.mpr fun h => hnul (h ▸ hc)
  rw [List.takeWhile_append_of_pos hall]
  cases n with
  | zero => exact List.append_nil text
  | succ n => exact List.append_nil text

theorem textPlaintextView_padded (hnul : 0 ∉ text) (hpos : 0 < text.length + n)
    (allowExtendedAttempt : Bool) {lowAttempt : Nat} (hlow : lowAttempt ≤ 3) :
    textPlaintextView (text ++ List.replicate n 0) allowExtendedAttempt lowAttempt =
      if (userTextValidateSpan text false).result ≠ .ok then none
      else some ⟨text, userTextValidateSpan text false, 0⟩ := by
  have hattempt : (text ++ List.replicate n (0 : UInt8)).getD (text.length + 1) 0 = 0 := by
    rw [List.getD_append_right _ _ _ _ (Nat.le_succ _), List.getD_eq_getElem?_getD,
      List.getElem?_replicate]
    split_ifs <;> rfl
  have hzeros : ((text ++ List.replicate n (0 : UInt8)).drop text.length).any (· != 0) = false := by
    rw [List.drop_left, List.any_eq_false]
    intro c hc
    rw [(List.mem_replicate.mp hc).2]
    decide
  unfold textPlaintextView
  dsimp only
  rw [if_neg (by
    rintro (hempty | hover)
    · simp only [List.length_append, List.length_replicate] at hempty
      omega
    · omega), takeWhile_zeroPadded hnul, hattempt]
  have hextended : (decide (text.length < (text ++ List.replicate n (0 : UInt8)).length) &&
      allowExtendedAttempt &&
      decide (text.length + 1 < (text ++ List.replicate n (0 : UInt8)).length) &&
      decide (3 < (0 : UInt8).toNat)) = false := Bool.and_false _
  rw [hextended, if_neg (fun h => Bool.noConfusion h.1), if_neg Bool.false_ne_true, hzeros,
    if_neg Bool.false_ne_true]
  rfl

theorem userTextScan_result (byteCount byteCount' size : Nat) : ∀ {text : List UInt8},
    text.length ≤ size → ∀ characters characters',
      (userTextScan byteCount text characters).result =
        (userTextScan byteCount' text characters').result := by
  induction size with
  | zero =>
    intro text hsize _ _
    rw [List.length_eq_zero_iff.mp (Nat.le_zero.mp hsize)]
    rfl
  | succ size ih =>
    intro text hsize characters characters'
    rcases text with _ | ⟨first, rest⟩
    · rfl
    simp only [List.length_cons] at hsize
    unfold userTextScan
    dsimp only
    by_cases hone : first.toNat ≤ 0x7F
    · rw [if_pos hone, if_pos hone]
      split_ifs
      · rfl
      · exact ih (by omega) _ _
    rw [if_neg hone, if_neg hone]
    by_cases htwo : 0xC2 ≤ first.toNat ∧ first.toNat ≤ 0xDF
    · rw [if_pos htwo, if_pos htwo]
      rcases rest with _ | ⟨c1, rest⟩
      · rfl
      simp only [List.length_cons] at hsize
      dsimp only
      split_ifs
      · rfl
      · rfl
      · exact ih (by omega) _ _
    rw [if_neg htwo, if_neg htwo]
    by_cases hthree : 0xE0 ≤ first.toNat ∧ first.toNat ≤ 0xEF
    · rw [if_pos hthree, if_pos hthree]
      rcases rest with _ | ⟨c1, _ | ⟨c2, rest⟩⟩
      · rfl
      · rfl
      simp only [List.length_cons] at hsize
      dsimp only
      split_ifs
      · rfl
      · rfl
      · exact ih (by omega) _ _
    rw [if_neg hthree, if_neg hthree]
    by_cases hfour : 0xF0 ≤ first.toNat ∧ first.toNat ≤ 0xF4
    · rw [if_pos hfour, if_pos hfour]
      rcases rest with _ | ⟨c1, _ | ⟨c2, _ | ⟨c3, rest⟩⟩⟩
      · rfl
      · rfl
      · rfl
      simp only [List.length_cons] at hsize
      dsimp only
      split_ifs
      · rfl
      · rfl
      · exact ih (by omega) _ _
    rw [if_neg hfour, if_neg hfour]

theorem userTextScan_cons_printable (byteCount : Nat) {c : UInt8}
    (hc : 32 ≤ c.toNat ∧ c.toNat ≤ 126) (text : List UInt8) (characters : Nat) :
    userTextScan byteCount (c :: text) characters =
      userTextScan byteCount text (characters + 1) := by
  have hcontrol : forbiddenControl c.toNat = false := decide_eq_false (by omega)
  conv_lhs => unfold userTextScan
  dsimp only
  rw [if_pos (by omega), hcontrol, if_neg Bool.false_ne_true]

theorem userTextValidateSpan_ok_length {text : List UInt8} {allowEmpty : Bool}
    (h : (userTextValidateSpan text allowEmpty).result = .ok) : text.length ≤ userTextMaxBytes := by
  by_contra hlong
  rw [userTextValidateSpan, if_neg (by omega), if_pos (by omega)] at h
  exact UserTextResult.noConfusion h

theorem userTextValidateSpan_printable_append {front text : List UInt8}
    (hfront : ∀ c ∈ front, 32 ≤ c.toNat ∧ c.toNat ≤ 126)
    (htext : (userTextValidateSpan text false).result = .ok)
    (hfits : (front ++ text).length ≤ userTextMaxBytes) :
    (userTextValidateSpan (front ++ text) false).result = .ok := by
  have hne : text.length ≠ 0 := by
    intro hempty
    rw [userTextValidateSpan, if_pos hempty] at htext
    exact UserTextResult.noConfusion htext
  have hlong : ¬userTextMaxBytes < text.length := by
    simp only [List.length_append] at hfits
    omega
  have hskip : ∀ byteCount characters, userTextScan byteCount (front ++ text) characters =
      userTextScan byteCount text (characters + front.length) := by
    intro byteCount
    clear hfits
    induction front with
    | nil => exact fun _ => rfl
    | cons c front ih =>
      intro characters
      obtain ⟨hc, hrest⟩ := List.forall_mem_cons.mp hfront
      rw [List.cons_append, userTextScan_cons_printable _ hc, ih hrest, List.length_cons,
        Nat.add_right_comm, Nat.add_assoc]
  rw [userTextValidateSpan, if_neg hne, if_neg hlong] at htext
  rw [userTextValidateSpan, if_neg (by rw [List.length_append]; omega),
    if_neg (Nat.not_lt.mpr hfits), hskip,
    userTextScan_result _ text.length text.length le_rfl _ 0, htext]

end View

end Sigui.TextPlaintext
