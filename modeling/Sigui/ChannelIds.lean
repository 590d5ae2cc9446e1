import Sigui.ChannelStore

/-! The first id of a new lineage. The loop that draws it mixes its candidate until it is neither a
reserved value nor the lineage; no lineage sends it round in a circle. -/
namespace Sigui.Channel

theorem xorShift_injective {k x y : UInt64} (hpos : 0 < k.toNat % 64)
    (h : x ^^^ (x >>> k) = y ^^^ (y >>> k)) : x = y := by
  have hshift : (x ^^^ y) >>> k = x ^^^ y := by
    rw [UInt64.shiftRight_xor]
    have hmoved : x ^^^ (x ^^^ (x >>> k)) ^^^ (y >>> k) = x ^^^ (y ^^^ (y >>> k)) ^^^ (y >>> k) :=
      congrArg (fun v => x ^^^ v ^^^ (y >>> k)) h
    simpa only [← UInt64.xor_assoc, UInt64.xor_self, UInt64.zero_xor, UInt64.xor_zero,
      UInt64.xor_assoc (x ^^^ y)] using hmoved
  have hval : (x ^^^ y).toNat / 2 ^ (k.toNat % 64) = (x ^^^ y).toNat := by
    rw [← Nat.shiftRight_eq_div_pow, ← UInt64.toNat_shiftRight, hshift]
  have hzero : (x ^^^ y).toNat = 0 := by
    by_contra hne
    have hlt := Nat.div_lt_self (Nat.pos_of_ne_zero hne) (Nat.one_lt_two_pow hpos.ne')
    omega
  exact UInt64.xor_eq_zero_iff.mp (UInt64.toNat_inj.mp hzero)

theorem mul_odd_injective {c x y : UInt64} (inverse : UInt64) (hinverse : c * inverse = 1)
    (h : x * c = y * c) : x = y := by
  have hback : x * c * inverse = y * c * inverse := congrArg (· * inverse) h
  rwa [UInt64.mul_assoc, UInt64.mul_assoc, hinverse, UInt64.mul_one, UInt64.mul_one] at hback

theorem mix64_injective {x y : UInt64} (h : mix64 x = mix64 y) : x = y := by
  have hlast := xorShift_injective (by decide) h
  have hmiddle := mul_odd_injective 0x319642b2d24d8ec3 (by decide) hlast
  have hsecond := xorShift_injective (by decide) hmiddle
  have hfirst := mul_odd_injective 0x96de1b173f119089 (by decide) hsecond
  exact xorShift_injective (by decide) hfirst

section Candidates

variable {lineage candidate : UInt64}

def nextCandidate (candidate : UInt64) : UInt64 := mix64 (candidate + 0x9e3779b97f4a7c15)

def reservedIds : List UInt64 := [0, 1, uint64Max - 1, uint64Max]

theorem nextIdIsRefused_iff :
    nextIdIsRefused lineage candidate = true ↔ candidate ∈ reservedIds ∨ candidate = lineage := by
  simp only [nextIdIsRefused, Bool.or_eq_true, decide_eq_true_eq, reservedIds, List.mem_cons,
    List.not_mem_nil, or_false, UInt64.le_iff_toNat_le, ← UInt64.toNat_inj]
  change (candidate.toNat ≤ 1 ∨ candidate.toNat = lineage.toNat) ∨
      18446744073709551614 ≤ candidate.toNat ↔
    (candidate.toNat = 0 ∨ candidate.toNat = 1 ∨ candidate.toNat = 18446744073709551614 ∨
      candidate.toNat = 18446744073709551615) ∨ candidate.toNat = lineage.toNat
  have hlt : candidate.toNat < 18446744073709551616 := candidate.toNat_lt
  omega

theorem reservedIds_lead_out : ∀ c ∈ reservedIds, nextCandidate c ∉ reservedIds ∧
    nextCandidate (nextCandidate c) ∉ reservedIds ∧
    nextCandidate (nextCandidate c) ≠ nextCandidate c := by
  have hall : reservedIds.all (fun c => !reservedIds.contains (nextCandidate c) &&
      !reservedIds.contains (nextCandidate (nextCandidate c)) &&
      nextCandidate (nextCandidate c) != nextCandidate c) = true := by decide +kernel
  intro c hc
  have hone := List.all_eq_true.mp hall c hc
  simpa [and_assoc] using hone

theorem initialNextLoop_of_accepted (fuel : Nat) (h : nextIdIsRefused lineage candidate = false) :
    initialNextLoop lineage (fuel + 1) candidate = some candidate := by
  rw [initialNextLoop, if_neg (by simp [h])]

theorem initialNextLoop_of_refused (fuel : Nat) (h : nextIdIsRefused lineage candidate = true) :
    initialNextLoop lineage (fuel + 1) candidate =
      initialNextLoop lineage fuel (nextCandidate candidate) := by
  rw [initialNextLoop, if_pos h]
  rfl

theorem initialNextLoop_of_reserved (fuel : Nat) (h : candidate ∈ reservedIds) :
    ∃ next, initialNextLoop lineage (fuel + 3) candidate = some next := by
  obtain ⟨hfirst, hsecond, hmoves⟩ := reservedIds_lead_out candidate h
  rw [initialNextLoop_of_refused _ (nextIdIsRefused_iff.mpr (.inl h))]
  cases hrefused : nextIdIsRefused lineage (nextCandidate candidate)
  · exact ⟨_, initialNextLoop_of_accepted _ hrefused⟩
  · -- the only refused value it can reach is the lineage
    have hlineage : nextCandidate candidate = lineage :=
      (nextIdIsRefused_iff.mp hrefused).resolve_left hfirst
    have haccepted : nextIdIsRefused lineage (nextCandidate (nextCandidate candidate)) = false := by
      refine Bool.eq_false_iff.mpr fun h => ?_
      rcases nextIdIsRefused_iff.mp h with hreserved | hsame
      · exact hsecond hreserved
      · exact hmoves (hsame.trans hlineage.symm)
    rw [initialNextLoop_of_refused _ hrefused]
    exact ⟨_, initialNextLoop_of_accepted _ haccepted⟩

theorem start_ne_next (lineage : UInt64) :
    lineage ^^^ 0xd1c4a66e1d5eed01 ≠ lineage + 0x9e3779b97f4a7c15 := by
  intro h
  have hlow := congrArg (fun v : UInt64 => v.toNat % 2 ^ 3) h
  simp only [UInt64.toNat_xor, UInt64.toNat_add, Nat.xor_mod_two_pow] at hlow
  rw [Nat.mod_mod_of_dvd _ (by decide), Nat.add_mod] at hlow
  have hbits : ∀ r < 8, r ^^^ 1 ≠ (r + 5) % 8 := by decide
  exact hbits (lineage.toNat % 2 ^ 3) (Nat.mod_lt _ (by decide)) hlow

theorem initialNextChannelId_total (lineage : UInt64) :
    ∃ next, initialNextChannelId lineage = some next := by
  unfold initialNextChannelId
  generalize hstart : mix64 (lineage ^^^ 0xd1c4a66e1d5eed01) = start
  cases hrefused : nextIdIsRefused lineage start
  · exact ⟨_, initialNextLoop_of_accepted 7 hrefused⟩
  rcases nextIdIsRefused_iff.mp hrefused with hreserved | hlineage
  · exact initialNextLoop_of_reserved 5 hreserved
  · rw [initialNextLoop_of_refused 7 hrefused]
    cases hnext : nextIdIsRefused lineage (nextCandidate start)
    · exact ⟨_, initialNextLoop_of_accepted 6 hnext⟩
    rcases nextIdIsRefused_iff.mp hnext with hreserved | hcircle
    · exact initialNextLoop_of_reserved 4 hreserved
    · have hmixed : mix64 (lineage ^^^ 0xd1c4a66e1d5eed01) =
          mix64 (lineage + 0x9e3779b97f4a7c15) := by
        calc mix64 (lineage ^^^ 0xd1c4a66e1d5eed01) = start := hstart
          _ = lineage := hlineage
          _ = nextCandidate start := hcircle.symm
          _ = mix64 (lineage + 0x9e3779b97f4a7c15) := by rw [hlineage, nextCandidate]
      exact absurd (mix64_injective hmixed) (start_ne_next lineage)

theorem initialNextLoop_accepted {next : UInt64} :
    ∀ {fuel : Nat} {candidate : UInt64}, initialNextLoop lineage fuel candidate = some next →
      nextIdIsRefused lineage next = false
  | 0, _, h => by cases h
  | fuel + 1, candidate, h => by
    cases hrefused : nextIdIsRefused lineage candidate
    · rw [initialNextLoop_of_accepted _ hrefused] at h
      cases h
      exact hrefused
    · rw [initialNextLoop_of_refused _ hrefused] at h
      exact initialNextLoop_accepted h

/-- Every lineage has a first channel id, and it is neither reserved nor the lineage itself. -/
theorem initialNextChannelId_found (lineage : UInt64) :
    ∃ next, initialNextChannelId lineage = some next ∧ nextIdIsRefused lineage next = false := by
  obtain ⟨next, hnext⟩ := initialNextChannelId_total lineage
  exact ⟨next, hnext, initialNextLoop_accepted hnext⟩

theorem initialNextChannelId_bounds {next : UInt64} (h : initialNextChannelId lineage = some next) :
    channelPublicId < next ∧ next ≠ uint64Max := by
  have haccepted := initialNextLoop_accepted h
  simp only [nextIdIsRefused, Bool.or_eq_false_iff, decide_eq_false_iff_not, UInt64.not_le]
    at haccepted
  refine ⟨haccepted.1.1, fun hmax => ?_⟩
  rw [hmax] at haccepted
  exact absurd haccepted.2 (by decide)

theorem randomNonzeroU64_spec {excluded value : UInt64} {draws : List UInt64}
    (h : randomNonzeroU64 excluded draws = some value) :
    value ≠ 0 ∧ value ≠ channelPublicId ∧ value ≠ excluded := by
  have haccepted := List.find?_some h
  simp only [Bool.and_eq_true, decide_eq_true_eq] at haccepted
  exact ⟨haccepted.1.1.1, haccepted.1.1.2, haccepted.1.2⟩

theorem migrationLineage_spec {rows : List ChannelEntryV1} {value : UInt64} {draws : List UInt64}
    (h : migrationLineage rows draws = some value) :
    value ≠ 0 ∧ value ≠ channelPublicId ∧ ∀ e ∈ rows, e.channelId ≠ value := by
  have haccepted := List.find?_some h
  simp only [Bool.and_eq_true, decide_eq_true_eq, List.all_eq_true] at haccepted
  exact ⟨haccepted.1.1.1, haccepted.1.1.2, haccepted.2⟩

end Candidates

end Sigui.Channel
