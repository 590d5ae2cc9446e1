import Sigui.MeshRequestSteps

/-! What synchronous commands can rely on, in every state that a run of the tasks and the owner
comes to. -/
namespace Sigui.MeshRequest

open AdminSlot (RequestState RequestId GuardWord zeros copyInto)

/-- The steps that a task has still to make inside `meshcore_request_wait`. -/
def Phase.waitRank : Phase → Nat
  | .looking .waitSlot => 18
  | .taking => 17
  | .looking .taken => 16
  | .cancelling .wait => 15
  | .wiping (.cancel .wait) => 14
  | .cancelReleasing .wait => 13
  | .looking .overtaken => 12
  | .takingForever => 11
  | .looking .signalled => 10
  | .looking (.consumeSlot _) => 9
  | .looking (.consumeState _) => 8
  | .readingResult _ => 7
  | .drainingLast _ _ => 6
  | .looking (.releaseMatches (.consume _ _)) => 5
  | .looking (.releaseState (.consume _ _)) => 4
  | .wiping (.release (.consume _ _)) => 3
  | .releasing (.consume _ _) => 2
  | _ => 0

/-- The task is in `meshcore_request_wait`. -/
def Phase.waits (phase : Phase) : Bool := decide (phase.waitRank ≠ 0)

variable {τ : Type} [DecidableEq τ]

def Act.isStepOf (t : τ) : Act τ → Bool
  | .advance u _ => decide (u = t)
  | _ => false

def System.stepsFor (s : System τ) : Act τ → RequestId
  | .call _ _ _ => 0
  | .advance t _ => (s.cmd t).requestId
  | .work _ _ _ => (s.owner.stage.map (·.1.requestId)).getD 0

def System.ownerDone (s : System τ) (t : τ) : Prop :=
  ∀ cmd ∈ s.inFlight, cmd.requestId ≠ (s.cmd t).requestId

section Slots

variable {s : System τ} {t : τ}

theorem System.toShared_follow (s : System τ) (t : τ) (next : Next) (s' : Shared) :
    (s.follow t next s').slots = s'.slots ∧ (s.follow t next s').owner = s'.owner ∧
      (s.follow t next s').queue = s'.queue := by
  cases next <;> exact ⟨rfl, rfl, rfl⟩

theorem System.toShared_call (s : System τ) (t : τ) (credential : Option CredentialKind)
    (secret : List UInt8) : (s.call t credential secret).toShared = s.toShared := by
  unfold System.call
  cases credential with
  | none => rfl
  | some kind =>
    dsimp only
    split_ifs <;> rfl

theorem Shared.of_setSlot_ne {s : Shared} {i k : SlotIndex} {slot : Slot}
    (h : (s.setSlot i slot).slots k ≠ s.slots k) : k = i := by
  by_contra hk
  exact h (Function.update_of_ne hk _ _)

theorem advance_slots (s : System τ) (t : τ) (late : Bool) (k : SlotIndex)
    (h : (s.advance t late).slots k ≠ s.slots k) :
    k = (s.cmd t).slot ∧ (s.part t).holds = true ∨ (s.slots k).word = .zero := by
  have hown : ∀ slot : Slot, (s.toShared.setSlot (s.cmd t).slot slot).slots k ≠ s.slots k →
      k = (s.cmd t).slot := fun slot hne => Shared.of_setSlot_ne hne
  have hpart : s.part t = (s.callers t).phase.part := rfl
  unfold System.advance at h
  dsimp only at h
  cases hphase : (s.callers t).phase <;> rw [hphase] at h hpart <;> dsimp only at h
  case idle => exact absurd rfl h
  case loadingId => exact absurd rfl h
  case takingId =>
    split_ifs at h <;> exact absurd rfl h
  case claiming i =>
    split_ifs at h with hzero
    · obtain rfl : k = i := Shared.of_setSlot_ne h
      exact Or.inr hzero
    · exact absurd rfl h
    · exact absurd rfl h
  case wiping who =>
    refine Or.inl ⟨hown _ h, ?_⟩
    rw [hpart]
    cases who with
    | release who => cases who <;> rfl
    | _ => rfl
  case looking look =>
    rw [(s.toShared_follow t _ _).1] at h
    exact absurd rfl h
  case cancelling who =>
    split_ifs at h
    · refine Or.inl ⟨hown _ h, ?_⟩
      rw [hpart]
      cases who <;> rfl
    · rw [(s.toShared_follow t _ _).1] at h
      exact absurd rfl h
  case cancelReleasing who =>
    split_ifs at h <;> rw [(s.toShared_follow t _ _).1] at h
    · exact Or.inl ⟨hown _ h, by rw [hpart]; rfl⟩
    · exact absurd rfl h
  case releasing who =>
    split_ifs at h <;> rw [(s.toShared_follow t _ _).1] at h
    · refine Or.inl ⟨hown _ h, ?_⟩
      rw [hpart]
      cases who <;> rfl
    · exact absurd rfl h
  case readingResult => exact absurd rfl h
  case sending =>
    split_ifs at h <;> exact absurd rfl h
  case publishing =>
    split_ifs at h
    · exact Or.inl ⟨hown _ h, by rw [hpart]; rfl⟩
    · exact absurd rfl h
  case draining =>
    split_ifs at h
    · exact Or.inl ⟨hown _ h, by rw [hpart]; rfl⟩
    · exact absurd rfl h
  case taking =>
    split_ifs at h
    · exact Or.inl ⟨hown _ h, by rw [hpart]; rfl⟩
    · exact absurd rfl h
    · exact absurd rfl h
  case takingForever =>
    split_ifs at h
    · exact Or.inl ⟨hown _ h, by rw [hpart]; rfl⟩
    · exact absurd rfl h
  all_goals exact Or.inl ⟨hown _ h, by rw [hpart]; rfl⟩

theorem work_slots (s : Shared) (due takes : Bool) (ret : EspErr) (k : SlotIndex)
    (h : (s.work due takes ret).slots k ≠ s.slots k) :
    ∃ cmd stage, s.owner.stage = some (cmd, stage) ∧ k = cmd.slot ∧
      (stage ≠ .considering ∨ (s.slots k).word = ⟨cmd.requestId, .pending⟩) := by
  have hlate : ∀ (cmd : Command) (stage : OwnerStage) (slot : Slot),
      s.owner.stage = some (cmd, stage) → stage ≠ .considering →
      (s.setSlot cmd.slot slot).slots k ≠ s.slots k →
      ∃ cmd stage, s.owner.stage = some (cmd, stage) ∧ k = cmd.slot ∧
        (stage ≠ .considering ∨ (s.slots k).word = ⟨cmd.requestId, .pending⟩) :=
    fun cmd stage _ hstage hne hslot =>
      ⟨cmd, stage, hstage, Shared.of_setSlot_ne hslot, Or.inl hne⟩
  unfold Shared.work at h
  cases howner : s.owner <;> rw [howner] at h hlate <;> dsimp only at h
  case idle =>
    cases hqueue : s.queue <;> rw [hqueue] at h <;> exact absurd rfl h
  case expiring cmd | admitting cmd =>
    split_ifs at h with hword
    · obtain rfl : k = cmd.slot := Shared.of_setSlot_ne h
      exact ⟨cmd, .considering, rfl, rfl, Or.inr hword⟩
    · exact absurd rfl h
  case expireWiping cmd => exact hlate cmd .expireWiping _ rfl (by simp) h
  case expireResult cmd => exact hlate cmd .expireResult _ rfl (by simp) h
  case copying cmd =>
    cases hkind : cmd.credential <;> rw [hkind] at h <;> dsimp only at h
    · exact absurd rfl h
    · split at h <;> exact absurd rfl h
  case takeWiping cmd => exact hlate cmd .executing _ rfl (by simp) h
  case completeResult cmd result => exact hlate cmd .executing _ rfl (by simp) h
  case completeWiping cmd => exact hlate cmd .answered _ rfl (by simp) h
  case completing cmd =>
    split_ifs at h
    · exact hlate cmd .completing _ rfl (by simp) h
    · exact absurd rfl h
  case giving cmd => exact hlate cmd .giving _ rfl (by simp) h
  all_goals exact absurd rfl h

theorem Inv.untouched {s : System τ} (h : Inv s) (act : Act τ) (k : SlotIndex)
    (hne : (MeshRequest.step s act).slots k ≠ s.slots k) :
    (s.slots k).word = .zero ∨ (s.slots k).word.id = s.stepsFor act := by
  cases act with
  | call t credential secret =>
    refine absurd ?_ hne
    rw [MeshRequest.step]
    split_ifs
    · rw [s.toShared_call]
    · rfl
  | advance t late =>
    obtain ⟨rfl, hhold⟩ | hzero := advance_slots s t late k hne
    · obtain ⟨j, _, hat⟩ := h.journey t hhold
      exact Or.inr (congrArg GuardWord.id hat.word)
    · exact Or.inl hzero
  | work due takes ret =>
    obtain ⟨cmd, stage, hstage, rfl, hlate⟩ := work_slots s.toShared due takes ret k hne
    right
    have hfor : s.stepsFor (.work due takes ret : Act τ) = cmd.requestId := by
      rw [System.stepsFor, hstage]
      rfl
    rw [hfor]
    obtain hlate | hword := hlate
    · obtain ⟨t, _, _, state, _, hat⟩ := h.owned_at hstage hlate
      exact congrArg GuardWord.id hat.word
    · exact congrArg GuardWord.id hword

end Slots

section Waits

theorem Phase.holds_of_waits {phase : Phase} (h : phase.waits = true) :
    phase.part.holds = true := by
  cases phase with
  | idle | loadingId | takingId | claiming => exact absurd h (by simp [waits, waitRank])
  | wiping who =>
    cases who with
    | release who => cases who <;> rfl
    | _ => rfl
  | looking look =>
    cases look with
    | releaseMatches who | releaseState who => cases who <;> rfl
    | _ => rfl
  | cancelling who | releasing who => cases who <;> rfl
  | _ => rfl

variable {s : System τ} {t : τ}

theorem System.log_follow (s : System τ) (t : τ) (next : Next) (s' : Shared) :
    s'.log ⊆ (s.follow t next s').log := by
  cases next with
  | go phase => exact fun _ h => h
  | back outcome => exact List.subset_cons_self _ _

theorem log_step (s : System τ) (act : Act τ) : s.log ⊆ (step s act).log := by
  cases act with
  | call t credential secret =>
    rw [step]
    split_ifs
    · rw [s.toShared_call]
      exact fun _ h => h
    · exact fun _ h => h
  | advance t late =>
    change s.log ⊆ (s.advance t late).log
    unfold System.advance
    dsimp only
    cases (s.callers t).phase <;> dsimp only
    case claiming =>
      split_ifs <;> first | exact fun _ h => h | exact s.log_follow t _ _
    case looking => exact s.log_follow t _ _
    case filling => exact List.subset_cons_self _ _
    case cancelling =>
      split_ifs
      · exact fun _ h => h
      · exact s.log_follow t _ _
    case cancelReleasing | releasing =>
      split_ifs
      · exact s.log_follow t _ (s.toShared.withWord _ .zero)
      · exact s.log_follow t _ s.toShared
    all_goals first | exact fun _ h => h | (split_ifs <;> exact fun _ h => h)
  | work due takes ret =>
    change s.log ⊆ (s.toShared.work due takes ret).log
    unfold Shared.work
    cases s.owner <;> dsimp only
    case idle => cases s.queue <;> exact fun _ h => h
    case copying cmd =>
      cases cmd.credential
      · exact fun _ h => h
      · dsimp only
        split
        · exact List.subset_cons_self _ _
        · exact fun _ h => h
    all_goals
      first
      | exact fun _ h => h
      | exact List.subset_cons_self _ _
      | (split_ifs <;> exact fun _ h => h)

def System.waitsOrBack (s : System τ) (t : τ) (id : RequestId) (rank : Nat) : Prop :=
  (∃ outcome, .returned id outcome ∈ s.log) ∨
    (s.callers t).phase.waits = true ∧ (s.cmd t).requestId = id ∧
      (s.callers t).phase.waitRank ≤ rank ∧ s.ownerDone t

theorem System.callers_goTo_self (s : System τ) (t : τ) (phase : Phase) (s' : Shared) :
    (s.goTo t phase s').callers t = { s.callers t with phase := phase } := Function.update_self ..

theorem waits_goTo (hdone : s.ownerDone t) {phase : Phase} (hwaits : phase.waits = true)
    {rank : Nat} (hrank : phase.waitRank ≤ rank) {s' : Shared}
    (hflight : s'.inFlight = s.inFlight) :
    (s.goTo t phase s').waitsOrBack t (s.cmd t).requestId rank := by
  refine Or.inr ⟨?_, ?_, ?_, ?_⟩
  · rw [System.callers_goTo_self]
    exact hwaits
  · rw [System.cmd_goTo]
  · rw [System.callers_goTo_self]
    exact hrank
  · intro cmd hcmd
    rw [System.cmd_goTo]
    exact hdone cmd (hflight ▸ hcmd)

omit [DecidableEq τ] in
theorem Inv.given_at (h : Inv s) (hpart : s.part t = .waiting ∨ s.part t = .overtaken)
    (hdone : s.ownerDone t) : ∃ state, At s.toShared (s.cmd t) (.given state) := by
  obtain ⟨j, hj, hat, _⟩ := h.waiting_at hpart
  have hplace := hat.place
  cases j with
  | queued => exact absurd rfl (hdone _ (mem_inFlight.mpr (Or.inr hplace)))
  | owned stage state => exact absurd rfl (hdone _ (mem_inFlight.mpr (Or.inl ⟨stage, hplace⟩)))
  | given state => exact ⟨state, hat⟩
  | _ => obtain hp | hp := hpart <;> rw [hp] at hj <;> cases hj

theorem returned_follow (s : System τ) (t : τ) (outcome : Outcome) (s' : Shared) (rank : Nat) :
    (s.follow t (.back outcome) s').waitsOrBack t (s.cmd t).requestId rank :=
  Or.inl ⟨outcome, List.mem_cons_self⟩

theorem Inv.waits_look (h : Inv s) {look : Look} (hphase : (s.callers t).phase = .looking look)
    (hwaits : (Phase.looking look).waits = true) (hdone : s.ownerDone t) :
    (s.follow t (look.next (s.cmd t) (s.slots (s.cmd t).slot).word) s.toShared).waitsOrBack t
      (s.cmd t).requestId ((Phase.looking look).waitRank - 1) := by
  have hpart : s.part t = look.part := by rw [System.part, hphase]; rfl
  have hgo : ∀ phase : Phase, phase.waits = true → phase.waitRank < (Phase.looking look).waitRank →
      (s.follow t (.go phase) s.toShared).waitsOrBack t (s.cmd t).requestId
        ((Phase.looking look).waitRank - 1) := fun phase hphase hrank =>
    waits_goTo hdone hphase (by omega) rfl
  have htaken : look.part = .taken none → ∃ state, terminal state = true ∧
      (s.slots (s.cmd t).slot).word.state = state := by
    intro hlook
    obtain ⟨j, hj, hat⟩ := h.journey t (by rw [hpart, hlook]; rfl)
    rw [hpart, hlook] at hj
    cases j with
    | taken state => exact ⟨state, hat.valid, congrArg GuardWord.state hat.word⟩
    | _ => cases hj
  cases look with
  | waitSlot =>
    have hfound := h.found (t := t) (by rw [hpart]; rfl)
    simp only [Look.next, hfound, if_true]
    exact hgo _ rfl (by decide)
  | taken | signalled =>
    obtain ⟨state, hterminal, hstate⟩ := htaken rfl
    simp only [Look.next, hstate, hterminal, if_true]
    exact hgo _ rfl (by simp [Phase.waitRank])
  | overtaken =>
    obtain ⟨state, hat⟩ := h.given_at (Or.inr hpart) hdone
    have hstate : (s.slots (s.cmd t).slot).word.state = state := congrArg GuardWord.state hat.word
    have hterminal : terminal state = true := hat.valid
    simp only [Look.next, hstate, hterminal, Bool.or_true, if_true]
    exact hgo _ rfl (by decide)
  | consumeSlot state =>
    have hfound := h.found (t := t) (by rw [hpart]; rfl)
    simp only [Look.next, hfound, if_true]
    exact hgo _ rfl (by simp [Phase.waitRank])
  | consumeState state =>
    have hat := h.taken_at hpart
    have hstate : (s.slots (s.cmd t).slot).word.state = state := congrArg GuardWord.state hat.word
    simp only [Look.next, hstate, if_true]
    exact hgo _ rfl (by simp [Phase.waitRank])
  | releaseMatches who =>
    cases who with
    | claim => cases hwaits
    | consume state result =>
      have hfound := h.found (t := t) (by rw [hpart]; rfl)
      simp only [Look.next, hfound, if_true]
      exact hgo _ rfl (by simp [Phase.waitRank])
  | releaseState who =>
    cases who with
    | claim => cases hwaits
    | consume state result =>
      have hpart : s.part t = .taken (some state) := hpart
      have hat := h.taken_at hpart
      have hstate : (s.slots (s.cmd t).slot).word.state = state :=
        congrArg GuardWord.state hat.word
      simp only [Look.next, hstate, Releaser.state, if_true]
      exact hgo _ rfl (by simp [Phase.waitRank])
  | _ => cases hwaits

theorem Inv.waits_advance (h : Inv s) (hwaits : (s.callers t).phase.waits = true)
    (hdone : s.ownerDone t) (late : Bool) :
    (s.advance t late).waitsOrBack t (s.cmd t).requestId ((s.callers t).phase.waitRank - 1) := by
  have hpart : s.part t = (s.callers t).phase.part := rfl
  have hgo : ∀ (phase : Phase) (slot : Slot), phase.waits = true →
      phase.waitRank < (s.callers t).phase.waitRank →
      (s.goTo t phase (s.toShared.setSlot (s.cmd t).slot slot)).waitsOrBack t (s.cmd t).requestId
        ((s.callers t).phase.waitRank - 1) := fun phase slot hphase hrank =>
    waits_goTo hdone hphase (by omega) rfl
  unfold System.advance
  dsimp only
  cases hphase : (s.callers t).phase <;> rw [hphase] at hwaits hpart hgo <;> dsimp only
  case wiping who =>
    cases who with
    | cancel who =>
      cases who with
      | wait => exact hgo _ _ rfl (by simp [Wiper.next, Phase.waitRank])
      | _ => cases hwaits
    | release who =>
      cases who with
      | consume state result => exact hgo _ _ rfl (by simp [Wiper.next, Phase.waitRank])
      | claim => cases hwaits
    | _ => cases hwaits
  case looking look => exact h.waits_look hphase hwaits hdone
  case cancelling who =>
    cases who with
    | wait =>
      obtain ⟨state, hat⟩ := h.given_at (Or.inl hpart) hdone
      have hword : (s.slots (s.callers t).cmd.slot).word ≠
          ⟨(s.callers t).cmd.requestId, .pending⟩ := by
        intro hpending
        have hstate : state = .pending :=
          congrArg GuardWord.state (hat.word.symm.trans hpending)
        have hvalid : terminal state = true := hat.valid
        rw [hstate] at hvalid
        cases hvalid
      rw [if_neg hword]
      exact waits_goTo hdone rfl (by decide) rfl
    | _ => cases hwaits
  case cancelReleasing who =>
    cases who with
    | wait =>
      have hword := (h.cancelled_at hpart).word
      rw [if_pos (by exact hword)]
      exact returned_follow s t _ _ _
    | _ => cases hwaits
  case taking =>
    obtain ⟨state, hat⟩ := h.given_at (Or.inl hpart) hdone
    have hsignal : (s.slots (s.callers t).cmd.slot).signal = true := hat.signal
    rw [if_pos hsignal]
    exact hgo _ _ rfl (by decide)
  case takingForever =>
    obtain ⟨state, hat⟩ := h.given_at (Or.inr hpart) hdone
    have hsignal : (s.slots (s.callers t).cmd.slot).signal = true := hat.signal
    rw [if_pos hsignal]
    exact hgo _ _ rfl (by decide)
  case readingResult state => exact waits_goTo hdone rfl (by simp [Phase.waitRank]) rfl
  case drainingLast state result => exact hgo _ _ rfl (by simp [Phase.waitRank])
  case releasing who =>
    cases who with
    | claim => cases hwaits
    | consume state result =>
      have hword := (h.taken_at hpart).word
      rw [if_pos (by exact hword)]
      exact returned_follow s t _ _ _
  all_goals cases hwaits

theorem advance_other (s : System τ) {t u : τ} (hu : u ≠ t) (late : Bool) :
    (s.advance t late).callers u = s.callers u := by
  have hfollow : ∀ (next : Next) (s' : Shared), (s.follow t next s').callers u = s.callers u := by
    intro next s'
    cases next <;> exact Function.update_of_ne hu _ _
  unfold System.advance
  dsimp only
  cases (s.callers t).phase <;> dsimp only
  all_goals
    first
    | rfl
    | exact Function.update_of_ne hu _ _
    | exact hfollow _ _
    | split_ifs <;> first | rfl | exact Function.update_of_ne hu _ _ | exact hfollow _ _

theorem call_other (s : System τ) {t u : τ} (hu : u ≠ t) (credential : Option CredentialKind)
    (secret : List UInt8) : (s.call t credential secret).callers u = s.callers u := by
  unfold System.call
  cases credential with
  | none => exact Function.update_of_ne hu _ _
  | some kind =>
    dsimp only
    split_ifs
    · exact Function.update_of_ne hu _ _
    · rfl

theorem advance_owner (s : System τ) (t : τ) (late : Bool) :
    (s.advance t late).owner = s.owner := by
  unfold System.advance
  dsimp only
  cases (s.callers t).phase <;> dsimp only
  case claiming => split_ifs <;> rfl
  case looking => exact (s.toShared_follow t _ _).2.1
  case cancelling =>
    split_ifs
    · rfl
    · exact (s.toShared_follow t _ _).2.1
  case cancelReleasing | releasing =>
    split_ifs <;> rw [(s.toShared_follow t _ _).2.1]
    rfl
  all_goals first | rfl | (split_ifs <;> rfl)

theorem advance_queue (s : System τ) (t : τ) (late : Bool) :
    (s.advance t late).queue = s.queue ∨
      s.part t = .unqueued ∧ (s.advance t late).queue = s.queue ++ [s.cmd t] := by
  have hpart : s.part t = (s.callers t).phase.part := rfl
  unfold System.advance
  dsimp only
  cases hphase : (s.callers t).phase <;> rw [hphase] at hpart <;> dsimp only
  case sending =>
    split_ifs
    · exact Or.inl rfl
    · exact Or.inr ⟨hpart, rfl⟩
  case claiming => split_ifs <;> exact Or.inl rfl
  case looking => exact Or.inl (s.toShared_follow t _ _).2.2
  case cancelling =>
    split_ifs
    · exact Or.inl rfl
    · exact Or.inl (s.toShared_follow t _ _).2.2
  case cancelReleasing | releasing =>
    split_ifs
    · exact Or.inl (s.toShared_follow t _ (s.toShared.withWord _ .zero)).2.2
    · exact Or.inl (s.toShared_follow t _ s.toShared).2.2
  all_goals first | exact Or.inl rfl | (split_ifs <;> exact Or.inl rfl)

theorem work_flight (s : Shared) (due takes : Bool) (ret : EspErr) :
    (s.work due takes ret).queue = s.queue ∧
      ((s.work due takes ret).owner.stage = none ∨ ∃ cmd stage stage',
        s.owner.stage = some (cmd, stage) ∧
          (s.work due takes ret).owner.stage = some (cmd, stage')) ∨
    (s.work due takes ret).inFlight = s.inFlight := by
  have hlook : ∀ (look : OwnerLook) (cmd : Command) (word : GuardWord),
      (look.next cmd word).stage = none ∨
        ∃ stage, (look.next cmd word).stage = some (cmd, stage) := by
    intro look cmd word
    cases look <;> simp only [OwnerLook.next] <;> split_ifs <;>
      first | exact Or.inl rfl | exact Or.inr ⟨_, rfl⟩
  have hstay : ∀ {cmd : Command} {stage stage' : OwnerStage} {owner : Owner},
      s.owner.stage = some (cmd, stage) → owner.stage = some (cmd, stage') →
      owner.stage = none ∨ ∃ cmd stage stage',
        s.owner.stage = some (cmd, stage) ∧ owner.stage = some (cmd, stage') :=
    fun hs ho => Or.inr ⟨_, _, _, hs, ho⟩
  unfold Shared.work
  cases howner : s.owner <;> rw [howner] at hstay <;> dsimp only
  case idle =>
    cases hqueue : s.queue with
    | nil => exact Or.inr rfl
    | cons cmd queue =>
      right
      rw [Shared.inFlight, Shared.inFlight, howner, hqueue]
      rfl
  case looking look cmd =>
    refine Or.inl ⟨rfl, ?_⟩
    obtain hnone | ⟨stage, hsome⟩ := hlook look cmd (s.slots cmd.slot).word
    · exact Or.inl hnone
    · exact hstay rfl hsome
  case checkingDeadline => split_ifs <;> exact Or.inl ⟨rfl, hstay rfl rfl⟩
  case expiring => split_ifs <;> exact Or.inl ⟨rfl, hstay rfl rfl⟩
  case executing => exact Or.inl ⟨rfl, by split_ifs <;> exact hstay rfl rfl⟩
  case admitting | completing =>
    split_ifs
    · exact Or.inl ⟨rfl, hstay rfl rfl⟩
    · exact Or.inl ⟨rfl, Or.inl rfl⟩
  case copying cmd =>
    cases cmd.credential with
    | none => exact Or.inl ⟨rfl, hstay rfl rfl⟩
    | some kind =>
      dsimp only
      split <;> exact Or.inl ⟨rfl, hstay rfl rfl⟩
  case giving => exact Or.inl ⟨rfl, Or.inl rfl⟩
  all_goals exact Or.inl ⟨rfl, hstay rfl rfl⟩

theorem work_inFlight (s : Shared) (due takes : Bool) (ret : EspErr) {cmd : Command}
    (h : cmd ∈ (s.work due takes ret).inFlight) : cmd ∈ s.inFlight := by
  obtain ⟨hqueue, howner⟩ | hsame := work_flight s due takes ret
  · rw [mem_inFlight, hqueue] at h
    rw [mem_inFlight]
    obtain ⟨stage, hcmd⟩ | hold := h
    · obtain hnone | ⟨other, stage₁, stage₂, hs, ho⟩ := howner
      · rw [hnone] at hcmd
        cases hcmd
      · rw [ho] at hcmd
        cases hcmd
        exact Or.inl ⟨stage₁, hs⟩
    · exact Or.inr hold
  · rw [← hsame]
    exact h

theorem Inv.waits_other (h : Inv s) (hwaits : (s.callers t).phase.waits = true)
    (hdone : s.ownerDone t) {act : Act τ} (hother : act.isStepOf t = false) :
    (MeshRequest.step s act).waitsOrBack t (s.cmd t).requestId (s.callers t).phase.waitRank := by
  have hsame : (MeshRequest.step s act).callers t = s.callers t →
      (MeshRequest.step s act).ownerDone t →
      (MeshRequest.step s act).waitsOrBack t (s.cmd t).requestId (s.callers t).phase.waitRank := by
    intro hcallers hdone'
    refine Or.inr ⟨by rw [hcallers]; exact hwaits, ?_, by rw [hcallers], hdone'⟩
    rw [System.cmd, hcallers]
    rfl
  have hactive : (s.part t).active = true := Part.active_of_holds (Phase.holds_of_waits hwaits)
  cases act with
  | call u credential secret =>
    rw [MeshRequest.step] at hsame ⊢
    split_ifs at hsame ⊢ with hidle
    · have hu : t ≠ u := by
        rintro rfl
        rw [hidle] at hwaits
        cases hwaits
      have hcallers := call_other s hu credential secret
      refine hsame hcallers fun cmd hcmd => ?_
      rw [System.cmd, hcallers]
      rw [Shared.inFlight, s.toShared_call] at hcmd
      exact hdone cmd hcmd
    · exact hsame rfl hdone
  | advance u late =>
    have hu : t ≠ u := by
      intro heq
      rw [heq] at hother
      simp [Act.isStepOf] at hother
    have hcallers := advance_other s hu late
    refine hsame hcallers fun cmd hcmd => ?_
    change cmd ∈ (s.advance u late).inFlight at hcmd
    change cmd.requestId ≠ ((s.advance u late).callers t).cmd.requestId
    rw [hcallers]
    rw [mem_inFlight, advance_owner] at hcmd
    obtain hstage | hqueue := hcmd
    · exact hdone cmd (mem_inFlight.mpr (Or.inl hstage))
    · obtain heq | ⟨hpart, heq⟩ := advance_queue s u late <;> rw [heq] at hqueue
      · exact hdone cmd (mem_inFlight.mpr (Or.inr hqueue))
      · obtain hold | hnew := List.mem_append.mp hqueue
        · exact hdone cmd (mem_inFlight.mpr (Or.inr hold))
        · rw [List.mem_singleton.mp hnew]
          intro hid
          exact hu (h.distinct t u hactive (by rw [hpart]; rfl) hid.symm)
  | work due takes ret =>
    exact hsame rfl fun cmd hcmd => hdone cmd (work_inFlight _ due takes ret hcmd)

theorem Inv.waits_run (h : Inv s) {id : RequestId} {rank : Nat}
    (hwait : s.waitsOrBack t id rank) (acts : List (Act τ))
    (hsteps : rank ≤ acts.countP (Act.isStepOf t)) :
    ∃ outcome, .returned id outcome ∈ (runSteps MeshRequest.step s acts).log := by
  induction acts generalizing s rank with
  | nil =>
    obtain hback | ⟨hwaits, _, hrank, _⟩ := hwait
    · exact hback
    · have hzero : (s.callers t).phase.waitRank = 0 := by
        have hle : rank ≤ 0 := hsteps
        omega
      simp [Phase.waits, hzero] at hwaits
  | cons act acts ih =>
    change ∃ outcome, .returned id outcome ∈
      (runSteps MeshRequest.step (MeshRequest.step s act) acts).log
    obtain ⟨outcome, hback⟩ | ⟨hwaits, rfl, hrank, hdone⟩ := hwait
    · have hkept : ∀ (acts : List (Act τ)) (s : System τ), .returned id outcome ∈ s.log →
          .returned id outcome ∈ (runSteps MeshRequest.step s acts).log := fun acts s hmem =>
        run_always (fun s act hmem => log_step s act hmem) acts hmem
      exact ⟨outcome, hkept acts _ (log_step s act hback)⟩
    · have hweaken : ∀ {s' : System τ} {r r' : Nat}, r ≤ r' →
          s'.waitsOrBack t (s.cmd t).requestId r → s'.waitsOrBack t (s.cmd t).requestId r' :=
        fun hle hw => hw.imp_right fun ⟨h₁, h₂, h₃, h₄⟩ => ⟨h₁, h₂, h₃.trans hle, h₄⟩
      by_cases hmine : act.isStepOf t = true
      · rw [List.countP_cons_of_pos hmine] at hsteps
        cases act with
        | advance u late =>
          obtain rfl : u = t := by simpa [Act.isStepOf] using hmine
          exact ih (h.step _) (hweaken (Nat.sub_le_sub_right hrank 1)
            (h.waits_advance hwaits hdone late)) (by omega)
        | _ => cases hmine
      · rw [List.countP_cons_of_neg hmine] at hsteps
        have hother : act.isStepOf t = false := by simpa using hmine
        exact ih (h.step _) (hweaken hrank (h.waits_other hwaits hdone hother)) hsteps

end Waits

def waitSteps : Nat := 18

structure Guarantee (s : System τ) : Prop where
  /-- a completion returns what the owner set, once, for the caller's own id -/
  ownResult : ∀ id result, .returned id (.completion result) ∈ s.log →
    .resultSet id result ∈ s.log ∧ ∀ other, .resultSet id other ∈ s.log → other = result
  ownId : ∀ t u, (s.part t).active = true → (s.part u).active = true →
    (s.cmd t).requestId = (s.cmd u).requestId → t = u
  once : ∀ id, s.log.count (.executed id) ≤ 1
  cancelled : ∀ id ret, .returned id (.cancelled ret) ∈ s.log → .executed id ∉ s.log
  waits : ∀ t, (s.callers t).phase.waits = true → s.ownerDone t → ∀ acts : List (Act τ),
    waitSteps ≤ acts.countP (Act.isStepOf t) →
      ∃ outcome, .returned (s.cmd t).requestId outcome ∈ (runSteps step s acts).log
  signal : ∀ k, (s.slots k).signal = true → terminal (s.slots k).word.state = true ∧
    .signalled (s.slots k).word.id ∈ s.log
  untouched : ∀ act k, (step s act).slots k ≠ s.slots k →
    (s.slots k).word = .zero ∨ (s.slots k).word.id = s.stepsFor act
  ownCredential : ∀ id kind secret, .handedOut id kind secret ∈ s.log →
    .stored id kind secret ∈ s.log
  free : ∀ k, (s.slots k).word.state = .free → (s.slots k).authority = .wiped
  completed : ∀ k, (s.slots k).word.state = .completed → (s.slots k).authority = .wiped
  /-- only between the cancel and the wipe, which is the next step of the task -/
  callerCancelled : ∀ k, (s.slots k).word.state = .callerCancelled →
    (s.slots k).authority = .wiped ∨ ∃ t who, (s.callers t).phase = .wiping (.cancel who) ∧
      (s.cmd t).slot = k ∧ (s.cmd t).requestId = (s.slots k).word.id
  /-- only between the expiry and the wipe, which is the next step of the owner -/
  ownerExpired : ∀ k, (s.slots k).word.state = .ownerExpired →
    (s.slots k).authority = .wiped ∨ ∃ cmd, s.owner = .expireWiping cmd ∧ cmd.slot = k ∧
      cmd.requestId = (s.slots k).word.id

section Guarantees

variable {s : System τ}

omit [DecidableEq τ] in
theorem Inv.holder (h : Inv s) {k : SlotIndex} (hword : (s.slots k).word.state ≠ .free) :
    ∃ t j, (s.cmd t).slot = k ∧ (s.part t).allows j = true ∧ At s.toShared (s.cmd t) j := by
  obtain hfree | ⟨t, hhold, hslot, _⟩ := h.slots k
  · rw [hfree.1] at hword
    exact absurd rfl hword
  · obtain ⟨j, hj, hat⟩ := h.journey t hhold
    exact ⟨t, j, hslot, hj, hat⟩

theorem Phase.of_cancelled {phase : Phase} (h : phase.part = .cancelled false) :
    ∃ who, phase = .wiping (.cancel who) := by
  cases phase with
  | wiping who =>
    cases who with
    | cancel who => exact ⟨who, rfl⟩
    | release who => cases who <;> cases h
    | _ => cases h
  | looking look =>
    cases look with
    | releaseMatches who | releaseState who => cases who <;> cases h
    | _ => cases h
  | cancelling who | releasing who => cases who <;> cases h
  | _ => cases h

theorem Owner.of_expireWiping {owner : Owner} {cmd : Command}
    (h : owner.stage = some (cmd, .expireWiping)) : owner = .expireWiping cmd := by
  cases owner with
  | expireWiping cmd' =>
    cases h
    rfl
  | looking look cmd' => cases look <;> cases h
  | _ => cases h

theorem Inv.guarantee (h : Inv s) : Guarantee s := by
  refine ⟨fun id result hmem => ?_, h.distinct, h.history.once, h.history.cancelled,
    fun t hwaits hdone acts hsteps => ?_, fun k hsignal => ?_, h.untouched, h.history.own,
    fun k hfree => ?_, fun k hcompleted => ?_, fun k hcancelled => ?_, fun k hexpired => ?_⟩
  · have hset := h.history.completion id result hmem
    exact ⟨hset, fun other hother => h.history.oneAnswer id other result hother hset⟩
  · have hrank : (s.callers t).phase.waitRank ≤ waitSteps := by
      unfold Phase.waitRank waitSteps
      split <;> omega
    exact h.waits_run (Or.inr ⟨hwaits, rfl, hrank, hdone⟩) acts hsteps
  · obtain hfree | ⟨t, hhold, rfl, _⟩ := h.slots k
    · rw [hfree.2.2] at hsignal
      cases hsignal
    · obtain ⟨j, _, hat⟩ := h.journey t hhold
      rw [hat.signal] at hsignal
      cases j with
      | given state =>
        rw [hat.word]
        exact ⟨hat.valid, hat.signalled state (Or.inl rfl)⟩
      | _ => cases hsignal
  · obtain hclean | ⟨t, hhold, rfl, _⟩ := h.slots k
    · exact hclean.2.1
    · obtain ⟨j, _, hat⟩ := h.journey t hhold
      rw [hat.word] at hfree
      exact absurd hfree (Journey.state_ne_free hat.valid)
  · obtain ⟨t, j, rfl, _, hat⟩ := h.holder (by rw [hcompleted]; simp)
    apply hat.wiped
    rw [hat.word] at hcompleted
    have hvalid := hat.valid
    cases j with
    | owned stage state =>
      simp only [Journey.state] at hcompleted
      subst hcompleted
      cases stage <;> first | rfl | exact absurd hvalid (by decide)
    | given state | taken state => rfl
    | _ => cases hcompleted
  · obtain ⟨t, j, rfl, hj, hat⟩ := h.holder (by rw [hcancelled]; simp)
    rw [hat.word] at hcancelled
    have hvalid := hat.valid
    cases j with
    | cancelled wiped =>
      cases wiped with
      | true => exact Or.inl (hat.wiped rfl)
      | false =>
        have hpart : s.part t = .cancelled false := by
          cases hp : s.part t with
          | cancelled wiped =>
            rw [hp] at hj
            cases wiped with
            | false => rfl
            | true => exact absurd hj (by decide)
          | taken state =>
            rw [hp] at hj
            cases state <;> cases hj
          | _ => rw [hp] at hj; cases hj
        obtain ⟨who, hphase⟩ := Phase.of_cancelled hpart
        exact Or.inr ⟨t, who, hphase, rfl, by rw [hat.word]⟩
    | owned stage state =>
      simp only [Journey.state] at hcancelled
      subst hcancelled
      cases stage <;> exact absurd hvalid (by decide)
    | given state | taken state =>
      simp only [Journey.state] at hcancelled
      subst hcancelled
      exact absurd hvalid (by decide)
    | _ => cases hcancelled
  · obtain ⟨t, j, rfl, _, hat⟩ := h.holder (by rw [hexpired]; simp)
    rw [hat.word] at hexpired
    have hvalid := hat.valid
    cases j with
    | owned stage state =>
      simp only [Journey.state] at hexpired
      subst hexpired
      cases stage with
      | expireWiping =>
        exact Or.inr ⟨s.cmd t, Owner.of_expireWiping hat.place, rfl, by rw [hat.word]⟩
      | expireResult | giving => exact Or.inl (hat.wiped rfl)
      | _ => exact absurd hvalid (by decide)
    | given state | taken state => exact Or.inl (hat.wiped rfl)
    | _ => cases hexpired

end Guarantees

/-- After every interleaving of the tasks and the owner, commands get their own results and leave
no credential behind. -/
theorem mesh_requests_guarded (acts : List (Act τ)) : Guarantee (runSteps step boot acts) := by
  have hstep : ∀ (s : System τ) (act : Act τ), Inv s → Inv (step s act) := fun _ act h => h.step act
  exact (run_always hstep acts inv_boot).guarantee

/-- A cancel marks the slot first and wipes it afterwards. -/
theorem cancelled_slot_not_yet_wiped :
    ¬ ∀ (acts : List (Act Unit)) (k : SlotIndex),
      ((runSteps step boot acts).slots k).word.state = .callerCancelled →
        ((runSteps step boot acts).slots k).authority = .wiped := by
  intro h
  have hno := h (.call () (some .password) [7] :: List.replicate 16 (.advance () false) ++
    List.replicate 3 (.advance () true)) 0
  revert hno
  decide +kernel

end Sigui.MeshRequest
