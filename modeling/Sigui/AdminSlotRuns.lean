import Sigui.AdminSlotInv

/-! Every interleaving of the producer and the owner over one admin-response slot. -/
namespace Sigui.AdminSlot

abbrev SafeFor {α : Type} (side : Side) (post : α → Slot → Prop) (p : SlotProg α) (s : Slot) :
    Prop :=
  p.Safe SlotInv (Rely side) (Guar side) post s

section Steps

variable {α β : Type} {side : Side} {post : β → Slot → Prop} {mid : α → Slot → Prop} {s : Slot}
  {id : RequestId} {state : RequestState}

theorem SafeFor.seq {p : SlotProg α} {f : α → SlotProg β} (hinv : SlotInv s)
    (hp : SafeFor side mid p s) (hf : ∀ a t, SlotInv t → mid a t → SafeFor side post (f a) t) :
    SafeFor side post (p >>= f) s :=
  (hp.mono hf).bind (.refl side) hinv

theorem safe_ret {b : β} (h : post b s) (hstable : ∀ t, Rely side s t → post b s → post b t) :
    SafeFor side post (.ret b) s :=
  fun t hrely _ => hstable t hrely h

theorem safe_ret_held {b : β} (howns : side.owns s.word.state = true) (h : post b s) :
    SafeFor side post (.ret b) s :=
  fun _ hrely _ => hrely.held (.inl howns) ▸ h

theorem safe_read (tag : RequestId) (f : Slot → α) :
    SafeFor side (fun a t => ∃ u, Rely side s u ∧ SlotInv u ∧ a = f u ∧ Rely side u t)
      (Prog.read tag f) s :=
  fun u hrely hinv => ⟨hinv, .refl _ _ _, fun _ ht _ => ⟨u, hrely, hinv, rfl, ht⟩⟩

theorem safe_readField (howns : side.owns s.word.state = true) (f : SlotContents → α) :
    SafeFor side (fun a t => t = s ∧ a = f s.contents) (readField id f) s := by
  intro u hrely hinv
  have hus := hrely.held (.inl howns)
  subst hus
  exact ⟨hinv, .refl _ _ _, fun t ht _ => ⟨ht.held (.inl howns), rfl⟩⟩

theorem safe_writeField (howns : side.owns s.word.state = true) (hid : s.word.id = id)
    (f : SlotContents → SlotContents) :
    SafeFor side (fun _ t => t = { s with contents := f s.contents }) (writeField id f) s := by
  intro u hrely hinv
  have hus := hrely.held (.inl howns)
  subst hus
  obtain ⟨_, hfree, hpending⟩ := owns_not_other howns
  exact ⟨hinv.write hfree hpending _, .write howns hid _, fun t ht _ => ht.held (.inl howns)⟩

theorem safe_compareExchange {expected desired : GuardWord} {event : SlotEvent}
    (hswap : ∀ u, Rely side s u → SlotInv u → u.word = expected →
      SlotInv (u.swap desired event) ∧ Guar side id u (u.swap desired event)) :
    SafeFor side
      (fun b t => (b = false ∧ ∃ u, Rely side s u ∧ u.word ≠ expected ∧ Rely side u t) ∨
        (b = true ∧ ∃ u, Rely side s u ∧ SlotInv u ∧ u.word = expected ∧
          Rely side (u.swap desired event) t))
      (compareExchange id expected desired event) s := by
  intro u hrely hinv
  dsimp only
  by_cases hword : u.word = expected
  · rw [if_pos hword]
    obtain ⟨hinv', hguar⟩ := hswap u hrely hinv hword
    refine ⟨hinv', hguar, fun t ht _ => .inr ⟨decide_eq_true hword, u, hrely, hinv, hword, ht⟩⟩
  · rw [if_neg hword]
    exact ⟨hinv, .refl _ _ _, fun t ht _ => .inl ⟨decide_eq_false hword, u, hrely, hword, ht⟩⟩

theorem safe_wipe (hinv : SlotInv s) (howns : side.owns s.word.state = true)
    (hid : s.word.id = id) :
    SafeFor side (fun _ t => t = { s with contents := .wiped }) (wipe id) s := by
  have hwrite : ∀ (t : Slot) (f : SlotContents → SlotContents), t.word = s.word →
      SafeFor side (fun _ u => u = { t with contents := f t.contents }) (writeField id f) t := by
    intro t f hword
    exact safe_writeField (hword ▸ howns) (hword ▸ hid) f
  refine SafeFor.seq hinv (hwrite _ _ rfl) ?_
  rintro _ _ hinv rfl
  refine SafeFor.seq hinv (hwrite _ _ rfl) ?_
  rintro _ _ hinv rfl
  refine SafeFor.seq hinv (hwrite _ _ rfl) ?_
  rintro _ _ hinv rfl
  refine SafeFor.seq hinv (hwrite _ _ rfl) ?_
  rintro _ _ hinv rfl
  refine SafeFor.seq hinv (hwrite _ _ rfl) ?_
  rintro _ _ hinv rfl
  refine SafeFor.seq hinv (hwrite _ _ rfl) ?_
  rintro _ _ _ rfl
  refine Prog.Safe.mono (hwrite _ _ rfl) ?_
  rintro _ _ _ rfl
  rfl

theorem safe_guardIs (hinv : SlotInv s) (state : RequestState) :
    SafeFor side (fun _ t => Rely side s t) (guardIs id state) s := by
  unfold guardIs guardMatches
  by_cases hzero : id = 0
  · rw [if_pos hzero]
    exact safe_ret (.refl _ _) fun _ ht h => h.trans ht
  rw [if_neg hzero]
  refine SafeFor.seq hinv (safe_read id _) ?_
  rintro matched t hinv ⟨u, hsu, _, _, hut⟩
  cases matched with
  | false => exact safe_ret (hsu.trans hut) fun _ hv h => h.trans hv
  | true =>
    refine SafeFor.seq hinv (safe_read id _) ?_
    rintro found v _ ⟨w, htw, _, _, hwv⟩
    exact safe_ret (((hsu.trans hut).trans htw).trans hwv) fun _ hx h => h.trans hx

theorem safe_guardIs_held (hinv : SlotInv s) (howns : side.owns state = true) : SafeFor side
      (fun b t => (b = false ∧ Rely side s t) ∨ (b = true ∧ t = s ∧ id ≠ 0 ∧ s.word = ⟨id, state⟩))
      (guardIs id state) s := by
  unfold guardIs guardMatches
  by_cases hzero : id = 0
  · rw [if_pos hzero]
    exact safe_ret (.inl ⟨rfl, .refl _ _⟩) fun t ht h => by
      rcases h with ⟨_, h⟩ | ⟨h, _⟩
      · exact .inl ⟨rfl, h.trans ht⟩
      · cases h
  rw [if_neg hzero]
  refine SafeFor.seq hinv (safe_read id _) ?_
  rintro matched t hinv ⟨u, hsu, _, hmatched, hut⟩
  cases matched with
  | false =>
    refine safe_ret (.inl ⟨rfl, hsu.trans hut⟩) fun v hv h => ?_
    rcases h with ⟨_, h⟩ | ⟨h, _⟩
    · exact .inl ⟨rfl, h.trans hv⟩
    · cases h
  | true =>
    refine SafeFor.seq hinv (safe_read id _) ?_
    rintro found v _ ⟨w, htw, _, rfl, hwv⟩
    refine fun x hx _ => ?_
    by_cases hfound : w.word.state = state
    · -- owned at the second load, so it has been since before the first
      have hw : side.owns w.word.state = true := hfound ▸ howns
      have hws := ((hsu.trans hut).trans htw).held (.inr hw)
      have hwu := (hut.trans htw).held (.inr hw)
      have hxw := (hwv.trans hx).held (.inl hw)
      subst hws hwu hxw
      have hword : x.word.id = id := of_decide_eq_true hmatched.symm
      refine .inr ⟨decide_eq_true hfound, rfl, hzero, ?_⟩
      rw [← hword, ← hfound]
    · exact .inl ⟨decide_eq_false hfound, (((hsu.trans hut).trans htw).trans hwv).trans hx⟩

theorem safe_refused (side : Side) (s : Slot) :
    SafeFor side (fun b t => b = false ∧ Rely side s t) (pure false) s :=
  safe_ret ⟨rfl, .refl _ _⟩ fun _ ht h => ⟨h.1, h.2.trans ht⟩

theorem safe_guardTransition {expectedState nextState : RequestState} {event : SlotEvent}
    (hswap : ∀ u, Rely side s u → SlotInv u → u.word = ⟨id, expectedState⟩ →
      SlotInv (u.swap ⟨id, nextState⟩ event) ∧ Guar side id u (u.swap ⟨id, nextState⟩ event)) :
    SafeFor side
      (fun b t => (b = false ∧ Rely side s t) ∨
        (b = true ∧ id ≠ 0 ∧ ∃ u, Rely side s u ∧ SlotInv u ∧ u.word = ⟨id, expectedState⟩ ∧
          Rely side (u.swap ⟨id, nextState⟩ event) t))
      (guardTransition id expectedState nextState event) s := by
  unfold guardTransition
  by_cases hzero : id = 0
  · rw [if_pos hzero]
    exact (safe_refused side s).mono fun _ _ _ h => .inl h
  · rw [if_neg hzero]
    refine (safe_compareExchange hswap).mono ?_
    rintro b t _ (⟨rfl, u, hsu, _, hut⟩ | ⟨rfl, u, hsu, hinv, hword, hut⟩)
    · exact .inl ⟨rfl, hsu.trans hut⟩
    · exact .inr ⟨rfl, hzero, u, hsu, hinv, hword, hut⟩

theorem safe_release (hzero : id ≠ 0) (howns : side.owns state = true)
    (hword : s.word = ⟨id, state⟩) (hwiped : s.contents = .wiped) :
    SafeFor side (fun _ t => Rely side (s.swap .zero (.released id)) t)
      (guardRelease id state) s := by
  have hheld : side.owns s.word.state = true := by rw [hword]; exact howns
  unfold guardRelease
  rw [if_neg hzero]
  refine (safe_compareExchange ?_).mono ?_
  · intro u hsu hinv _
    have hus := hsu.held (.inl hheld)
    subst hus
    refine ⟨hinv.release hwiped, .swap hword (owns_not_other howns).1 ?_ (.inr rfl) nofun⟩
    cases side <;> rfl
  · rintro b t _ (⟨_, u, hsu, hother, _⟩ | ⟨_, u, hsu, _, _, hut⟩)
    · have hus := hsu.held (.inl hheld)
      subst hus
      exact absurd hword hother
    · have hus := hsu.held (.inl hheld)
      subst hus
      exact hut

def Idle : Side → Slot → Prop
  | .producer, s =>
    (s.word.state = .claimed → s.contents = .wiped) ∧ s.word.state ≠ .callerCancelled
  | .owner, s =>
    (s.word.state = .admitted → ∃ args, .published s.word.id args ∈ s.history ∧
      s.contents = args.contents) ∧ s.word.state ≠ .ownerExpired

theorem idle_of_unowned (h : side.owns s.word.state = false) : Idle side s := by
  cases side with
  | producer =>
    refine ⟨fun heq => ?_, fun heq => ?_⟩ <;> · rw [heq] at h; cases h
  | owner =>
    refine ⟨fun heq => ?_, fun heq => ?_⟩ <;> · rw [heq] at h; cases h

theorem Idle.rely (h : Idle side s) {t : Slot} (hrely : Rely side s t) : Idle side t := by
  cases howns : side.owns t.word.state with
  | false => exact idle_of_unowned howns
  | true =>
    rw [hrely.held (.inr howns)]
    exact h

theorem safe_release_idle (hzero : id ≠ 0) (howns : side.owns state = true)
    (hword : s.word = ⟨id, state⟩) (hwiped : s.contents = .wiped) :
    SafeFor side (fun _ t => Idle side t) (guardRelease id state) s := by
  refine (safe_release hzero howns hword hwiped).mono ?_
  intro _ t _ hrely
  refine Idle.rely (idle_of_unowned ?_) hrely
  cases side <;> rfl

theorem safe_giveBack (hinv : SlotInv s) (hzero : id ≠ 0) (howns : side.owns state = true)
    (hword : s.word = ⟨id, state⟩) :
    SafeFor side (fun _ t => Idle side t) (wipe id >>= fun _ => guardRelease id state) s := by
  have hheld : side.owns s.word.state = true := by rw [hword]; exact howns
  refine SafeFor.seq hinv (safe_wipe hinv hheld (by rw [hword])) ?_
  rintro _ _ _ rfl
  exact safe_release_idle (s := { s with contents := .wiped }) hzero howns hword rfl

theorem safe_giveBack_then (hinv : SlotInv s) (hzero : id ≠ 0) (howns : side.owns state = true)
    (hword : s.word = ⟨id, state⟩) {f : Bool → SlotProg β}
    (hf : ∀ b t, Idle side t → SafeFor side post (f b) t) :
    SafeFor side post (wipe id >>= fun _ => guardRelease id state >>= f) s := by
  have hheld : side.owns s.word.state = true := by rw [hword]; exact howns
  refine SafeFor.seq hinv (safe_wipe hinv hheld (by rw [hword])) ?_
  rintro _ _ hinv rfl
  refine SafeFor.seq hinv
    (safe_release_idle (s := { s with contents := .wiped }) hzero howns hword rfl) ?_
  exact fun b t _ hidle => hf b t hidle

end Steps

section Producer

variable {s : Slot} {id : RequestId}

theorem safe_claim (hinv : SlotInv s) (hidle : Idle .producer s)
    (hnew : .claimed id ∉ s.history) :
    SafeFor .producer (fun _ t => Idle .producer t) (claim id) s := by
  have hguard : SafeFor .producer
      (fun b t => (b = false ∧ Rely .producer s t) ∨ (b = true ∧ t.word = ⟨id, .claimed⟩))
      (guardClaim id) s := by
    unfold guardClaim
    by_cases hzero : id = 0
    · rw [if_pos hzero]
      exact (safe_refused _ s).mono fun _ _ _ h => .inl h
    · rw [if_neg hzero]
      refine (safe_compareExchange ?_).mono ?_
      · intro u hsu hu hword
        have hnew' : .claimed id ∉ u.history := fun hmem => hnew (hsu.claims rfl id hmem)
        exact ⟨hu.claim hnew', .swap hword rfl rfl (.inl rfl) nofun⟩
      · rintro b t _ (⟨rfl, u, hsu, _, hut⟩ | ⟨rfl, u, _, _, _, hut⟩)
        · exact .inl ⟨rfl, hsu.trans hut⟩
        · rw [hut.held (.inl rfl)]
          exact .inr ⟨rfl, rfl⟩
  refine SafeFor.seq hinv hguard ?_
  rintro b t ht (⟨rfl, hrely⟩ | ⟨rfl, hword⟩)
  · exact safe_ret (hidle.rely hrely) fun _ hr h => Idle.rely h hr
  · have hheld : Side.producer.owns t.word.state = true := by rw [hword]; rfl
    refine SafeFor.seq ht (safe_wipe ht hheld (by rw [hword])) ?_
    rintro _ _ _ rfl
    exact safe_ret_held hheld ⟨fun _ => rfl, by rw [hword]; exact nofun⟩

theorem safe_cancel (hinv : SlotInv s) (hidle : Idle .producer s) :
    SafeFor .producer (fun _ t => Idle .producer t) (cancel id) s := by
  refine SafeFor.seq hinv (safe_guardTransition ?_) ?_
  · intro u _ hu hword
    exact ⟨hu.cancel hword, .swap hword rfl rfl (.inr rfl) nofun⟩
  · rintro b t ht (⟨rfl, hrely⟩ | ⟨rfl, hzero, u, _, _, _, hut⟩)
    · exact safe_ret (hidle.rely hrely) fun _ hr h => Idle.rely h hr
    · have hword : t.word = ⟨id, .callerCancelled⟩ := by
        rw [hut.held (.inl rfl)]
        rfl
      exact safe_giveBack ht hzero rfl hword

theorem safe_enqueue (hinv : SlotInv s) (hidle : Idle .producer s) (taken : Bool) :
    SafeFor .producer (fun _ t => Idle .producer t) (enqueue id taken) s := by
  have hret : ∀ (result : EnqueueResult) (t : Slot), Idle .producer t →
      SafeFor .producer (fun _ t => Idle .producer t) (.ret result) t :=
    fun _ _ h => safe_ret h fun _ hr h => Idle.rely h hr
  refine SafeFor.seq hinv (safe_guardIs hinv .pending) ?_
  intro found t ht hrely
  have hidle' : Idle .producer t := hidle.rely hrely
  cases found with
  | false => exact hret _ _ hidle'
  | true =>
    cases taken with
    | true => exact hret _ _ hidle'
    | false =>
      refine SafeFor.seq ht (safe_cancel ht hidle') ?_
      intro cancelled u _ hu
      cases cancelled with
      | true => exact hret _ _ hu
      | false => exact hret _ _ hu

theorem copyInto_zeros {source : List UInt8} {n : Nat} :
    copyInto source (zeros n) = source ++ zeros (n - source.length) := by
  rw [copyInto, zeros, List.drop_replicate]
  rfl

theorem PublishArgs.fingerprintLen_le (args : PublishArgs) :
    args.fingerprintLen ≤ args.fingerprintBytes.length := Nat.min_le_right _ _

theorem fingerprint_filled (args : PublishArgs) :
    (copyInto (args.fingerprintBytes.take args.fingerprintLen)
        (zeros fingerprintCapacity)).set args.fingerprintLen 0 =
      args.contents.fingerprint := by
  have hlength : (args.fingerprintBytes.take args.fingerprintLen).length =
      args.fingerprintLen := List.length_take_of_le args.fingerprintLen_le
  rw [copyInto_zeros, hlength, List.set_append_right _ _ hlength.le, zeros,
    List.set_replicate_self]
  rfl

theorem safe_fillSlot (hinv : SlotInv s) (howns : Side.producer.owns s.word.state = true)
    (hid : s.word.id = id) (hwiped : s.contents = .wiped) (args : PublishArgs) :
    SafeFor .producer (fun _ t => t = { s with contents := args.contents })
      (fillSlot id args) s := by
  have hwrite : ∀ (t : Slot) (f : SlotContents → SlotContents), t.word = s.word →
      SafeFor .producer (fun _ u => u = { t with contents := f t.contents }) (writeField id f) t := by
    intro t f hword
    exact safe_writeField (hword ▸ howns) (hword ▸ hid) f
  refine SafeFor.seq hinv (hwrite _ _ rfl) ?_
  rintro _ _ hinv rfl
  refine SafeFor.seq hinv (hwrite _ _ rfl) ?_
  rintro _ _ hinv rfl
  refine SafeFor.seq hinv (hwrite _ _ rfl) ?_
  rintro _ _ hinv rfl
  refine SafeFor.seq hinv (hwrite _ _ rfl) ?_
  rintro _ _ hinv rfl
  refine SafeFor.seq hinv (hwrite _ _ rfl) ?_
  rintro _ _ hinv rfl
  refine SafeFor.seq hinv (hwrite _ _ rfl) ?_
  rintro _ _ hinv rfl
  refine SafeFor.seq hinv (hwrite _ _ rfl) ?_
  rintro _ _ hinv rfl
  refine Prog.Safe.mono (hwrite _ _ rfl) ?_
  rintro _ _ _ rfl
  dsimp only
  rw [hwiped]
  have hfingerprint := fingerprint_filled args
  have hplaintext : copyInto args.plaintextBytes (zeros plaintextCapacity) =
      args.contents.plaintext := copyInto_zeros
  simp only [SlotContents.wiped, hfingerprint, hplaintext]
  rfl

theorem safe_publishRefused (hinv : SlotInv s) (hidle : Idle .producer s) :
    SafeFor .producer (fun _ t => Idle .producer t) (publishRefused id) s := by
  refine SafeFor.seq hinv (safe_guardIs_held hinv rfl) ?_
  rintro found t ht (⟨rfl, hrely⟩ | ⟨rfl, rfl, hzero, hword⟩)
  · exact safe_ret (hidle.rely hrely) fun _ hr h => Idle.rely h hr
  · exact safe_giveBack_then ht hzero rfl hword fun _ _ h =>
      safe_ret h fun _ hr h => Idle.rely h hr

theorem safe_publish (hinv : SlotInv s) (hidle : Idle .producer s) (args : PublishArgs) :
    SafeFor .producer (fun _ t => Idle .producer t) (publish id args) s := by
  unfold publish
  by_cases hargs : id ≠ 0 ∧ args.valid = true
  · rw [if_pos hargs]
    refine SafeFor.seq hinv (safe_guardIs_held hinv rfl) ?_
    rintro found t ht (⟨rfl, hrely⟩ | ⟨rfl, rfl, hzero, hword⟩)
    · exact safe_publishRefused ht (hidle.rely hrely)
    · have hheld : Side.producer.owns t.word.state = true := by rw [hword]; rfl
      have hwiped : t.contents = .wiped := hidle.1 (by rw [hword])
      refine SafeFor.seq ht (safe_fillSlot ht hheld (by rw [hword]) hwiped args) ?_
      rintro _ _ hfilled rfl
      refine SafeFor.seq hfilled (safe_guardTransition ?_) ?_
      · intro u htu hu huword
        have hut := htu.held (.inl hheld)
        subst hut
        exact ⟨hu.publish huword hargs.2 rfl, .swap huword rfl rfl (.inr rfl) nofun⟩
      · rintro b v hv (⟨rfl, hrely⟩ | ⟨rfl, _, u, _, _, _, huv⟩)
        · have hvt := hrely.held (.inl hheld)
          subst hvt
          exact safe_giveBack_then hv hzero rfl hword fun _ _ h =>
            safe_ret h fun _ hr h => Idle.rely h hr
        · refine safe_ret (Idle.rely (idle_of_unowned ?_) huv) fun _ hr h => Idle.rely h hr
          rfl
  · rw [if_neg hargs]
    exact safe_publishRefused hinv hidle

end Producer

section Owner

variable {s : Slot} {id : RequestId}

def AdmitPost (id : RequestId) (result : AdmitResult) (t : Slot) : Prop :=
  Idle .owner t ∧ ∀ view, result = .accepted view →
    ∃ args, .published id args ∈ t.history ∧ view = args.view

theorem AdmitPost.rely {result : AdmitResult} (h : AdmitPost id result s) {t : Slot}
    (hrely : Rely .owner s t) : AdmitPost id result t := by
  refine ⟨h.1.rely hrely, fun view hview => ?_⟩
  obtain ⟨args, hmem, heq⟩ := h.2 view hview
  exact ⟨args, hrely.grows _ hmem, heq⟩

theorem safe_admit_ret {result : AdmitResult} (hidle : Idle .owner s)
    (hnone : ∀ view, result ≠ .accepted view) :
    SafeFor .owner (AdmitPost id) (.ret result) s :=
  safe_ret ⟨hidle, fun view h => absurd h (hnone view)⟩ fun _ hr h => AdmitPost.rely h hr

theorem safe_ret_idle {α : Type} {a : α} (hidle : Idle .owner s) :
    SafeFor .owner (fun _ t => Idle .owner t) (.ret a) s :=
  safe_ret hidle fun _ hr h => Idle.rely h hr

theorem safe_complete (hinv : SlotInv s) (hidle : Idle .owner s) :
    SafeFor .owner (fun _ t => Idle .owner t) (complete id) s := by
  refine SafeFor.seq hinv (safe_guardIs_held hinv rfl) ?_
  rintro found t ht (⟨rfl, hrely⟩ | ⟨rfl, rfl, hzero, hword⟩)
  · exact safe_ret_idle (hidle.rely hrely)
  · exact safe_giveBack ht hzero rfl hword

theorem safe_anyRead {α : Type} (tag : RequestId) (f : Slot → α) :
    SafeFor .owner (fun _ t => Rely .owner s t) (Prog.read tag f) s :=
  (safe_read tag f).mono fun _ _ _ ⟨_, hsu, _, _, hut⟩ => hsu.trans hut

theorem safe_ownerReap (hinv : SlotInv s) (hidle : Idle .owner s) (callerIsOwner : Bool)
    (currentSessionGeneration nowUs : Nat) :
    SafeFor .owner (fun _ t => Idle .owner t)
      (ownerReap callerIsOwner currentSessionGeneration nowUs) s := by
  cases callerIsOwner with
  | false => exact safe_ret_idle hidle
  | true =>
    refine SafeFor.seq hinv (safe_anyRead 0 _) ?_
    intro observed t ht hst
    have hidle' : Idle .owner t := hidle.rely hst
    dsimp only
    by_cases hskip : observed.id = 0 ∨ observed.state ≠ .pending
    · rw [if_pos hskip]
      exact safe_ret_idle hidle'
    rw [if_neg hskip]
    rw [not_or, not_not] at hskip
    have hobserved : observed = ⟨observed.id, .pending⟩ := by
      rw [← hskip.2]
    have hrest : ∀ (due : Bool) (v : Slot), SlotInv v → Idle .owner v →
        SafeFor .owner (fun _ t => Idle .owner t)
          (do
            let stale ← readField observed.id fun c =>
              decide (c.sessionGeneration ≠ currentSessionGeneration)
            if due || stale then
              if ← compareExchange observed.id observed ⟨observed.id, .ownerExpired⟩
                  (.expired observed.id) then
                wipe observed.id
                guardRelease observed.id .ownerExpired
              else
                return false
            else
              return false) v := by
      intro due v hv hidlev
      refine SafeFor.seq hv (safe_anyRead observed.id _) ?_
      intro stale w hw hvw
      have hidlew : Idle .owner w := hidlev.rely hvw
      by_cases hreap : (due || stale) = true
      · rw [if_pos hreap]
        refine SafeFor.seq hw (safe_compareExchange ?_) ?_
        · intro x _ hx hword
          rw [hobserved] at hword
          have hfound : x.word = observed := hword.trans hobserved.symm
          refine ⟨hx.expire hword, .swap hfound ?_ rfl (.inr rfl) fun _ _ => nofun⟩
          rw [hskip.2]
          rfl
        · rintro b y hy (⟨rfl, x, hwx, _, hxy⟩ | ⟨rfl, x, _, _, _, hxy⟩)
          · exact safe_ret_idle ((hidlew.rely hwx).rely hxy)
          · have hword : y.word = ⟨observed.id, .ownerExpired⟩ := by
              rw [hxy.held (.inl rfl)]
              rfl
            exact safe_giveBack hy hskip.1 rfl hword
      · rw [if_neg hreap]
        exact safe_ret_idle hidlew
    refine SafeFor.seq ht (safe_anyRead observed.id _) ?_
    intro unset u hu htu
    cases unset with
    | true => exact hrest true u hu (hidle'.rely htu)
    | false =>
      refine SafeFor.seq hu (safe_anyRead observed.id _) ?_
      intro due v hv huv
      exact hrest due v hv ((hidle'.rely htu).rely huv)

theorem safe_structurallyValid (hinv : SlotInv s)
    (howns : Side.owner.owns s.word.state = true) :
    SafeFor .owner (fun _ t => t = s) (structurallyValid id) s := by
  have hread : ∀ {α : Type} (f : SlotContents → α),
      SafeFor .owner (fun _ t => t = s) (readField id f) s :=
    fun f => (safe_readField howns f).mono fun _ _ _ h => h.1
  have hfalse : SafeFor .owner (fun (_ : Bool) t => t = s) (.ret false) s :=
    safe_ret_held howns rfl
  refine SafeFor.seq hinv (hread _) ?_
  rintro (_ | _) _ _ rfl
  · exact hfalse
  refine SafeFor.seq hinv (hread _) ?_
  rintro (_ | _) _ _ rfl
  · exact hfalse
  refine SafeFor.seq hinv (hread _) ?_
  rintro (_ | _) _ _ rfl
  · exact hfalse
  refine SafeFor.seq hinv (hread _) ?_
  rintro (_ | _) _ _ rfl
  · exact hfalse
  refine SafeFor.seq hinv (hread _) ?_
  rintro (_ | _) _ _ rfl
  · exact hfalse
  rw [if_pos rfl]
  exact hread _

theorem safe_readView (hinv : SlotInv s) (howns : Side.owner.owns s.word.state = true) :
    SafeFor .owner (fun view t => t = s ∧ view = ⟨s.contents.fingerprint, s.contents.plaintext,
      s.contents.plaintextLen, s.contents.sessionGeneration, s.contents.deadlineUs,
      s.contents.countRxOnAccept⟩) (readView id) s := by
  refine SafeFor.seq hinv (safe_readField howns _) ?_
  rintro _ _ _ ⟨rfl, rfl⟩
  refine SafeFor.seq hinv (safe_readField howns _) ?_
  rintro _ _ _ ⟨rfl, rfl⟩
  refine SafeFor.seq hinv (safe_readField howns _) ?_
  rintro _ _ _ ⟨rfl, rfl⟩
  refine SafeFor.seq hinv (safe_readField howns _) ?_
  rintro _ _ _ ⟨rfl, rfl⟩
  refine SafeFor.seq hinv (safe_readField howns _) ?_
  rintro _ _ _ ⟨rfl, rfl⟩
  refine SafeFor.seq hinv (safe_readField howns _) ?_
  rintro _ _ _ ⟨rfl, rfl⟩
  exact safe_ret_held howns ⟨rfl, rfl⟩

theorem safe_admitRefused (hinv : SlotInv s) (hzero : id ≠ 0) (hword : s.word = ⟨id, .admitted⟩)
    {result : AdmitResult} (hnone : ∀ view, result ≠ .accepted view) :
    SafeFor .owner (AdmitPost id) (admitRefused id result) s :=
  safe_giveBack_then hinv hzero rfl hword fun _ _ hidle => safe_admit_ret hidle hnone

theorem safe_admitCommand (hinv : SlotInv s) (hidle : Idle .owner s) (callerIsOwner : Bool)
    (currentSessionGeneration nowUs : Nat) :
    SafeFor .owner (AdmitPost id) (admitRequest id callerIsOwner currentSessionGeneration nowUs) s := by
  cases callerIsOwner with
  | false => exact safe_admit_ret hidle nofun
  | true =>
    have hmatches : SafeFor .owner (fun _ t => Rely .owner s t) (guardMatches id) s := by
      unfold guardMatches
      by_cases hzero : id = 0
      · rw [if_pos hzero]
        exact safe_ret (.refl _ _) fun _ hr h => h.trans hr
      · rw [if_neg hzero]
        exact safe_anyRead _ _
    refine SafeFor.seq hinv hmatches ?_
    rintro (_ | _) t ht hst
    · exact safe_admit_ret (hidle.rely hst) nofun
    refine SafeFor.seq ht (safe_guardTransition ?_) ?_
    · intro u _ hu hword
      exact ⟨hu.admitted hword, .swap hword rfl rfl (.inr rfl) fun _ _ => nofun⟩
    · rintro b u hu (⟨rfl, htu⟩ | ⟨rfl, hzero, v, _, hv, hvword, hvu⟩)
      · exact safe_admit_ret ((hidle.rely hst).rely htu) nofun
      · -- from here on the slot is the owner's, with the published contents
        have huv := hvu.held (.inl rfl)
        have hword : u.word = ⟨id, .admitted⟩ := by
          rw [huv]
          rfl
        have hpending := hv.published (by rw [hvword])
        rw [hvword] at hpending
        obtain ⟨args, _, hmem, hcontents⟩ := hpending
        have hmem' : .published id args ∈ u.history := by
          rw [huv]
          exact List.mem_cons_of_mem _ hmem
        have hcontents' : u.contents = args.contents := by
          rw [huv]
          exact hcontents
        have howns : Side.owner.owns u.word.state = true := by rw [hword]; rfl
        have hrefuse : ∀ result, (∀ view, result ≠ .accepted view) →
            SafeFor .owner (AdmitPost id) (admitRefused id result) u :=
          fun _ hnone => safe_admitRefused hu hzero hword hnone
        refine SafeFor.seq hu (safe_structurallyValid hu howns) ?_
        rintro (_ | _) _ _ rfl
        · exact hrefuse .invalid nofun
        refine SafeFor.seq hu (safe_readField howns _) ?_
        rintro (_ | _) _ _ ⟨rfl, _⟩
        · refine SafeFor.seq hu (safe_readField howns _) ?_
          rintro (_ | _) _ _ ⟨rfl, _⟩
          · refine SafeFor.seq hu (safe_readView hu howns) ?_
            rintro view _ _ ⟨rfl, rfl⟩
            refine safe_ret_held howns ⟨⟨fun _ => ?_, ?_⟩, ?_⟩
            · rw [hword]
              exact ⟨args, hmem', hcontents'⟩
            · rw [hword]
              exact nofun
            · intro view hview
              cases hview
              exact ⟨args, hmem', by rw [hcontents']; rfl⟩
          · exact hrefuse .staleSession nofun
        · exact hrefuse .expired nofun

end Owner

end Sigui.AdminSlot
