import Sigui.AdminSlot

/-! What holds of an admin-response slot between any two atomic steps, and what its two sides rely
on of each other. -/
namespace Sigui.AdminSlot

def PublishArgs.contents (args : PublishArgs) : SlotContents where
  deadlineUs := args.deadlineUs
  sessionGeneration := args.sessionGeneration
  fingerprint := args.fingerprintBytes.take args.fingerprintLen ++
    zeros (fingerprintCapacity - args.fingerprintLen)
  plaintext := args.plaintextBytes ++ zeros (plaintextCapacity - args.plaintextBytes.length)
  plaintextLen := args.plaintextBytes.length
  countRxOnAccept := args.countRxOnAccept
  present := true

def PublishArgs.view (args : PublishArgs) : ResponseView where
  fingerprint := args.contents.fingerprint
  plaintext := args.contents.plaintext
  plaintextLen := args.plaintextBytes.length
  sessionGeneration := args.sessionGeneration
  deadlineUs := args.deadlineUs
  countRxOnAccept := args.countRxOnAccept

section Invariant

structure HistoryInv (history : List SlotEvent) : Prop where
  owned : ∀ id, .claimed id ∉ history → (∀ args, .published id args ∉ history) ∧
    .admitted id ∉ history ∧ .cancelled id ∉ history
  unique : ∀ id a b, .published id a ∈ history → .published id b ∈ history → a = b
  once : ∀ id, history.count (.admitted id) ≤ 1
  apart : ∀ id, ¬ (.admitted id ∈ history ∧ .cancelled id ∈ history)

structure SlotInv (s : Slot) : Prop where
  history : HistoryInv s.history
  wiped : s.word = .zero → s.contents = .wiped
  current : s.word ≠ .zero → .claimed s.word.id ∈ s.history
  fresh : s.word.state = .claimed → ∀ args, .published s.word.id args ∉ s.history
  undecided : s.word.state = .claimed ∨ s.word.state = .pending →
    .admitted s.word.id ∉ s.history ∧ .cancelled s.word.id ∉ s.history
  published : s.word.state = .pending → ∃ args, args.valid = true ∧
    .published s.word.id args ∈ s.history ∧ s.contents = args.contents

theorem slotInv_empty : SlotInv .empty where
  history :=
    { owned := fun _ _ => ⟨nofun, nofun, nofun⟩
      unique := nofun
      once := fun _ => Nat.zero_le _
      apart := fun _ h => nomatch h.1 }
  wiped _ := rfl
  current h := absurd rfl h
  fresh h := by cases h
  undecided h := by rcases h with h | h <;> cases h
  published h := by cases h

variable {history : List SlotEvent} {id : RequestId}

theorem HistoryInv.claimed (h : HistoryInv history) : HistoryInv (.claimed id :: history) where
  owned id' hid := by
    simp only [List.mem_cons, reduceCtorEq, false_or]
    exact h.owned id' fun hmem => hid (List.mem_cons_of_mem _ hmem)
  unique := by
    simp only [List.mem_cons, reduceCtorEq, false_or]
    exact h.unique
  once id' := by
    rw [List.count_cons_of_ne (show SlotEvent.claimed id ≠ .admitted id' from nofun)]
    exact h.once id'
  apart := by
    simp only [List.mem_cons, reduceCtorEq, false_or]
    exact h.apart

theorem HistoryInv.quiet (h : HistoryInv history) {event : SlotEvent}
    (hevent : event = .expired id ∨ event = .released id) : HistoryInv (event :: history) := by
  have hcount : ∀ id', event ≠ .admitted id' := by rcases hevent with rfl | rfl <;> exact nofun
  rcases hevent with rfl | rfl
  all_goals
    refine ⟨?_, ?_, ?_, ?_⟩
    · intro id' hid
      simp only [List.mem_cons, reduceCtorEq, false_or]
      exact h.owned id' fun hmem => hid (List.mem_cons_of_mem _ hmem)
    · simp only [List.mem_cons, reduceCtorEq, false_or]
      exact h.unique
    · intro id'
      rw [List.count_cons_of_ne (hcount id')]
      exact h.once id'
    · simp only [List.mem_cons, reduceCtorEq, false_or]
      exact h.apart

theorem HistoryInv.published (h : HistoryInv history) {args : PublishArgs}
    (hclaimed : .claimed id ∈ history) (hfresh : ∀ args, .published id args ∉ history) :
    HistoryInv (.published id args :: history) where
  owned id' hid := by
    have hid' : .claimed id' ∉ history := fun hmem => hid (List.mem_cons_of_mem _ hmem)
    obtain ⟨hpublished, hrest⟩ := h.owned id' hid'
    simp only [List.mem_cons, reduceCtorEq, false_or, SlotEvent.published.injEq]
    refine ⟨fun args' => ?_, hrest⟩
    rintro (⟨rfl, _⟩ | hmem)
    · exact hid' hclaimed
    · exact hpublished args' hmem
  unique id' a b ha hb := by
    simp only [List.mem_cons, SlotEvent.published.injEq] at ha hb
    rcases ha with ⟨rfl, rfl⟩ | ha
    · rcases hb with ⟨_, rfl⟩ | hb
      · rfl
      · exact absurd hb (hfresh b)
    · rcases hb with ⟨rfl, rfl⟩ | hb
      · exact absurd ha (hfresh a)
      · exact h.unique id' a b ha hb
  once id' := by
    rw [List.count_cons_of_ne (show SlotEvent.published id args ≠ .admitted id' from nofun)]
    exact h.once id'
  apart := by
    simp only [List.mem_cons, reduceCtorEq, false_or]
    exact h.apart

theorem HistoryInv.admitted (h : HistoryInv history) (hclaimed : .claimed id ∈ history)
    (hopen : .admitted id ∉ history ∧ .cancelled id ∉ history) :
    HistoryInv (.admitted id :: history) where
  owned id' hid := by
    have hid' : .claimed id' ∉ history := fun hmem => hid (List.mem_cons_of_mem _ hmem)
    obtain ⟨hpublished, hadmitted, hcancelled⟩ := h.owned id' hid'
    simp only [List.mem_cons, reduceCtorEq, false_or, SlotEvent.admitted.injEq]
    refine ⟨hpublished, ?_, hcancelled⟩
    rintro (rfl | hmem)
    · exact hid' hclaimed
    · exact hadmitted hmem
  unique := by
    simp only [List.mem_cons, reduceCtorEq, false_or]
    exact h.unique
  once id' := by
    by_cases hid : id' = id
    · rw [hid, List.count_cons_self, List.count_eq_zero_of_not_mem hopen.1]
    · rw [List.count_cons_of_ne fun heq => hid (SlotEvent.admitted.inj heq).symm]
      exact h.once id'
  apart id' := by
    simp only [List.mem_cons, reduceCtorEq, false_or, SlotEvent.admitted.injEq]
    rintro ⟨rfl | hadmitted, hcancelled⟩
    · exact hopen.2 hcancelled
    · exact h.apart id' ⟨hadmitted, hcancelled⟩

theorem HistoryInv.cancelled (h : HistoryInv history) (hclaimed : .claimed id ∈ history)
    (hopen : .admitted id ∉ history ∧ .cancelled id ∉ history) :
    HistoryInv (.cancelled id :: history) where
  owned id' hid := by
    have hid' : .claimed id' ∉ history := fun hmem => hid (List.mem_cons_of_mem _ hmem)
    obtain ⟨hpublished, hadmitted, hcancelled⟩ := h.owned id' hid'
    simp only [List.mem_cons, reduceCtorEq, false_or, SlotEvent.cancelled.injEq]
    refine ⟨hpublished, hadmitted, ?_⟩
    rintro (rfl | hmem)
    · exact hid' hclaimed
    · exact hcancelled hmem
  unique := by
    simp only [List.mem_cons, reduceCtorEq, false_or]
    exact h.unique
  once id' := by
    rw [List.count_cons_of_ne (show SlotEvent.cancelled id ≠ .admitted id' from nofun)]
    exact h.once id'
  apart id' := by
    simp only [List.mem_cons, reduceCtorEq, false_or, SlotEvent.cancelled.injEq]
    rintro ⟨hadmitted, rfl | hcancelled⟩
    · exact hopen.1 hadmitted
    · exact h.apart id' ⟨hadmitted, hcancelled⟩

end Invariant

section Changes

def Slot.swap (s : Slot) (desired : GuardWord) (event : SlotEvent) : Slot :=
  { s with word := desired, history := event :: s.history }

variable {s : Slot} {id : RequestId}

theorem word_ne_zero {state : RequestState} (h : state ≠ .free) :
    (⟨id, state⟩ : GuardWord) ≠ .zero := fun heq => h (congrArg GuardWord.state heq)

theorem SlotInv.claim (h : SlotInv s) (hnew : .claimed id ∉ s.history) :
    SlotInv (s.swap ⟨id, .claimed⟩ (.claimed id)) where
  history := h.history.claimed
  wiped heq := absurd heq (word_ne_zero nofun)
  current _ := List.mem_cons_self ..
  fresh _ args := by
    simp only [Slot.swap, List.mem_cons, reduceCtorEq, false_or]
    exact (h.history.owned id hnew).1 args
  undecided _ := by
    simp only [Slot.swap, List.mem_cons, reduceCtorEq, false_or]
    exact (h.history.owned id hnew).2
  published heq := by cases heq

theorem SlotInv.claimed_of_word (h : SlotInv s) {state : RequestState}
    (hword : s.word = ⟨id, state⟩) (hstate : state ≠ .free) : .claimed id ∈ s.history := by
  have hmem := h.current (hword ▸ word_ne_zero hstate)
  rw [hword] at hmem
  exact hmem

theorem SlotInv.publish (h : SlotInv s) (hword : s.word = ⟨id, .claimed⟩) {args : PublishArgs}
    (hvalid : args.valid = true) (hcontents : s.contents = args.contents) :
    SlotInv (s.swap ⟨id, .pending⟩ (.published id args)) where
  history := by
    have hfresh := h.fresh (by rw [hword])
    rw [hword] at hfresh
    exact h.history.published (h.claimed_of_word hword nofun) hfresh
  wiped heq := absurd heq (word_ne_zero nofun)
  current _ := List.mem_cons_of_mem _ (h.claimed_of_word hword nofun)
  fresh heq := by cases heq
  undecided _ := by
    have hopen := h.undecided (.inl (by rw [hword]))
    rw [hword] at hopen
    simp only [Slot.swap, List.mem_cons, reduceCtorEq, false_or]
    exact hopen
  published _ := ⟨args, hvalid, List.mem_cons_self .., hcontents⟩

theorem SlotInv.undecided_of_word (h : SlotInv s) (hword : s.word = ⟨id, .pending⟩) :
    .admitted id ∉ s.history ∧ .cancelled id ∉ s.history := by
  have hopen := h.undecided (.inr (by rw [hword]))
  rw [hword] at hopen
  exact hopen

theorem slotInv_of_history {desired : GuardWord} {event : SlotEvent}
    (hhistory : HistoryInv (event :: s.history)) (hclaimed : .claimed desired.id ∈ s.history)
    (hstate : desired.state ≠ .free ∧ desired.state ≠ .claimed ∧ desired.state ≠ .pending) :
    SlotInv (s.swap desired event) where
  history := hhistory
  wiped heq := absurd (congrArg GuardWord.state heq) hstate.1
  current _ := List.mem_cons_of_mem _ hclaimed
  fresh heq := absurd heq hstate.2.1
  undecided heq := by
    rcases heq with heq | heq
    · exact absurd heq hstate.2.1
    · exact absurd heq hstate.2.2
  published heq := absurd heq hstate.2.2

theorem SlotInv.admitted (h : SlotInv s) (hword : s.word = ⟨id, .pending⟩) :
    SlotInv (s.swap ⟨id, .admitted⟩ (.admitted id)) :=
  slotInv_of_history
    (h.history.admitted (h.claimed_of_word hword nofun) (h.undecided_of_word hword))
    (h.claimed_of_word hword nofun) ⟨nofun, nofun, nofun⟩

theorem SlotInv.cancel (h : SlotInv s) (hword : s.word = ⟨id, .pending⟩) :
    SlotInv (s.swap ⟨id, .callerCancelled⟩ (.cancelled id)) :=
  slotInv_of_history
    (h.history.cancelled (h.claimed_of_word hword nofun) (h.undecided_of_word hword))
    (h.claimed_of_word hword nofun) ⟨nofun, nofun, nofun⟩

theorem SlotInv.expire (h : SlotInv s) (hword : s.word = ⟨id, .pending⟩) :
    SlotInv (s.swap ⟨id, .ownerExpired⟩ (.expired id)) :=
  slotInv_of_history (h.history.quiet (.inl rfl)) (h.claimed_of_word hword nofun)
    ⟨nofun, nofun, nofun⟩

theorem SlotInv.release (h : SlotInv s) (hwiped : s.contents = .wiped) :
    SlotInv (s.swap .zero (.released id)) where
  history := h.history.quiet (.inr rfl)
  wiped _ := hwiped
  current heq := absurd rfl heq
  fresh heq := by cases heq
  undecided heq := by rcases heq with heq | heq <;> cases heq
  published heq := by cases heq

theorem SlotInv.write (h : SlotInv s) (hfree : s.word.state ≠ .free)
    (hpending : s.word.state ≠ .pending) (contents : SlotContents) :
    SlotInv { s with contents := contents } where
  history := h.history
  wiped heq := absurd (congrArg GuardWord.state heq) hfree
  current := h.current
  fresh := h.fresh
  undecided := h.undecided
  published heq := absurd heq hpending

end Changes

section Sides

inductive Side
  | producer
  | owner
  deriving DecidableEq

def Side.other : Side → Side
  | .producer => .owner
  | .owner => .producer

def Side.owns : Side → RequestState → Bool
  | .producer, .claimed | .producer, .callerCancelled => true
  | .owner, .admitted | .owner, .ownerExpired => true
  | _, _ => false

/-- What a side relies on: nobody else touches a slot it owns, or hands it one. -/
structure Rely (side : Side) (s s' : Slot) : Prop where
  held : side.owns s.word.state = true ∨ side.owns s'.word.state = true → s' = s
  grows : ∀ e ∈ s.history, e ∈ s'.history
  claims : side = .producer → ∀ id, .claimed id ∈ s'.history → .claimed id ∈ s.history

/-- What each of its steps keeps: the other side's reliance, and the slot of any other request. -/
structure Guar (side : Side) (tag : RequestId) (s s' : Slot) : Prop where
  other : Rely side.other s s'
  own : s.word ≠ .zero → s.word.id ≠ tag → s'.word = s.word ∧ s'.contents = s.contents

variable {side : Side} {s t u : Slot} {id : RequestId}

theorem Rely.refl (side : Side) (s : Slot) : Rely side s s :=
  ⟨fun _ => rfl, fun _ h => h, fun _ _ h => h⟩

theorem Rely.trans (h : Rely side s t) (h' : Rely side t u) : Rely side s u where
  held := by
    rintro (howns | howns)
    · have hst := h.held (.inl howns)
      subst hst
      exact h'.held (.inl howns)
    · have htu := h'.held (.inr howns)
      subst htu
      exact h.held (.inr howns)
  grows e he := h'.grows e (h.grows e he)
  claims hside id hid := h.claims hside id (h'.claims hside id hid)

theorem owns_not_other {state : RequestState} (h : side.owns state = true) :
    side.other.owns state = false ∧ state ≠ .free ∧ state ≠ .pending := by
  revert h
  cases side <;> cases state <;> decide

theorem Guar.refl (side : Side) (tag : RequestId) (s : Slot) : Guar side tag s s :=
  ⟨.refl _ s, fun _ _ => ⟨rfl, rfl⟩⟩

theorem Guar.write (howns : side.owns s.word.state = true) (hid : s.word.id = id)
    (contents : SlotContents) : Guar side id s { s with contents := contents } where
  other :=
    { held := by
        rintro (h | h) <;> · rw [(owns_not_other howns).1] at h; cases h
      grows := fun _ h => h
      claims := fun _ _ h => h }
  own _ hne := absurd hid hne

theorem Guar.swap {expected desired : GuardWord} {event : SlotEvent}
    (hword : s.word = expected) (hfrom : side.other.owns expected.state = false)
    (hto : side.other.owns desired.state = false) (hid : expected = .zero ∨ expected.id = id)
    (hclaims : side = .owner → ∀ id', event ≠ .claimed id') :
    Guar side id s (s.swap desired event) where
  other :=
    { held := by
        rintro (h | h)
        · rw [hword, hfrom] at h
          cases h
        · rw [show (s.swap desired event).word = desired from rfl, hto] at h
          cases h
      grows := fun _ h => List.mem_cons_of_mem _ h
      claims := by
        intro hside id' hmem
        rcases List.mem_cons.mp hmem with heq | hmem
        · have howner : side = .owner := by cases side <;> first | rfl | cases hside
          exact absurd heq.symm (hclaims howner id')
        · exact hmem }
  own hne htag := by
    rcases hid with hzero | hid
    · exact absurd (hword.trans hzero) hne
    · exact absurd (hword ▸ hid) htag

end Sides

end Sigui.AdminSlot
