import Sigui.AdminSlotRuns

/-! One producer and the owner share an admin-response slot: what holds under every scheduling of
their atomic steps. -/
namespace Sigui.AdminSlot

section System

abbrev SlotThreads := Threads RequestId Slot ProducerResult OwnerResult
abbrev SlotMove := Move ProducerOp OwnerOp

def slotMove : SlotThreads → SlotMove → SlotThreads := Threads.move producer owner

def bootThreads : SlotThreads := ⟨.empty, .ret (.done false), .ret (.done false)⟩

def FreshClaim (s : Slot) : ProducerOp → Prop
  | .claim id => .claimed id ∉ s.history
  | .publish .. | .enqueue .. | .cancel _ => True

instance (s : Slot) : DecidablePred (FreshClaim s)
  | .claim id => inferInstanceAs (Decidable (.claimed id ∉ s.history))
  | .publish .. | .enqueue .. | .cancel _ => isTrue trivial

def ProducerPost (_ : ProducerResult) (s : Slot) : Prop := Idle .producer s

/-- What the owner has been handed is what was published under that id. -/
def OwnerPost (result : OwnerResult) (s : Slot) : Prop :=
  Idle .owner s ∧ ∀ id view, result = .admitted id (.accepted view) →
    ∃ args, .published id args ∈ s.history ∧ view = args.view

variable {s : Slot}

theorem safe_producer (hinv : SlotInv s) (hidle : Idle .producer s) {op : ProducerOp}
    (hfresh : FreshClaim s op) : SafeFor .producer ProducerPost (producer op) s := by
  have hret : ∀ (result : ProducerResult) (t : Slot), Idle .producer t →
      SafeFor .producer ProducerPost (.ret result) t :=
    fun _ _ h => safe_ret h fun _ hr h => Idle.rely h hr
  cases op with
  | claim id => exact SafeFor.seq hinv (safe_claim hinv hidle hfresh) fun _ _ _ => hret _ _
  | publish id args => exact SafeFor.seq hinv (safe_publish hinv hidle args) fun _ _ _ => hret _ _
  | enqueue id taken => exact SafeFor.seq hinv (safe_enqueue hinv hidle taken) fun _ _ _ => hret _ _
  | cancel id => exact SafeFor.seq hinv (safe_cancel hinv hidle) fun _ _ _ => hret _ _

theorem OwnerPost.rely {result : OwnerResult} (h : OwnerPost result s) {t : Slot}
    (hrely : Rely .owner s t) : OwnerPost result t := by
  refine ⟨h.1.rely hrely, fun id view hview => ?_⟩
  obtain ⟨args, hmem, heq⟩ := h.2 id view hview
  exact ⟨args, hrely.grows _ hmem, heq⟩

theorem safe_owner (hinv : SlotInv s) (hidle : Idle .owner s) (op : OwnerOp) :
    SafeFor .owner OwnerPost (owner op) s := by
  have hret : ∀ (result : OwnerResult) (t : Slot), OwnerPost result t →
      SafeFor .owner OwnerPost (.ret result) t :=
    fun _ _ h => safe_ret h fun _ hr h => OwnerPost.rely h hr
  cases op with
  | reap callerIsOwner currentSessionGeneration nowUs =>
    exact SafeFor.seq hinv (safe_ownerReap hinv hidle _ _ _) fun _ _ _ h => hret _ _ ⟨h, nofun⟩
  | admitRequest id callerIsOwner currentSessionGeneration nowUs =>
    refine SafeFor.seq hinv (safe_admitCommand hinv hidle _ _ _) fun result t _ h => hret _ _ ?_
    refine ⟨h.1, fun id' view hview => ?_⟩
    cases hview
    exact h.2 view rfl
  | complete id =>
    exact SafeFor.seq hinv (safe_complete hinv hidle) fun _ _ _ h => hret _ _ ⟨h, nofun⟩

theorem sides_compatible : Compatible producer owner SlotInv (Rely .producer) (Rely .owner)
    (Guar .producer) (Guar .owner) ProducerPost OwnerPost FreshClaim where
  selfLeft := Rely.refl _
  selfRight := Rely.refl _
  transLeft _ _ _ := Rely.trans
  transRight _ _ _ := Rely.trans
  leftKeeps _ _ _ h := h.other
  rightKeeps _ _ _ h := h.other
  startLeft _ _ _ hinv hidle hfresh := safe_producer hinv hidle hfresh
  startRight op _ _ hinv hpost := safe_owner hinv hpost.1 op

abbrev SlotGood (w : SlotThreads) : Prop :=
  w.Good SlotInv (Rely .producer) (Rely .owner) (Guar .producer) (Guar .owner) ProducerPost
    OwnerPost

theorem bootThreads_good : SlotGood bootThreads where
  holds := slotInv_empty
  left := safe_ret (idle_of_unowned rfl) fun _ hr h => Idle.rely h hr
  right := safe_ret ⟨idle_of_unowned rfl, nofun⟩ fun _ hr h => OwnerPost.rely h hr

end System

/-- A step made for `tag` leaves the slot of any other request as it is. -/
def StepKeeps {α : Type} (s : Slot) : SlotProg α → Prop
  | .ret _ => True
  | .atomic tag update _ => s.word ≠ .zero → s.word.id ≠ tag →
      (update s).word = s.word ∧ (update s).contents = s.contents

structure SlotSafe (w : SlotThreads) : Prop where
  admittedOnce : ∀ id, w.shared.history.count (.admitted id) ≤ 1
  publishedOnce : ∀ id a b, .published id a ∈ w.shared.history →
    .published id b ∈ w.shared.history → a = b
  view : ∀ id view, w.right = .ret (.admitted id (.accepted view)) →
    ∃ args, .published id args ∈ w.shared.history ∧ view = args.view
  /-- The view points into the slot, which keeps what was published until it is given back. -/
  stays : ∀ result id, w.right = .ret result → w.shared.word = ⟨id, .admitted⟩ →
    ∃ args, .published id args ∈ w.shared.history ∧ w.shared.contents = args.contents
  producerKeeps : StepKeeps w.shared w.left
  ownerKeeps : StepKeeps w.shared w.right
  apart : ∀ id, ¬ (.admitted id ∈ w.shared.history ∧ .cancelled id ∈ w.shared.history)
  wiped : w.shared.word = .zero → w.shared.contents.plaintext = zeros plaintextCapacity ∧
    w.shared.contents.fingerprint = zeros fingerprintCapacity

theorem StepKeeps.of_safe {α : Type} {side : Side} {post : α → Slot → Prop} {p : SlotProg α}
    {s : Slot} (h : SafeFor side post p s) (hinv : SlotInv s) : StepKeeps s p := by
  cases p with
  | ret => exact trivial
  | atomic tag update next =>
    obtain ⟨_, hguar, _⟩ := h s (.refl _ _) hinv
    exact hguar.own

theorem SlotGood.safe {w : SlotThreads} (h : SlotGood w) : SlotSafe w where
  admittedOnce := h.holds.history.once
  publishedOnce := h.holds.history.unique
  view id view hview := by
    have hright := h.right
    rw [hview] at hright
    exact (hright _ (.refl _ _) h.holds).2 id view rfl
  stays result id hret hword := by
    have hright := h.right
    rw [hret] at hright
    have hidle := (hright _ (.refl _ _) h.holds).1.1 (by rw [hword])
    rw [hword] at hidle
    exact hidle
  producerKeeps := .of_safe h.left h.holds
  ownerKeeps := .of_safe h.right h.holds
  apart := h.holds.history.apart
  wiped hword := by
    rw [h.holds.wiped hword]
    exact ⟨rfl, rfl⟩

/-- Under every interleaving of one producer and the owner, with no request id claimed twice. -/
theorem guarded_slot_safe {moves : List SlotMove}
    (hok : RunOk slotMove (MoveOk FreshClaim) bootThreads moves) :
    SlotSafe (runSteps slotMove bootThreads moves) :=
  SlotGood.safe (run_good sides_compatible hok bootThreads_good)

def statusReply : PublishArgs where
  fingerprint := some (.lit [0x41, 0x42])
  sessionGeneration := 3
  plaintext := some [7, 8, 9]
  countRxOnAccept := true
  deadlineUs := 1000

def servedRequest : List SlotMove :=
  .startLeft (.claim 1) :: List.replicate 8 .stepLeft ++
    .startLeft (.publish 1 statusReply) :: List.replicate 11 .stepLeft ++
    .startLeft (.enqueue 1 true) :: List.replicate 2 .stepLeft ++
    .startRight (.admitRequest 1 true 3 500) :: List.replicate 16 .stepRight

theorem servedRequest_safe :
    (runSteps slotMove bootThreads servedRequest).right =
        .ret (.admitted 1 (.accepted statusReply.view)) ∧
      SlotSafe (runSteps slotMove bootThreads servedRequest) :=
  ⟨rfl, guarded_slot_safe (by decide +kernel)⟩

end Sigui.AdminSlot
