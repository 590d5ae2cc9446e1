import Sigui.MeshRequest

/-! What becomes of a request that a task holds: its journey from the claim of its slot to the
release. Each place in the code of a task allows some journeys, and a step for one request leaves
the journeys of the others as they are. -/
namespace Sigui.MeshRequest

open AdminSlot (RequestState RequestId GuardWord zeros copyInto)

def Event.id : Event → RequestId
  | .stored id _ _ | .executed id | .handedOut id _ _ | .resultSet id _ | .signalled id
  | .returned id _ => id

inductive OwnerStage
  | considering
  | expireWiping
  | expireResult
  | dispatching
  | executing
  /-- the result is set, and the request is still admitted -/
  | answered
  | completing
  | giving
  deriving DecidableEq

def OwnerLook.stage : OwnerLook → OwnerStage
  | .admitSlot => .considering
  | .takeSlot | .takeMatches | .takeState | .completeSlot _ => .executing
  | .completeMatches | .completeState => .answered

def Owner.stage : Owner → Option (Command × OwnerStage)
  | .idle => none
  | .looking look cmd => some (cmd, look.stage)
  | .checkingDeadline cmd | .expiring cmd | .admitting cmd => some (cmd, .considering)
  | .expireWiping cmd => some (cmd, .expireWiping)
  | .expireResult cmd => some (cmd, .expireResult)
  | .dispatching cmd => some (cmd, .dispatching)
  | .executing cmd | .copying cmd | .takeWiping cmd | .completeResult cmd _ =>
    some (cmd, .executing)
  | .completeWiping cmd => some (cmd, .answered)
  | .completing cmd => some (cmd, .completing)
  | .giving cmd => some (cmd, .giving)

def OwnerStage.fits : OwnerStage → RequestState → Bool
  | .considering, state => decide (state = .pending)
  | .expireWiping, state | .expireResult, state => decide (state = .ownerExpired)
  | .giving, state => terminal state
  | _, state => decide (state = .admitted)

def Shared.inFlight (s : Shared) : List Command := (s.owner.stage.map (·.1)).toList ++ s.queue

inductive Journey
  | claimed
  | unqueued
  | queued
  | cancelled (wiped : Bool)
  | owned (stage : OwnerStage) (state : RequestState)
  | given (state : RequestState)
  | taken (state : RequestState)
  deriving DecidableEq

namespace Journey

def state : Journey → RequestState
  | .claimed => .claimed
  | .unqueued | .queued => .pending
  | .cancelled _ => .callerCancelled
  | .owned _ state | .given state | .taken state => state

def valid : Journey → Bool
  | .owned stage state => stage.fits state
  | .given state | .taken state => terminal state
  | _ => true

def signal : Journey → Bool
  | .given _ => true
  | _ => false

def keeps : Journey → Bool
  | .unqueued | .queued | .cancelled false => true
  | .owned stage _ => decide (stage ≠ .expireResult ∧ stage ≠ .completing ∧ stage ≠ .giving)
  | _ => false

def unexecuted : Journey → Bool
  | .claimed | .unqueued | .queued | .cancelled _ => true
  | .owned stage _ => decide (stage = .considering ∨ stage = .expireWiping ∨
      stage = .expireResult ∨ stage = .dispatching)
  | _ => false

def answered : Journey → Bool
  | .owned stage _ => decide (stage = .answered ∨ stage = .completing ∨ stage = .giving)
  | .given _ | .taken _ => true
  | _ => false

def Place (s : Shared) (cmd : Command) : Journey → Prop
  | .claimed | .unqueued | .given _ | .taken _ =>
    ∀ other ∈ s.inFlight, other.requestId ≠ cmd.requestId
  | .queued => cmd ∈ s.queue
  | .cancelled _ =>
    ∀ other stage, s.owner.stage = some (other, stage) → other.requestId = cmd.requestId →
      stage = .considering
  | .owned stage _ => s.owner.stage = some (cmd, stage)

end Journey

/-- The journey of a request that holds its slot, as the shared state shows it. -/
structure At (s : Shared) (cmd : Command) (j : Journey) : Prop where
  valid : j.valid = true
  word : (s.slots cmd.slot).word = ⟨cmd.requestId, j.state⟩
  signal : (s.slots cmd.slot).signal = j.signal
  place : j.Place s cmd
  wiped : j.keeps = false → (s.slots cmd.slot).authority = .wiped
  own : ∀ kind secret, ((s.slots cmd.slot).authority.get kind).take kind = some secret →
    .stored cmd.requestId kind secret ∈ s.log
  unexecuted : j.unexecuted = true → .executed cmd.requestId ∉ s.log
  unanswered : j.answered = false → ∀ result, .resultSet cmd.requestId result ∉ s.log
  answered : j.answered = true → .resultSet cmd.requestId (s.slots cmd.slot).result ∈ s.log
  signalled : ∀ state, j = .given state ∨ j = .taken state → .signalled cmd.requestId ∈ s.log

inductive Part
  | outside
  | numbered
  | claimed
  | unqueued
  | waiting
  | overtaken
  | taken (state : Option RequestState)
  | cancelled (wiped : Bool)
  /-- no run comes here -/
  | nowhere
  deriving DecidableEq

def Releaser.part : Releaser → Part
  | .claim => .nowhere
  | .consume state _ => .taken (some state)

def Canceller.part : Canceller → Part
  | .enqueue | .abort _ => .unqueued
  | .wait => .waiting

def Look.part : Look → Part
  | .storeSlot | .storeMatches | .storeState | .sendSlot | .enqueueMatches | .enqueueState
  | .abortSlot _ => .unqueued
  | .waitSlot => .waiting
  | .overtaken => .overtaken
  | .taken | .signalled => .taken none
  | .consumeSlot state | .consumeState state => .taken (some state)
  | .releaseMatches who | .releaseState who => who.part

def Phase.part : Phase → Part
  | .idle | .loadingId | .takingId _ => .outside
  | .claiming _ => .numbered
  | .wiping .claim | .draining | .settingResult | .publishing => .claimed
  | .wiping .store | .filling _ | .sending => .unqueued
  | .wiping (.cancel _) => .cancelled false
  | .wiping (.release who) | .releasing who => who.part
  | .looking look => look.part
  | .cancelling who => who.part
  | .cancelReleasing _ => .cancelled true
  | .taking => .waiting
  | .takingForever => .overtaken
  | .readingResult state | .drainingLast state _ => .taken (some state)

def Phase.carries : Phase → Option EspErr
  | .drainingLast _ result => some result
  | .wiping (.release (.consume _ result)) | .releasing (.consume _ result)
  | .looking (.releaseMatches (.consume _ result)) | .looking (.releaseState (.consume _ result)) =>
    some result
  | _ => none

def Part.active : Part → Bool
  | .outside => false
  | _ => true

def Part.holds : Part → Bool
  | .outside | .numbered => false
  | _ => true

def Part.allows : Part → Journey → Bool
  | .claimed, .claimed | .unqueued, .unqueued | .waiting, .queued | .waiting, .owned _ _
  | .waiting, .given _ | .overtaken, .given _ | .taken none, .taken _ => true
  | .overtaken, .owned stage _ => decide (stage ≠ .considering)
  | .taken (some expected), .taken state => decide (state = expected)
  | .cancelled wiped, .cancelled wiped' => decide (wiped = wiped')
  | _, _ => false

theorem Part.active_of_holds {p : Part} (h : p.holds = true) : p.active = true := by
  cases p <;> simp_all [Part.holds, Part.active]

structure History (log : List Event) : Prop where
  once : ∀ id, log.count (.executed id) ≤ 1
  oneAnswer : ∀ id result result',
    .resultSet id result ∈ log → .resultSet id result' ∈ log → result = result'
  own : ∀ id kind secret, .handedOut id kind secret ∈ log → .stored id kind secret ∈ log
  completion : ∀ id result, .returned id (.completion result) ∈ log → .resultSet id result ∈ log
  cancelled : ∀ id ret, .returned id (.cancelled ret) ∈ log → .executed id ∉ log

def Slot.Free (slot : Slot) : Prop :=
  slot.word = .zero ∧ slot.authority = .wiped ∧ slot.signal = false

variable {τ : Type} [DecidableEq τ]

/-- The part of the code that the task `t` is in. -/
def System.part (s : System τ) (t : τ) : Part := (s.callers t).phase.part

def System.cmd (s : System τ) (t : τ) : Command := (s.callers t).cmd

structure Inv (s : System τ) : Prop where
  known : ∀ t, (s.part t).active = true →
    (s.cmd t).requestId ≠ 0 ∧ (s.cmd t).requestId ≤ s.nextRequestId
  flightKnown : ∀ cmd ∈ s.inFlight, cmd.requestId ≤ s.nextRequestId
  logKnown : ∀ event ∈ s.log, event.id ≤ s.nextRequestId
  distinct : ∀ t u, (s.part t).active = true → (s.part u).active = true →
    (s.cmd t).requestId = (s.cmd u).requestId → t = u
  flight : (s.inFlight.map (·.requestId)).Nodup
  numbered : ∀ t, s.part t = .numbered →
    (∀ cmd ∈ s.inFlight, cmd.requestId ≠ (s.cmd t).requestId) ∧
      ∀ event ∈ s.log, event.id ≠ (s.cmd t).requestId
  journey : ∀ t, (s.part t).holds = true →
    ∃ j, (s.part t).allows j = true ∧ At s.toShared (s.cmd t) j
  carried : ∀ t result, (s.callers t).phase.carries = some result →
    .resultSet (s.cmd t).requestId result ∈ s.log
  retired : ∀ id outcome, .returned id outcome ∈ s.log →
    ∀ t, (s.part t).active = true → (s.cmd t).requestId ≠ id
  slots : ∀ k, (s.slots k).Free ∨ ∃ t, (s.part t).holds = true ∧ (s.cmd t).slot = k ∧
    (s.slots k).word.id = (s.cmd t).requestId
  owner : ∀ cmd stage, s.owner.stage = some (cmd, stage) → stage ≠ .considering →
    ∃ t, (s.part t).holds = true ∧ s.cmd t = cmd
  history : History s.log

section Rules

variable {s s' : Shared} {cmd : Command} {j : Journey}

theorem Journey.state_ne_free (h : j.valid = true) : j.state ≠ .free := by
  intro hfree
  cases j with
  | owned stage state =>
    simp only [Journey.state] at hfree
    subst hfree
    cases stage <;> simp [Journey.valid, OwnerStage.fits, terminal] at h
  | given state | taken state =>
    simp only [Journey.state] at hfree
    subst hfree
    simp [Journey.valid, terminal] at h
  | _ => simp [Journey.state] at hfree

theorem At.not_free (h : At s cmd j) : (s.slots cmd.slot).word ≠ .zero := by
  rw [h.word]
  intro hzero
  exact Journey.state_ne_free h.valid (congrArg GuardWord.state hzero)

theorem mem_inFlight :
    cmd ∈ s.inFlight ↔ (∃ stage, s.owner.stage = some (cmd, stage)) ∨ cmd ∈ s.queue := by
  cases h : s.owner.stage <;> simp [Shared.inFlight, h, Prod.ext_iff, eq_comm]

/-- What a step for the request of `cmd` leaves as it is for the others. -/
structure Frame (s s' : Shared) (cmd : Command) : Prop where
  next : s'.nextRequestId = s.nextRequestId
  slots : ∀ k, s'.slots k ≠ s.slots k →
    k = cmd.slot ∧ ((s.slots k).word = .zero ∨ (s.slots k).word.id = cmd.requestId)
  queue : ∀ other, other.requestId ≠ cmd.requestId → (other ∈ s'.queue ↔ other ∈ s.queue)
  stage : ∀ other stage, other.requestId ≠ cmd.requestId →
    (s'.owner.stage = some (other, stage) ↔ s.owner.stage = some (other, stage))
  log : ∀ event, event.id ≠ cmd.requestId → (event ∈ s'.log ↔ event ∈ s.log)
  kept : s.log ⊆ s'.log

theorem Frame.inFlight {other : Command} (hf : Frame s s' cmd)
    (hid : other.requestId ≠ cmd.requestId) : other ∈ s'.inFlight ↔ other ∈ s.inFlight := by
  rw [mem_inFlight, mem_inFlight, hf.queue other hid]
  simp only [hf.stage other _ hid]

theorem Frame.otherSlots (hf : Frame s s' cmd) {k : SlotIndex} (hk : k ≠ cmd.slot) :
    s'.slots k = s.slots k :=
  Decidable.of_not_not fun hne => hk (hf.slots k hne).1

theorem Frame.setSlot
    (hheld : (s.slots cmd.slot).word = .zero ∨ (s.slots cmd.slot).word.id = cmd.requestId)
    (slot : Slot) : Frame s (s.setSlot cmd.slot slot) cmd := by
  refine ⟨rfl, fun k hne => ?_, fun _ _ => Iff.rfl, fun _ _ _ => Iff.rfl, fun _ _ => Iff.rfl,
    fun _ h => h⟩
  by_cases hk : k = cmd.slot
  · subst hk
    exact ⟨rfl, hheld⟩
  · exact absurd (Function.update_of_ne hk _ _) hne

theorem Frame.refl (s : Shared) (cmd : Command) : Frame s s cmd :=
  ⟨rfl, fun _ hne => absurd rfl hne, fun _ _ => Iff.rfl, fun _ _ _ => Iff.rfl,
    fun _ _ => Iff.rfl, fun _ h => h⟩

theorem Frame.note (hf : Frame s s' cmd) {event : Event} (hid : event.id = cmd.requestId) :
    Frame s (s'.note event) cmd := by
  refine ⟨hf.next, hf.slots, hf.queue, hf.stage, fun other hother => ?_,
    fun _ h => List.mem_cons_of_mem _ (hf.kept h)⟩
  have hne : other ≠ event := fun heq => hother (heq ▸ hid)
  rw [← hf.log other hother]
  simp [Shared.note, hne]

theorem Frame.setOwner {stage : OwnerStage} (hf : Frame s s' cmd)
    (hstage : s.owner.stage = some (cmd, stage)) {owner : Owner}
    (howner : owner.stage = none ∨ ∃ stage', owner.stage = some (cmd, stage')) :
    Frame s (s'.setOwner owner) cmd := by
  refine ⟨hf.next, hf.slots, hf.queue, fun other st hid => ?_, hf.log, hf.kept⟩
  have hne : cmd ≠ other := fun heq => hid (heq ▸ rfl)
  change owner.stage = some (other, st) ↔ s.owner.stage = some (other, st)
  rw [hstage]
  obtain hnone | ⟨stage', hsome⟩ := howner
  · simp [hnone, hne]
  · simp [hsome, hne]

theorem At.frame {other : Command} (hf : Frame s s' cmd) (hid : other.requestId ≠ cmd.requestId)
    (h : At s other j) : At s' other j := by
  have hsame : s'.slots other.slot = s.slots other.slot := by
    by_contra hne
    obtain ⟨_, hzero | hheld⟩ := hf.slots _ hne
    · exact h.not_free hzero
    · exact hid ((congrArg GuardWord.id h.word).symm.trans hheld)
  have hlog : ∀ event : Event, event.id = other.requestId → (event ∈ s'.log ↔ event ∈ s.log) :=
    fun event hevent => hf.log event (by rw [hevent]; exact hid)
  have hflight : (∀ q ∈ s.inFlight, q.requestId ≠ other.requestId) →
      ∀ q ∈ s'.inFlight, q.requestId ≠ other.requestId := by
    intro hnone q hq hqid
    exact hnone q ((hf.inFlight (by rw [hqid]; exact hid)).mp hq) hqid
  refine ⟨h.valid, by rw [hsame]; exact h.word, by rw [hsame]; exact h.signal, ?_, ?_, ?_, ?_, ?_,
    ?_, ?_⟩
  · have hplace := h.place
    cases j with
    | claimed | unqueued | given | taken => exact hflight hplace
    | queued => exact (hf.queue other hid).mpr hplace
    | cancelled wiped =>
      intro q stage hstage hqid
      exact hplace q stage ((hf.stage q stage (by rw [hqid]; exact hid)).mp hstage) hqid
    | owned stage state => exact (hf.stage other stage hid).mpr hplace
  · rw [hsame]
    exact h.wiped
  · rw [hsame]
    intro kind secret htake
    exact (hlog _ rfl).mpr (h.own kind secret htake)
  · intro hj hmem
    exact h.unexecuted hj ((hlog _ rfl).mp hmem)
  · intro hj result hmem
    exact h.unanswered hj result ((hlog _ rfl).mp hmem)
  · intro hj
    rw [hsame]
    exact (hlog _ rfl).mpr (h.answered hj)
  · intro state hj
    exact (hlog _ rfl).mpr (h.signalled state hj)

end Rules

section Steps

variable {s : System τ} {s' : Shared} {t : τ}

theorem System.setCaller_self (s : System τ) (t : τ) (c : Caller) (s' : Shared) :
    (s.setCaller t c s').callers t = c := Function.update_self ..

theorem System.setCaller_other (s : System τ) {t u : τ} (c : Caller) (s' : Shared) (h : u ≠ t) :
    (s.setCaller t c s').callers u = s.callers u := Function.update_of_ne h ..

theorem System.part_goTo (s : System τ) (t : τ) (phase : Phase) (s' : Shared) (u : τ) :
    (s.goTo t phase s').part u = if u = t then phase.part else s.part u := by
  by_cases h : u = t
  · subst h
    simp [System.part, System.goTo, System.setCaller]
  · simp [System.part, System.goTo, System.setCaller, h]

theorem System.cmd_goTo (s : System τ) (t : τ) (phase : Phase) (s' : Shared) (u : τ) :
    (s.goTo t phase s').cmd u = s.cmd u := by
  by_cases h : u = t
  · subst h
    simp [System.cmd, System.goTo, System.setCaller]
  · simp [System.cmd, System.goTo, System.setCaller, Function.update_of_ne h]

theorem System.carries_goTo (s : System τ) (t : τ) (phase : Phase) (s' : Shared) (u : τ) :
    ((s.goTo t phase s').callers u).phase.carries =
      if u = t then phase.carries else (s.callers u).phase.carries := by
  by_cases h : u = t
  · subst h
    simp [System.goTo, System.setCaller]
  · simp [System.goTo, System.setCaller, h]

omit [DecidableEq τ] in
theorem Inv.others (h : Inv s) (hactive : (s.part t).active = true)
    (hf : Frame s.toShared s' (s.cmd t)) {u : τ} (hu : u ≠ t) (hhold : (s.part u).holds = true) :
    ∃ j, (s.part u).allows j = true ∧ At s' (s.cmd u) j := by
  obtain ⟨j, hj, hat⟩ := h.journey u hhold
  have hid : (s.cmd u).requestId ≠ (s.cmd t).requestId :=
    fun heq => hu (h.distinct u t (Part.active_of_holds hhold) hactive heq)
  exact ⟨j, hj, hat.frame hf hid⟩

theorem Inv.goTo (h : Inv s) (hactive : (s.part t).active = true)
    (hf : Frame s.toShared s' (s.cmd t)) (howner : s'.owner = s.owner) {phase : Phase}
    (hjourney : phase.part.holds = true →
      ∃ j, phase.part.allows j = true ∧ At s' (s.cmd t) j)
    (hnumbered : phase.part = .numbered → s.part t = .numbered ∧ s' = s.toShared)
    (hcarried : ∀ result, phase.carries = some result →
      .resultSet (s.cmd t).requestId result ∈ s'.log)
    (hslot : (s'.slots (s.cmd t).slot).Free ∨ phase.part.holds = true ∧
      (s'.slots (s.cmd t).slot).word.id = (s.cmd t).requestId ∨
      phase.part.holds = false ∧ (s.part t).holds = false ∧
        s'.slots (s.cmd t).slot = s.slots (s.cmd t).slot)
    (howned : ∀ stage, s.owner.stage = some (s.cmd t, stage) → stage ≠ .considering →
      (s.part t).holds = true → phase.part.holds = true)
    (hretired : phase.part.active = true → ∀ outcome,
      .returned (s.cmd t).requestId outcome ∉ s'.log)
    (hflight : (s'.inFlight.map (·.requestId)).Nodup) (hhistory : History s'.log) :
    Inv (s.goTo t phase s') := by
  have hme := h.known t hactive
  have hids : ∀ u ≠ t, (s.part u).active = true → (s.cmd u).requestId ≠ (s.cmd t).requestId :=
    fun u hu hactive' heq => hu (h.distinct u t hactive' hactive heq)
  refine ⟨?_, ?_, ?_, ?_, hflight, ?_, ?_, ?_, ?_, ?_, ?_, hhistory⟩
  · intro u hu
    rw [System.cmd_goTo]
    change _ ∧ _ ≤ s'.nextRequestId
    rw [hf.next]
    by_cases hut : u = t
    · rw [hut]
      exact hme
    · rw [System.part_goTo, if_neg hut] at hu
      exact h.known u hu
  · intro cmd hcmd
    change _ ≤ s'.nextRequestId
    rw [hf.next]
    by_cases hid : cmd.requestId = (s.cmd t).requestId
    · rw [hid]
      exact hme.2
    · exact h.flightKnown cmd ((hf.inFlight hid).mp hcmd)
  · intro event hevent
    change _ ≤ s'.nextRequestId
    rw [hf.next]
    by_cases hid : event.id = (s.cmd t).requestId
    · rw [hid]
      exact hme.2
    · exact h.logKnown event ((hf.log event hid).mp hevent)
  · intro u v hu hv heq
    rw [System.part_goTo] at hu hv
    rw [System.cmd_goTo, System.cmd_goTo] at heq
    apply h.distinct u v ?_ ?_ heq
    · split_ifs at hu with hut
      · rw [hut]
        exact hactive
      · exact hu
    · split_ifs at hv with hvt
      · rw [hvt]
        exact hactive
      · exact hv
  · intro u hu
    rw [System.part_goTo] at hu
    rw [System.cmd_goTo]
    by_cases hut : u = t
    · rw [if_pos hut] at hu
      obtain ⟨hnum, rfl⟩ := hnumbered hu
      rw [hut]
      exact h.numbered t hnum
    · rw [if_neg hut] at hu
      have hid := hids u hut (by rw [hu]; rfl)
      refine ⟨fun cmd hcmd hcu => ?_, fun event hevent heu => ?_⟩
      · have hother : cmd.requestId ≠ (s.cmd t).requestId := by rw [hcu]; exact hid
        exact (h.numbered u hu).1 cmd ((hf.inFlight hother).mp hcmd) hcu
      · have hother : event.id ≠ (s.cmd t).requestId := by rw [heu]; exact hid
        exact (h.numbered u hu).2 event ((hf.log event hother).mp hevent) heu
  · intro u hu
    rw [System.part_goTo] at hu ⊢
    rw [System.cmd_goTo]
    by_cases hut : u = t
    · rw [if_pos hut] at hu ⊢
      rw [hut]
      exact hjourney hu
    · rw [if_neg hut] at hu ⊢
      exact h.others hactive hf hut hu
  · intro u result hu
    rw [System.carries_goTo] at hu
    rw [System.cmd_goTo]
    by_cases hut : u = t
    · rw [if_pos hut] at hu
      rw [hut]
      exact hcarried result hu
    · rw [if_neg hut] at hu
      exact hf.kept (h.carried u result hu)
  · intro id outcome hmem u hu
    rw [System.part_goTo] at hu
    rw [System.cmd_goTo]
    by_cases hut : u = t
    · rw [if_pos hut] at hu
      rw [hut]
      exact fun heq => hretired hu outcome (heq ▸ hmem)
    · rw [if_neg hut] at hu
      by_cases hid : id = (s.cmd t).requestId
      · rw [hid]
        exact hids u hut hu
      · exact h.retired id outcome ((hf.log (.returned id outcome) hid).mp hmem) u hu
  · intro k
    by_cases hk : k = (s.cmd t).slot
    · rw [hk]
      obtain hfree | ⟨hhold, hword⟩ | ⟨hno, hno', hsame⟩ := hslot
      · exact Or.inl hfree
      · refine Or.inr ⟨t, ?_, by rw [System.cmd_goTo], by rw [System.cmd_goTo]; exact hword⟩
        rw [System.part_goTo, if_pos rfl]
        exact hhold
      · change (s'.slots _).Free ∨ ∃ u, _ ∧ _ ∧ (s'.slots _).word.id = _
        rw [hsame]
        refine (h.slots (s.cmd t).slot).imp id fun ⟨u, hhold, hslot, hid⟩ => ⟨u, ?_, ?_⟩
        · rw [System.part_goTo, if_neg (fun hut => ?_)]
          · exact hhold
          · rw [hut, hno'] at hhold
            cases hhold
        · rw [System.cmd_goTo]
          exact ⟨hslot, hid⟩
    · change (s'.slots k).Free ∨ ∃ u, _ ∧ _ ∧ (s'.slots k).word.id = _
      rw [hf.otherSlots hk]
      refine (h.slots k).imp id fun ⟨u, hhold, hslot, hid⟩ => ⟨u, ?_, ?_⟩
      · rw [System.part_goTo, if_neg (fun hut => hk (by rw [← hslot, hut]))]
        exact hhold
      · rw [System.cmd_goTo]
        exact ⟨hslot, hid⟩
  · intro cmd stage hstage hlate
    change s'.owner.stage = _ at hstage
    rw [howner] at hstage
    obtain ⟨u, hhold, hcmd⟩ := h.owner cmd stage hstage hlate
    refine ⟨u, ?_, by rw [System.cmd_goTo]; exact hcmd⟩
    rw [System.part_goTo]
    split_ifs with hut
    · subst hut
      exact howned stage (by rw [hcmd]; exact hstage) hlate hhold
    · exact hhold

omit [DecidableEq τ] in
theorem Inv.worked (h : Inv s) {cmd : Command} (hknown : cmd.requestId ≤ s.nextRequestId)
    (hf : Frame s.toShared s' cmd)
    (hjourney : ∀ t j, (s.part t).holds = true → (s.cmd t).requestId = cmd.requestId →
      (s.part t).allows j = true → At s.toShared (s.cmd t) j →
        ∃ j', (s.part t).allows j' = true ∧ At s' (s.cmd t) j')
    (hnumbered : ∀ t, s.part t = .numbered → (s.cmd t).requestId ≠ cmd.requestId)
    (hslot : s'.slots cmd.slot = s.slots cmd.slot ∨
      (s.slots cmd.slot).word.id = cmd.requestId ∧ cmd.requestId ≠ 0 ∧
        (s'.slots cmd.slot).word.id = cmd.requestId)
    (howner : ∀ other stage, s'.owner.stage = some (other, stage) → stage ≠ .considering →
      ∃ t, (s.part t).holds = true ∧ s.cmd t = other)
    (hreturned : ∀ id outcome, .returned id outcome ∈ s'.log → .returned id outcome ∈ s.log)
    (hflight : (s'.inFlight.map (·.requestId)).Nodup) (hhistory : History s'.log) :
    Inv { s with toShared := s' } := by
  refine ⟨?_, ?_, ?_, h.distinct, hflight, ?_, ?_,
    fun t result hr => hf.kept (h.carried t result hr),
    fun id outcome hmem => h.retired id outcome (hreturned id outcome hmem), ?_, howner, hhistory⟩
  · intro t ht
    change _ ∧ _ ≤ s'.nextRequestId
    rw [hf.next]
    exact h.known t ht
  · intro other hother
    change _ ≤ s'.nextRequestId
    rw [hf.next]
    by_cases hid : other.requestId = cmd.requestId
    · rw [hid]
      exact hknown
    · exact h.flightKnown other ((hf.inFlight hid).mp hother)
  · intro event hevent
    change _ ≤ s'.nextRequestId
    rw [hf.next]
    by_cases hid : event.id = cmd.requestId
    · rw [hid]
      exact hknown
    · exact h.logKnown event ((hf.log event hid).mp hevent)
  · intro t ht
    have hid := hnumbered t ht
    refine ⟨fun other hother heq => ?_, fun event hevent heq => ?_⟩
    · exact (h.numbered t ht).1 other
        ((hf.inFlight (by rw [heq]; exact hid)).mp hother) heq
    · exact (h.numbered t ht).2 event ((hf.log event (by rw [heq]; exact hid)).mp hevent) heq
  · intro t ht
    obtain ⟨j, hj, hat⟩ := h.journey t ht
    by_cases hid : (s.cmd t).requestId = cmd.requestId
    · exact hjourney t j ht hid hj hat
    · exact ⟨j, hj, hat.frame hf hid⟩
  · intro k
    change (s'.slots k).Free ∨ ∃ u, _ ∧ _ ∧ (s'.slots k).word.id = _
    by_cases hk : k = cmd.slot
    · rw [hk]
      obtain hsame | ⟨hold, hne, hnew⟩ := hslot
      · rw [hsame]
        exact h.slots cmd.slot
      · obtain hfree | ⟨u, hhold, hslot, hid⟩ := h.slots cmd.slot
        · rw [hfree.1] at hold
          exact absurd hold.symm hne
        · exact Or.inr ⟨u, hhold, hslot, by rw [hnew, ← hold]; exact hid⟩
    · rw [hf.otherSlots hk]
      exact h.slots k

omit [DecidableEq τ] in
theorem At.withNext {s : Shared} {cmd : Command} {j : Journey} (h : At s cmd j)
    (next : RequestId) : At { s with nextRequestId := next } cmd j := by
  refine ⟨h.valid, h.word, h.signal, ?_, h.wiped, h.own, h.unexecuted, h.unanswered, h.answered,
    h.signalled⟩
  cases j <;> exact h.place

theorem Inv.enroll (h : Inv s) (hold : (s.part t).holds = false) {c : Caller}
    (hnew : c.phase.part.holds = false) (hcarries : c.phase.carries = none) {next : RequestId}
    (hnext : s.nextRequestId ≤ next)
    (hfresh : c.phase.part.active = true → c.cmd.requestId ≠ 0 ∧ c.cmd.requestId ≤ next ∧
      (∀ u ≠ t, (s.part u).active = true → (s.cmd u).requestId ≠ c.cmd.requestId) ∧
      (∀ cmd ∈ s.inFlight, cmd.requestId ≠ c.cmd.requestId) ∧
      ∀ event ∈ s.log, event.id ≠ c.cmd.requestId) :
    Inv (s.setCaller t c { s.toShared with nextRequestId := next }) := by
  let s' := s.setCaller t c { s.toShared with nextRequestId := next }
  have hself : s'.part t = c.phase.part ∧ s'.cmd t = c.cmd := by
    simp only [s', System.part, System.cmd, System.setCaller_self, and_self]
  have hother : ∀ u ≠ t, s'.part u = s.part u ∧ s'.cmd u = s.cmd u := by
    intro u hu
    simp only [s', System.part, System.cmd, System.setCaller_other _ _ _ hu, and_self]
  have hholder : ∀ u, (s.part u).holds = true → u ≠ t := by
    intro u hu heq
    rw [heq, hold] at hu
    cases hu
  have hholder' : ∀ u, (s'.part u).holds = true → u ≠ t := by
    intro u hu heq
    rw [heq, hself.1, hnew] at hu
    cases hu
  refine ⟨?_, fun cmd hcmd => Fin.le_trans (h.flightKnown cmd hcmd) hnext,
    fun event hevent => Fin.le_trans (h.logKnown event hevent) hnext, ?_, h.flight, ?_, ?_, ?_,
    ?_, ?_, ?_, h.history⟩
  · intro u hu
    change (s'.part u).active = true at hu
    change (s'.cmd u).requestId ≠ 0 ∧ (s'.cmd u).requestId ≤ next
    by_cases hut : u = t
    · subst hut
      rw [hself.1] at hu
      rw [hself.2]
      exact ⟨(hfresh hu).1, (hfresh hu).2.1⟩
    · rw [(hother u hut).1] at hu
      rw [(hother u hut).2]
      exact ⟨(h.known u hu).1, Fin.le_trans (h.known u hu).2 hnext⟩
  · intro u v hu hv heq
    change (s'.part u).active = true at hu
    change (s'.part v).active = true at hv
    change (s'.cmd u).requestId = (s'.cmd v).requestId at heq
    by_cases hut : u = t <;> by_cases hvt : v = t
    · rw [hut, hvt]
    · subst hut
      rw [hself.1] at hu
      rw [(hother v hvt).1] at hv
      rw [hself.2, (hother v hvt).2] at heq
      exact absurd heq.symm ((hfresh hu).2.2.1 v hvt hv)
    · subst hvt
      rw [hself.1] at hv
      rw [(hother u hut).1] at hu
      rw [hself.2, (hother u hut).2] at heq
      exact absurd heq ((hfresh hv).2.2.1 u hut hu)
    · rw [(hother u hut).1] at hu
      rw [(hother v hvt).1] at hv
      rw [(hother u hut).2, (hother v hvt).2] at heq
      exact h.distinct u v hu hv heq
  · intro u hu
    change s'.part u = .numbered at hu
    change (∀ cmd ∈ s.inFlight, cmd.requestId ≠ (s'.cmd u).requestId) ∧
      ∀ event ∈ s.log, event.id ≠ (s'.cmd u).requestId
    by_cases hut : u = t
    · subst hut
      rw [hself.1] at hu
      rw [hself.2]
      exact (hfresh (by rw [hu]; rfl)).2.2.2
    · rw [(hother u hut).1] at hu
      rw [(hother u hut).2]
      exact h.numbered u hu
  · intro u hu
    obtain ⟨hpart, hcmd⟩ := hother u (hholder' u hu)
    change (s'.part u).holds = true at hu
    change ∃ j, (s'.part u).allows j = true ∧ At { s.toShared with nextRequestId := next }
      (s'.cmd u) j
    rw [hpart] at hu ⊢
    rw [hcmd]
    obtain ⟨j, hj, hat⟩ := h.journey u hu
    exact ⟨j, hj, hat.withNext next⟩
  · intro u result hu
    by_cases hut : u = t
    · rw [hut, System.setCaller_self, hcarries] at hu
      cases hu
    · rw [System.setCaller_other _ _ _ hut] at hu
      change .resultSet (s'.cmd u).requestId result ∈ s.log
      rw [(hother u hut).2]
      exact h.carried u result hu
  · intro id outcome hmem u hu
    change (s'.part u).active = true at hu
    change (s'.cmd u).requestId ≠ id
    by_cases hut : u = t
    · subst hut
      rw [hself.1] at hu
      rw [hself.2]
      exact fun heq => (hfresh hu).2.2.2.2 _ hmem heq.symm
    · rw [(hother u hut).1] at hu
      rw [(hother u hut).2]
      exact h.retired id outcome hmem u hu
  · intro k
    refine (h.slots k).imp id fun ⟨u, hhold, hslot, hid⟩ => ⟨u, ?_⟩
    change (s'.part u).holds = true ∧ (s'.cmd u).slot = k ∧ _ = (s'.cmd u).requestId
    rw [(hother u (hholder u hhold)).1, (hother u (hholder u hhold)).2]
    exact ⟨hhold, hslot, hid⟩
  · intro cmd stage hstage hlate
    obtain ⟨u, hhold, hcmd⟩ := h.owner cmd stage hstage hlate
    refine ⟨u, ?_⟩
    change (s'.part u).holds = true ∧ s'.cmd u = cmd
    rw [(hother u (hholder u hhold)).1, (hother u (hholder u hhold)).2]
    exact ⟨hhold, hcmd⟩

end Steps

end Sigui.MeshRequest
