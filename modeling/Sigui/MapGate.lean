import Sigui.RunRules
import Sigui.Text
import Mathlib.Data.Int.Order.Basic
import Mathlib.Logic.Function.Basic

/-! The request gate of the map tile store: one slot of deadlines, read in a polling loop under the
network lease and extended while a request is on its way. -/
namespace Sigui.MapGate

/-- `D1L_MAP_PROVIDER_SOURCE_ID_MAX` -/
def sourceIdMax : Nat := 24

/-- `D1L_MAP_TILE_REQUEST_GATE_SLICE_MS` -/
def requestGateSliceMs : Int := 25

/-- `D1L_MAP_TILE_DEFAULT_RETRY_AFTER_SEC` -/
def defaultRetryAfterSec : Nat := 300

/-- The characters before the terminator of a `char[D1L_MAP_PROVIDER_SOURCE_ID_MAX + 1]`. -/
abbrev SourceId := CharArray sourceIdMax

/-- The `s_request_gate_*` variables. -/
structure Slot where
  source : SourceId
  minimumUntilUs : Int
  retryUntilUs : Int
  retryStatus : Int
  deriving DecidableEq

def Slot.fresh (source : SourceId) : Slot := ⟨source, 0, 0, 0⟩

/-- The branch of both extensions that takes the slot over for another source. -/
def Slot.turnTo (slot : Slot) (source : SourceId) : Slot :=
  if slot.source = source then slot else .fresh source

def rateLimitStatus (status : Int) : Bool := decide (status = 429 ∨ status = 503)

def requestGateExtendMinimum (slot : Slot) (source : SourceId) (deadlineUs : Int) : Slot :=
  if source.bytes = [] then slot
  else
    let slot := slot.turnTo source
    if slot.minimumUntilUs < deadlineUs then { slot with minimumUntilUs := deadlineUs } else slot

def requestGateExtendRetry (slot : Slot) (source : SourceId) (status : Int) (deadlineUs : Int) :
    Slot :=
  if source.bytes = [] ∨ rateLimitStatus status = false then slot
  else
    let slot := slot.turnTo source
    if slot.retryUntilUs < deadlineUs then
      { slot with retryUntilUs := deadlineUs, retryStatus := status }
    else slot

/-- What one round of `request_gate_wait` copies out of the slot under the mutex. -/
structure Sample where
  minimumUntilUs : Int
  retryUntilUs : Int
  retryStatus : Int
  deriving DecidableEq

def Slot.sample (slot : Slot) (source : SourceId) : Sample :=
  if slot.source = source then ⟨slot.minimumUntilUs, slot.retryUntilUs, slot.retryStatus⟩
  else ⟨0, 0, 0⟩

inductive Verdict
  /-- `ESP_ERR_TIMEOUT` with the status and the seconds that are left -/
  | rateLimited (status : Int) (retryAfterSec : Int)
  | pass
  | delay (milliseconds : Int)
  deriving DecidableEq

def Sample.judge (sample : Sample) (nowUs : Int) : Verdict :=
  let retryRemainingUs := sample.retryUntilUs - nowUs
  if 0 < retryRemainingUs ∧ rateLimitStatus sample.retryStatus = true then
    .rateLimited sample.retryStatus ((retryRemainingUs + 999999) / 1000000)
  else
    let remainingUs := sample.minimumUntilUs - nowUs
    if remainingUs ≤ 0 then .pass else .delay (min ((remainingUs + 999) / 1000) requestGateSliceMs)

structure Provider where
  source : SourceId
  minimumRequestIntervalMs : Nat
  deriving DecidableEq

/-- Where a task stands in `map_tile_store_fetch_network`. -/
inductive Phase
  | idle
  /-- the snapshot is taken, the lease is not held yet -/
  | queued (provider : Provider)
  /-- at the head of the loop of `request_gate_wait`, with the lease -/
  | gate (provider : Provider)
  | sampled (provider : Provider) (sample : Sample)
  /-- past the gate: the client is open until the section ends -/
  | requesting (provider : Provider)
  deriving DecidableEq

/-- A request that got past the gate, with the deadlines its source had been given by then. -/
structure Passage where
  source : SourceId
  atUs : Int
  noted : List (SourceId × Int)
  retries : List (SourceId × Int)

structure Passage.Respected (p : Passage) : Prop where
  retry : ∀ deadline, (p.source, deadline) ∈ p.retries → deadline ≤ p.atUs
  minimum : ∀ deadline, (p.source, deadline) ∈ p.noted → deadline ≤ p.atUs

instance (source : SourceId) (bound : Int) (ds : List (SourceId × Int)) :
    Decidable (∀ deadline, (source, deadline) ∈ ds → deadline ≤ bound) :=
  decidable_of_iff (∀ d ∈ ds, d.1 = source → d.2 ≤ bound)
    ⟨fun h _ hd => h _ hd rfl, fun h d hd hs => h d.2 (hs ▸ hd)⟩

instance (p : Passage) : Decidable p.Respected :=
  decidable_of_iff (_ ∧ _) ⟨fun h => ⟨h.1, h.2⟩, fun h => ⟨h.1, h.2⟩⟩

/-- The gate, the lease, the clock and the tasks. `noted`, `retries` and `passages` record what
happened: the deadlines asked for on behalf of each source and the requests let through. -/
structure State where
  slot : Slot
  nowUs : Int
  lease : Option Nat
  tasks : Nat → Phase
  noted : List (SourceId × Int)
  retries : List (SourceId × Int)
  passages : List Passage

/-- `esp_timer_get_time` counts from boot. -/
def State.boot : State :=
  ⟨.fresh .empty, 0, none, fun _ => .idle, [], [], []⟩

def State.setTask (s : State) (task : Nat) (phase : Phase) : State :=
  { s with tasks := Function.update s.tasks task phase }

@[simp] theorem State.setTask_self (s : State) (task : Nat) (phase : Phase) :
    (s.setTask task phase).tasks task = phase := Function.update_self ..

theorem State.setTask_ne (s : State) {task other : Nat} (phase : Phase) (h : other ≠ task) :
    (s.setTask task phase).tasks other = s.tasks other := Function.update_of_ne h ..

/-- `d1l_connectivity_network_lease_end` does nothing for a task that is not the owner. -/
def State.endSection (s : State) (task : Nat) : State :=
  { s.setTask task .idle with lease := if s.lease = some task then none else s.lease }

inductive Op
  | elapse (us : Nat)
  /-- a fetch takes its provider snapshot -/
  | fetch (task : Nat) (provider : Provider)
  | leaseBegin (task : Nat)
  /-- the critical section of a round of `request_gate_wait` -/
  | sample (task : Nat)
  | judge (task : Nat)
  /-- `HTTP_EVENT_HEADERS_SENT` -/
  | headersSent (task : Nat)
  /-- the status line is in; `retryAfterSec` is 0 when no such header came -/
  | answered (task : Nat) (status : Int) (retryAfterSec : Nat)
  /-- the section or the wait for the lease ends: done, failed, timed out or cancelled -/
  | finish (task : Nat)
  deriving DecidableEq

def retryDeadline (nowUs : Int) (retryAfterSec : Nat) : Int :=
  nowUs + (if retryAfterSec = 0 then defaultRetryAfterSec else retryAfterSec) * 1000000

def minimumDeadline (nowUs : Int) (provider : Provider) : Int :=
  nowUs + provider.minimumRequestIntervalMs * 1000

def State.noteRequest (s : State) (provider : Provider) : State :=
  let deadline := minimumDeadline s.nowUs provider
  { s with
    slot := requestGateExtendMinimum s.slot provider.source deadline
    noted := (provider.source, deadline) :: s.noted }

def State.noteRetry (s : State) (provider : Provider) (status : Int) (retryAfterSec : Nat) :
    State :=
  let deadline := retryDeadline s.nowUs retryAfterSec
  { s with
    slot := requestGateExtendRetry s.slot provider.source status deadline
    retries := (provider.source, deadline) :: s.retries }

def State.letThrough (s : State) (provider : Provider) : State :=
  { s with passages := ⟨provider.source, s.nowUs, s.noted, s.retries⟩ :: s.passages }

def State.step (s : State) : Op → State
  | .elapse us => { s with nowUs := s.nowUs + us }
  | .fetch task provider =>
    match s.tasks task with
    | .idle => s.setTask task (.queued provider)
    | _ => s
  | .leaseBegin task =>
    match s.tasks task, s.lease with
    | .queued provider, none => { s with lease := some task : State }.setTask task (.gate provider)
    | _, _ => s
  | .sample task =>
    match s.tasks task with
    | .gate provider =>
      if provider.source.bytes = [] then s.endSection task
      else s.setTask task (.sampled provider (s.slot.sample provider.source))
    | _ => s
  | .judge task =>
    match s.tasks task with
    | .sampled provider sample =>
      match sample.judge s.nowUs with
      | .pass => (s.letThrough provider).setTask task (.requesting provider)
      | .delay _ => s.setTask task (.gate provider)
      | .rateLimited _ _ => s.endSection task
    | _ => s
  | .headersSent task =>
    match s.tasks task with
    | .requesting provider => s.noteRequest provider
    | _ => s
  | .answered task status retryAfterSec =>
    match s.tasks task with
    | .requesting provider =>
      if rateLimitStatus status then (s.noteRetry provider status retryAfterSec).endSection task
      else s
    | _ => s
  | .finish task => s.endSection task

def Slot.pending (slot : Slot) (nowUs : Int) : Bool :=
  decide (nowUs < slot.minimumUntilUs ∨ nowUs < slot.retryUntilUs)

/-- The step takes the slot over for another source while a deadline of the old one is pending. -/
def State.forgets (s : State) : Op → Bool
  | .headersSent task =>
    match s.tasks task with
    | .requesting provider => s.slot.source ≠ provider.source && s.slot.pending s.nowUs
    | _ => false
  | .answered task status _ =>
    match s.tasks task with
    | .requesting provider =>
      rateLimitStatus status && s.slot.source ≠ provider.source && s.slot.pending s.nowUs
    | _ => false
  | _ => false

section Slots

variable {slot : Slot} {source other : SourceId} {deadline nowUs : Int} {noted : SourceId × Int}
  {bound : Slot → Int}

def Slot.Keeps (slot : Slot) (nowUs : Int) (bound : Slot → Int) (noted : SourceId × Int) : Prop :=
  noted.2 ≤ nowUs ∨ slot.source = noted.1 ∧ noted.2 ≤ bound slot

theorem Slot.Keeps.later (h : slot.Keeps nowUs bound noted) (us : Nat) :
    slot.Keeps (nowUs + us) bound noted := by
  rcases h with hover | hheld
  · exact Or.inl (by omega)
  · exact Or.inr hheld

theorem Slot.turnTo_source : (slot.turnTo source).source = source := by
  unfold Slot.turnTo
  split_ifs with h
  · exact h
  · rfl

theorem Slot.Keeps.turnTo (h : slot.Keeps nowUs bound noted)
    (hsame : slot.source = source ∨ bound slot ≤ nowUs) :
    (slot.turnTo source).Keeps nowUs bound noted := by
  unfold Slot.turnTo
  split_ifs with hs
  · exact h
  · rcases h with hover | ⟨_, hbound⟩
    · exact Or.inl hover
    · exact Or.inl (by have := hsame.resolve_left hs; omega)

/-- A retry deadline in the slot came with a status that makes `request_gate_wait` honour it. -/
def Slot.Backed (slot : Slot) : Prop :=
  slot.retryUntilUs ≤ 0 ∨ rateLimitStatus slot.retryStatus = true

theorem Slot.Backed.turnTo (h : slot.Backed) : (slot.turnTo source).Backed := by
  unfold Slot.turnTo
  split_ifs
  · exact h
  · exact Or.inl (show (0 : Int) ≤ 0 by decide)

structure Slot.Raised (slot slot' : Slot) : Prop where
  source : slot'.source = slot.source
  minimum : slot.minimumUntilUs ≤ slot'.minimumUntilUs
  retry : slot.retryUntilUs ≤ slot'.retryUntilUs

theorem Slot.Keeps.raise {slot' : Slot} (hraised : slot.Raised slot') :
    (slot.Keeps nowUs Slot.minimumUntilUs noted → slot'.Keeps nowUs Slot.minimumUntilUs noted) ∧
      (slot.Keeps nowUs Slot.retryUntilUs noted → slot'.Keeps nowUs Slot.retryUntilUs noted) := by
  refine ⟨fun h => ?_, fun h => ?_⟩
  · exact h.imp_right fun hheld =>
      ⟨hraised.source.trans hheld.1, hheld.2.trans hraised.minimum⟩
  · exact h.imp_right fun hheld =>
      ⟨hraised.source.trans hheld.1, hheld.2.trans hraised.retry⟩

theorem requestGateExtendMinimum_raised (slot : Slot) (deadline : Int) (hsource : source.bytes ≠ []) :
    (slot.turnTo source).Raised (requestGateExtendMinimum slot source deadline) ∧
      deadline ≤ (requestGateExtendMinimum slot source deadline).minimumUntilUs := by
  unfold requestGateExtendMinimum
  rw [if_neg hsource]
  dsimp only
  split_ifs with hlater
  · exact ⟨⟨rfl, le_of_lt hlater, le_refl _⟩, le_refl deadline⟩
  · exact ⟨⟨rfl, le_refl _, le_refl _⟩, not_lt.mp hlater⟩

theorem requestGateExtendMinimum_backed (h : slot.Backed) :
    (requestGateExtendMinimum slot source deadline).Backed := by
  unfold requestGateExtendMinimum
  dsimp only
  split_ifs
  · exact h
  · exact h.turnTo
  · exact h.turnTo

theorem requestGateExtendRetry_raised (slot : Slot) (deadline : Int) {status : Int}
    (hsource : source.bytes ≠ []) (hstatus : rateLimitStatus status = true) :
    (slot.turnTo source).Raised (requestGateExtendRetry slot source status deadline) ∧
      deadline ≤ (requestGateExtendRetry slot source status deadline).retryUntilUs := by
  unfold requestGateExtendRetry
  rw [if_neg (by simp [hsource, hstatus])]
  dsimp only
  split_ifs with hlater
  · exact ⟨⟨rfl, le_refl _, le_of_lt hlater⟩, le_refl deadline⟩
  · exact ⟨⟨rfl, le_refl _, le_refl _⟩, not_lt.mp hlater⟩

theorem requestGateExtendRetry_backed {status : Int} (h : slot.Backed) :
    (requestGateExtendRetry slot source status deadline).Backed := by
  unfold requestGateExtendRetry
  dsimp only
  split_ifs with hignored
  · exact h
  · have hstatus : rateLimitStatus status = true := by
      cases hs : rateLimitStatus status
      · exact absurd (Or.inr hs) hignored
      · rfl
    exact Or.inr hstatus
  · exact h.turnTo

theorem sample_judge_pass (hbacked : slot.Backed) (hnow : 0 ≤ nowUs)
    (h : (slot.sample source).judge nowUs = .pass) (hsource : slot.source = source) :
    slot.minimumUntilUs ≤ nowUs ∧ slot.retryUntilUs ≤ nowUs := by
  unfold Slot.sample Sample.judge at h
  rw [if_pos hsource] at h
  dsimp only at h
  split_ifs at h with hretry hminimum
  refine ⟨by omega, ?_⟩
  rcases hbacked with hnone | hstatus
  · omega
  · by_contra hlater
    exact hretry ⟨by omega, hstatus⟩

theorem Slot.Keeps.over (h : slot.Keeps nowUs bound noted)
    (hbound : slot.source = noted.1 → bound slot ≤ nowUs) : noted.2 ≤ nowUs := by
  rcases h with hover | ⟨hsource, hheld⟩
  · exact hover
  · exact hheld.trans (hbound hsource)

end Slots

def Phase.inside : Phase → Option Provider
  | .idle | .queued _ => none
  | .gate provider | .sampled provider _ | .requesting provider => some provider

/-- The task is past the head of the loop of `request_gate_wait`. -/
def Phase.checked : Phase → Option Provider
  | .idle | .queued _ | .gate _ => none
  | .sampled provider _ | .requesting provider => some provider

/-- What holds between any two steps as long as no pending deadline is forgotten. -/
structure State.Sound (s : State) : Prop where
  clock : 0 ≤ s.nowUs
  holder : ∀ task, (s.tasks task).inside ≠ none → s.lease = some task
  named : ∀ task provider, (s.tasks task).checked = some provider → provider.source.bytes ≠ []
  sampled : ∀ task provider sample, s.tasks task = .sampled provider sample →
    sample = s.slot.sample provider.source
  backed : s.slot.Backed
  noted : ∀ d ∈ s.noted, s.slot.Keeps s.nowUs Slot.minimumUntilUs d
  retries : ∀ d ∈ s.retries, s.slot.Keeps s.nowUs Slot.retryUntilUs d
  passages : ∀ p ∈ s.passages, p.Respected

namespace State.Sound

variable {s : State} {task : Nat} {provider : Provider}

theorem boot : State.boot.Sound where
  clock := le_refl 0
  holder := fun _ h => absurd rfl h
  named := fun _ _ h => nomatch h
  sampled := fun _ _ _ h => nomatch h
  backed := Or.inl (le_refl 0)
  noted := fun _ h => nomatch h
  retries := fun _ h => nomatch h
  passages := fun _ h => nomatch h

theorem alone (hs : s.Sound) (htask : (s.tasks task).inside ≠ none) {other : Nat}
    (hother : (s.tasks other).inside ≠ none) : other = task := by
  have hlease := hs.holder other hother
  rw [hs.holder task htask] at hlease
  exact (Option.some.inj hlease).symm

theorem setTask (hs : s.Sound) {phase : Phase}
    (hholder : phase.inside ≠ none → s.lease = some task)
    (hnamed : ∀ provider, phase.checked = some provider → provider.source.bytes ≠ [])
    (hsampled : ∀ provider sample, phase = .sampled provider sample →
      sample = s.slot.sample provider.source) : (s.setTask task phase).Sound := by
  refine ⟨hs.clock, ?_, ?_, ?_, hs.backed, hs.noted, hs.retries, hs.passages⟩
  · intro other hother
    by_cases heq : other = task
    · subst heq
      rw [State.setTask_self] at hother
      exact hholder hother
    · rw [State.setTask_ne _ _ heq] at hother
      exact hs.holder other hother
  · intro other provider hother
    by_cases heq : other = task
    · subst heq
      rw [State.setTask_self] at hother
      exact hnamed provider hother
    · rw [State.setTask_ne _ _ heq] at hother
      exact hs.named other provider hother
  · intro other provider sample hother
    by_cases heq : other = task
    · subst heq
      rw [State.setTask_self] at hother
      exact hsampled provider sample hother
    · rw [State.setTask_ne _ _ heq] at hother
      exact hs.sampled other provider sample hother

theorem takeLease (hs : s.Sound) (hfree : s.lease = none) (task : Nat) :
    { s with lease := some task : State }.Sound := by
  refine ⟨hs.clock, ?_, hs.named, hs.sampled, hs.backed, hs.noted, hs.retries, hs.passages⟩
  intro other hother
  have hheld := hs.holder other hother
  rw [hfree] at hheld
  exact nomatch hheld

theorem endSection (hs : s.Sound) : (s.endSection task).Sound := by
  have hidle : (s.setTask task .idle).Sound :=
    hs.setTask (fun h => absurd rfl h) (fun _ h => nomatch h) (fun _ _ h => nomatch h)
  refine ⟨hidle.clock, ?_, hidle.named, hidle.sampled, hidle.backed, hidle.noted, hidle.retries,
    hidle.passages⟩
  intro other hother
  have hlease : s.lease = some other := hidle.holder other hother
  have hne : other ≠ task := by
    intro heq
    subst heq
    change ((s.setTask other .idle).tasks other).inside ≠ none at hother
    rw [State.setTask_self] at hother
    exact hother rfl
  change (if s.lease = some task then none else s.lease) = some other
  rw [if_neg (by rw [hlease]; exact fun h => hne (Option.some.inj h)), hlease]

theorem setSlot (hs : s.Sound) (htask : s.tasks task = .requesting provider) {slot : Slot}
    (hbacked : slot.Backed) {noted retries : List (SourceId × Int)}
    (hnoted : ∀ d ∈ noted, slot.Keeps s.nowUs Slot.minimumUntilUs d)
    (hretries : ∀ d ∈ retries, slot.Keeps s.nowUs Slot.retryUntilUs d) :
    { s with slot := slot, noted := noted, retries := retries : State }.Sound := by
  refine ⟨hs.clock, hs.holder, hs.named, ?_, hbacked, hnoted, hretries, hs.passages⟩
  intro other provider' sample hother
  have hinside : (s.tasks task).inside ≠ none := by rw [htask]; exact Option.some_ne_none _
  have heq : other = task :=
    hs.alone hinside (by rw [show s.tasks other = _ from hother]; exact Option.some_ne_none _)
  subst heq
  rw [show s.tasks other = .sampled provider' sample from hother] at htask
  exact Phase.noConfusion htask

theorem turnTo_keeps (hs : s.Sound)
    (hkeeps : s.slot.source ≠ provider.source → s.slot.pending s.nowUs = false) :
    (∀ d ∈ s.noted, (s.slot.turnTo provider.source).Keeps s.nowUs Slot.minimumUntilUs d) ∧
      ∀ d ∈ s.retries, (s.slot.turnTo provider.source).Keeps s.nowUs Slot.retryUntilUs d := by
  have hsame : s.slot.source = provider.source ∨
      s.slot.minimumUntilUs ≤ s.nowUs ∧ s.slot.retryUntilUs ≤ s.nowUs := by
    by_cases hsource : s.slot.source = provider.source
    · exact Or.inl hsource
    · have hover := of_decide_eq_false (hkeeps hsource)
      exact Or.inr ⟨by omega, by omega⟩
  exact ⟨fun d hd => (hs.noted d hd).turnTo (hsame.imp_right And.left),
    fun d hd => (hs.retries d hd).turnTo (hsame.imp_right And.right)⟩

theorem noteRequest (hs : s.Sound) (htask : s.tasks task = .requesting provider)
    (hkeeps : s.slot.source ≠ provider.source → s.slot.pending s.nowUs = false) :
    (s.noteRequest provider).Sound := by
  have hsource := hs.named task provider (by rw [htask]; rfl)
  obtain ⟨hnoted, hretries⟩ := hs.turnTo_keeps hkeeps
  obtain ⟨hraised, hheld⟩ := requestGateExtendMinimum_raised s.slot
    (minimumDeadline s.nowUs provider) hsource
  apply hs.setSlot htask (requestGateExtendMinimum_backed hs.backed)
  · intro d hd
    rcases List.mem_cons.mp hd with rfl | hd
    · exact Or.inr ⟨hraised.source.trans Slot.turnTo_source, hheld⟩
    · exact (Slot.Keeps.raise hraised).1 (hnoted d hd)
  · exact fun d hd => (Slot.Keeps.raise hraised).2 (hretries d hd)

theorem noteRetry (hs : s.Sound) (htask : s.tasks task = .requesting provider) {status : Int}
    (hstatus : rateLimitStatus status = true) (retryAfterSec : Nat)
    (hkeeps : s.slot.source ≠ provider.source → s.slot.pending s.nowUs = false) :
    (s.noteRetry provider status retryAfterSec).Sound := by
  have hsource := hs.named task provider (by rw [htask]; rfl)
  obtain ⟨hnoted, hretries⟩ := hs.turnTo_keeps hkeeps
  obtain ⟨hraised, hheld⟩ := requestGateExtendRetry_raised s.slot
    (retryDeadline s.nowUs retryAfterSec) hsource hstatus
  apply hs.setSlot htask (requestGateExtendRetry_backed hs.backed)
  · exact fun d hd => (Slot.Keeps.raise hraised).1 (hnoted d hd)
  · intro d hd
    rcases List.mem_cons.mp hd with rfl | hd
    · exact Or.inr ⟨hraised.source.trans Slot.turnTo_source, hheld⟩
    · exact (Slot.Keeps.raise hraised).2 (hretries d hd)

theorem letThrough (hs : s.Sound) {sample : Sample}
    (htask : s.tasks task = .sampled provider sample) (hpass : sample.judge s.nowUs = .pass) :
    (s.letThrough provider).Sound := by
  refine ⟨hs.clock, hs.holder, hs.named, hs.sampled, hs.backed, hs.noted, hs.retries, ?_⟩
  rw [hs.sampled task provider sample htask] at hpass
  have hover := sample_judge_pass hs.backed hs.clock hpass
  intro p hp
  rcases List.mem_cons.mp hp with rfl | hp
  · exact ⟨fun deadline hd => (hs.retries _ hd).over fun hsource => (hover hsource).2,
      fun deadline hd => (hs.noted _ hd).over fun hsource => (hover hsource).1⟩
  · exact hs.passages p hp

theorem elapse (hs : s.Sound) (us : Nat) : { s with nowUs := s.nowUs + us : State }.Sound :=
  ⟨by have := hs.clock; exact (show 0 ≤ s.nowUs + us by omega), hs.holder, hs.named, hs.sampled,
    hs.backed, fun d hd => (hs.noted d hd).later us, fun d hd => (hs.retries d hd).later us,
    hs.passages⟩

end State.Sound

theorem State.Sound.step {s : State} (hs : s.Sound) {op : Op} (hkeeps : s.forgets op = false) :
    (s.step op).Sound := by
  cases op with
  | elapse us => exact hs.elapse us
  | fetch task provider =>
    simp only [State.step]
    split
    · exact hs.setTask (fun h => absurd rfl h) (fun _ h => nomatch h) (fun _ _ h => nomatch h)
    · exact hs
  | leaseBegin task =>
    simp only [State.step]
    split
    · rename_i provider htask hlease
      refine (hs.takeLease hlease task).setTask (fun _ => rfl) (fun _ h => nomatch h)
        (fun _ _ h => nomatch h)
    · exact hs
  | sample task =>
    simp only [State.step]
    split
    · rename_i provider htask
      split_ifs with hempty
      · exact hs.endSection
      · refine hs.setTask (fun _ => hs.holder task (by rw [htask]; exact Option.some_ne_none _))
          ?_ ?_
        · intro provider' h
          cases h
          exact hempty
        · intro provider' sample h
          cases h
          rfl
    · exact hs
  | judge task =>
    simp only [State.step]
    split
    · rename_i provider sample htask
      have hholder := hs.holder task (by rw [htask]; exact Option.some_ne_none _)
      have hnamed := hs.named task provider (by rw [htask]; rfl)
      split
      · rename_i hpass
        refine (hs.letThrough htask hpass).setTask (fun _ => hholder) ?_ (fun _ _ h => nomatch h)
        intro provider' h
        cases h
        exact hnamed
      · exact hs.setTask (fun _ => hholder) (fun _ h => nomatch h) (fun _ _ h => nomatch h)
      · exact hs.endSection
    · exact hs
  | headersSent task =>
    simp only [State.step]
    split
    · rename_i provider htask
      refine hs.noteRequest htask fun hsource => ?_
      simpa [State.forgets, htask, hsource] using hkeeps
    · exact hs
  | answered task status retryAfterSec =>
    simp only [State.step]
    split
    · rename_i provider htask
      split_ifs with hstatus
      · refine (hs.noteRetry htask hstatus retryAfterSec fun hsource => ?_).endSection
        simpa [State.forgets, htask, hsource, hstatus] using hkeeps
      · exact hs
    · exact hs
  | finish task => exact hs.endSection

/-- A provider answers 429, another one is asked in between, and the first is asked again. -/
def elsewhereInBetween (first second : Provider) : List Op :=
  [.fetch 0 first, .leaseBegin 0, .sample 0, .judge 0, .headersSent 0, .answered 0 429 60,
    .fetch 1 second, .leaseBegin 1, .sample 1, .judge 1, .headersSent 1, .finish 1,
    .fetch 0 first, .leaseBegin 0, .sample 0, .judge 0]

def providerA : Provider := ⟨⟨[111, 115, 109], by decide, by decide⟩, 1000⟩

def providerB : Provider := ⟨⟨[116, 111, 112, 111], by decide, by decide⟩, 250⟩

/-- No request passes before a deadline of its source, provided no step takes the slot over for
another source while a deadline in it is pending. -/
theorem passages_respected {ops : List Op}
    (hrun : RunOk State.step (fun s op => s.forgets op = false) .boot ops) :
    ∀ p ∈ (runSteps State.step .boot ops).passages, p.Respected :=
  (run_invariant (fun _ _ hs hkeeps => State.Sound.step hs hkeeps) hrun State.Sound.boot).passages

/-- The provider that was refused is left alone until its time has come. -/
def waitedOut : List Op :=
  .elapse 5000000 :: (elsewhereInBetween providerA providerA).take 6 ++
    .elapse 60000000 :: (elsewhereInBetween providerA providerB).drop 6

theorem passages_respected_waited :
    (runSteps State.step .boot waitedOut).passages.length = 3 ∧
      ∀ p ∈ (runSteps State.step .boot waitedOut).passages, p.Respected :=
  ⟨by decide +kernel, passages_respected (by decide +kernel)⟩

theorem passages_respected_fails :
    ¬ ∀ ops, ∀ p ∈ (runSteps State.step .boot ops).passages, p.Respected := by
  intro h
  exact absurd (h (elsewhereInBetween providerA providerB)) (by decide +kernel)

end Sigui.MapGate
