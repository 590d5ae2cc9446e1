import Sigui.CheckpointRuns

/-! Whether the checkpoint on flash is the newest one that was acknowledged. -/
namespace Sigui.Time

open Nvs
open WallCheckpoint (Checkpoint Saved Holds Kept WritesOver SaveLeaves WriteRequired)

def Event.saves : Event → Option Nat
  | .flushSave flight _ => some flight
  | _ => none

def Flight.succeeded (f : Flight) : Bool := f.saved.any fun saved => saved.ret = espOk

/-- The newest candidate is acknowledged, or its own flush is about to acknowledge it. -/
def Device.Acknowledged (d : Device) (ram : Ram) : Prop :=
  ram.dirty = false ∧ ram.writeBlocked = false ∨
    ∃ f ∈ d.flights, f.generation = ram.pendingGeneration ∧ f.succeeded

instance (d : Device) (ram : Ram) : Decidable (d.Acknowledged ram) := by
  unfold Device.Acknowledged; infer_instance

instance (c : Checkpoint) (s : WallCheckpoint.Flash) : Decidable (WritesOver c s) := by
  unfold WritesOver; infer_instance

instance (c : Checkpoint) (s : WallCheckpoint.Flash) : Decidable (Kept c s) := by
  unfold Kept; infer_instance

/-- No stale copy is written over an acknowledged candidate that it does not stand for, and the
checkpoint is not loaded for the first time once writing is blocked. -/
def Device.InOrder (d : Device) (e : Event) : Prop :=
  ∀ ram ∈ d.ram,
    (e.loads → ram.writeBlocked → ram.checkpointLoadAttempted) ∧
    ∀ flight ∈ e.saves, ∀ f ∈ d.flights[flight]?, f.generation ≠ ram.pendingGeneration →
      d.Acknowledged ram →
        ¬ WritesOver f.copy d.flash.checkpoint ∨ ¬ WriteRequired ram.pending f.copy true

instance (d : Device) (e : Event) : Decidable (d.InOrder e) := by
  unfold Device.InOrder; infer_instance

/-- Whenever nothing is left to write and writing is not blocked, what is on flash needs no write
for the candidate queued last. -/
def Device.CheckpointCurrent (d : Device) : Prop :=
  ∀ ram, d.ram = some ram → 0 < ram.pendingGeneration → ram.dirty = false →
    ram.writeBlocked = false → Kept ram.pending d.flash.checkpoint

structure Device.Acked (d : Device) : Prop where
  newest : d.CheckpointCurrent
  flights : ∀ ram, d.ram = some ram → ∀ f ∈ d.flights, f.generation ≤ ram.pendingGeneration ∧
    (f.generation = ram.pendingGeneration → f.copy = ram.pending ∧
      (f.succeeded → Kept ram.pending d.flash.checkpoint))

section Steps

variable {first : WallCheckpoint.Loaded} {d d' : Device} {ram ram' : Ram} {t : Flash}

theorem Device.Acked.off (hd : d.ram = none) : d.Acked where
  newest := by
    intro ram hram
    rw [hd] at hram
    cases hram
  flights := by
    intro ram hram
    rw [hd] at hram
    cases hram

theorem Device.Acked.same (h : d.Acked) (hd : d.ram = some ram) (hd' : d'.ram = some ram')
    (hcheckpoint : d'.flash.checkpoint = d.flash.checkpoint)
    (hpending : ram'.pending = ram.pending)
    (hgeneration : ram'.pendingGeneration = ram.pendingGeneration)
    (hcurrent : ram'.dirty = false → ram'.writeBlocked = false →
      ram.dirty = false ∧ ram.writeBlocked = false ∨ Kept ram.pending d.flash.checkpoint)
    (hflights : ∀ f ∈ d'.flights, f ∈ d.flights) : d'.Acked where
  newest := by
    intro r hr hg hdirty hblocked
    obtain rfl := Option.some.inj (hd'.symm.trans hr)
    rw [hcheckpoint, hpending]
    rw [hgeneration] at hg
    rcases hcurrent hdirty hblocked with ⟨hdirty', hblocked'⟩ | hkept
    · exact h.newest ram hd hg hdirty' hblocked'
    · exact hkept
  flights := by
    intro r hr f hf
    obtain rfl := Option.some.inj (hd'.symm.trans hr)
    rw [hcheckpoint, hpending, hgeneration]
    exact h.flights ram hd f (hflights f hf)

theorem queueCheckpoint_cases (ram : Ram) (epochSec : Int) (source : WallCheckpoint.Source) :
    ram.queueCheckpoint epochSec source = ram ∨
      (ram.queueCheckpoint epochSec source).pendingGeneration = ram.pendingGeneration + 1 ∧
        (ram.queueCheckpoint epochSec source).dirty = true := by
  unfold Ram.queueCheckpoint
  split_ifs
  · exact .inl rfl
  · exact .inl rfl
  · exact .inr ⟨rfl, rfl⟩

theorem Device.Acked.queue {core : Core} (h : d.Acked) (hd : d.ram = some ram) (epochSec : Int)
    (source : WallCheckpoint.Source) :
    (d.withRam ({ ram with core := core }.queueCheckpoint epochSec source)).Acked := by
  have hcored : (d.withRam { ram with core := core }).Acked :=
    h.same hd rfl rfl rfl rfl (fun hdirty hblocked => .inl ⟨hdirty, hblocked⟩) fun _ hf => hf
  rcases queueCheckpoint_cases { ram with core := core } epochSec source with hsame |
    ⟨hgeneration, hdirty⟩
  · rw [hsame]
    exact hcored
  · constructor
    · intro r hr _ hclean
      obtain rfl := Option.some.inj hr
      rw [hdirty] at hclean
      cases hclean
    · intro r hr f hf
      obtain rfl := Option.some.inj hr
      have hle := (h.flights ram hd f hf).1
      rw [hgeneration]
      refine ⟨Nat.le_succ_of_le hle, fun heq => ?_⟩
      change f.generation = ram.pendingGeneration + 1 at heq
      omega

theorem Device.Acked.begin (h : d.Acked) (hd : d.ram = some ram) (force : Bool) (nowUs : Nat) :
    ({ d with flights := d.flights ++ (ram.flushBegin force nowUs).toList }).Acked where
  newest := h.newest
  flights := by
    intro r hr f hf
    rcases List.mem_append.mp hf with hf | hf
    · exact h.flights r hr f hf
    · obtain rfl := Option.some.inj (hd.symm.trans hr)
      unfold Ram.flushBegin at hf
      split_ifs at hf
      · cases hf
      · obtain rfl := List.mem_singleton.mp hf
        exact ⟨Nat.le_refl _, fun _ => ⟨rfl, fun hsaved => Bool.noConfusion hsaved⟩⟩
      · cases hf

theorem Device.Acked.stays {f : Flight} (h : d.Acked) (hd : d.ram = some ram)
    (hf : f ∈ d.flights) (hleaves : SaveLeaves f.copy d.flash.checkpoint t.checkpoint)
    (hinorder : f.generation ≠ ram.pendingGeneration → d.Acknowledged ram →
      ¬ WritesOver f.copy d.flash.checkpoint ∨ ¬ WriteRequired ram.pending f.copy true)
    (hacknowledged : d.Acknowledged ram) (hkept : Kept ram.pending d.flash.checkpoint) :
    Kept ram.pending t.checkpoint := by
  rcases hleaves with hsame | ⟨hover, -, hholds⟩
  · exact hkept.congr hsame
  by_cases hnewest : f.generation = ram.pendingGeneration
  · rw [((h.flights ram hd f hf).2 hnewest).1] at hholds
    exact hholds.kept
  · rcases hinorder hnewest hacknowledged with hnot | hrequired
    · exact absurd hover hnot
    · exact ⟨hholds.ret, hholds.found, by rw [hholds.checkpoint]; exact hrequired⟩

theorem Device.Acked.saved {f : Flight} {saved : Saved} {flight : Nat} (h : d.Acked)
    (hd : d.ram = some ram) (hf : f ∈ d.flights)
    (hleaves : SaveLeaves f.copy d.flash.checkpoint t.checkpoint)
    (hsaved : saved.ret = espOk → Kept f.copy t.checkpoint)
    (hinorder : f.generation ≠ ram.pendingGeneration → d.Acknowledged ram →
      ¬ WritesOver f.copy d.flash.checkpoint ∨ ¬ WriteRequired ram.pending f.copy true) :
    ({ d with flash := t, flights := d.flights.set flight { f with saved := some saved } }).Acked := by
  have hstays := h.stays hd hf hleaves hinorder
  constructor
  · intro r hr hg hdirty hblocked
    obtain rfl := Option.some.inj (hd.symm.trans hr)
    exact hstays (.inl ⟨hdirty, hblocked⟩) (h.newest ram hd hg hdirty hblocked)
  · intro r hr f' hf'
    obtain rfl := Option.some.inj (hd.symm.trans hr)
    rcases List.mem_or_eq_of_mem_set hf' with hf' | rfl
    · obtain ⟨hle, hnewest⟩ := h.flights ram hd f' hf'
      refine ⟨hle, fun heq => ⟨(hnewest heq).1, fun hsucceeded => ?_⟩⟩
      exact hstays (.inr ⟨f', hf', heq, hsucceeded⟩) ((hnewest heq).2 hsucceeded)
    · obtain ⟨hle, hnewest⟩ := h.flights ram hd f hf
      refine ⟨hle, fun heq => ⟨(hnewest heq).1, fun hsucceeded => ?_⟩⟩
      have hok : saved.ret = espOk := by simpa [Flight.succeeded] using hsucceeded
      rw [← (hnewest heq).1]
      exact hsaved hok

theorem Device.Acked.moved {e : Event} (h : d.Acked) (hd : d.ram = some ram)
    (hinorder : d.InOrder e) (hm : Moved d ram e d') : d'.Acked := by
  obtain ⟨hload, hsaves⟩ := hinorder ram hd
  cases hm with
  | idle => exact h
  | off => exact .off rfl
  | boot _ buildEpochSec =>
    constructor
    · intro r hr hg
      obtain rfl := Option.some.inj hr
      exact absurd hg (Nat.lt_irrefl 0)
    · exact fun _ _ f hf => absurd hf List.not_mem_nil
  | cut => exact .off rfl
  | passed _ ram' t issued hp =>
    refine h.same hd rfl hp.checkpoint hp.queue.pending hp.queue.generation
      (fun hdirty hblocked => .inl ⟨hp.queue.dirty.symm.trans hdirty, ?_⟩) fun _ hf => hf
    rw [Bool.eq_false_iff]
    intro hblocked'
    rw [hp.queue.blocked (fun hl => hload hl hblocked') hblocked'] at hblocked
    cases hblocked
  | queued _ core epochSec source _ _ _ => exact h.queue hd epochSec.toInt source
  | begun _ force nowUs => exact h.begin hd force nowUs
  | saved flight answers f t saved hf hprotocol hleaves hkept =>
    exact h.saved hd (List.mem_of_getElem? hf) hleaves hkept (hsaves flight rfl f hf)
  | saveCut => exact .off rfl
  | ended _ flight f saved hf hsaved =>
    obtain ⟨hpending, hgeneration, -, hblocked⟩ := flushEnd_queue ram f saved
    refine h.same hd rfl rfl hpending hgeneration (fun hdirty hunblocked => ?_)
      fun f' hf' => List.mem_of_mem_eraseIdx hf'
    rcases hblocked with hblocked | ⟨hblocked, hsame | ⟨hok, hnewest⟩⟩
    · rw [hblocked] at hunblocked
      cases hunblocked
    · exact .inl ⟨hsame.symm.trans hdirty, hblocked.symm.trans hunblocked⟩
    · right
      apply ((h.flights ram hd f (List.mem_of_getElem? hf)).2 hnewest).2
      rw [Flight.succeeded, hsaved]
      simpa using hok

theorem Device.Acked.step (h : d.Acked) (hsound : d.Sound) (hguarded : d.Guarded first) {e : Event}
    (hinorder : d.InOrder e) : (d.step e).Acked := by
  cases hd : d.ram with
  | some ram =>
    rw [Device.step_run hd]
    exact h.moved hd hinorder
      (Device.run_moved hsound hd (fun f hf => (hguarded.flights f hf).1.fits) e)
  | none =>
    unfold Device.step
    rw [hd]
    cases e with
    | boot buildEpochSec =>
      constructor
      · intro r hr hg
        obtain rfl := Option.some.inj hr
        exact absurd hg (Nat.lt_irrefl 0)
      · intro _ _ f hf
        rw [hguarded.off hd] at hf
        exact absurd hf List.not_mem_nil
    | _ => exact h

end Steps

theorem Device.Guarded.fresh (flash : Flash) :
    (Device.fresh flash).Guarded (WallCheckpoint.view flash.checkpoint) where
  off := fun _ => rfl
  reserve := by
    intro _ h
    cases h
  stored := .inl rfl
  flights := fun _ h => absurd h List.not_mem_nil
  pending := by
    intro _ h
    cases h
  dirty := by
    intro _ h
    cases h

theorem Device.guarded_run (flash : Flash) (events : List Event) :
    (runSteps Device.step (Device.fresh flash) events).Sound ∧
      (runSteps Device.step (Device.fresh flash) events).Guarded
        (WallCheckpoint.view flash.checkpoint) := by
  have hstep : ∀ (d : Device) (e : Event),
      (d.Sound ∧ d.Guarded (WallCheckpoint.view flash.checkpoint)) →
      (d.step e).Sound ∧ (d.step e).Guarded (WallCheckpoint.view flash.checkpoint) :=
    fun d e h => ⟨h.1.step e, h.2.step h.1 e⟩
  exact run_always hstep events ⟨Device.sound_run flash [], .fresh flash⟩

theorem Device.acked_run {flash : Flash} {events : List Event}
    (hok : RunOk Device.step Device.InOrder (Device.fresh flash) events) :
    (runSteps Device.step (Device.fresh flash) events).Sound ∧
      (runSteps Device.step (Device.fresh flash) events).Guarded
        (WallCheckpoint.view flash.checkpoint) ∧
      (runSteps Device.step (Device.fresh flash) events).Acked := by
  have hstep : ∀ (d : Device) (e : Event),
      (d.Sound ∧ d.Guarded (WallCheckpoint.view flash.checkpoint) ∧ d.Acked) → d.InOrder e →
      (d.step e).Sound ∧ (d.step e).Guarded (WallCheckpoint.view flash.checkpoint) ∧
        (d.step e).Acked :=
    fun d e h hinorder => ⟨h.1.step e, h.2.1.step h.1 e, h.2.2.step h.1 h.2.1 hinorder⟩
  exact run_invariant hstep hok ⟨Device.sound_run flash [], .fresh flash, .off rfl⟩

/-- In every run in which no stale copy is written over an acknowledged candidate, the checkpoint on
flash stands for the candidate queued last whenever nothing is left to write. In every run, a
checkpoint that the service stored is never rejected by the guard once the seed is loaded. -/
theorem checkpoint_current_in_order (flash : Flash) (events : List Event) :
    let d := runSteps Device.step (Device.fresh flash) events
    (RunOk Device.step Device.InOrder (Device.fresh flash) events → d.CheckpointCurrent) ∧
    ∀ ram, d.ram = some ram → ram.protocolSeedReady →
      WallCheckpoint.view d.flash.checkpoint = WallCheckpoint.view flash.checkpoint ∨
        ¬ RecoverRejects ram.core (WallCheckpoint.view d.flash.checkpoint).checkpoint.epochSec
          (WallCheckpoint.view d.flash.checkpoint).checkpoint.protocolReservedThrough := by
  obtain ⟨hsound, hguarded⟩ := Device.guarded_run flash events
  intro d
  refine ⟨fun hok => (Device.acked_run hok).2.2.newest, fun ram hram hready => ?_⟩
  exact hguarded.recovers hram hready

/-- Two companion times a day apart, each with its own flush; the first flush saves last. -/
def staleFlush : List Event :=
  [.boot 1772000000, .init 0 0 [], .companion 1773000000 true true 1, .flushBegin true 2,
    .companion 1773086400 true true 3, .flushBegin true 4, .flushSave 1 [], .flushEnd 1,
    .flushSave 0 []]

def staleDevice : Device := runSteps Device.step (Device.fresh blankFlash) staleFlush

def staleRam : Ram := staleDevice.ram.getD (.booted 0)

theorem stale_checkpoint_stored : ¬ staleDevice.CheckpointCurrent := by
  intro h
  have hram : staleDevice.ram = some staleRam := by decide +kernel
  have hkept := h staleRam hram (by decide +kernel) (by decide +kernel) (by decide +kernel)
  have hstale : ¬ Kept staleRam.pending staleDevice.flash.checkpoint := by decide +kernel
  exact hstale hkept

def orderedFlush : List Event :=
  [.boot 1772000000, .init 0 0 [], .companion 1773000000 true true 1, .flushBegin true 2,
    .flushSave 0 [], .flushEnd 0, .companion 1773086400 true true 3, .flushBegin true 4,
    .flushSave 0 [], .flushEnd 0]

def orderedDevice : Device := runSteps Device.step (Device.fresh blankFlash) orderedFlush

theorem ordered_checkpoint_stored : orderedDevice.CheckpointCurrent := by
  have hok : RunOk Device.step Device.InOrder (Device.fresh blankFlash) orderedFlush := by
    decide +kernel
  exact (checkpoint_current_in_order blankFlash orderedFlush).1 hok

end Sigui.Time
