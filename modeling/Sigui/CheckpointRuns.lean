import Sigui.CheckpointGuard

/-! The checkpoint on flash over the life of the device. -/
namespace Sigui.Time

open Nvs
open Migration (timestampBase)
open WallCheckpoint (Checkpoint Saved Holds Kept WritesOver SaveLeaves WriteRequired)

section Moves

def Event.loads : Event → Bool
  | .init _ _ _ => true
  | .migrate _ _ _ => true
  | _ => false

/-- What one section may do, as far as the checkpoint and its queue are concerned. -/
inductive Moved (d : Device) (ram : Ram) : Event → Device → Prop
  | idle (e : Event) : Moved d ram e d
  | off (e : Event) : Moved d ram e d.off
  | boot (e : Event) (buildEpochSec : Nat) :
      Moved d ram e { d.off with ram := some (.booted buildEpochSec) }
  | cut (e : Event) (t : Flash) (h : CutPassed ram d.flash t) : Moved d ram e { d with flash := t }.off
  | passed (e : Event) (ram' : Ram) (t : Flash) (issued : List (Nat × Flash))
      (h : Passed e.loads ram d.flash ram' t) : Moved d ram e ⟨t, some ram', d.flights, issued⟩
  | queued (e : Event) (core : Core) (epochSec : Int64) (source : WallCheckpoint.Source)
      (hinit : ram.initialized) (hcore : core.protocol = ram.core.protocol)
      (hepoch : wallMinEpoch ≤ epochSec.toInt) :
      Moved d ram e
        (d.withRam ({ ram with core := core }.queueCheckpoint epochSec.toInt source))
  | begun (e : Event) (force : Bool) (nowUs : Nat) :
      Moved d ram e { d with flights := d.flights ++ (ram.flushBegin force nowUs).toList }
  | saved (flight : Nat) (answers : Answers) (f : Flight) (t : Flash) (saved : Saved)
      (hf : d.flights[flight]? = some f) (hprotocol : t.protocol = d.flash.protocol)
      (hleaves : SaveLeaves f.copy d.flash.checkpoint t.checkpoint)
      (hkept : saved.ret = espOk → Kept f.copy t.checkpoint) :
      Moved d ram (.flushSave flight answers)
        { d with flash := t, flights := d.flights.set flight { f with saved := some saved } }
  | saveCut (e : Event) (f : Flight) (t : Flash) (hf : f ∈ d.flights)
      (hprotocol : t.protocol = d.flash.protocol)
      (hleaves : SaveLeaves f.copy d.flash.checkpoint t.checkpoint) :
      Moved d ram e { d with flash := t }.off
  | ended (e : Event) (flight : Nat) (f : Flight) (saved : Saved)
      (hf : d.flights[flight]? = some f) (hsaved : f.saved = some saved) :
      Moved d ram e
        { d.withRam (ram.flushEnd f saved) with flights := d.flights.eraseIdx flight }

variable {d : Device} {ram : Ram} {answers : Answers} {α : Type}

theorem save_frame (s : Flash) {c : Checkpoint} (hc : c.Fits) :
    (onCheckpoint (WallCheckpoint.save c)).Meets True (· = s)
      (fun r t => t.protocol = s.protocol ∧ SaveLeaves c s.checkpoint t.checkpoint ∧
        (r.ret = espOk → Kept c t.checkpoint))
      fun t => t.protocol = s.protocol ∧ SaveLeaves c s.checkpoint t.checkpoint := by
  apply Faulty.Meets.zoom (WallCheckpoint.save_meets (s := s.checkpoint) hc)
  · rintro _ rfl
    rfl
  · rintro _ r t rfl ⟨hleaves, hkept⟩
    exact ⟨rfl, hleaves, hkept⟩
  · rintro _ t rfl hleaves
    exact ⟨rfl, hleaves⟩

theorem Moved.of_reads {e : Event} {m : Io Flash α} {ramOf : α → Ram}
    (hm : m.Reads True d.flash fun r => Passed e.loads ram d.flash (ramOf r) d.flash) :
    Moved d ram e (d.perform answers m fun r d => d.withRam (ramOf r)) := by
  apply Device.perform_meets hm
  · rintro r t ⟨rfl, hr⟩
    exact .passed e (ramOf r) d.flash d.issued hr
  · rintro t rfl
    exact .cut e d.flash (.refl ram d.flash)

theorem Moved.of_core {e : Event} {core : Core} (hcore : core.protocol = ram.core.protocol) :
    Moved d ram e (d.withRam { ram with core := core }) := by
  have hpassed : Passed e.loads ram d.flash { ram with core := core } d.flash :=
    .of_core hcore rfl rfl ⟨rfl, rfl, rfl, fun _ hb => hb, id⟩
  exact .passed e _ d.flash d.issued hpassed

theorem Device.run_moved (h : d.Sound) (hd : d.ram = some ram)
    (hfits : ∀ f ∈ d.flights, f.copy.Fits) (e : Event) : Moved d ram e (d.run ram e) := by
  have hsound := h.ram ram hd
  cases e with
  | boot buildEpochSec => exact .boot _ buildEpochSec
  | powerLoss => exact .off _
  | init nowUs checkpointUs answers =>
    exact .of_reads ((serviceInit_passes hsound.ready_initialized nowUs checkpointUs).mono
      (fun _ h => h) fun _ _ hr => ⟨hr.1, hr.2.mono fun _ => rfl⟩)
  | preflight ret nowUs answers =>
    show Moved d ram _ (if ram.initialized then _ else _)
    split_ifs
    · exact .of_reads (preflightSection_passes ret nowUs)
    · exact .idle _
  | next ret nowUs answers =>
    show Moved d ram _ (if ram.initialized then _ else _)
    split_ifs with hinit
    · exact Device.perform_meets (nextSection_passes hsound hinit h.covered ret nowUs)
        (fun r t hr => .passed _ r.2.2 t _ hr) fun t ht => .cut _ t ht
    · exact .idle _
  | migrate request nowUs answers =>
    show Moved d ram _ (if ram.initialized then _ else _)
    split_ifs
    · exact Device.perform_meets (migrateSection_passes hsound request nowUs)
        (fun r t hr => .passed _ r.2 t d.issued (hr.mono fun _ => rfl)) fun t ht => .cut _ t ht
    · exact .idle _
  | sntp expectedGeneration wall setUs readyUs =>
    show Moved d ram _ (if ram.initialized then _ else _)
    split_ifs with hinit
    · obtain ⟨core, hcore, heq | ⟨hepoch, heq⟩⟩ :=
        acceptSntp_cases ram expectedGeneration wall setUs readyUs
      · rw [heq]
        exact .of_core hcore
      · rw [heq]
        exact .queued _ core wall _ hinit hcore hepoch
    · exact .idle _
  | companion epochSec authenticated clockSet nowUs =>
    show Moved d ram _ (if _ then _ else _)
    split_ifs with hallowed
    · obtain ⟨core, hcore, heq | heq⟩ := setCompanionTime_cases ram epochSec clockSet nowUs
      · rw [heq]
        exact .of_core hcore
      · rw [heq]
        exact .queued _ core epochSec _ hallowed.1 hcore hallowed.2.2
    · exact .idle _
  | lowerBound epochSec authenticated nowUs =>
    show Moved d ram _ (if _ then _ else _)
    split_ifs
    · exact .of_core (noteAuthenticatedLowerBound_protocol _ _ _)
    · exact .idle _
  | observe nowUs =>
    show Moved d ram _ (if _ then _ else _)
    split_ifs
    · exact .of_core (observeMonotonic_protocol _ _)
    · exact .idle _
  | flushBegin force nowUs =>
    show Moved d ram _ (if _ then _ else _)
    split_ifs
    · exact .begun _ force nowUs
    · exact .idle _
  | flushSave flight answers =>
    simp only [Device.run]
    split
    next f hf =>
      have hmem : f ∈ d.flights := List.mem_of_getElem? hf
      split_ifs
      · exact Device.perform_meets (save_frame d.flash (hfits f hmem))
          (fun saved t ht => .saved flight answers f t saved hf ht.1 ht.2.1 ht.2.2)
          fun t ht => .saveCut _ f t hmem ht.1 ht.2
      · exact .idle _
    · exact .idle _
  | flushEnd flight =>
    simp only [Device.run]
    split
    next f hf =>
      split
      next saved hsaved => exact .ended _ flight f saved hf hsaved
      · exact .idle _
    · exact .idle _

end Moves

section Guards

structure Own (c : Checkpoint) : Prop where
  epoch : wallMinEpoch ≤ c.epochSec
  guard : timestampBase ≤ c.protocolReservedThrough
  fits : c.Fits

/-- The device has reserved at least `g`, and a later boot will find it so. -/
structure Device.Backs (d : Device) (g : Nat) : Prop where
  durable : g ≤ max timestampBase (d.flash.protocol.highWater.getD 0)
  seeded : ∀ ram, d.ram = some ram → ram.protocolSeedReady → g ≤ ram.core.protocolReservedThrough

/-- The checkpoint on flash is the one loaded as `first`, or one of the service's own; so are the
copies in flight and the candidate. -/
structure Device.Guarded (first : WallCheckpoint.Loaded) (d : Device) : Prop where
  off : d.ram = none → d.flights = []
  reserve : ∀ ram, d.ram = some ram → ReserveSound ram
  stored : WallCheckpoint.view d.flash.checkpoint = first ∨
    ∃ c, Holds c d.flash.checkpoint ∧ Own c ∧ d.Backs c.protocolReservedThrough
  flights : ∀ f ∈ d.flights, Own f.copy ∧ d.Backs f.copy.protocolReservedThrough
  pending : ∀ ram, d.ram = some ram → 0 < ram.pendingGeneration →
    Own ram.pending ∧ d.Backs ram.pending.protocolReservedThrough
  dirty : ∀ ram, d.ram = some ram → ram.dirty → 0 < ram.pendingGeneration

variable {first : WallCheckpoint.Loaded} {d d' : Device} {ram ram' : Ram} {t : Flash} {g : Nat}

theorem Device.Backs.reserved (h : d.Backs g) (hd : d.ram = some ram) :
    Reserved g d.flash.protocol ram := ⟨h.durable, h.seeded ram hd⟩

theorem Reserved.backs (h : Reserved g d.flash.protocol ram) (hd : d.ram = some ram) :
    d.Backs g where
  durable := h.durable
  seeded := by
    intro ram' hram'
    rw [hd] at hram'
    exact Option.some.inj hram' ▸ h.seeded

theorem Device.Backs.withRam (h : d.Backs g) (hd : d.ram = some ram)
    (hcore : ram'.core.protocol = ram.core.protocol)
    (hready : ram'.protocolSeedReady = ram.protocolSeedReady) : (d.withRam ram').Backs g where
  durable := h.durable
  seeded := by
    intro _ hram
    exact Option.some.inj hram ▸ ((h.reserved hd).congr hcore hready).seeded

theorem Device.Guarded.carry (h : d.Guarded first)
    (hcheckpoint : d'.flash.checkpoint = d.flash.checkpoint)
    (hbacks : ∀ g, d.Backs g → d'.Backs g) (hoff : d'.ram = none → d'.flights = [])
    (hflights : ∀ f ∈ d'.flights, f ∈ d.flights ∨ Own f.copy ∧ d'.Backs f.copy.protocolReservedThrough)
    (hreserve : ∀ ram, d'.ram = some ram → ReserveSound ram)
    (hpending : ∀ ram, d'.ram = some ram → 0 < ram.pendingGeneration →
      Own ram.pending ∧ d'.Backs ram.pending.protocolReservedThrough)
    (hdirty : ∀ ram, d'.ram = some ram → ram.dirty → 0 < ram.pendingGeneration) :
    d'.Guarded first where
  off := hoff
  reserve := hreserve
  stored := by
    rw [hcheckpoint]
    exact h.stored.imp_right fun ⟨c, hc, hown, hb⟩ => ⟨c, hc, hown, hbacks _ hb⟩
  flights := fun f hf => (hflights f hf).elim
    (fun hmem => ⟨(h.flights f hmem).1, hbacks _ (h.flights f hmem).2⟩) id
  pending := hpending
  dirty := hdirty

theorem Device.Guarded.passed (h : d.Guarded first) (hd : d.ram = some ram)
    {loads : Prop} (hp : Passed loads ram d.flash ram' t) (issued : List (Nat × Flash)) :
    (Device.mk t (some ram') d.flights issued).Guarded first := by
  have hbacks : ∀ g, d.Backs g → (Device.mk t (some ram') d.flights issued).Backs g :=
    fun g hg => (hp.reserved g (h.reserve ram hd) (hg.reserved hd)).backs rfl
  refine h.carry hp.checkpoint hbacks (fun hoff => nomatch hoff) (fun f hf => .inl hf) ?_ ?_ ?_
  · intro _ hram
    exact Option.some.inj hram ▸ hp.reserve (h.reserve ram hd)
  · intro _ hram hgeneration
    obtain rfl := Option.some.inj hram
    rw [hp.queue.pending]
    rw [hp.queue.generation] at hgeneration
    obtain ⟨hown, hb⟩ := h.pending ram hd hgeneration
    exact ⟨hown, hbacks _ hb⟩
  · intro _ hram hdirty
    obtain rfl := Option.some.inj hram
    rw [hp.queue.generation]
    rw [hp.queue.dirty] at hdirty
    exact h.dirty ram hd hdirty

theorem Device.Guarded.cut (h : d.Guarded first)
    (hcheckpoint : t.checkpoint = d.flash.checkpoint)
    (hdurable : ∀ g, d.Backs g → g ≤ max timestampBase (t.protocol.highWater.getD 0)) :
    ({ d with flash := t }.off).Guarded first := by
  refine h.carry hcheckpoint (fun g hg => ⟨hdurable g hg, fun _ hram => nomatch hram⟩)
    (fun _ => rfl) (fun f hf => absurd hf List.not_mem_nil) (fun _ hram => nomatch hram)
    (fun _ hram => nomatch hram) fun _ hram => nomatch hram

theorem Device.Guarded.off_device (h : d.Guarded first) : d.off.Guarded first :=
  h.cut (t := d.flash) rfl fun _ hg => hg.durable

theorem Device.Guarded.boot (h : d.Guarded first) (buildEpochSec : Nat) (flights : List Flight)
    (hflights : flights = []) :
    ({ d with ram := some (.booted buildEpochSec), flights := flights }).Guarded first := by
  subst hflights
  refine h.carry rfl (fun g hg => ⟨hg.durable, fun _ hram hr => ?_⟩) (fun hoff => nomatch hoff)
    (fun f hf => absurd hf List.not_mem_nil) ?_ ?_ ?_
  · obtain rfl := Option.some.inj hram
    exact Bool.noConfusion hr
  · intro _ hram
    obtain rfl := Option.some.inj hram
    exact ⟨fun hi => Bool.noConfusion hi, fun hi => Bool.noConfusion hi⟩
  · intro _ hram hgeneration
    obtain rfl := Option.some.inj hram
    exact absurd hgeneration (Nat.lt_irrefl 0)
  · intro _ hram hdirty
    obtain rfl := Option.some.inj hram
    exact Bool.noConfusion hdirty

theorem Device.Sound.backs_reserved (h : d.Sound) (hreserve : ReserveSound ram)
    (hd : d.ram = some ram) (hinit : ram.initialized) :
    d.Backs ram.core.protocolReservedThrough := by
  have hdurable : ram.core.protocolReservedThrough ≤
      max timestampBase (d.flash.protocol.highWater.getD 0) := by
    by_cases hready : ram.protocolSeedReady = true
    · have hseeded := (h.ram ram hd).seeded hready
      cases hhigh : d.flash.protocol.highWater with
      | none =>
        rw [(hseeded.fresh hhigh).2]
        exact Nat.le_max_left _ _
      | some n => exact Nat.le_trans (hseeded.covered n hhigh) (Nat.le_max_right _ _)
    · rw [hreserve.unseeded hinit hready]
      exact Nat.le_max_left _ _
  exact Reserved.backs ⟨hdurable, fun _ => Nat.le_refl _⟩ hd

theorem Device.Backs.le_max (h : d.Backs g) : g ≤ uint32Max := by
  have hbase : timestampBase ≤ uint32Max := by decide
  refine Nat.le_trans h.durable (max_le hbase ?_)
  cases hhigh : d.flash.protocol.highWater with
  | none => exact Nat.zero_le _
  | some n => exact highWater_le hhigh

theorem Device.Guarded.queue {core : Core} {epochSec : Int64} (h : d.Guarded first)
    (hsound : d.Sound) (hd : d.ram = some ram) (hinit : ram.initialized)
    (hcore : core.protocol = ram.core.protocol) (hepoch : wallMinEpoch ≤ epochSec.toInt)
    (source : WallCheckpoint.Source) :
    (d.withRam ({ ram with core := core }.queueCheckpoint epochSec.toInt source)).Guarded first := by
  have hpassed : Passed False ram d.flash { ram with core := core } d.flash :=
    .of_core hcore rfl rfl ⟨rfl, rfl, rfl, fun _ hb => hb, id⟩
  have hcored : (d.withRam { ram with core := core }).Guarded first := h.passed hd hpassed d.issued
  have hsound' : (d.withRam { ram with core := core }).Sound := hsound.withRam hd hcore rfl rfl
  have hbacks := hsound'.backs_reserved (hcored.reserve _ rfl) rfl hinit
  unfold Ram.queueCheckpoint
  split_ifs
  · exact hcored
  · exact hcored
  have hown : Own ⟨epochSec.toInt, core.protocolReservedThrough, source⟩ :=
    ⟨hepoch, (hcored.reserve _ rfl).low hinit, epochSec.le_toInt, epochSec.toInt_lt, hbacks.le_max⟩
  have hkeep : ∀ g, (d.withRam { ram with core := core }).Backs g →
      (d.withRam { ram with
        core := core
        pending := ⟨epochSec.toInt, core.protocolReservedThrough, source⟩
        pendingGeneration := ram.pendingGeneration + 1
        dirty := true }).Backs g :=
    fun g hg => hg.withRam rfl rfl rfl
  refine hcored.carry rfl hkeep (fun hoff => nomatch hoff) (fun f hf => .inl hf) ?_ ?_ ?_
  · intro _ hram
    exact Option.some.inj hram ▸ (hcored.reserve _ rfl).congr rfl rfl rfl
  · intro _ hram _
    obtain rfl := Option.some.inj hram
    exact ⟨hown, hkeep _ hbacks⟩
  · intro _ hram _
    obtain rfl := Option.some.inj hram
    exact Nat.succ_pos _

theorem Device.Guarded.begin (h : d.Guarded first) (hd : d.ram = some ram) (force : Bool)
    (nowUs : Nat) :
    ({ d with flights := d.flights ++ (ram.flushBegin force nowUs).toList }).Guarded first := by
  refine h.carry rfl (fun g hg => ⟨hg.durable, hg.seeded⟩) ?_ ?_ h.reserve
    (fun ram' hram' hg => ⟨(h.pending ram' hram' hg).1, (h.pending ram' hram' hg).2.durable,
      (h.pending ram' hram' hg).2.seeded⟩) h.dirty
  · intro hoff
    rw [hd] at hoff
    cases hoff
  · intro f hf
    rcases List.mem_append.mp hf with hf | hf
    · exact .inl hf
    · right
      unfold Ram.flushBegin at hf
      split_ifs at hf with hdirty
      · cases hf
      · obtain rfl := List.mem_singleton.mp hf
        obtain ⟨hown, hb⟩ := h.pending ram hd (h.dirty ram hd hdirty)
        exact ⟨hown, hb.durable, hb.seeded⟩
      · cases hf

theorem Device.Guarded.saved {f : Flight} (h : d.Guarded first) (hf : f ∈ d.flights)
    (hprotocol : t.protocol = d.flash.protocol)
    (hleaves : SaveLeaves f.copy d.flash.checkpoint t.checkpoint) (flights : List Flight)
    (hflights : ∀ f' ∈ flights, ∃ f ∈ d.flights, f'.copy = f.copy) (ram : Option Ram)
    (hram : ram = none ∧ flights = [] ∨ ram = d.ram ∧ d.ram ≠ none) :
    (Device.mk t ram flights d.issued).Guarded first := by
  have hback : ∀ {ram' : Ram}, ram = some ram' → d.ram = some ram' := by
    intro ram' hram'
    rcases hram with ⟨hnone, -⟩ | ⟨hsame, -⟩
    · rw [hnone] at hram'
      cases hram'
    · exact hsame ▸ hram'
  have hbacks : ∀ g, d.Backs g → (Device.mk t ram flights d.issued).Backs g := by
    intro g hg
    refine ⟨?_, fun ram' hram' => hg.seeded ram' (hback hram')⟩
    show g ≤ max timestampBase (t.protocol.highWater.getD 0)
    rw [hprotocol]
    exact hg.durable
  constructor
  · intro hoff
    rcases hram with ⟨-, hnil⟩ | ⟨hsame, hne⟩
    · exact hnil
    · exact absurd (hsame.symm.trans hoff) hne
  · exact fun ram' hram' => h.reserve ram' (hback hram')
  · rcases hleaves with hsame | ⟨-, -, hholds⟩
    · show WallCheckpoint.view t.checkpoint = first ∨ ∃ c, Holds c t.checkpoint ∧ _
      rcases h.stored with hfirst | ⟨c, hc, hown, hb⟩
      · exact .inl (hsame.trans hfirst)
      · refine .inr ⟨c, ⟨?_, ?_, ?_⟩, hown, hbacks _ hb⟩
        · rw [hsame]
          exact hc.ret
        · rw [hsame]
          exact hc.found
        · rw [hsame]
          exact hc.checkpoint
    · obtain ⟨hown, hb⟩ := h.flights f hf
      exact .inr ⟨f.copy, hholds, hown, hbacks _ hb⟩
  · intro f' hf'
    obtain ⟨f₀, hmem, hcopy⟩ := hflights f' hf'
    obtain ⟨hown, hb⟩ := h.flights f₀ hmem
    rw [hcopy]
    exact ⟨hown, hbacks _ hb⟩
  · intro ram' hram' hg
    obtain ⟨hown, hb⟩ := h.pending ram' (hback hram') hg
    exact ⟨hown, hbacks _ hb⟩
  · exact fun ram' hram' => h.dirty ram' (hback hram')

theorem flushEnd_queue (ram : Ram) (f : Flight) (saved : Saved) :
    (ram.flushEnd f saved).pending = ram.pending ∧
      (ram.flushEnd f saved).pendingGeneration = ram.pendingGeneration ∧
      ((ram.flushEnd f saved).dirty → ram.dirty) ∧
      ((ram.flushEnd f saved).writeBlocked = true ∨
        (ram.flushEnd f saved).writeBlocked = ram.writeBlocked ∧
          ((ram.flushEnd f saved).dirty = ram.dirty ∨
            saved.ret = espOk ∧ f.generation = ram.pendingGeneration)) := by
  unfold Ram.flushEnd
  dsimp only
  by_cases hok : saved.ret = espOk
  · rw [if_pos hok]
    by_cases hsame : f.generation = ram.pendingGeneration
    · rw [if_pos hsame]
      refine ⟨rfl, rfl, fun h => ?_, .inr ⟨rfl, .inr ⟨hok, hsame⟩⟩⟩
      exact absurd h Bool.false_ne_true
    · rw [if_neg hsame]
      exact ⟨rfl, rfl, id, .inr ⟨rfl, .inl rfl⟩⟩
  · rw [if_neg hok]
    by_cases hpermanent : permanentFailure saved.status.state
    · rw [if_pos hpermanent]
      refine ⟨rfl, rfl, fun h => ?_, .inl rfl⟩
      dsimp only at h
      split_ifs at h
      exact h
    · rw [if_neg hpermanent]
      exact ⟨rfl, rfl, id, .inr ⟨rfl, .inl rfl⟩⟩

theorem Device.Guarded.ended (h : d.Guarded first) (hd : d.ram = some ram) (f : Flight)
    (saved : Saved) (flight : Nat) :
    ({ d.withRam (ram.flushEnd f saved) with
      flights := d.flights.eraseIdx flight }).Guarded first := by
  obtain ⟨hcore, hready, hinit⟩ := flushEnd_frame ram f saved
  obtain ⟨hpending, hgeneration, hdirty, -⟩ := flushEnd_queue ram f saved
  have hbacks : ∀ g, d.Backs g →
      ({ d.withRam (ram.flushEnd f saved) with flights := d.flights.eraseIdx flight }).Backs g :=
    fun g hg => ⟨hg.durable, (hg.withRam hd (congrArg Core.protocol hcore) hready).seeded⟩
  refine h.carry rfl hbacks (fun hoff => nomatch hoff)
    (fun f' hf' => .inl (List.mem_of_mem_eraseIdx hf')) ?_ ?_ ?_
  · intro _ hram
    exact Option.some.inj hram ▸
      (h.reserve ram hd).congr (congrArg Core.protocol hcore) hready hinit
  · intro _ hram hg
    obtain rfl := Option.some.inj hram
    rw [hgeneration] at hg
    rw [hpending]
    exact ⟨(h.pending ram hd hg).1, hbacks _ (h.pending ram hd hg).2⟩
  · intro _ hram hd'
    obtain rfl := Option.some.inj hram
    rw [hgeneration]
    exact h.dirty ram hd (hdirty hd')

theorem Device.Guarded.moved {e : Event} (h : d.Guarded first) (hsound : d.Sound)
    (hd : d.ram = some ram) (hm : Moved d ram e d') : d'.Guarded first := by
  cases hm with
  | idle => exact h
  | off => exact h.off_device
  | boot _ buildEpochSec => exact h.boot buildEpochSec [] rfl
  | cut _ t hcut =>
    exact h.cut hcut.checkpoint fun g hg => hcut.durable g (h.reserve ram hd) (hg.reserved hd)
  | passed _ ram' t issued hp => exact h.passed hd hp issued
  | queued _ core epochSec source hinit hcore hepoch =>
    exact h.queue hsound hd hinit hcore hepoch source
  | begun _ force nowUs => exact h.begin hd force nowUs
  | saved flight answers f t saved hf hprotocol hleaves hkept =>
    have hmem : f ∈ d.flights := List.mem_of_getElem? hf
    refine h.saved hmem hprotocol hleaves _ (fun f' hf' => ?_) d.ram
      (.inr ⟨rfl, by rw [hd]; exact Option.some_ne_none ram⟩)
    rcases List.mem_or_eq_of_mem_set hf' with hf' | rfl
    · exact ⟨f', hf', rfl⟩
    · exact ⟨f, hmem, rfl⟩
  | saveCut _ f t hf hprotocol hleaves =>
    exact h.saved hf hprotocol hleaves [] (fun _ hf' => absurd hf' List.not_mem_nil) none
      (.inl ⟨rfl, rfl⟩)
  | ended _ flight f saved _ _ => exact h.ended hd f saved flight

theorem Device.Guarded.step (h : d.Guarded first) (hsound : d.Sound) (e : Event) :
    (d.step e).Guarded first := by
  cases hd : d.ram with
  | some ram =>
    rw [Device.step_run hd]
    exact h.moved hsound hd (Device.run_moved hsound hd (fun f hf => (h.flights f hf).1.fits) e)
  | none =>
    unfold Device.step
    rw [hd]
    cases e with
    | boot buildEpochSec => exact h.boot buildEpochSec d.flights (h.off hd)
    | _ => exact h

theorem Device.Guarded.recovers (h : d.Guarded first) (hd : d.ram = some ram)
    (hready : ram.protocolSeedReady) :
    WallCheckpoint.view d.flash.checkpoint = first ∨
      ¬ RecoverRejects ram.core (WallCheckpoint.view d.flash.checkpoint).checkpoint.epochSec
        (WallCheckpoint.view d.flash.checkpoint).checkpoint.protocolReservedThrough := by
  rcases h.stored with hfirst | ⟨c, hc, hown, hb⟩
  · exact .inl hfirst
  · right
    have hseeded := hb.seeded ram hd hready
    have hepoch := hown.epoch
    have hguard := hown.guard
    rw [hc.checkpoint]
    unfold RecoverRejects
    omega

end Guards

end Sigui.Time
