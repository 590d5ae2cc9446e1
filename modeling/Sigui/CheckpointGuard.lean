import Sigui.CheckpointSave
import Sigui.TimeRuns

/-! What the sections of the time service do to the guard of a checkpoint and to the queue of
checkpoints to write. -/
namespace Sigui.Time

open Nvs
open Migration (timestampBase)

section Passing

/-- The guard `g` is within what the device has reserved. -/
structure Reserved (g : Nat) (s : Migration.Flash) (ram : Ram) : Prop where
  durable : g ≤ max timestampBase (s.highWater.getD 0)
  seeded : ram.protocolSeedReady → g ≤ ram.core.protocolReservedThrough

structure ReserveSound (ram : Ram) : Prop where
  low : ram.initialized → timestampBase ≤ ram.core.protocolReservedThrough
  unseeded : ram.initialized → ¬ ram.protocolSeedReady →
    ram.core.protocolReservedThrough = timestampBase

/-- The queue of checkpoints is as before. Writing stays blocked, unless the section `loads` the
checkpoint for the first time. -/
structure SameQueue (loads : Prop) (ram ram' : Ram) : Prop where
  pending : ram'.pending = ram.pending
  generation : ram'.pendingGeneration = ram.pendingGeneration
  dirty : ram'.dirty = ram.dirty
  blocked : (loads → ram.checkpointLoadAttempted) → ram.writeBlocked → ram'.writeBlocked
  attempted : ram.checkpointLoadAttempted → ram'.checkpointLoadAttempted

structure Passed (loads : Prop) (ram : Ram) (s : Flash) (ram' : Ram) (t : Flash) : Prop where
  checkpoint : t.checkpoint = s.checkpoint
  queue : SameQueue loads ram ram'
  reserve : ReserveSound ram → ReserveSound ram'
  reserved : ∀ g, ReserveSound ram → Reserved g s.protocol ram → Reserved g t.protocol ram'

structure CutPassed (ram : Ram) (s t : Flash) : Prop where
  checkpoint : t.checkpoint = s.checkpoint
  durable : ∀ g, ReserveSound ram → Reserved g s.protocol ram →
    g ≤ max timestampBase (t.protocol.highWater.getD 0)

variable {loads : Prop} {ram ram' ram'' : Ram} {s t u : Flash}

theorem SameQueue.trans (h : SameQueue loads ram ram') (h' : SameQueue loads ram' ram'') :
    SameQueue loads ram ram'' where
  pending := h'.pending.trans h.pending
  generation := h'.generation.trans h.generation
  dirty := h'.dirty.trans h.dirty
  blocked := fun hload hblocked =>
    h'.blocked (fun hl => h.attempted (hload hl)) (h.blocked hload hblocked)
  attempted := h'.attempted ∘ h.attempted

theorem Passed.mono {loads' : Prop} (h : Passed loads ram s ram' t) (hl : loads → loads') :
    Passed loads' ram s ram' t :=
  ⟨h.checkpoint, ⟨h.queue.pending, h.queue.generation, h.queue.dirty,
    fun hload => h.queue.blocked (hload ∘ hl), h.queue.attempted⟩, h.reserve, h.reserved⟩

theorem Passed.refl (ram : Ram) (s : Flash) : Passed loads ram s ram s :=
  ⟨rfl, ⟨rfl, rfl, rfl, fun _ hb => hb, id⟩, id, fun _ _ h => h⟩

theorem Passed.trans (h : Passed loads ram s ram' t) (h' : Passed loads ram' t ram'' u) :
    Passed loads ram s ram'' u where
  checkpoint := h'.checkpoint.trans h.checkpoint
  queue := h.queue.trans h'.queue
  reserve := h'.reserve ∘ h.reserve
  reserved := fun g hs hg => h'.reserved g (h.reserve hs) (h.reserved g hs hg)

theorem Passed.cut (h : Passed loads ram s ram' t) : CutPassed ram s t :=
  ⟨h.checkpoint, fun g hs hg => (h.reserved g hs hg).durable⟩

theorem CutPassed.refl (ram : Ram) (s : Flash) : CutPassed ram s s :=
  ⟨rfl, fun _ _ hg => hg.durable⟩

theorem Passed.trans_cut (h : Passed loads ram s ram' t) (h' : CutPassed ram' t u) :
    CutPassed ram s u :=
  ⟨h'.checkpoint.trans h.checkpoint,
    fun g hs hg => h'.durable g (h.reserve hs) (h.reserved g hs hg)⟩

theorem reservedThrough_of_protocol {core core' : Core} (h : core'.protocol = core.protocol) :
    core'.protocolReservedThrough = core.protocolReservedThrough :=
  congrArg (fun p => p.2.2.1) h

theorem Reserved.congr {g : Nat} (h : Reserved g s.protocol ram)
    (hcore : ram'.core.protocol = ram.core.protocol)
    (hready : ram'.protocolSeedReady = ram.protocolSeedReady) : Reserved g s.protocol ram' where
  durable := h.durable
  seeded := by
    rw [reservedThrough_of_protocol hcore, hready]
    exact h.seeded

theorem ReserveSound.congr (h : ReserveSound ram)
    (hcore : ram'.core.protocol = ram.core.protocol)
    (hready : ram'.protocolSeedReady = ram.protocolSeedReady)
    (hinit : ram'.initialized = ram.initialized) : ReserveSound ram' where
  low := by
    rw [reservedThrough_of_protocol hcore, hinit]
    exact h.low
  unseeded := by
    rw [reservedThrough_of_protocol hcore, hinit, hready]
    exact h.unseeded

theorem Passed.of_core (hcore : ram'.core.protocol = ram.core.protocol)
    (hready : ram'.protocolSeedReady = ram.protocolSeedReady)
    (hinit : ram'.initialized = ram.initialized) (hqueue : SameQueue loads ram ram') :
    Passed loads ram s ram' s :=
  ⟨rfl, hqueue, fun h => h.congr hcore hready hinit, fun _ _ hg => hg.congr hcore hready⟩

end Passing

section Seeds

variable {loads : Prop} {ram : Ram} {s : Flash} {x : EspErr × Migration.Status}

theorem seed_queue (ram : Ram) (x : EspErr × Migration.Status) : SameQueue loads ram (ram.seed x).2 := by
  unfold Ram.seed
  dsimp only
  by_cases hgo : x.1 = espOk ∧ (x.2.state = .absent ∨ x.2.state = .complete)
  · rw [if_pos hgo]
    split <;> exact ⟨rfl, rfl, rfl, fun _ hb => hb, id⟩
  · rw [if_neg hgo]
    exact ⟨rfl, rfl, rfl, fun _ hb => hb, id⟩

theorem seedProtocol_failed {core : Core} {persisted : Bool} {n : Nat}
    (h : (seedProtocol core persisted n).1 ≠ espOk) : (seedProtocol core persisted n).2 = core := by
  by_cases hstarted : core.protocolStarted = true
  · rw [seedProtocol, if_pos hstarted]
  · rw [seedProtocol, if_neg hstarted] at h
    exact absurd rfl h

theorem seed_failed (h : (ram.seed x).1 ≠ espOk) : (ram.seed x).2.core = ram.core := by
  unfold Ram.seed at h ⊢
  dsimp only at h ⊢
  by_cases hgo : x.1 = espOk ∧ (x.2.state = .absent ∨ x.2.state = .complete)
  · rw [if_pos hgo] at h ⊢
    split at h
    · exact seedProtocol_failed h
    · exact seedProtocol_failed h
    · rfl
  · rw [if_neg hgo]
    rfl

theorem seedProtocol_reserved {core : Core} {persisted : Bool} {n : Nat}
    (h : (seedProtocol core persisted n).1 = espOk) (hbase : timestampBase ≤ n)
    (hfresh : persisted = false → n = timestampBase) :
    (seedProtocol core persisted n).2.protocolReservedThrough = n := by
  unfold seedProtocol at h ⊢
  dsimp only at h ⊢
  split_ifs at h ⊢ with hstarted hlow hfull
  · exact absurd h (show espErrInvalidState ≠ espOk by decide)
  · rcases hlow with hfresh' | hlow
    · exact (hfresh (by simpa using hfresh')).symm
    · omega
  · rfl
  · rfl

theorem seed_reserved (h : (ram.seed (Migration.view s.protocol)).1 = espOk) :
    (ram.seed (Migration.view s.protocol)).2.core.protocolReservedThrough =
      max timestampBase (s.protocol.highWater.getD 0) := by
  have hgo : (Migration.view s.protocol).1 = espOk ∧ ((Migration.view s.protocol).2.state = .absent ∨
      (Migration.view s.protocol).2.state = .complete) :=
    Classical.byContradiction fun hrefused => seed_refused ram hrefused h
  obtain ⟨-, hpresent, hobserved⟩ := Migration.settled_of_view hgo.1 hgo.2
  unfold Ram.seed at h ⊢
  dsimp only at h ⊢
  rw [if_pos hgo, hpresent, hobserved] at h ⊢
  cases hhigh : s.protocol.highWater with
  | none =>
    rw [hhigh] at h
    exact seedProtocol_reserved h (Nat.le_refl _) fun _ => rfl
  | some n =>
    rw [hhigh] at h
    dsimp only [Option.isSome, Option.getD] at h ⊢
    rw [if_pos rfl, classifyProtocolSeed_some] at h ⊢
    by_cases hbase : timestampBase ≤ n
    · rw [if_pos hbase] at h ⊢
      rw [Nat.max_eq_right hbase]
      exact seedProtocol_reserved h hbase fun h => Bool.noConfusion h
    · rw [if_neg hbase] at h
      exact absurd h (show espErrInvalidState ≠ espOk by decide)

theorem seed_passed (hunready : ¬ ram.protocolSeedReady)
    (hx : x = Migration.view s.protocol ∨ x.1 ≠ espOk) : Passed loads ram s (ram.seed x).2 s := by
  by_cases hok : (ram.seed x).1 = espOk
  · have hview : x = Migration.view s.protocol :=
      hx.resolve_right fun hne => seed_refused ram (fun hgo => hne hgo.1) hok
    subst hview
    have hreserved := seed_reserved hok
    refine ⟨rfl, seed_queue ram _, fun h => ⟨fun _ => ?_, fun _ hr => ?_⟩,
      fun g _ hg => ⟨hg.durable, fun _ => ?_⟩⟩
    · rw [hreserved]
      exact Nat.le_max_left _ _
    · exact absurd ((seed_ready ram _).mpr hok) hr
    · rw [hreserved]
      exact hg.durable
  · have hunready' : (ram.seed x).2.protocolSeedReady = ram.protocolSeedReady := by
      rw [Bool.eq_false_iff.mpr hunready, Bool.eq_false_iff]
      exact fun hr => hok ((seed_ready ram x).mp hr)
    exact .of_core (congrArg Core.protocol (seed_failed hok)) hunready' (seed_frame ram x).1
      (seed_queue ram x)

end Seeds

section Sections

variable {loads : Prop} {ram : Ram} {s : Flash} {issued : List Nat}

theorem loadProtocolSeed_passes (hunready : ¬ ram.protocolSeedReady) :
    (loadProtocolSeed ram).Reads True s fun r => Passed loads ram s r.2 s := by
  apply Faulty.Reads.bind (inspect_flash s)
  intro x hx
  exact .pure (seed_passed hunready (hx.imp_right fun h => h.2.1))

theorem ensureSeed_passes (ret : EspErr) :
    (ensureSeed ram ret).Reads True s fun r => Passed loads ram s r.2 s :=
  .ite (fun _ => .pure (.refl ram s)) loadProtocolSeed_passes

theorem recover_queue (ram : Ram) (loaded : WallCheckpoint.Loaded) (nowUs : Nat)
    (hattempted : ¬ ram.checkpointLoadAttempted) :
    SameQueue True ram (ram.recover loaded nowUs) := by
  unfold Ram.recover
  dsimp only
  split_ifs <;> exact ⟨rfl, rfl, rfl, fun hload _ => absurd (hload trivial) hattempted, fun _ => rfl⟩

theorem loadWallCheckpoint_passes (nowUs : Nat) :
    (loadWallCheckpoint ram nowUs).Reads True s fun r => Passed True ram s r s := by
  apply Faulty.Reads.ite
  · exact fun _ => .pure (.refl ram s)
  intro hattempted
  apply Faulty.Reads.bind (load_flash s)
  intro loaded _
  obtain ⟨hcore, hready, hinit⟩ := recover_frame ram loaded nowUs
  exact .pure (.of_core hcore hready hinit (recover_queue ram loaded nowUs hattempted))

theorem coreInit_reserved {core : Core} {nowUs build : Nat}
    (h : (coreInit core nowUs build).1 = espOk) :
    (coreInit core nowUs build).2.protocolReservedThrough = timestampBase := by
  unfold coreInit at h ⊢
  split_ifs at h ⊢
  · exact absurd h (show espErrInvalidArg ≠ espOk by decide)
  · rfl

theorem serviceInit_passes (hready : ram.protocolSeedReady → ram.initialized)
    (nowUs checkpointUs : Nat) :
    (serviceInit ram nowUs checkpointUs).Reads True s fun r => Passed True ram s r.2 s := by
  apply Faulty.Reads.ite
  · exact fun _ => .pure (.refl ram s)
  intro hstarted
  have hram : Passed True ram s
      { ram with
        core := (if ram.initialized then (espOk, ram.core)
          else coreInit ram.core nowUs ram.buildEpochSec).2
        initialized := true } s := by
    split_ifs at hstarted ⊢ with hinit
    · exact .of_core rfl rfl hinit.symm ⟨rfl, rfl, rfl, fun _ hb => hb, id⟩
    · have hbase := coreInit_reserved (not_not.mp hstarted)
      exact ⟨rfl, ⟨rfl, rfl, rfl, fun _ hb => hb, id⟩,
        fun _ => ⟨fun _ => hbase.ge, fun _ _ => hbase⟩,
        fun g _ hg => ⟨hg.durable, fun hr => absurd (hready hr) hinit⟩⟩
  apply Faulty.Reads.bind (ensureSeed_passes espOk)
  rintro ⟨ret, ram'⟩ hram'
  apply Faulty.Reads.ite
  · intro _
    apply Faulty.Reads.bind (loadWallCheckpoint_passes checkpointUs)
    intro ram'' hram''
    exact .pure ((hram.trans hram').trans hram'')
  · exact fun _ => .pure (hram.trans hram')

theorem preflightSection_passes (ret : EspErr) (nowUs : Nat) :
    (preflightSection ram ret nowUs).Reads True s fun r => Passed loads ram s r.2 s := by
  apply Faulty.Reads.bind (ensureSeed_passes ret)
  rintro ⟨ret', ram'⟩ hram'
  exact .ite (fun _ => .pure hram') fun _ => .pure hram'

theorem onProtocol_checkpoint {α : Type} (m : Io Migration.Flash α) :
    (onProtocol m).Meets True (· = s) (fun _ t => t.checkpoint = s.checkpoint)
      fun t => t.checkpoint = s.checkpoint := by
  have htrivial : m.Meets True (fun _ => True) (fun _ _ => True) fun _ => True := .trivial _
  apply htrivial.zoom
  · exact fun _ _ => trivial
  · rintro _ _ _ rfl -
    rfl
  · rintro _ _ rfl -
    rfl

theorem migration_passes (hsound : RamSound s.protocol issued ram) (request : Migration.Request) :
    (onProtocol (Migration.run request)).Meets True (· = s) (fun _ t => Passed loads ram s ram t)
      (CutPassed ram s) := by
  by_cases hready : ram.protocolSeedReady = true
  · have hread : (onProtocol (Migration.run request)).Reads True s fun _ => True :=
      (Migration.run_settled (hsound.seeded hready).settled).zoom rfl
    refine (hread.mono (fun _ h => h) ?_).cut_mono ?_
    · rintro _ t ⟨rfl, -⟩
      exact .refl ram t
    · rintro - t rfl
      exact .refl ram t
  · -- Only the mark matters, and a mark that is there stays.
    have hpassed : ∀ t : Flash, t.checkpoint = s.checkpoint →
        (∀ n, s.protocol.highWater = some n → t.protocol.highWater = some n) →
        Passed loads ram s ram t := by
      intro t hcheckpoint hkept
      refine ⟨hcheckpoint, (Passed.refl ram s).queue, id,
        fun g _ hg => ⟨?_, fun hr => absurd hr hready⟩⟩
      have hdurable := hg.durable
      cases hhigh : s.protocol.highWater with
      | none =>
        rw [hhigh] at hdurable
        exact Nat.le_trans hdurable (max_le (Nat.le_max_left _ _) (Nat.zero_le _))
      | some n =>
        rw [hkept n hhigh, ← hhigh]
        exact hdurable
    cases hhigh : s.protocol.highWater with
    | none =>
      have hnone : ∀ {P : Prop} n, s.protocol.highWater = some n → P := by
        intro P n hn
        rw [hhigh] at hn
        cases hn
      exact ((onProtocol_checkpoint _).mono (fun _ h => h)
        fun _ t ht => hpassed t ht fun n hn => hnone n hn).cut_mono
        fun _ t ht => (hpassed t ht fun n hn => hnone n hn).cut
    | some n =>
      have hkept : ∀ t : Migration.Flash, t.highWater = some n →
          Passed loads ram s ram { s with protocol := t } := by
        intro t ht
        refine hpassed { s with protocol := t } rfl fun m hm => ?_
        rw [hhigh] at hm
        exact Option.some.inj hm ▸ ht
      apply Faulty.Meets.zoom (Migration.run_highWater (n := n))
      · rintro _ rfl
        exact hhigh
      · rintro _ _ t rfl ht
        exact hkept t ht
      · rintro _ t rfl ht
        exact (hkept t ht).cut

theorem migrateSection_passes (hsound : RamSound s.protocol issued ram)
    (request : Migration.Request) (nowUs : Nat) :
    (migrateSection ram request nowUs).Meets True (· = s) (fun r t => Passed True ram s r.2 t)
      (CutPassed ram s) := by
  apply Faulty.Meets.ite
  · intro _
    apply Faulty.Meets.pure
    rintro t rfl
    exact .refl ram t
  intro _
  apply Faulty.Meets.bind (migration_passes hsound request)
  intro out
  apply Faulty.Meets.of_states
  intro t ht
  have hnoted : Passed True ram s { ram with migrationStatus := out.status } t :=
    ht.trans (.of_core rfl rfl rfl ⟨rfl, rfl, rfl, fun _ hb => hb, id⟩)
  apply Faulty.Meets.ite
  · rintro ⟨-, hunready⟩
    apply Faulty.Reads.bind_meets (loadProtocolSeed_passes hunready) ht.cut
    rintro ⟨ret, ram'⟩ hseeded
    apply Faulty.Meets.ite
    · intro _
      apply Faulty.Reads.bind_meets (loadWallCheckpoint_passes nowUs) ht.cut
      intro ram'' hloaded
      apply Faulty.Meets.pure
      rintro _ rfl
      exact (hnoted.trans hseeded).trans hloaded
    · intro _
      apply Faulty.Meets.pure
      rintro _ rfl
      exact hnoted.trans hseeded
  · intro _
    apply Faulty.Meets.pure
    rintro _ rfl
    exact hnoted

theorem Passed.raised {ram' : Ram} {t : Flash} {v : Nat} (hready : ram.protocolSeedReady)
    (hqueue : SameQueue loads ram ram') (hcheckpoint : t.checkpoint = s.checkpoint)
    (hv : ram.core.protocolReservedThrough ≤ v)
    (hmark : SameKeys s.protocol t.protocol ∨ Raised s.protocol v t.protocol)
    (hready' : ram'.protocolSeedReady)
    (hreserved : ram.core.protocolReservedThrough ≤ ram'.core.protocolReservedThrough)
    (hinit : ram.initialized) : Passed loads ram s ram' t := by
  refine ⟨hcheckpoint, hqueue, fun h => ⟨fun _ => Nat.le_trans (h.low hinit) hreserved,
    fun _ hr => absurd hready' hr⟩, fun g _ hg => ⟨?_, fun _ =>
      Nat.le_trans (hg.seeded hready) hreserved⟩⟩
  rcases hmark with hmark | hmark
  · rw [hmark.highWater]
    exact hg.durable
  · rw [hmark.highWater]
    exact Nat.le_trans (Nat.le_trans (hg.seeded hready) hv) (Nat.le_max_right _ _)

theorem reserveProtocolRange_frame (ram : Ram) (reservedThrough : Nat) :
    (reserveProtocolRange ram reservedThrough).Meets True (· = s)
      (fun r t => t.checkpoint = s.checkpoint ∧ SameQueue loads ram r.2)
      fun t => t.checkpoint = s.checkpoint := by
  apply Faulty.Meets.bind (onProtocol_checkpoint _)
  intro ret
  have hqueue : ∀ {state : PersistenceState} {error : EspErr} {status : Migration.Status},
      SameQueue loads ram { ram with
        persistenceState := state, persistenceError := error, migrationStatus := status } :=
    ⟨rfl, rfl, rfl, fun _ hb => hb, id⟩
  apply Faulty.Meets.ite
  · exact fun _ => .pure fun t ht => ⟨ht, hqueue⟩
  · exact fun _ => .pure fun t ht => ⟨ht, hqueue⟩

theorem nextProtocolTimestamp_passes (hsound : RamSound s.protocol issued ram)
    (hready : ram.protocolSeedReady) (nowUs : Nat) :
    (nextProtocolTimestamp ram.core nowUs ram reserveProtocolRange).Meets True (· = s)
      (fun r t => Passed loads ram s { r.2.2.2 with core := r.2.2.1 } t) (CutPassed ram s) := by
  have hinit := hsound.ready_initialized hready
  have hcore := observeMonotonic_protocol ram.core nowUs
  have hreserved : (observeMonotonic ram.core nowUs).protocolReservedThrough =
      ram.core.protocolReservedThrough := reservedThrough_of_protocol hcore
  have hseeded := (hsound.seeded hready).congr hcore
  have hobserved : Passed loads ram s { ram with core := observeMonotonic ram.core nowUs } s :=
    .of_core hcore rfl rfl ⟨rfl, rfl, rfl, fun _ hb => hb, id⟩
  unfold nextProtocolTimestamp
  dsimp only
  cases hcandidate : protocolCandidateAt (observeMonotonic ram.core nowUs)
      (observeMonotonic ram.core nowUs).lastMonotonicUs with
  | error code =>
    apply Faulty.Meets.pure
    rintro _ rfl
    exact hobserved
  | ok t =>
    obtain ⟨-, -, hmax⟩ := protocolCandidateAt_ok hseeded.next_le hcandidate
    have hissued : ∀ core : Core,
        (core.issued t).protocolReservedThrough = core.protocolReservedThrough := by
      intro core
      unfold Core.issued
      split_ifs <;> rfl
    apply Faulty.Meets.ite
    · intro hreserve
      obtain ⟨hle, hfits⟩ := le_reservationThrough hmax
      have hv : ram.core.protocolReservedThrough ≤ reservationThrough t := by omega
      have hmeets := (@reserveProtocolRange_meets True s ram _ hfits).and
        (@reserveProtocolRange_frame loads s ram (reservationThrough t))
      apply Faulty.Meets.bind (hmeets.cut_mono ?_)
      · rintro ⟨ret, ram'⟩
        apply Faulty.Meets.ite
        · intro hne
          apply Faulty.Meets.pure
          rintro flash ⟨⟨-, hready', -, hmark⟩, hcheckpoint, hqueue⟩
          refine .raised hready (hqueue.trans ⟨rfl, rfl, rfl, fun _ hb => hb, id⟩) hcheckpoint hv
            ?_ (hready'.trans hready) hreserved.ge hinit
          exact hmark.elim (fun h => absurd h.1 hne) fun h => h.2.2
        · intro hok
          apply Faulty.Meets.pure
          rintro flash ⟨⟨-, hready', -, hmark⟩, hcheckpoint, hqueue⟩
          refine .raised hready (hqueue.trans ⟨rfl, rfl, rfl, fun _ hb => hb, id⟩) hcheckpoint hv
            ?_ (hready'.trans hready) ?_ hinit
          · exact hmark.elim (fun h => .inr h.2) fun h => absurd h.2.1 hok
          · exact Nat.le_trans hv
              (hissued ((observeMonotonic ram.core nowUs).reserved (reservationThrough t))).ge
      · rintro - flash ⟨hmark, hcheckpoint⟩
        have hraised : Passed False ram s ram flash :=
          .raised hready (Passed.refl ram s).queue hcheckpoint hv hmark hready (Nat.le_refl _) hinit
        exact hraised.cut
    · intro _
      apply Faulty.Meets.pure
      rintro _ rfl
      refine .raised hready ⟨rfl, rfl, rfl, fun _ hb => hb, id⟩ rfl (Nat.le_refl _)
        (.inl ⟨rfl, rfl, rfl⟩) hready ?_ hinit
      exact hreserved.ge.trans (hissued _).ge

theorem nextSection_passes (hsound : RamSound s.protocol issued ram) (hinit : ram.initialized)
    (hcovered : Covered s.protocol issued) (ret : EspErr) (nowUs : Nat) :
    (nextSection ram ret nowUs).Meets True (· = s) (fun r t => Passed loads ram s r.2.2 t)
      (CutPassed ram s) := by
  apply Faulty.Reads.bind_meets
    ((ensureSeed_reads hsound hinit hcovered ret).and (ensureSeed_passes ret))
    (.refl ram s)
  rintro ⟨ret', ram'⟩ ⟨⟨hsound', -, hready'⟩, hpassed⟩
  apply Faulty.Meets.ite
  · intro hok
    apply Faulty.Meets.bind ((nextProtocolTimestamp_passes hsound' (hready' hok) nowUs).cut_mono
      fun _ _ ht => hpassed.trans_cut ht)
    intro r
    exact .pure fun _ ht => hpassed.trans ht
  · intro _
    apply Faulty.Meets.pure
    rintro _ rfl
    exact hpassed

end Sections

end Sigui.Time
