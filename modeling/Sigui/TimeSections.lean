import Sigui.TimeSeed

/-! What each section of the time service leaves on flash and in RAM. -/
namespace Sigui.Time

open Nvs
open Migration (timestampBase ReceiptOn Settled)

section Loads

variable {may : Prop} {s : Flash} {issued : List Nat} {ram : Ram}

theorem inspect_flash (s : Flash) :
    (onProtocol Migration.inspect).Reads may s fun r =>
      r = Migration.view s.protocol ∨ may ∧ Migration.Unreadable r :=
  (Migration.inspect_reads may s.protocol).zoom rfl

theorem load_flash (s : Flash) :
    (onCheckpoint WallCheckpoint.load).Reads may s fun r =>
      r = WallCheckpoint.view s.checkpoint ∨
        may ∧ r.ret ≠ espOk ∧ r.status.state = .storageError :=
  (WallCheckpoint.load_reads may s.checkpoint).zoom rfl

theorem loadProtocolSeed_reads (hinit : ram.initialized)
    (hbuild : ram.core.buildEpochSec ≤ uint32Max) (hcovered : Covered s.protocol issued) :
    (loadProtocolSeed ram).Reads may s fun r =>
      RamSound s.protocol issued r.2 ∧ (r.2.protocolSeedReady = true ↔ r.1 = espOk) ∧
        r.2.initialized := by
  apply Faulty.Reads.bind (inspect_flash s)
  intro x hx
  apply Faulty.Reads.pure
  obtain ⟨hframe, hcore⟩ := seed_frame ram x
  refine ⟨⟨fun _ => hframe.trans hinit, fun _ => hcore.trans_le hbuild, fun hr => ?_⟩,
    seed_ready ram x, hframe.trans hinit⟩
  have hok := (seed_ready ram x).mp hr
  rcases hx with rfl | ⟨-, hne, -⟩
  · exact seed_view hbuild hcovered hok
  · exact absurd hok (seed_refused ram fun hgo => hne hgo.1)

theorem ensureSeed_reads (hsound : RamSound s.protocol issued ram) (hinit : ram.initialized)
    (hcovered : Covered s.protocol issued) (ret : EspErr) :
    (ensureSeed ram ret).Reads may s fun r =>
      RamSound s.protocol issued r.2 ∧ r.2.initialized ∧
        (r.1 = espOk → r.2.protocolSeedReady) := by
  apply Faulty.Reads.ite
  · exact fun hready => .pure ⟨hsound, hinit, fun _ => hready⟩
  · intro _
    exact (loadProtocolSeed_reads hinit (hsound.build_le hinit) hcovered).mono (fun _ h => h)
      fun _ _ h => ⟨h.1, h.2.1, h.2.2.2, h.2.2.1.mpr⟩

theorem recover_frame (ram : Ram) (loaded : WallCheckpoint.Loaded) (nowUs : Nat) :
    (ram.recover loaded nowUs).core.protocol = ram.core.protocol ∧
      (ram.recover loaded nowUs).protocolSeedReady = ram.protocolSeedReady ∧
      (ram.recover loaded nowUs).initialized = ram.initialized := by
  unfold Ram.recover
  dsimp only
  split_ifs
  · exact ⟨rfl, rfl, rfl⟩
  · exact ⟨recoverRetainedCheckpoint_protocol _ _ _ _, rfl, rfl⟩

theorem loadWallCheckpoint_reads (hsound : RamSound s.protocol issued ram) (nowUs : Nat) :
    (loadWallCheckpoint ram nowUs).Reads may s fun r =>
      RamSound s.protocol issued r ∧ r.protocolSeedReady = ram.protocolSeedReady ∧
        r.initialized = ram.initialized := by
  apply Faulty.Reads.ite
  · exact fun _ => .pure ⟨hsound, rfl, rfl⟩
  intro _
  apply Faulty.Reads.bind (load_flash s)
  intro loaded _
  obtain ⟨hcore, hready, hinit⟩ := recover_frame ram loaded nowUs
  exact .pure ⟨hsound.congr hcore hready hinit, hready, hinit⟩

theorem coreInit_ok {core : Core} {nowUs build : Nat} (h : (coreInit core nowUs build).1 = espOk) :
    (coreInit core nowUs build).2.buildEpochSec ≤ uint32Max := by
  have hmax : sntpMaxProtocolEpoch ≤ uint32Max := by decide
  unfold coreInit at h ⊢
  split_ifs at h ⊢ with hrange
  · exact absurd h (show espErrInvalidArg ≠ espOk by decide)
  · rw [not_or] at hrange
    show build ≤ uint32Max
    omega

theorem serviceInit_reads (hsound : RamSound s.protocol issued ram)
    (hcovered : Covered s.protocol issued) (nowUs checkpointUs : Nat) :
    (serviceInit ram nowUs checkpointUs).Reads may s fun r =>
      RamSound s.protocol issued r.2 ∧
        (r.2.initialized ∨ r.1 ≠ espOk ∧ r.2 = ram) := by
  apply Faulty.Reads.ite
  · exact fun hfailed => .pure ⟨hsound, .inr ⟨hfailed, rfl⟩⟩
  intro hstarted
  -- The core is the one at hand, or a new one before any seed.
  have hram : RamSound s.protocol issued
      { ram with
        core := (if ram.initialized then (espOk, ram.core)
          else coreInit ram.core nowUs ram.buildEpochSec).2
        initialized := true } := by
    split_ifs at hstarted ⊢ with hinit
    · exact hsound.congr rfl rfl hinit.symm
    · have hunready : ¬ ram.protocolSeedReady := fun hr => hinit (hsound.ready_initialized hr)
      exact ⟨fun _ => rfl, fun _ => coreInit_ok (not_not.mp hstarted), fun hr => absurd hr hunready⟩
  apply Faulty.Reads.bind (ensureSeed_reads hram rfl hcovered espOk)
  rintro ⟨ret, ram'⟩ ⟨hsound', hinit', -⟩
  apply Faulty.Reads.ite
  · intro _
    apply Faulty.Reads.bind (loadWallCheckpoint_reads hsound' checkpointUs)
    rintro ram'' ⟨hsound'', -, hinit''⟩
    exact .pure ⟨hsound'', .inl (hinit''.trans hinit')⟩
  · exact fun _ => .pure ⟨hsound', .inl hinit'⟩

end Loads

section Reservations

variable {s t : Migration.Flash} {core : Core} {issued : List Nat} {v : Nat}

/-- The keys of the protocol are those of `s`, but for a mark that is `v`. -/
structure Raised (s : Migration.Flash) (v : Nat) (t : Migration.Flash) : Prop where
  receipt : t.receiptBlob = s.receiptBlob
  legacy : t.legacy = s.legacy
  highWater : t.highWater = some v

/-- The keys of the protocol are those of `s`. -/
structure SameKeys (s t : Migration.Flash) : Prop where
  receipt : t.receiptBlob = s.receiptBlob
  legacy : t.legacy = s.legacy
  highWater : t.highWater = s.highWater

theorem reserve_meets {may : Prop} (hv : v ≤ uint32Max) :
    (transact Migration.Flash.createProtocol (Migration.Flash.setHighWater · v)).Meets may
      (SameKeys s)
      (fun r t => r = espOk ∧ Raised s v t ∨ may ∧ r ≠ espOk ∧ (SameKeys s t ∨ Raised s v t))
      (fun t => SameKeys s t ∨ Raised s v t) := by
  apply transact_meets
  · intro t ht
    exact ⟨ht.receipt, (Migration.createProtocol_legacy t).trans ht.legacy,
      (Migration.createProtocol_highWater t).trans ht.highWater⟩
  · intro t ht
    exact ⟨ht.receipt, (Migration.setHighWater_legacy t v).trans ht.legacy,
      Migration.setHighWater_highWater t hv⟩

theorem Covered.same (h : Covered s issued) (ht : SameKeys s t) : Covered t issued := by
  intro x hx
  rw [ht.highWater]
  exact h x hx

theorem Covered.raised (h : ∀ x ∈ issued, x ≤ v) (ht : Raised s v t) : Covered t issued :=
  fun x hx => ⟨v, ht.highWater, h x hx⟩

theorem Seeded.same (h : Seeded s core issued) (ht : SameKeys s t) : Seeded t core issued where
  settled := h.settled.raise ht.receipt ht.legacy fun p hp => by
    obtain ⟨n, hn, hle⟩ := h.settled.mark hp
    exact ⟨n, ht.highWater.trans hn, hle⟩
  next_le := h.next_le
  above := h.above
  bound := fun hlive p hp => h.bound hlive p (hp.congr ht.receipt.symm)
  covered := by rw [ht.highWater]; exact h.covered
  fresh := by rw [ht.highWater]; exact h.fresh

theorem Seeded.raised (h : Seeded s core issued) (hlive : core.protocolExhausted = false)
    (hnext : core.protocolNext ≤ v) (hreserved : core.protocolReservedThrough ≤ v)
    (ht : Raised s v t) : Seeded t core issued where
  settled := h.settled.raise ht.receipt ht.legacy fun p hp =>
    ⟨v, ht.highWater, Nat.le_trans (Nat.le_of_lt (h.bound hlive p hp)) hnext⟩
  next_le := h.next_le
  above := h.above
  bound := fun hlive p hp => h.bound hlive p (hp.congr ht.receipt.symm)
  covered := by
    intro n hn
    rw [ht.highWater] at hn
    exact Option.some.inj hn ▸ hreserved
  fresh := by
    intro hnone
    rw [ht.highWater] at hnone
    cases hnone

end Reservations

section Timestamps

variable {may : Prop} {s : Flash} {issued : List Nat} {ram : Ram}

/-- What a returned timestamp is: above all before it, below the mark on flash, from a flash with
nothing unresolved and above the bound of a completed migration. -/
structure WellIssued (t : Nat) (earlier : List Nat) (s : Migration.Flash) : Prop where
  above : ∀ x ∈ earlier, x < t
  covered : ∃ h, s.highWater = some h ∧ t ≤ h
  settled : Settled s
  bound : ∀ p, ReceiptOn p s → p.targetHighWater < t

/-- What a call for a timestamp leaves: the timestamp, if any, is well issued. -/
structure NextDone (issued : List Nat) (ret : EspErr) (timestamp : Option Nat) (ram : Ram)
    (s : Migration.Flash) : Prop where
  ok_iff : ret = espOk ↔ timestamp.isSome
  covered : Covered s (timestamp.toList ++ issued)
  sound : RamSound s (timestamp.toList ++ issued) ram
  well : ∀ t, timestamp = some t → WellIssued t issued s

theorem Seeded.issue {s : Migration.Flash} {core : Core} {t : Nat} (h : Seeded s core issued)
    (hlive : core.protocolExhausted = false) (hnext : core.protocolNext ≤ t)
    (hmax : t ≤ uint32Max) (hmark : ∃ n, s.highWater = some n) :
    Seeded s (core.issued t) (t :: issued) := by
  obtain ⟨n, hn⟩ := hmark
  have hnone : ∀ {P : Prop}, s.highWater = none → P := by
    intro P hnone
    rw [hn] at hnone
    cases hnone
  unfold Core.issued
  split_ifs with hfull
  · exact ⟨h.settled, h.next_le, fun hex => Bool.noConfusion hex, fun hex => Bool.noConfusion hex,
      h.covered, fun hnone' => hnone hnone'⟩
  · refine ⟨h.settled, show t + 1 ≤ uint32Max by omega, fun _ x hx => ?_, fun _ p hp => ?_,
      h.covered, fun hnone' => hnone hnone'⟩
    · show x < t + 1
      rcases List.mem_cons.mp hx with rfl | hx
      · exact Nat.lt_succ_self x
      · have := h.above hlive x hx
        omega
    · show p.targetHighWater < t + 1
      have := h.bound hlive p hp
      omega

theorem Seeded.well {s : Migration.Flash} {core : Core} {t : Nat} (h : Seeded s core issued)
    (hlive : core.protocolExhausted = false) (hnext : core.protocolNext ≤ t)
    (hmark : ∃ n, s.highWater = some n ∧ t ≤ n) : WellIssued t issued s where
  above := fun x hx => Nat.lt_of_lt_of_le (h.above hlive x hx) hnext
  covered := hmark
  settled := h.settled
  bound := fun p hp => Nat.lt_of_lt_of_le (h.bound hlive p hp) hnext

theorem reserveProtocolRange_meets {v : Nat} (hv : v ≤ uint32Max) :
    (reserveProtocolRange ram v).Meets may (· = s)
      (fun r t => r.2.core = ram.core ∧ r.2.protocolSeedReady = ram.protocolSeedReady ∧
        r.2.initialized = ram.initialized ∧
        (r.1 = espOk ∧ Raised s.protocol v t.protocol ∨
          may ∧ r.1 ≠ espOk ∧ (SameKeys s.protocol t.protocol ∨ Raised s.protocol v t.protocol)))
      (fun t => SameKeys s.protocol t.protocol ∨ Raised s.protocol v t.protocol) := by
  apply Faulty.Meets.bind (q := fun r t => r = espOk ∧ Raised s.protocol v t.protocol ∨
    may ∧ r ≠ espOk ∧ (SameKeys s.protocol t.protocol ∨ Raised s.protocol v t.protocol))
  · refine Faulty.Meets.zoom (@reserve_meets s.protocol v may hv) ?_ ?_ ?_
    · rintro _ rfl
      exact ⟨rfl, rfl, rfl⟩
    · exact fun _ _ _ _ h => h
    · exact fun _ _ _ h => h
  · intro ret
    apply Faulty.Meets.ite
    · exact fun _ => .pure fun t ht => ⟨rfl, rfl, rfl, ht⟩
    · exact fun _ => .pure fun t ht => ⟨rfl, rfl, rfl, ht⟩

theorem nextProtocolTimestamp_meets (hsound : RamSound s.protocol issued ram)
    (hready : ram.protocolSeedReady) (hcovered : Covered s.protocol issued) (nowUs : Nat) :
    (nextProtocolTimestamp ram.core nowUs ram reserveProtocolRange).Meets may (· = s)
      (fun r t => NextDone issued r.1 r.2.1 { r.2.2.2 with core := r.2.2.1 } t.protocol)
      (fun t => Covered t.protocol issued) := by
  have hinit := hsound.ready_initialized hready
  have hseeded := (hsound.seeded hready).congr (observeMonotonic_protocol ram.core nowUs)
  have hbuild : (observeMonotonic ram.core nowUs).buildEpochSec ≤ uint32Max :=
    (build_of_protocol (observeMonotonic_protocol ram.core nowUs)).trans_le (hsound.build_le hinit)
  unfold nextProtocolTimestamp
  dsimp only
  cases hcandidate : protocolCandidateAt (observeMonotonic ram.core nowUs)
      (observeMonotonic ram.core nowUs).lastMonotonicUs with
  | error code =>
    have hcode := protocolCandidateAt_error hcandidate
    apply Faulty.Meets.pure
    rintro _ rfl
    exact ⟨⟨fun h => absurd h hcode, fun h => Bool.noConfusion h⟩, hcovered,
      ⟨fun _ => hinit, fun _ => hbuild, fun _ => hseeded⟩, fun _ h => nomatch h⟩
  | ok t =>
    obtain ⟨hlive, hnext, hmax⟩ := protocolCandidateAt_ok hseeded.next_le hcandidate
    -- The core and the RAM once `t` is issued from a flash that `hs` describes.
    have hdone : ∀ (flash : Migration.Flash) (core : Core) (ram' : Ram),
        Seeded flash core issued → core.protocolExhausted = false → core.protocolNext ≤ t →
        core.buildEpochSec ≤ uint32Max → ram'.initialized →
        (∃ n, flash.highWater = some n ∧ t ≤ n) → Covered flash issued →
        NextDone issued espOk (some t) { ram' with core := core.issued t } flash := by
      intro flash core ram' hs hlive' hnext' hbuild' hinit' hmark hcov
      refine ⟨⟨fun _ => rfl, fun _ => rfl⟩, ?_, ⟨fun _ => hinit', fun _ => ?_, fun _ => ?_⟩, ?_⟩
      · intro x hx
        rcases List.mem_cons.mp hx with rfl | hx
        · exact hmark
        · exact hcov x hx
      · unfold Core.issued
        split_ifs <;> exact hbuild'
      · exact hs.issue hlive' hnext' hmax (hmark.imp fun _ h => h.1)
      · intro x hx
        obtain rfl := Option.some.inj hx
        exact hs.well hlive' hnext' hmark
    apply Faulty.Meets.ite
    · intro hreserve
      obtain ⟨hle, hfits⟩ := le_reservationThrough hmax
      have hraised : ∀ flash, Raised s.protocol (reservationThrough t) flash →
          Seeded flash (observeMonotonic ram.core nowUs) issued ∧ Covered flash issued := by
        intro flash hflash
        refine ⟨hseeded.raised hlive (Nat.le_trans hnext hle) (by omega) hflash,
          Covered.raised (fun x hx => ?_) hflash⟩
        have := hseeded.above hlive x hx
        omega
      have hkept : ∀ flash, SameKeys s.protocol flash ∨
          Raised s.protocol (reservationThrough t) flash →
          Seeded flash (observeMonotonic ram.core nowUs) issued ∧ Covered flash issued := by
        rintro flash (hflash | hflash)
        · exact ⟨hseeded.same hflash, hcovered.same hflash⟩
        · exact hraised flash hflash
      apply Faulty.Meets.bind
        ((reserveProtocolRange_meets hfits).cut_mono fun _ t ht => (hkept t.protocol ht).2)
      rintro ⟨ret, ram'⟩
      apply Faulty.Meets.ite
      · intro hne
        apply Faulty.Meets.pure
        rintro flash ⟨hcore, -, hinit', ⟨hok, -⟩ | ⟨-, -, hflash⟩⟩
        · exact absurd hok hne
        · obtain ⟨hs, hcov⟩ := hkept flash.protocol hflash
          exact ⟨⟨fun h => absurd h hne, fun h => Bool.noConfusion h⟩, hcov,
            ⟨fun _ => hinit'.trans hinit, fun _ => hbuild, fun _ => hs⟩,
            fun _ h => nomatch h⟩
      · intro hret
        apply Faulty.Meets.pure
        rintro flash ⟨hcore, -, hinit', ⟨-, hflash⟩ | ⟨-, hne, -⟩⟩
        · obtain ⟨hs, hcov⟩ := hraised flash.protocol hflash
          have hmark : ∃ n, flash.protocol.highWater = some n ∧ t ≤ n := ⟨_, hflash.highWater, hle⟩
          have hreserved : Seeded flash.protocol
              ((observeMonotonic ram.core nowUs).reserved (reservationThrough t)) issued := by
            refine ⟨hs.settled, hs.next_le, hs.above, hs.bound, fun n hn => ?_, fun hnone => ?_⟩
            · rw [hflash.highWater] at hn
              exact (Option.some.inj hn).le
            · rw [hflash.highWater] at hnone
              cases hnone
          exact hdone flash.protocol _ ram' hreserved hlive hnext hbuild (hinit'.trans hinit) hmark
            hcov
        · exact absurd hne hret
    · intro hwithin
      apply Faulty.Meets.pure
      rintro flash rfl
      have hmark : ∃ n, flash.protocol.highWater = some n ∧ t ≤ n := by
        cases hhigh : flash.protocol.highWater with
        | none =>
          have := (hseeded.fresh hhigh).1
          omega
        | some n =>
          have := hseeded.covered n hhigh
          exact ⟨n, rfl, by omega⟩
      exact hdone flash.protocol _ ram hseeded hlive hnext hbuild hinit hmark hcovered

theorem nextSection_meets (hsound : RamSound s.protocol issued ram) (hinit : ram.initialized)
    (hcovered : Covered s.protocol issued) (ret : EspErr) (nowUs : Nat) :
    (nextSection ram ret nowUs).Meets may (· = s)
      (fun r t => NextDone issued r.1 r.2.1 r.2.2 t.protocol) fun t => Covered t.protocol issued := by
  apply Faulty.Reads.bind_meets (ensureSeed_reads hsound hinit hcovered ret) hcovered
  rintro ⟨ret', ram'⟩ ⟨hsound', -, hready'⟩
  apply Faulty.Meets.ite
  · intro hok
    apply Faulty.Meets.bind (nextProtocolTimestamp_meets hsound' (hready' hok) hcovered nowUs)
    exact fun _ => .pure fun _ ht => ht
  · intro hfailed
    apply Faulty.Meets.pure
    rintro flash rfl
    exact ⟨⟨fun h => absurd h hfailed, fun h => Bool.noConfusion h⟩, hcovered, hsound',
      fun _ h => nomatch h⟩

theorem preflightSection_reads (hsound : RamSound s.protocol issued ram) (hinit : ram.initialized)
    (hcovered : Covered s.protocol issued) (ret : EspErr) (nowUs : Nat) :
    (preflightSection ram ret nowUs).Reads may s fun r => RamSound s.protocol issued r.2 := by
  apply Faulty.Reads.bind (ensureSeed_reads hsound hinit hcovered ret)
  rintro ⟨ret', ram'⟩ ⟨hsound', -, -⟩
  exact .ite (fun _ => .pure hsound') fun _ => .pure hsound'

end Timestamps

section Migrations

variable {s : Flash} {issued : List Nat} {ram : Ram}

/-- What the sequence needs of the flash and the RAM between two sections. -/
def Continues (issued : List Nat) (ram : Ram) (s : Flash) : Prop :=
  Covered s.protocol issued ∧ RamSound s.protocol issued ram

theorem migration_keeps (request : Migration.Request) :
    (onProtocol (Migration.run request)).Keeps True (Continues issued ram) := by
  apply Faulty.Meets.of_states
  rintro s ⟨hcovered, hsound⟩
  by_cases hready : ram.protocolSeedReady = true
  · have hread : (onProtocol (Migration.run request)).Reads True s fun _ => True :=
      (Migration.run_settled (hsound.seeded hready).settled).zoom rfl
    refine (hread.mono (fun _ h => h) ?_).cut_mono ?_
    · rintro _ t ⟨rfl, -⟩
      exact ⟨hcovered, hsound⟩
    · rintro - t rfl
      exact ⟨hcovered, hsound⟩
  · -- The seed is not ready, so all that matters is the mark.
    have hunready : ∀ t : Flash, Covered t.protocol issued → Continues issued ram t :=
      fun t ht => ⟨ht, hsound.ready_initialized, hsound.build_le, fun h => absurd h hready⟩
    cases hhigh : s.protocol.highWater with
    | none =>
      obtain rfl := hcovered.none hhigh
      have hnone : ∀ t : Flash, Continues [] ram t :=
        fun t => hunready t fun _ ht => absurd ht List.not_mem_nil
      exact ((Faulty.Meets.trivial _).mono (fun _ _ => trivial) fun _ t _ => hnone t).cut_mono
        fun _ t _ => hnone t
    | some n =>
      have hkept : ∀ t : Migration.Flash, t.highWater = some n →
          Continues issued ram { s with protocol := t } := by
        intro t ht
        apply hunready
        intro x hx
        show ∃ h, t.highWater = some h ∧ x ≤ h
        rw [ht, ← hhigh]
        exact hcovered x hx
      apply Faulty.Meets.zoom (Migration.run_highWater (n := n))
      · rintro _ rfl
        exact hhigh
      · rintro _ _ t rfl ht
        exact hkept t ht
      · rintro _ t rfl ht
        exact hkept t ht

theorem migrateSection_keeps (hinit : ram.initialized) (request : Migration.Request)
    (nowUs : Nat) :
    (migrateSection ram request nowUs).Meets True (Continues issued ram)
      (fun r t => Continues issued r.2 t) fun t => Covered t.protocol issued := by
  apply Faulty.Meets.ite
  · exact fun _ => .pure fun _ hs => hs
  intro _
  apply Faulty.Meets.bind ((migration_keeps request).cut_mono fun _ t ht => ht.1)
  intro out
  apply Faulty.Meets.of_states
  rintro s ⟨hcovered, hsound⟩
  have hsound' : RamSound s.protocol issued { ram with migrationStatus := out.status } :=
    hsound.congr rfl rfl rfl
  apply Faulty.Meets.ite
  · intro _
    apply Faulty.Reads.bind_meets
      (loadProtocolSeed_reads hinit (hsound'.build_le hinit) hcovered) hcovered
    rintro ⟨ret, ram'⟩ ⟨hseeded, -, -⟩
    apply Faulty.Meets.ite
    · intro _
      apply Faulty.Reads.bind_meets (loadWallCheckpoint_reads hseeded nowUs) hcovered
      rintro ram'' ⟨hloaded, -, -⟩
      apply Faulty.Meets.pure
      rintro t rfl
      exact ⟨hcovered, hloaded⟩
    · intro _
      apply Faulty.Meets.pure
      rintro t rfl
      exact ⟨hcovered, hseeded⟩
  · intro _
    apply Faulty.Meets.pure
    rintro t rfl
    exact ⟨hcovered, hsound'⟩

end Migrations

end Sigui.Time
