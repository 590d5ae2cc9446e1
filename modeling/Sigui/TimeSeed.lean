import Sigui.TimeService
import Sigui.MigrationSettled

/-! What a section of the time service does to the sequence of protocol timestamps. -/
namespace Sigui.Time

open Nvs
open Migration (timestampBase ReceiptOn Settled)

section Frames

/-- The part of the core that decides the next timestamp, and the build epoch. -/
def Core.protocol (core : Core) : Nat × Nat × Nat × Bool × Bool :=
  (core.buildEpochSec, core.protocolNext, core.protocolReservedThrough, core.protocolExhausted,
    core.protocolStarted)

variable (core : Core)

theorem observeMonotonic_protocol (nowUs : Nat) :
    (observeMonotonic core nowUs).protocol = core.protocol := by
  unfold observeMonotonic
  split_ifs <;> rfl

theorem setWall_protocol (epochSec : Int) (nowUs : Nat) (validity : Validity) (source : Source) :
    (setWall core epochSec nowUs validity source).2.protocol = core.protocol := by
  unfold setWall
  dsimp only
  split_ifs
  · rfl
  · exact observeMonotonic_protocol core nowUs

theorem setWallIfGeneration_protocol (generation : Nat) (epochSec : Int) (nowUs : Nat)
    (validity : Validity) (source : Source) :
    (setWallIfGeneration core generation epochSec nowUs validity source).2.protocol =
      core.protocol := by
  unfold setWallIfGeneration
  split_ifs
  · rfl
  · exact setWall_protocol core epochSec nowUs validity source

theorem raiseWall_protocol (epochSec : Int) (source : Source) :
    (raiseWall core epochSec source).2.protocol = core.protocol := by
  unfold raiseWall
  split_ifs
  · rfl
  · exact setWall_protocol core _ _ _ _

theorem noteAuthenticatedLowerBound_protocol (epochSec : Int) (nowUs : Nat) :
    (noteAuthenticatedLowerBound core epochSec nowUs).2.protocol = core.protocol := by
  unfold noteAuthenticatedLowerBound
  split_ifs
  · rfl
  · exact (raiseWall_protocol _ _ _).trans (observeMonotonic_protocol core nowUs)

theorem recoverRetainedCheckpoint_protocol (epochSec : Int) (reserved nowUs : Nat) :
    (recoverRetainedCheckpoint core epochSec reserved nowUs).2.protocol = core.protocol := by
  unfold recoverRetainedCheckpoint
  split_ifs
  · rfl
  · exact (raiseWall_protocol _ _ _).trans (observeMonotonic_protocol core nowUs)

end Frames

section Sequences

def Covered (s : Migration.Flash) (issued : List Nat) : Prop :=
  ∀ t ∈ issued, ∃ h, s.highWater = some h ∧ t ≤ h

/-- The core of a device whose seed is loaded: it continues above all it handed out, and above the
bound of a completed migration, within what is durable. -/
structure Seeded (s : Migration.Flash) (core : Core) (issued : List Nat) : Prop where
  settled : Settled s
  next_le : core.protocolNext ≤ uint32Max
  above : core.protocolExhausted = false → ∀ t ∈ issued, t < core.protocolNext
  bound : core.protocolExhausted = false →
    ∀ p, ReceiptOn p s → p.targetHighWater < core.protocolNext
  covered : ∀ h, s.highWater = some h → core.protocolReservedThrough ≤ h
  fresh : s.highWater = none → core.protocolReservedThrough < core.protocolNext ∧
    core.protocolReservedThrough = timestampBase

structure RamSound (s : Migration.Flash) (issued : List Nat) (ram : Ram) : Prop where
  ready_initialized : ram.protocolSeedReady → ram.initialized
  build_le : ram.initialized → ram.core.buildEpochSec ≤ uint32Max
  seeded : ram.protocolSeedReady → Seeded s ram.core issued

variable {s : Migration.Flash} {core core' : Core} {issued : List Nat} {ram ram' : Ram}

theorem Seeded.congr (h : Seeded s core issued) (hcore : core'.protocol = core.protocol) :
    Seeded s core' issued := by
  obtain ⟨-, hnext, hreserved, hexhausted, -⟩ :
      core'.buildEpochSec = core.buildEpochSec ∧ core'.protocolNext = core.protocolNext ∧
        core'.protocolReservedThrough = core.protocolReservedThrough ∧
        core'.protocolExhausted = core.protocolExhausted ∧
        core'.protocolStarted = core.protocolStarted := by
    simpa [Core.protocol] using hcore
  constructor
  · exact h.settled
  · rw [hnext]
    exact h.next_le
  · rw [hnext, hexhausted]
    exact h.above
  · rw [hnext, hexhausted]
    exact h.bound
  · rw [hreserved]
    exact h.covered
  · rw [hnext, hreserved]
    exact h.fresh

theorem build_of_protocol (h : core'.protocol = core.protocol) :
    core'.buildEpochSec = core.buildEpochSec := congrArg Prod.fst h

theorem RamSound.congr (h : RamSound s issued ram) (hcore : ram'.core.protocol = ram.core.protocol)
    (hready : ram'.protocolSeedReady = ram.protocolSeedReady)
    (hinit : ram'.initialized = ram.initialized) : RamSound s issued ram' where
  ready_initialized := by rw [hready, hinit]; exact h.ready_initialized
  build_le := by rw [hinit, build_of_protocol hcore]; exact h.build_le
  seeded := by rw [hready]; exact fun hr => (h.seeded hr).congr hcore

theorem highWater_le {n : Nat} (h : s.highWater = some n) : n ≤ uint32Max := by
  unfold Migration.Flash.highWater at h
  obtain ⟨keys, -, hkeys⟩ := Option.bind_eq_some_iff.mp h
  obtain ⟨value, -, rfl⟩ := Option.map_eq_some_iff.mp hkeys
  exact Nat.le_of_lt_succ value.toNat_lt

theorem Covered.none (h : Covered s issued) (hnone : s.highWater = none) : issued = [] := by
  apply List.eq_nil_iff_forall_not_mem.mpr
  intro t ht
  obtain ⟨n, hn, -⟩ := h t ht
  rw [hnone] at hn
  cases hn

end Sequences

section Seeding

variable {s : Migration.Flash} {core : Core} {issued : List Nat} {ram : Ram}

theorem seedProtocol_fresh (hsettled : Settled s) (hnone : s.highWater = none)
    (hbuild : core.buildEpochSec ≤ uint32Max)
    (hok : (seedProtocol core false timestampBase).1 = espOk) :
    Seeded s (seedProtocol core false timestampBase).2 [] := by
  have hbase : timestampBase + 1 ≤ uint32Max := by decide
  by_cases hstarted : core.protocolStarted = true
  · rw [seedProtocol, if_pos hstarted] at hok
    exact absurd hok (show espErrInvalidState ≠ espOk by decide)
  · have hfresh : ¬ (false = true) ∨ timestampBase < timestampBase := .inl Bool.false_ne_true
    rw [seedProtocol, if_neg hstarted, if_pos hfresh]
    constructor
    · exact hsettled
    · exact max_le hbase hbuild
    · exact fun _ t ht => absurd ht List.not_mem_nil
    · intro _ p hp
      obtain ⟨n, hn, -⟩ := hsettled.mark hp
      rw [hnone] at hn
      cases hn
    · intro h hh
      rw [hnone] at hh
      cases hh
    · exact fun _ => ⟨Nat.lt_of_lt_of_le (Nat.lt_succ_self _) (Nat.le_max_left _ _), rfl⟩

theorem seedProtocol_ready {h : Nat} (hsettled : Settled s) (hhigh : s.highWater = some h)
    (hbase : timestampBase ≤ h) (hcovered : Covered s issued)
    (hbuild : core.buildEpochSec ≤ uint32Max) (hok : (seedProtocol core true h).1 = espOk) :
    Seeded s (seedProtocol core true h).2 issued := by
  have hmax := highWater_le hhigh
  have hissued : ∀ t ∈ issued, t ≤ h := by
    intro t ht
    obtain ⟨n, hn, hle⟩ := hcovered t ht
    rw [hhigh] at hn
    exact Option.some.inj hn ▸ hle
  have hbound : ∀ p, ReceiptOn p s → p.targetHighWater ≤ h := by
    intro p hp
    obtain ⟨n, hn, hle⟩ := hsettled.mark hp
    rw [hhigh] at hn
    exact Option.some.inj hn ▸ hle
  have hlow : ¬ ((¬ (true = true)) ∨ h < timestampBase) := by
    simpa using hbase
  by_cases hstarted : core.protocolStarted = true
  · rw [seedProtocol, if_pos hstarted] at hok
    exact absurd hok (show espErrInvalidState ≠ espOk by decide)
  · rw [seedProtocol, if_neg hstarted, if_neg hlow]
    have hnone : ∀ {P : Prop}, s.highWater = none → P := by
      intro P hnone
      rw [hhigh] at hnone
      cases hnone
    have hself : ∀ n, s.highWater = some n → h ≤ n := by
      intro n hn
      rw [hhigh] at hn
      exact (Option.some.inj hn).le
    split_ifs with hfull
    · exact ⟨hsettled, Nat.le_refl _, fun hex => Bool.noConfusion hex,
        fun hex => Bool.noConfusion hex, hself, fun hn => hnone hn⟩
    · refine ⟨hsettled, max_le (by omega) hbuild, fun _ t ht => ?_, fun _ p hp => ?_, hself,
        fun hn => hnone hn⟩
      · exact Nat.lt_of_lt_of_le (Nat.lt_succ_of_le (hissued t ht)) (Nat.le_max_left _ _)
      · exact Nat.lt_of_lt_of_le (Nat.lt_succ_of_le (hbound p hp)) (Nat.le_max_left _ _)

theorem seedLoaded_ready (ram : Ram) (ret : EspErr) (core : Core) (state : PersistenceState) :
    (ram.seedLoaded ret core state).protocolSeedReady = true ↔ ret = espOk := by
  simp [Ram.seedLoaded]

theorem classifyProtocolSeed_some (h : Nat) :
    classifyProtocolSeed false true h = if timestampBase ≤ h then .ready else .corrupt := rfl

theorem seed_ready (ram : Ram) (x : EspErr × Migration.Status) :
    (ram.seed x).2.protocolSeedReady = true ↔ (ram.seed x).1 = espOk := by
  unfold Ram.seed
  dsimp only
  by_cases hgo : x.1 = espOk ∧ (x.2.state = .absent ∨ x.2.state = .complete)
  · rw [if_pos hgo]
    split <;> exact seedLoaded_ready _ _ _ _
  · rw [if_neg hgo]
    exact seedLoaded_ready _ _ _ _

theorem seed_refused (ram : Ram) {x : EspErr × Migration.Status}
    (h : ¬ (x.1 = espOk ∧ (x.2.state = .absent ∨ x.2.state = .complete))) :
    (ram.seed x).1 ≠ espOk := by
  unfold Ram.seed
  dsimp only
  rw [if_neg h]
  by_cases hread : x.1 = espOk
  · rw [if_pos hread]
    exact (show espErrInvalidState ≠ espOk by decide)
  · rw [if_neg hread]
    exact hread

theorem seed_view (hbuild : ram.core.buildEpochSec ≤ uint32Max) (hcovered : Covered s issued)
    (hok : (ram.seed (Migration.view s)).1 = espOk) :
    Seeded s (ram.seed (Migration.view s)).2.core issued := by
  have hgo : (Migration.view s).1 = espOk ∧ ((Migration.view s).2.state = .absent ∨
      (Migration.view s).2.state = .complete) :=
    Classical.byContradiction fun hrefused => seed_refused ram hrefused hok
  obtain ⟨hsettled, hpresent, hobserved⟩ := Migration.settled_of_view hgo.1 hgo.2
  unfold Ram.seed at hok ⊢
  dsimp only at hok ⊢
  rw [if_pos hgo, hpresent, hobserved] at hok ⊢
  cases hhigh : s.highWater with
  | none =>
    rw [hhigh] at hok
    obtain rfl := hcovered.none hhigh
    exact seedProtocol_fresh hsettled hhigh hbuild hok
  | some h =>
    rw [hhigh] at hok
    dsimp only [Option.isSome, Option.getD] at hok ⊢
    rw [if_pos rfl, classifyProtocolSeed_some] at hok ⊢
    by_cases hbase : timestampBase ≤ h
    · rw [if_pos hbase] at hok ⊢
      exact seedProtocol_ready hsettled hhigh hbase hcovered hbuild hok
    · rw [if_neg hbase] at hok
      exact absurd hok (show espErrInvalidState ≠ espOk by decide)

theorem seed_frame (ram : Ram) (x : EspErr × Migration.Status) :
    (ram.seed x).2.initialized = ram.initialized ∧
      (ram.seed x).2.core.buildEpochSec = ram.core.buildEpochSec := by
  have hbuild : ∀ core : Core, ∀ persisted n,
      (seedProtocol core persisted n).2.buildEpochSec = core.buildEpochSec := by
    intro core persisted n
    unfold seedProtocol
    dsimp only
    split_ifs <;> rfl
  unfold Ram.seed
  dsimp only
  by_cases hgo : x.1 = espOk ∧ (x.2.state = .absent ∨ x.2.state = .complete)
  · rw [if_pos hgo]
    split
    · exact ⟨rfl, hbuild _ _ _⟩
    · exact ⟨rfl, hbuild _ _ _⟩
    · exact ⟨rfl, rfl⟩
  · rw [if_neg hgo]
    exact ⟨rfl, rfl⟩

end Seeding

end Sigui.Time
