import Sigui.RunRules
import Sigui.TimeSections

/-! The timestamps of a device over all its boots. -/
namespace Sigui.Time

open Nvs
open Migration (Settled)

section Soundness

def Device.timestamps (d : Device) : List Nat := d.issued.map Prod.fst

/-- A timestamp against the flash at the moment it is returned: a durable mark covers it, no legacy
value is left, and the records can be read and allow it. -/
structure Justified (t : Nat) (s : Migration.Flash) : Prop where
  covered : ∃ h, s.highWater = some h ∧ t ≤ h
  legacy : s.legacy = none
  readable : (Migration.view s).1 = espOk
  allowed : (Migration.view s).2.state = .absent ∨
    (Migration.view s).2.state = .complete ∧ (Migration.view s).2.confirmedUpperBound < t

theorem WellIssued.justified {t : Nat} {earlier : List Nat} {s : Migration.Flash}
    (h : WellIssued t earlier s) : Justified t s := by
  obtain ⟨hread, hstate⟩ := h.settled.view
  refine ⟨h.covered, h.settled.1, hread, ?_⟩
  rcases hstate with ⟨-, habsent⟩ | ⟨p, n, hp, -, -, hcomplete, hbound⟩
  · exact .inl habsent
  · right
    rw [hbound]
    exact ⟨hcomplete, h.bound p hp⟩

structure Device.Sound (d : Device) : Prop where
  covered : Covered d.flash.protocol d.timestamps
  increasing : d.timestamps.Pairwise (· > ·)
  justified : ∀ x ∈ d.issued, Justified x.1 x.2.protocol
  ram : ∀ ram, d.ram = some ram → RamSound d.flash.protocol d.timestamps ram

variable {d d' : Device} {ram : Ram} {answers : Answers} {α : Type}

theorem Device.Sound.move (h : d.Sound) (hissued : d'.issued = d.issued)
    (hcovered : Covered d'.flash.protocol d.timestamps)
    (hram : ∀ ram, d'.ram = some ram → RamSound d'.flash.protocol d.timestamps ram) :
    d'.Sound := by
  have htimestamps : d'.timestamps = d.timestamps := congrArg (List.map Prod.fst) hissued
  constructor
  · rw [htimestamps]
    exact hcovered
  · rw [htimestamps]
    exact h.increasing
  · rw [hissued]
    exact h.justified
  · rw [htimestamps]
    exact hram

theorem Device.perform_meets {m : Io Flash α} {done : α → Device → Device} {P : Device → Prop}
    {post : α → Flash → Prop} {cutPost : Flash → Prop}
    (hm : m.Meets True (· = d.flash) post cutPost)
    (hdone : ∀ a t, post a t → P (done a { d with flash := t }))
    (hcut : ∀ t, cutPost t → P { d with flash := t }.off) : P (d.perform answers m done) := by
  have hrun := hm answers d.flash (.inl trivial) rfl
  unfold Device.perform
  revert hrun
  rcases m answers d.flash with ⟨_ | a, rest, t⟩
  · exact fun hrun => hcut t hrun.2
  · exact fun hrun => hdone a t hrun.2

theorem Device.Sound.off (h : d.Sound) {flash : Flash}
    (hcovered : Covered flash.protocol d.timestamps) : ({ d with flash := flash }.off).Sound :=
  h.move rfl hcovered fun _ hram => nomatch hram

theorem Device.Sound.perform {m : Io Flash α} {done : α → Device → Device}
    {post : α → Flash → Prop} (h : d.Sound)
    (hm : m.Meets True (· = d.flash) post fun t => Covered t.protocol d.timestamps)
    (hdone : ∀ a t, post a t → (done a { d with flash := t }).Sound) :
    (d.perform answers m done).Sound :=
  Device.perform_meets hm hdone fun _ ht => h.off ht

theorem Device.Sound.performReads {m : Io Flash α} {ramOf : α → Ram} {out : α → Prop} (h : d.Sound)
    (hm : m.Reads True d.flash out)
    (hram : ∀ a, out a → RamSound d.flash.protocol d.timestamps (ramOf a)) :
    (d.perform answers m fun a d => d.withRam (ramOf a)).Sound := by
  apply h.perform (hm.cut_mono ?_)
  · rintro a t ⟨rfl, ha⟩
    refine h.move rfl h.covered fun ram' hram' => ?_
    exact Option.some.inj hram' ▸ hram a ha
  · rintro - t rfl
    exact h.covered

theorem Device.Sound.withRam {ram' : Ram} (h : d.Sound) (hd : d.ram = some ram)
    (hcore : ram'.core.protocol = ram.core.protocol)
    (hready : ram'.protocolSeedReady = ram.protocolSeedReady)
    (hinit : ram'.initialized = ram.initialized) : (d.withRam ram').Sound := by
  refine h.move rfl h.covered fun _ hram => ?_
  exact Option.some.inj hram ▸ (h.ram ram hd).congr hcore hready hinit

theorem Device.Sound.boot (h : d.Sound) (buildEpochSec : Nat) (flights : List Flight) :
    ({ d with ram := some (.booted buildEpochSec), flights := flights }).Sound := by
  refine h.move rfl h.covered fun _ hram => ?_
  obtain rfl := Option.some.inj hram
  exact ⟨fun hr => Bool.noConfusion hr, fun hi => Bool.noConfusion hi,
    fun hr => Bool.noConfusion hr⟩

theorem Device.Sound.next {r : EspErr × Option Nat × Ram} {t : Flash} (h : d.Sound)
    (hr : NextDone d.timestamps r.1 r.2.1 r.2.2 t.protocol) :
    ({ flash := t, ram := some r.2.2, flights := d.flights,
       issued := (r.2.1.map (·, t)).toList ++ d.issued } : Device).Sound := by
  obtain ⟨ret, timestamp, ram'⟩ := r
  cases timestamp with
  | none =>
    refine h.move rfl hr.covered fun _ hram => ?_
    exact Option.some.inj hram ▸ hr.sound
  | some x =>
    have hwell := hr.well x rfl
    constructor
    · exact hr.covered
    · exact List.pairwise_cons.mpr ⟨hwell.above, h.increasing⟩
    · intro y hy
      rcases List.mem_cons.mp hy with rfl | hy
      · exact hwell.justified
      · exact h.justified y hy
    · intro _ hram
      exact Option.some.inj hram ▸ hr.sound

end Soundness

section Steps

variable {d : Device} {ram : Ram}

theorem queueCheckpoint_frame (ram : Ram) (epochSec : Int) (source : WallCheckpoint.Source) :
    (ram.queueCheckpoint epochSec source).core = ram.core ∧
      (ram.queueCheckpoint epochSec source).protocolSeedReady = ram.protocolSeedReady ∧
      (ram.queueCheckpoint epochSec source).initialized = ram.initialized := by
  unfold Ram.queueCheckpoint
  split_ifs <;> exact ⟨rfl, rfl, rfl⟩

theorem flushEnd_frame (ram : Ram) (flight : Flight) (saved : WallCheckpoint.Saved) :
    (ram.flushEnd flight saved).core = ram.core ∧
      (ram.flushEnd flight saved).protocolSeedReady = ram.protocolSeedReady ∧
      (ram.flushEnd flight saved).initialized = ram.initialized := by
  unfold Ram.flushEnd
  dsimp only
  split_ifs <;> exact ⟨rfl, rfl, rfl⟩

theorem acceptSntp_cases (ram : Ram) (generation : Nat) (wall : Int64) (setUs readyUs : Nat) :
    ∃ core : Core, core.protocol = ram.core.protocol ∧
      ((acceptSntp ram generation wall setUs readyUs).2 = { ram with core := core } ∨
        wallMinEpoch ≤ wall.toInt ∧ (acceptSntp ram generation wall setUs readyUs).2 =
          { ram with core := core }.queueCheckpoint wall.toInt .sntp) := by
  have hset := setWallIfGeneration_protocol ram.core generation wall.toInt setUs
    .networkValidated .sntp
  have hobserved := (observeMonotonic_protocol _ readyUs).trans hset
  unfold acceptSntp
  dsimp only
  split_ifs with hgeneration hvalid hearly hfailed
  · exact ⟨_, observeMonotonic_protocol _ _, .inl rfl⟩
  · exact ⟨_, observeMonotonic_protocol _ _, .inl rfl⟩
  · exact ⟨_, rfl, .inl rfl⟩
  · exact ⟨_, hset, .inl rfl⟩
  · exact ⟨_, hobserved, .inr ⟨Int.not_lt.mp hearly, rfl⟩⟩
  · exact ⟨_, hobserved, .inl rfl⟩
  · exact ⟨_, hobserved, .inl rfl⟩

theorem setCompanionTime_cases (ram : Ram) (epochSec : Int64) (clockSet : Bool) (nowUs : Nat) :
    ∃ core : Core, core.protocol = ram.core.protocol ∧
      ((setCompanionTime ram epochSec clockSet nowUs).2 = { ram with core := core } ∨
        (setCompanionTime ram epochSec clockSet nowUs).2 =
          { ram with core := core }.queueCheckpoint epochSec.toInt .companionAuthenticated) := by
  have hset := setWall_protocol ram.core epochSec.toInt nowUs .companionValidated
    .companionAuthenticated
  unfold setCompanionTime
  dsimp only
  split_ifs
  · exact ⟨_, rfl, .inl rfl⟩
  · exact ⟨_, hset, .inr rfl⟩
  · exact ⟨_, hset, .inl rfl⟩
  · exact ⟨_, rfl, .inl rfl⟩

theorem save_protocol (s : Flash) (c : WallCheckpoint.Checkpoint) :
    (onCheckpoint (WallCheckpoint.save c)).Meets True (· = s)
      (fun _ t => t.protocol = s.protocol) fun t => t.protocol = s.protocol := by
  have htrivial : (WallCheckpoint.save c).Meets True (fun _ => True) (fun _ _ => True)
      fun _ => True := .trivial _
  apply htrivial.zoom
  · exact fun _ _ => trivial
  · rintro _ _ _ rfl -
    rfl
  · rintro _ _ rfl -
    rfl

theorem Device.Sound.save (h : d.Sound) (c : WallCheckpoint.Checkpoint)
    (flights : WallCheckpoint.Saved → List Flight → List Flight) (answers : Answers) :
    (d.perform answers (onCheckpoint (WallCheckpoint.save c)) fun saved d' =>
      { d' with flights := flights saved d'.flights }).Sound := by
  have hcovered : ∀ t : Flash, t.protocol = d.flash.protocol → Covered t.protocol d.timestamps := by
    intro t ht
    rw [ht]
    exact h.covered
  apply h.perform ((save_protocol d.flash c).cut_mono fun _ t ht => hcovered t ht)
  intro saved t ht
  refine h.move rfl (hcovered t ht) fun ram hram => ?_
  show RamSound t.protocol d.timestamps ram
  rw [ht]
  exact h.ram ram hram

theorem Device.Sound.queue {core : Core} (h : d.Sound) (hd : d.ram = some ram)
    (hcore : core.protocol = ram.core.protocol) (epochSec : Int) (source : WallCheckpoint.Source) :
    (d.withRam ({ ram with core := core }.queueCheckpoint epochSec source)).Sound := by
  obtain ⟨hqueued, hready, hinit⟩ := queueCheckpoint_frame { ram with core := core } epochSec source
  exact h.withRam hd ((congrArg Core.protocol hqueued).trans hcore) hready hinit

theorem Device.Sound.run (h : d.Sound) (hd : d.ram = some ram) (e : Event) :
    (d.run ram e).Sound := by
  have hsound := h.ram ram hd
  cases e with
  | boot buildEpochSec => exact h.boot buildEpochSec []
  | powerLoss => exact h.off h.covered
  | init nowUs checkpointUs answers =>
    exact h.performReads (serviceInit_reads hsound h.covered nowUs checkpointUs)
      fun _ ha => ha.1
  | preflight ret nowUs answers =>
    show (if ram.initialized then _ else _ : Device).Sound
    split_ifs with hinit
    · exact h.performReads (preflightSection_reads hsound hinit h.covered ret nowUs) fun _ ha => ha
    · exact h
  | next ret nowUs answers =>
    show (if ram.initialized then _ else _ : Device).Sound
    split_ifs with hinit
    · exact h.perform (nextSection_meets hsound hinit h.covered ret nowUs) fun r t hr => h.next hr
    · exact h
  | migrate request nowUs answers =>
    show (if ram.initialized then _ else _ : Device).Sound
    split_ifs with hinit
    · apply h.perform ((migrateSection_keeps hinit request nowUs).mono ?_ fun _ _ ht => ht)
      · intro r t ht
        refine h.move rfl ht.1 fun ram' hram' => ?_
        exact Option.some.inj hram' ▸ ht.2
      · rintro _ rfl
        exact ⟨h.covered, hsound⟩
    · exact h
  | sntp expectedGeneration wall setUs readyUs =>
    show (if ram.initialized then _ else _ : Device).Sound
    split_ifs
    · obtain ⟨core, hcore, heq | ⟨-, heq⟩⟩ :=
        acceptSntp_cases ram expectedGeneration wall setUs readyUs
      · rw [heq]
        exact h.withRam hd hcore rfl rfl
      · rw [heq]
        exact h.queue hd hcore _ _
    · exact h
  | companion epochSec authenticated clockSet nowUs =>
    show (if _ then _ else _ : Device).Sound
    split_ifs
    · obtain ⟨core, hcore, heq | heq⟩ := setCompanionTime_cases ram epochSec clockSet nowUs
      · rw [heq]
        exact h.withRam hd hcore rfl rfl
      · rw [heq]
        exact h.queue hd hcore _ _
    · exact h
  | lowerBound epochSec authenticated nowUs =>
    show (if _ then _ else _ : Device).Sound
    split_ifs
    · exact h.withRam hd (noteAuthenticatedLowerBound_protocol _ _ _) rfl rfl
    · exact h
  | observe nowUs =>
    show (if _ then _ else _ : Device).Sound
    split_ifs
    · exact h.withRam hd (observeMonotonic_protocol _ _) rfl rfl
    · exact h
  | flushBegin force nowUs =>
    show (if _ then _ else _ : Device).Sound
    split_ifs
    · exact h.move rfl h.covered h.ram
    · exact h
  | flushSave flight answers =>
    simp only [Device.run]
    split
    next f _ =>
      split_ifs
      · exact h.save f.copy (fun saved flights => flights.set flight { f with saved := some saved })
          answers
      · exact h
    · exact h
  | flushEnd flight =>
    simp only [Device.run]
    split
    next f _ =>
      split
      next saved _ =>
        obtain ⟨hcore, hready, hinit⟩ := flushEnd_frame ram f saved
        have hended := h.withRam hd (congrArg Core.protocol hcore) hready hinit
        exact hended.move rfl h.covered hended.ram
      · exact h
    · exact h

theorem Device.step_run {ram : Ram} (hd : d.ram = some ram) (e : Event) :
    d.step e = d.run ram e := by
  unfold Device.step
  rw [hd]

theorem Device.Sound.step (h : d.Sound) (e : Event) : (d.step e).Sound := by
  cases hd : d.ram with
  | some ram =>
    rw [Device.step_run hd]
    exact h.run hd e
  | none =>
    unfold Device.step
    rw [hd]
    cases e with
    | boot buildEpochSec => exact h.boot buildEpochSec d.flights
    | _ => exact h

end Steps

section Preflight

variable {ram ram' : Ram} {s s' : Flash} {answers rest : Answers} {ret : EspErr} {nowUs : Nat}

theorem reserveProtocolRange_quiet (ram : Ram) (reservedThrough : Nat) :
    (reserveProtocolRange ram reservedThrough).Meets False (fun _ => True)
      (fun r _ => r.1 = espOk) fun _ => True := by
  apply Faulty.Meets.bind (q := fun r _ => r = espOk)
  · have hreserve : (transact Migration.Flash.createProtocol
        (Migration.Flash.setHighWater · reservedThrough)).Meets False (fun _ => True)
        (fun r _ => r = espOk ∧ True ∨ False ∧ r ≠ espOk ∧ (True ∨ True)) fun _ => True ∨ True :=
      transact_meets (fun _ _ => trivial) fun _ _ => trivial
    apply hreserve.zoom
    · exact fun _ _ => trivial
    · exact fun _ _ _ _ h => h.elim And.left fun h => h.1.elim
    · exact fun _ _ _ _ => trivial
  · intro r
    apply Faulty.Meets.ite
    · exact fun hok => .pure fun _ _ => hok
    · exact fun hne => .pure fun _ hok => absurd hok hne

theorem nextProtocolTimestamp_quiet {core : Core} {t : Nat} (ram : Ram)
    (h : protocolCandidateAt core nowUs = .ok t) :
    (nextProtocolTimestamp core nowUs ram reserveProtocolRange).Meets False (fun _ => True)
      (fun r _ => r.1 = espOk ∧ r.2.1 = some t) fun _ => True := by
  unfold nextProtocolTimestamp
  dsimp only
  rw [protocolCandidateAt_observed, h]
  apply Faulty.Meets.ite
  · intro _
    apply Faulty.Meets.bind (reserveProtocolRange_quiet ram _)
    rintro ⟨r, ram'⟩
    apply Faulty.Meets.ite
    · exact fun hne => .pure fun _ hok => absurd hok hne
    · exact fun _ => .pure fun _ _ => ⟨rfl, rfl⟩
  · exact fun _ => .pure fun _ _ => ⟨rfl, rfl⟩

theorem preflightSection_candidate
    (h : preflightSection ram ret nowUs answers s = (some (espOk, ram'), rest, s')) :
    ensureSeed ram ret answers s = (some (espOk, ram'), rest, s') ∧
      ∃ t, protocolCandidateAt ram'.core nowUs = .ok t := by
  obtain ⟨⟨ret', ram''⟩, rest', s'', hseed, hrun⟩ := Faulty.bind_inv h
  dsimp only at hrun
  split_ifs at hrun with hok
  · obtain ⟨hret, rfl, rfl, rfl⟩ : preflightProtocolTimestamp ram''.core nowUs = espOk ∧
        ram'' = ram' ∧ rest' = rest ∧ s'' = s' := by
      injection hrun with hfirst hlast
      injection hfirst with hfirst
      injection hfirst with hret hram
      injection hlast with hrest hflash
      exact ⟨hret, hram, hrest, hflash⟩
    refine ⟨hok ▸ hseed, ?_⟩
    unfold preflightProtocolTimestamp at hret
    cases hcandidate : protocolCandidateAt ram''.core nowUs with
    | error code =>
      rw [hcandidate] at hret
      exact absurd hret (protocolCandidateAt_error hcandidate)
    | ok t => exact ⟨t, rfl⟩
  · injection hrun with hfirst _
    injection hfirst with hfirst
    injection hfirst with hret _
    exact absurd hret hok

theorem nextSection_after {t : Nat}
    (hseed : ensureSeed ram ret answers s = (some (espOk, ram'), [], s'))
    (hcandidate : protocolCandidateAt ram'.core nowUs = .ok t) :
    ∃ ram'' s'', nextSection ram ret nowUs answers s = (some (espOk, some t, ram''), [], s'') := by
  obtain ⟨⟨r, x, core, ram''⟩, s'', hrun, hok, hx⟩ :=
    (nextProtocolTimestamp_quiet ram' hcandidate).quiet_run (s := s') trivial
  dsimp only at hok hx
  subst hok hx
  refine ⟨{ ram'' with core := core }, s'', ?_⟩
  unfold nextSection
  rw [Faulty.bind_run hseed]
  dsimp only
  rw [if_pos rfl, Faulty.bind_run hrun]
  rfl

theorem next_of_preflight {initUs checkpointUs : Nat}
    (h : servicePreflight ram initUs checkpointUs nowUs answers s =
      (some (espOk, ram'), [], s')) :
    ∃ t ram'' s'', serviceNext ram initUs checkpointUs nowUs answers s =
      (some (espOk, some t, ram''), [], s'') := by
  obtain ⟨⟨ret', started⟩, rest', s₁, hinit, hrun⟩ := Faulty.bind_inv h
  unfold serviceNext
  rw [Faulty.bind_run hinit]
  dsimp only at hrun ⊢
  split_ifs at hrun ⊢ with hfailed
  · injection hrun with hfirst _
    injection hfirst with hfirst
    injection hfirst with hret _
    exact absurd hret hfailed.1
  · obtain ⟨hseed, t, hcandidate⟩ := preflightSection_candidate hrun
    exact ⟨t, nextSection_after hseed hcandidate⟩

theorem recover_attempted (ram : Ram) (loaded : WallCheckpoint.Loaded) (nowUs : Nat) :
    (ram.recover loaded nowUs).checkpointLoadAttempted = true := by
  unfold Ram.recover
  dsimp only
  split_ifs <;> rfl

theorem loadWallCheckpoint_attempts (ram : Ram) (nowUs : Nat) :
    (loadWallCheckpoint ram nowUs).Meets True (fun _ => True)
      (fun r _ => r.protocolSeedReady = ram.protocolSeedReady ∧ r.initialized = ram.initialized ∧
        r.checkpointLoadAttempted) fun _ => True := by
  apply Faulty.Meets.ite
  · exact fun hattempted => .pure fun _ _ => ⟨rfl, rfl, hattempted⟩
  · intro _
    apply Faulty.Meets.bind (Faulty.Meets.trivial _)
    intro loaded
    obtain ⟨-, hready, hinit⟩ := recover_frame ram loaded nowUs
    exact .pure fun _ _ => ⟨hready, hinit, recover_attempted ram loaded nowUs⟩

theorem serviceInit_done (hready : ram.protocolSeedReady → ram.initialized)
    (initUs checkpointUs : Nat) :
    (serviceInit ram initUs checkpointUs).Meets True (fun _ => True)
      (fun r _ => (r.1 = espOk → r.2.protocolSeedReady) ∧
        (r.2.protocolSeedReady → r.2.initialized ∧ r.2.checkpointLoadAttempted))
      fun _ => True := by
  apply Faulty.Meets.ite
  · intro hfailed
    have hunready : ¬ ram.protocolSeedReady := by
      intro hr
      rw [if_pos (hready hr)] at hfailed
      exact hfailed rfl
    exact .pure fun _ _ => ⟨fun hok => absurd hok hfailed, fun hr => absurd hr hunready⟩
  intro _
  apply Faulty.Meets.bind
    (q := fun r _ => (r.1 = espOk → r.2.protocolSeedReady) ∧ r.2.initialized)
  · apply Faulty.Meets.ite
    · exact fun hr => .pure fun _ _ => ⟨fun _ => hr, rfl⟩
    · intro _
      apply Faulty.Meets.bind (Faulty.Meets.trivial _)
      intro x
      exact .pure fun _ _ => ⟨(seed_ready _ x).mpr, (seed_frame _ x).1⟩
  rintro ⟨ret', started⟩
  apply Faulty.Meets.ite
  · intro hr
    refine Faulty.Meets.assume (fun _ h => And.right h) fun hinit => ?_
    apply Faulty.Meets.bind ((loadWallCheckpoint_attempts started checkpointUs).mono
      (fun _ _ => trivial) fun _ _ h => h)
    intro loaded
    apply Faulty.Meets.pure
    rintro _ ⟨hready', hinit', hattempted⟩
    exact ⟨fun _ => hready'.trans hr, fun _ => ⟨hinit'.trans hinit, hattempted⟩⟩
  · intro hunready
    exact .pure fun _ h => ⟨h.1, fun hr => absurd hr hunready⟩

theorem next_after_preflight {initUs checkpointUs : Nat}
    (hready : ram.protocolSeedReady → ram.initialized)
    (h : servicePreflight ram initUs checkpointUs nowUs answers s =
      (some (espOk, ram'), rest, s')) (initUs' checkpointUs' : Nat) :
    ∃ t ram'' s'', serviceNext ram' initUs' checkpointUs' nowUs [] s' =
      (some (espOk, some t, ram''), [], s'') := by
  obtain ⟨⟨ret', started⟩, rest', s₁, hinit, hrun⟩ := Faulty.bind_inv h
  have hdone := (serviceInit_done hready initUs checkpointUs).result (.inl trivial)
    (s := s) trivial (show _ = some (ret', started) by rw [Faulty.result, hinit])
  dsimp only at hrun hdone
  split_ifs at hrun with hfailed
  · injection hrun with hfirst _
    injection hfirst with hfirst
    injection hfirst with hret _
    exact absurd hret hfailed.1
  have hseeded : started.protocolSeedReady = true := by
    by_contra hunready
    exact hfailed ⟨fun hok => hunready (hdone.1 hok), hunready⟩
  obtain ⟨hinitialized, hattempted⟩ := hdone.2 hseeded
  obtain ⟨hseed, t, hcandidate⟩ := preflightSection_candidate hrun
  obtain ⟨rfl, rfl⟩ : ret' = espOk ∧ started = ram' := by
    unfold ensureSeed at hseed
    rw [if_pos hseeded] at hseed
    injection hseed with hfirst _
    injection hfirst with hfirst
    injection hfirst with hret hram
    exact ⟨hret, hram⟩
  -- The init finds everything done, so the section starts from the same state.
  have hidle : serviceInit started initUs' checkpointUs' = pure (espOk, started) := by
    obtain ⟨⟩ := started
    cases hinitialized
    cases hseeded
    cases hattempted
    rfl
  have hensure : ensureSeed started espOk [] s' = (some (espOk, started), [], s') := by
    unfold ensureSeed
    rw [if_pos hseeded]
    rfl
  obtain ⟨ram'', s'', hnext⟩ := nextSection_after hensure hcandidate
  refine ⟨t, ram'', s'', ?_⟩
  unfold serviceNext
  rw [hidle]
  exact hnext

theorem nextSection_refused {x : EspErr × Migration.Status} {r : EspErr × Option Nat × Ram}
    (hready : ram.protocolSeedReady = false)
    (hseen : (onProtocol Migration.inspect).result answers s = some x)
    (hx : ¬ (x.1 = espOk ∧ (x.2.state = .absent ∨ x.2.state = .complete)))
    (hr : (nextSection ram ret nowUs).result answers s = some r) : r.1 ≠ espOk ∧ r.2.1 = none := by
  have hloaded : ∃ rest' s', ensureSeed ram ret answers s = (some (ram.seed x), rest', s') := by
    unfold ensureSeed loadProtocolSeed
    rw [if_neg (by simp [hready])]
    unfold Faulty.result at hseen
    revert hseen
    rcases hrun : onProtocol Migration.inspect answers s with ⟨_ | x', rest', s'⟩
    · exact fun hseen => absurd hseen (by simp)
    · intro hseen
      obtain rfl := Option.some.inj hseen
      exact ⟨rest', s', Faulty.bind_run hrun⟩
  obtain ⟨rest', s', hrun⟩ := hloaded
  unfold Faulty.result nextSection at hr
  rw [Faulty.bind_run hrun] at hr
  dsimp only at hr
  rw [if_neg (seed_refused ram hx)] at hr
  obtain rfl := Option.some.inj hr
  exact ⟨seed_refused ram hx, rfl⟩

end Preflight

def Device.fresh (flash : Flash) : Device := ⟨flash, none, [], []⟩

theorem Device.sound_run (flash : Flash) (events : List Event) :
    (runSteps Device.step (Device.fresh flash) events).Sound := by
  apply run_always fun d e h => h.step e
  exact ⟨fun _ h => absurd h List.not_mem_nil, List.Pairwise.nil, fun _ h => absurd h List.not_mem_nil,
    fun _ h => nomatch h⟩

/-- Over all boots, with any clocks, any failures of NVS and any losses of power: every timestamp is
above all before it and is justified by the flash at the moment it is returned, a call that cannot
read its records or finds them unresolved returns none, and where the preflight succeeds so does
the call, both from the state the preflight started in and from the one it left. -/
theorem protocol_timestamps_strictly_increase (flash : Flash) (events : List Event) :
    let d := runSteps Device.step (Device.fresh flash) events
    d.timestamps.Pairwise (· > ·) ∧ (∀ x ∈ d.issued, Justified x.1 x.2.protocol) ∧
    ∀ ram, d.ram = some ram →
      (∀ ret nowUs answers x, ram.protocolSeedReady = false →
        (onProtocol Migration.inspect).result answers d.flash = some x →
        ¬ (x.1 = espOk ∧ (x.2.state = .absent ∨ x.2.state = .complete)) →
        ∀ r, (nextSection ram ret nowUs).result answers d.flash = some r →
          r.1 ≠ espOk ∧ r.2.1 = none) ∧
      (∀ initUs checkpointUs nowUs answers ram' s',
        servicePreflight ram initUs checkpointUs nowUs answers d.flash =
          (some (espOk, ram'), [], s') →
        (∃ t ram'' s'', serviceNext ram initUs checkpointUs nowUs answers d.flash =
          (some (espOk, some t, ram''), [], s'')) ∧
        ∀ initUs' checkpointUs', ∃ t ram'' s'',
          serviceNext ram' initUs' checkpointUs' nowUs [] s' =
            (some (espOk, some t, ram''), [], s'')) := by
  intro d
  have hsound : d.Sound := Device.sound_run flash events
  refine ⟨hsound.increasing, hsound.justified, fun ram hram => ⟨?_, ?_⟩⟩
  · intro ret nowUs answers x hready hseen hx r hr
    exact nextSection_refused hready hseen hx hr
  · intro initUs checkpointUs nowUs answers ram' s' h
    exact ⟨next_of_preflight h, next_after_preflight (hsound.ram ram hram).ready_initialized h⟩

/-- Two boots: the power is lost in the first one after a timestamp. -/
def twoBoots : List Event :=
  [.boot 1772000000, .init 0 0 [], .next espOk 1000000 [], .next espOk 2000000 [], .powerLoss,
    .boot 1772000000, .init 0 0 [.fail ⟨espFail, by decide, by decide⟩ false],
    .next espErrNotFinished 1000000 [], .init 2000000 2000000 []]

def blankFlash : Flash := ⟨⟨none, none⟩, none⟩

def rebootedDevice : Device := runSteps Device.step (Device.fresh blankFlash) twoBoots

def rebootedRam : Ram := rebootedDevice.ram.getD (.booted 0)

theorem rebooted_timestamps_increase :
    rebootedDevice.timestamps = [1772000064, 1772000001, 1772000000] ∧
      rebootedDevice.timestamps.Pairwise (· > ·) ∧
      ∃ t ram'' s'', serviceNext rebootedRam 2000000 2000000 2000000 [] rebootedDevice.flash =
        (some (espOk, some t, ram''), [], s'') := by
  obtain ⟨hincreasing, -, hram⟩ := protocol_timestamps_strictly_increase blankFlash twoBoots
  have hlive : rebootedDevice.ram = some rebootedRam := by decide +kernel
  have hpreflight : servicePreflight rebootedRam 2000000 2000000 2000000 [] rebootedDevice.flash =
      (some (espOk, rebootedRam), [], rebootedDevice.flash) := by
    decide +kernel
  exact ⟨by decide +kernel, hincreasing, ((hram rebootedRam hlive).2 _ _ _ _ _ _ hpreflight).1⟩

end Sigui.Time
