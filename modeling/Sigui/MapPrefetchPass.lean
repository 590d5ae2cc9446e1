import Mathlib.Data.List.Nodup
import Mathlib.Data.List.Range
import Mathlib.Data.Nat.ModEq
import Sigui.Text

/-! The background download of a map plan: one pass over its tiles, and where the next pass
resumes. -/
namespace Sigui.Prefetch

/-- `d1l_map_prefetch_key_t` -/
structure Key where
  markerGeneration : Nat
  storageBackendGeneration : Nat
  storageCapacityKb : Nat
  averageTileBytes : Nat
  cacheBudgetMb : Nat
  centerLatE7 : Int
  centerLonE7 : Int
  viewportLatE6 : Int
  viewportLonE6 : Int
  providerMaxZoom : Nat
  viewportValid : Bool
  sourceId : List UInt8
deriving DecidableEq

def resumeIdentityEqual (left right : Key) : Bool :=
  decide ({ left with markerGeneration := 0, storageBackendGeneration := 0 } =
    { right with markerGeneration := 0, storageBackendGeneration := 0 })

/-- What `note_stop_state` looks at. -/
structure StopLook where
  visibleMapActive : Bool
  planStale : Bool
  wifiConnected : Bool

/-- What the calls made for one tile answer, in their order. -/
structure TileLook where
  continues : Bool
  tileAt : Bool
  cachedRet : EspErr
  cached : Bool
  downloadRoom : Bool
  fetchRet : EspErr
  statusCode : Nat
  retryAfterSec : Nat
  cancelled : Bool
  step : String
  continuesAfter : Bool
  planStale : Bool
  stop : StopLook
  nowUs : Int

structure Status where
  running : Bool := false
  complete : Bool := false
  pausedForVisibleMap : Bool := false
  storageReserveReached : Bool := false
  cachedTiles : Nat := 0
  downloadedTiles : Nat := 0
  failedTiles : Nat := 0
  visitedTiles : Nat := 0
  retryAfterSec : Nat := 0
  lastError : EspErr := espOk
  phase : String := ""
  message : String := ""

structure Service where
  completedKey : Option Key
  resumeKey : Option Key
  resumeIndex : Nat
  backoffUntilUs : Int

inductive Outcome
  | cached
  | downloaded
  | failed
  | cancelled
  | busy
  | rateLimited
  | reserved
deriving DecidableEq

def Outcome.isSuccess : Outcome → Bool
  | .cached | .downloaded => true
  | _ => false

structure Pass where
  service : Service
  status : Status
  attempts : List (Nat × Outcome)

def Status.setPhase (s : Status) (phase message : String) : Status :=
  { s with phase := phase, message := message }

def Status.stop (s : Status) (error : EspErr) (phase message : String) : Status :=
  { s with lastError := error, running := false }.setPhase phase message

def noteStopState (s : Status) (look : StopLook) : Status :=
  let s := { s with running := false }
  if look.visibleMapActive then
    { s with pausedForVisibleMap := true }.setPhase "paused_visible"
      "Background map download paused while Map is open"
  else if look.planStale then
    s.setPhase "replanning" "Node locations changed; rebuilding the map area"
  else if look.wifiConnected = false then
    s.setPhase "wifi_required" "Background map download waits for Wi-Fi"
  else s.setPhase "retrying" "Background map download will retry"

def Service.noteResumeProgress (s : Service) (index totalTiles : Nat) : Service :=
  if 0 < totalTiles then { s with resumeIndex := (index + 1) % totalTiles } else s

def errorBackoffUs : Int := 30 * 1000000
def defaultRateBackoffSec : Nat := 300

def Pass.attempted (p : Pass) (index : Nat) (outcome : Outcome) : Pass :=
  { p with attempts := p.attempts ++ [(index, outcome)] }

/-- After a tile that is there; a stale plan stops the pass behind it. -/
def Pass.progressed (p : Pass) (totalTiles index : Nat) (outcome : Outcome) (look : TileLook) :
    Pass × Bool :=
  let p := { p.attempted index outcome with
    service := p.service.noteResumeProgress index totalTiles }
  if look.planStale then ({ p with status := noteStopState p.status look.stop }, false)
  else (p, true)

inductive Branch
  | stopped
  | planError
  | cached
  | cacheBusy
  | cacheCheck
  | reserve
  | fetchBusy
  | rateLimited
  | downloaded
  | cancelled
  | downloadError
deriving DecidableEq

def TileLook.branch (look : TileLook) : Branch :=
  if look.continues = false then .stopped
  else if look.tileAt = false then .planError
  else if look.cachedRet = espOk ∧ look.cached = true then .cached
  else if look.cachedRet = espErrNotFinished then .cacheBusy
  else if look.cachedRet ≠ espErrNotFound then .cacheCheck
  else if look.downloadRoom = false then .reserve
  else if look.fetchRet = espErrNotFinished then .fetchBusy
  else if look.statusCode = 429 ∨ look.statusCode = 503 then .rateLimited
  else if look.fetchRet = espOk then .downloaded
  else if look.cancelled ∨ look.continuesAfter = false ∨ look.planStale then .cancelled
  else .downloadError

/-- The body of the loop in `run_plan`, and whether it goes on. -/
def tileStep (totalTiles index : Nat) (look : TileLook) (p : Pass) : Pass × Bool :=
  let s := p.status
  let failed := { s with failedTiles := s.failedTiles + 1 }
  let visited := { failed with visitedTiles := s.visitedTiles + 1 }
  match look.branch with
  | .stopped => ({ p with status := noteStopState s look.stop }, false)
  | .planError =>
    ({ p with
        status := failed.stop espErrInvalidState "plan_error"
          "The background map plan was invalid" }, false)
  | .cached =>
    Pass.progressed { p with status := { s with
        cachedTiles := s.cachedTiles + 1, visitedTiles := s.visitedTiles + 1 } }
      totalTiles index .cached look
  | .cacheBusy =>
    ({ p.attempted index .busy with
        status := s.stop look.cachedRet "storage_busy"
          "Background map download is waiting for SD storage" }, false)
  | .cacheCheck =>
    ({ p.attempted index .failed with
        status := failed.stop look.cachedRet "cache_check"
          "The SD map cache could not be checked"
        service := { p.service with backoffUntilUs := look.nowUs + errorBackoffUs } }, false)
  | .reserve =>
    ({ p.attempted index .reserved with
        status := { s with storageReserveReached := true }.stop s.lastError "storage_reserve"
          "Map download stopped at the 8 GB card reserve" }, false)
  | .fetchBusy =>
    ({ p.attempted index .busy with
        status := s.stop look.fetchRet "storage_busy"
          "Background map download is waiting for SD storage" }, false)
  | .rateLimited =>
    let retry := if 0 < look.retryAfterSec then look.retryAfterSec else defaultRateBackoffSec
    ({ p.attempted index .rateLimited with
        status := { visited with retryAfterSec := retry }.stop look.fetchRet "rate_limited"
          "Map provider asked the background download to wait"
        service := { p.service with backoffUntilUs := look.nowUs + retry * 1000000 } }, false)
  | .downloaded =>
    Pass.progressed { p with status := { s with
        downloadedTiles := s.downloadedTiles + 1, visitedTiles := s.visitedTiles + 1 } }
      totalTiles index .downloaded look
  | .cancelled => ({ p.attempted index .cancelled with status := noteStopState s look.stop }, false)
  | .downloadError =>
    ({ p.attempted index .failed with
        status := visited.stop look.fetchRet
          (if look.step = "" then "download_error" else look.step)
          "A background map tile could not be downloaded"
        service := { p.service with backoffUntilUs := look.nowUs + errorBackoffUs } }, false)

def Pass.finish (p : Pass) (key : Key) : Pass where
  service := { p.service with resumeIndex := 0, resumeKey := some key, completedKey := some key }
  status := { p.status with running := false, complete := true }.setPhase
    "ready" "Local node map is cached at the highest detail that fits"
  attempts := p.attempts

/-- The loop with `left` tiles to go, `offset` of them behind it; the oracle knows the tiles by
their index in the plan. -/
def passFrom (totalTiles start : Nat) (key : Key) (oracle : Nat → TileLook) :
    Nat → Nat → Pass → Pass
  | 0, _, p => p.finish key
  | left + 1, offset, p =>
    let index := (start + offset) % totalTiles
    let turn := tileStep totalTiles index (oracle index) p
    if turn.2 then passFrom totalTiles start key oracle left (offset + 1) turn.1 else turn.1

def startIndex (service : Service) (key : Key) (totalTiles : Nat) : Nat :=
  (if service.resumeKey.any (resumeIdentityEqual · key) then service.resumeIndex else 0) %
    totalTiles

/-- `run_plan` -/
def runPlan (totalTiles : Nat) (key : Key) (oracle : Nat → TileLook) (service : Service)
    (status : Status) : Pass :=
  let start := startIndex service key totalTiles
  let resumeIndex :=
    if service.resumeKey.any (resumeIdentityEqual · key) then service.resumeIndex else 0
  passFrom totalTiles start key oracle totalTiles 0
    ⟨{ service with resumeIndex := resumeIndex, resumeKey := some key },
      { status with running := true }.setPhase
        "downloading" "Downloading the local node map in the background", []⟩

/-- The statics before pass `k` of a run, whose passes have their own answers. -/
def serviceAt (totalTiles : Nat) (key : Key) (oracle : Nat → Nat → TileLook)
    (service : Service) : Nat → Service
  | 0 => service
  | k + 1 =>
    (runPlan totalTiles key (oracle k) (serviceAt totalTiles key oracle service k) {}).service

/-- The tiles that pass `k` attempts. -/
def attemptsOf (totalTiles : Nat) (key : Key) (oracle : Nat → Nat → TileLook) (service : Service)
    (k : Nat) : List Nat :=
  (runPlan totalTiles key (oracle k) (serviceAt totalTiles key oracle service k) {}).attempts.map
    Prod.fst

def Branch.inVain : Branch → Bool
  | .stopped | .planError | .cached | .downloaded => false
  | _ => true

def TileLook.succeeds (look : TileLook) : Prop :=
  (look.branch = .cached ∨ look.branch = .downloaded) ∧ look.planStale = false

/-- The tile is attempted, and it is not there afterwards. -/
def TileLook.fails (look : TileLook) : Prop := look.branch.inVain = true

section Steps

variable {totalTiles index : Nat} {look : TileLook} {p : Pass}

theorem noteStopState_complete (s : Status) (look : StopLook) :
    (noteStopState s look).complete = s.complete := by
  unfold noteStopState
  dsimp only
  split_ifs <;> rfl

theorem progressed_complete (p : Pass) (outcome : Outcome) :
    (p.progressed totalTiles index outcome look).1.status.complete = p.status.complete := by
  unfold Pass.progressed
  dsimp only
  split_ifs
  · exact noteStopState_complete _ _
  · rfl

/-- No turn of the loop sets the flag. -/
theorem tileStep_complete :
    (tileStep totalTiles index look p).1.status.complete = p.status.complete := by
  unfold tileStep
  cases look.branch
  case stopped | cancelled => exact noteStopState_complete _ _
  case cached | downloaded => exact progressed_complete _ _
  all_goals rfl

theorem progressed_goes_on {outcome : Outcome}
    (h : (p.progressed totalTiles index outcome look).2 = true) :
    (p.progressed totalTiles index outcome look).1.attempts = p.attempts ++ [(index, outcome)] := by
  unfold Pass.progressed at h ⊢
  dsimp only at h ⊢
  split_ifs at h ⊢
  rfl

/-- The loop goes on behind a tile that is there. -/
theorem tileStep_goes_on (h : (tileStep totalTiles index look p).2 = true) :
    ∃ outcome : Outcome, outcome.isSuccess = true ∧
      (tileStep totalTiles index look p).1.attempts = p.attempts ++ [(index, outcome)] := by
  unfold tileStep at h ⊢
  cases hbranch : look.branch <;> simp only [hbranch] at h ⊢
  case cached => exact ⟨.cached, rfl, progressed_goes_on h⟩
  case downloaded => exact ⟨.downloaded, rfl, progressed_goes_on h⟩
  all_goals cases h

theorem tileStep_succeeds (totalTiles index : Nat) (p : Pass) (h : look.succeeds) :
    (tileStep totalTiles index look p).2 = true ∧
      (tileStep totalTiles index look p).1.attempts.map Prod.fst =
        p.attempts.map Prod.fst ++ [index] ∧
      (tileStep totalTiles index look p).1.service =
        p.service.noteResumeProgress index totalTiles := by
  obtain ⟨hbranch | hbranch, hstale⟩ := h <;>
    simp [tileStep, hbranch, Pass.progressed, hstale, Pass.attempted]

/-- A tile that fails ends the pass, and the next one resumes where this one was. -/
theorem tileStep_fails (totalTiles index : Nat) (p : Pass) (h : look.fails) :
    (tileStep totalTiles index look p).2 = false ∧
      (tileStep totalTiles index look p).1.attempts.map Prod.fst =
        p.attempts.map Prod.fst ++ [index] ∧
      (tileStep totalTiles index look p).1.service.resumeIndex = p.service.resumeIndex ∧
      (tileStep totalTiles index look p).1.service.resumeKey = p.service.resumeKey := by
  unfold TileLook.fails at h
  unfold tileStep
  cases hbranch : look.branch <;> rw [hbranch] at h
  case stopped | planError | cached | downloaded => cases h
  all_goals simp [Pass.attempted]

end Steps

section Passes

variable {totalTiles start : Nat} {key : Key} {oracle : Nat → TileLook}

def tileOrder (totalTiles start count : Nat) : List Nat :=
  (List.range count).map fun offset => (start + offset) % totalTiles

/-- A pass that completes has gone on behind each of its tiles. -/
theorem passFrom_complete {left offset : Nat} {p : Pass} (hp : p.status.complete = false)
    (h : (passFrom totalTiles start key oracle left offset p).status.complete = true) :
    ∃ outcomes : List Outcome, (∀ o ∈ outcomes, o.isSuccess = true) ∧
      (passFrom totalTiles start key oracle left offset p).attempts = p.attempts ++
        ((List.range' offset left).map fun i => (start + i) % totalTiles).zip outcomes ∧
      outcomes.length = left := by
  induction left generalizing offset p with
  | zero => exact ⟨[], by simp, by simp [passFrom, Pass.finish], rfl⟩
  | succ left ih =>
    rw [passFrom] at h ⊢
    split_ifs at h ⊢ with hgo
    · obtain ⟨outcome, hsuccess, hattempts⟩ := tileStep_goes_on hgo
      obtain ⟨outcomes, hall, hlater, hlength⟩ := ih (tileStep_complete.trans hp) h
      refine ⟨outcome :: outcomes, List.forall_mem_cons.mpr ⟨hsuccess, hall⟩, ?_,
        congrArg Nat.succ hlength⟩
      rw [hlater, hattempts, List.append_assoc]
      rfl
    · rw [tileStep_complete, hp] at h
      cases h

theorem nodup_tileOrder (totalTiles start : Nat) :
    (tileOrder totalTiles start totalTiles).Nodup := by
  apply List.Nodup.map_on ?_ List.nodup_range
  intro a ha b hb heq
  have hmod : a ≡ b [MOD totalTiles] := Nat.ModEq.add_left_cancel' start heq
  exact Nat.ModEq.eq_of_lt_of_lt hmod (List.mem_range.mp ha) (List.mem_range.mp hb)

/-- Every tile of the plan once. -/
theorem count_tileOrder (htotal : 0 < totalTiles) (start : Nat) {i : Nat} (hi : i < totalTiles) :
    (tileOrder totalTiles start totalTiles).count i = 1 := by
  apply List.count_eq_one_of_mem (nodup_tileOrder totalTiles start)
  -- the offset from the start, once round if need be
  apply List.mem_map.mpr
  refine ⟨(i + totalTiles - start % totalTiles) % totalTiles,
    List.mem_range.mpr (Nat.mod_lt _ htotal), ?_⟩
  have hstart : start % totalTiles < totalTiles := Nat.mod_lt _ htotal
  calc (start + (i + totalTiles - start % totalTiles) % totalTiles) % totalTiles
      = (start % totalTiles + (i + totalTiles - start % totalTiles)) % totalTiles := by
        rw [Nat.add_mod_mod, Nat.mod_add_mod]
    _ = (i + totalTiles) % totalTiles := by
        congr 1
        omega
    _ = i := by rw [Nat.add_mod_right, Nat.mod_eq_of_lt hi]

/-- Up to the first tile that fails, and no further. -/
theorem passFrom_fails (htotal : 0 < totalTiles) {f left offset : Nat} {p : Pass} (hf : f < left)
    (hbefore : ∀ d < f, (oracle ((start + (offset + d)) % totalTiles)).succeeds)
    (hfails : (oracle ((start + (offset + f)) % totalTiles)).fails)
    (hresume : p.service.resumeIndex % totalTiles = (start + offset) % totalTiles) :
    let q := passFrom totalTiles start key oracle left offset p
    q.attempts.map Prod.fst = p.attempts.map Prod.fst ++
        (List.range' offset (f + 1)).map (fun i => (start + i) % totalTiles) ∧
      q.service.resumeIndex % totalTiles = (start + (offset + f)) % totalTiles ∧
      q.service.resumeKey = p.service.resumeKey := by
  intro q
  obtain ⟨left, rfl⟩ : ∃ n, left = n + 1 := ⟨left - 1, by omega⟩
  induction f generalizing left offset p with
  | zero =>
    have hhere : (oracle ((start + offset) % totalTiles)).fails := hfails
    obtain ⟨hstop, hattempts, hindex, hkey⟩ := tileStep_fails totalTiles _ p hhere
    have hq : q = (tileStep totalTiles ((start + offset) % totalTiles)
        (oracle ((start + offset) % totalTiles)) p).1 :=
      if_neg (by rw [hstop]; exact Bool.noConfusion)
    rw [hq]
    exact ⟨hattempts, by rw [hindex, hresume]; rfl, hkey⟩
  | succ f ih =>
    have hhere : (oracle ((start + offset) % totalTiles)).succeeds := hbefore 0 (Nat.succ_pos f)
    obtain ⟨hgo, hattempts, hservice⟩ := tileStep_succeeds totalTiles _ p hhere
    have hq : q = passFrom totalTiles start key oracle left (offset + 1)
        (tileStep totalTiles ((start + offset) % totalTiles)
          (oracle ((start + offset) % totalTiles)) p).1 := if_pos hgo
    have hshift : ∀ d, start + (offset + (d + 1)) = start + (offset + 1 + d) := fun d => by omega
    obtain ⟨left', rfl⟩ : ∃ n, left = n + 1 := ⟨left - 1, by omega⟩
    have hnext : (tileStep totalTiles ((start + offset) % totalTiles)
        (oracle ((start + offset) % totalTiles)) p).1.service.resumeIndex % totalTiles =
          (start + (offset + 1)) % totalTiles := by
      rw [hservice, Service.noteResumeProgress, if_pos htotal]
      dsimp only
      rw [Nat.mod_mod, Nat.mod_add_mod, Nat.add_assoc]
    obtain ⟨hlater, hindex, hkey⟩ := ih
      (fun d hd => by rw [← hshift]; exact hbefore (d + 1) (by omega))
      (by rw [← hshift]; exact hfails) hnext left' (by omega)
    rw [hq]
    refine ⟨?_, by rw [hindex, ← hshift], hkey.trans ?_⟩
    rotate_left
    · rw [hservice, Service.noteResumeProgress, if_pos htotal]
    · rw [hlater, hattempts, List.append_assoc]
      rfl

/-- Without a failure the pass goes through. -/
theorem passFrom_succeeds {left offset : Nat} {p : Pass}
    (h : ∀ d < left, (oracle ((start + (offset + d)) % totalTiles)).succeeds) :
    let q := passFrom totalTiles start key oracle left offset p
    q.status.complete = true ∧ q.attempts.map Prod.fst = p.attempts.map Prod.fst ++
      (List.range' offset left).map (fun i => (start + i) % totalTiles) := by
  intro q
  induction left generalizing offset p with
  | zero => exact ⟨rfl, (List.append_nil _).symm⟩
  | succ left ih =>
    have hhere : (oracle ((start + offset) % totalTiles)).succeeds := h 0 (Nat.succ_pos left)
    obtain ⟨hgo, hattempts, -⟩ := tileStep_succeeds totalTiles _ p hhere
    have hq : q = passFrom totalTiles start key oracle left (offset + 1)
        (tileStep totalTiles ((start + offset) % totalTiles)
          (oracle ((start + offset) % totalTiles)) p).1 := if_pos hgo
    obtain ⟨hcomplete, hlater⟩ := @ih (offset + 1) _ fun d hd => by
      rw [Nat.add_assoc offset, Nat.add_comm 1]
      exact h (d + 1) (by omega)
    rw [hq]
    refine ⟨hcomplete, ?_⟩
    rw [hlater, hattempts, List.append_assoc]
    rfl

theorem resumeIdentityEqual_self (key : Key) : resumeIdentityEqual key key = true :=
  decide_eq_true rfl

theorem startIndex_of_key {service : Service} {key : Key} (h : service.resumeKey = some key) :
    startIndex service key totalTiles = service.resumeIndex % totalTiles := by
  unfold startIndex
  rw [h, Option.any_some, resumeIdentityEqual_self]
  rfl

theorem runPlan_fails (htotal : 0 < totalTiles) (key : Key) (oracle : Nat → TileLook)
    (service : Service) (status : Status) {f : Nat} (hf : f < totalTiles)
    (hbefore : ∀ d < f,
      (oracle ((startIndex service key totalTiles + d) % totalTiles)).succeeds)
    (hfails : (oracle ((startIndex service key totalTiles + f) % totalTiles)).fails) :
    let q := runPlan totalTiles key oracle service status
    q.attempts.map Prod.fst = tileOrder totalTiles (startIndex service key totalTiles) (f + 1) ∧
      startIndex q.service key totalTiles =
        (startIndex service key totalTiles + f) % totalTiles := by
  intro q
  have hpass := @passFrom_fails totalTiles (startIndex service key totalTiles) key oracle htotal f
    totalTiles 0
    ⟨{ service with
      resumeIndex :=
        if service.resumeKey.any (resumeIdentityEqual · key) then service.resumeIndex else 0
      resumeKey := some key },
      { status with running := true }.setPhase
        "downloading" "Downloading the local node map in the background", []⟩ hf
  obtain ⟨hattempts, hindex, hkey⟩ := hpass
    (fun d hd => by rw [Nat.zero_add]; exact hbefore d hd) (by rw [Nat.zero_add]; exact hfails)
    (Nat.mod_mod _ _).symm
  refine ⟨?_, ?_⟩
  · rw [tileOrder, List.range_eq_range']
    exact hattempts
  · have hstart : startIndex q.service key totalTiles = q.service.resumeIndex % totalTiles :=
      startIndex_of_key hkey
    rw [hstart, ← Nat.zero_add f]
    exact hindex

end Passes

section Runs

variable {totalTiles : Nat} {key : Key} {oracle : Nat → Nat → TileLook} {service : Service}

/-- Once a tile keeps failing, every pass attempts that tile and no other. -/
theorem run_stuck (htotal : 0 < totalTiles) {g k : Nat}
    (hstart : startIndex (serviceAt totalTiles key oracle service k) key totalTiles = g)
    (hfails : ∀ n, (oracle n g).fails) (j : Nat) :
    attemptsOf totalTiles key oracle service (k + j) = [g] ∧
      startIndex (serviceAt totalTiles key oracle service (k + j + 1)) key totalTiles = g := by
  have hg : g % totalTiles = g := by
    rw [← hstart]
    exact Nat.mod_mod _ _
  have hturn : ∀ n, startIndex (serviceAt totalTiles key oracle service n) key totalTiles = g →
      attemptsOf totalTiles key oracle service n = [g] ∧
        startIndex (serviceAt totalTiles key oracle service (n + 1)) key totalTiles = g := by
    intro n hn
    have hpass := runPlan_fails htotal key (oracle n)
      (serviceAt totalTiles key oracle service n) {} htotal (fun d hd => by cases hd)
      (by rw [hn, Nat.add_zero, hg]; exact hfails n)
    rw [hn] at hpass
    refine ⟨hpass.1.trans ?_, hpass.2.trans hg⟩
    simp [tileOrder, hg]
  induction j with
  | zero => exact hturn k hstart
  | succ j ih => exact hturn (k + (j + 1)) ih.2

/-- A pass completes only with every tile of the plan found or downloaded once in it. A tile that
keeps failing holds the run: the tiles before it, from the resume index on, are attempted in the
first pass, and after that it is the only tile that is attempted. -/
theorem failing_tile_holds_the_prefetch (htotal : 0 < totalTiles) :
    (∀ (oracle : Nat → TileLook) (status : Status), status.complete = false →
      (runPlan totalTiles key oracle service status).status.complete = true →
      (∀ a ∈ (runPlan totalTiles key oracle service status).attempts, a.2.isSuccess = true) ∧
      ∀ i < totalTiles,
        ((runPlan totalTiles key oracle service status).attempts.map Prod.fst).count i = 1) ∧
    (∀ good : Nat → Bool, (∀ k, ∀ i < totalTiles,
        if good i then (oracle k i).succeeds else (oracle k i).fails) →
      ∀ f < totalTiles,
        (∀ d < f, good ((startIndex service key totalTiles + d) % totalTiles) = true) →
        good ((startIndex service key totalTiles + f) % totalTiles) = false →
        attemptsOf totalTiles key oracle service 0 =
          tileOrder totalTiles (startIndex service key totalTiles) (f + 1) ∧
        ∀ k, attemptsOf totalTiles key oracle service (k + 1) =
          [(startIndex service key totalTiles + f) % totalTiles]) ∧
    ((∀ i < totalTiles, (oracle 0 i).succeeds) →
      attemptsOf totalTiles key oracle service 0 =
          tileOrder totalTiles (startIndex service key totalTiles) totalTiles ∧
        (runPlan totalTiles key (oracle 0) service {}).status.complete = true) := by
  refine ⟨?_, ?_, ?_⟩
  · intro oracle status hnot hcomplete
    obtain ⟨outcomes, hall, hattempts, hlength⟩ := passFrom_complete hnot hcomplete
    have hfull : (runPlan totalTiles key oracle service status).attempts =
        (tileOrder totalTiles (startIndex service key totalTiles) totalTiles).zip outcomes := by
      rw [tileOrder, List.range_eq_range']
      exact hattempts
    have hsame : (tileOrder totalTiles (startIndex service key totalTiles) totalTiles).length =
        outcomes.length := by
      rw [hlength, tileOrder, List.length_map, List.length_range]
    rw [hfull]
    refine ⟨fun a ha => hall a.2 (List.of_mem_zip ha).2, fun i hi => ?_⟩
    rw [List.map_fst_zip hsame.le]
    exact count_tileOrder htotal _ hi
  · intro good hbehaves f hf hbefore hbad
    have hin : ∀ d, (startIndex service key totalTiles + d) % totalTiles < totalTiles :=
      fun d => Nat.mod_lt _ htotal
    have hfails : ∀ k,
        (oracle k ((startIndex service key totalTiles + f) % totalTiles)).fails := by
      intro k
      have h := hbehaves k _ (hin f)
      rw [hbad] at h
      exact h
    obtain ⟨hfirst, hnext⟩ := runPlan_fails htotal key (oracle 0) service {} hf (fun d hd => by
        have h := hbehaves 0 _ (hin d)
        rw [hbefore d hd] at h
        exact h) (hfails 0)
    refine ⟨hfirst, fun k => ?_⟩
    rw [Nat.add_comm]
    have hstart : startIndex (serviceAt totalTiles key oracle service 1) key totalTiles =
        (startIndex service key totalTiles + f) % totalTiles := hnext
    exact (run_stuck htotal hstart hfails k).1
  · intro hall
    obtain ⟨hcomplete, hattempts⟩ := @passFrom_succeeds totalTiles
      (startIndex service key totalTiles) key (oracle 0) totalTiles 0
      ⟨{ service with
        resumeIndex :=
          if service.resumeKey.any (resumeIdentityEqual · key) then service.resumeIndex else 0
        resumeKey := some key },
        Status.setPhase { running := true }
          "downloading" "Downloading the local node map in the background", []⟩
      fun d _ => hall _ (Nat.mod_lt _ htotal)
    refine ⟨?_, hcomplete⟩
    rw [tileOrder, List.range_eq_range']
    exact hattempts

def cachedLook : TileLook where
  continues := true
  tileAt := true
  cachedRet := espOk
  cached := true
  downloadRoom := true
  fetchRet := espOk
  statusCode := 200
  retryAfterSec := 0
  cancelled := false
  step := ""
  continuesAfter := true
  planStale := false
  stop := ⟨false, false, true⟩
  nowUs := 0

def missingLook : TileLook :=
  { cachedLook with
    cachedRet := espErrNotFound, cached := false, fetchRet := espFail, statusCode := 404 }

def mapKey : Key := ⟨1, 1, 1000, 65536, 256, 0, 0, 0, 0, 15, false, [97]⟩

/-- The provider does not have tile 0 of two, which is where every pass starts. -/
def firstMissing (_ index : Nat) : TileLook := if index = 0 then missingLook else cachedLook

theorem second_tile_is_starved :
    (∀ k, (firstMissing k 0).fails ∧ (firstMissing k 1).succeeds) ∧
      ¬∃ k, 1 ∈ attemptsOf 2 mapKey firstMissing ⟨none, none, 0, 0⟩ k := by
  have hlooks : ∀ k, (firstMissing k 0).fails ∧ (firstMissing k 1).succeeds :=
    fun _ => ⟨rfl, Or.inl rfl, rfl⟩
  refine ⟨hlooks, ?_⟩
  rintro ⟨k, hmem⟩
  have hstart : startIndex (serviceAt 2 mapKey firstMissing ⟨none, none, 0, 0⟩ 0) mapKey 2 = 0 :=
    rfl
  have hstuck := (run_stuck (by decide) hstart (fun n => (hlooks n).1) k).1
  rw [Nat.zero_add] at hstuck
  rw [hstuck] at hmem
  cases List.mem_singleton.mp hmem

theorem failing_tile_holds_the_prefetch_first :
    attemptsOf 2 mapKey firstMissing ⟨none, none, 0, 0⟩ 0 = [0] := by
  have hbehaves : ∀ k, ∀ i < 2, if (i == 1) = true then (firstMissing k i).succeeds
      else (firstMissing k i).fails := by
    intro k i hi
    obtain rfl | rfl : i = 0 ∨ i = 1 := by omega
    · exact rfl
    · exact ⟨Or.inl rfl, rfl⟩
  have htotal : 0 < 2 := by decide
  exact ((failing_tile_holds_the_prefetch htotal).2.1 (· == 1) hbehaves 0 htotal
    (fun d hd => absurd hd (Nat.not_lt_zero d)) rfl).1

end Runs

end Sigui.Prefetch
