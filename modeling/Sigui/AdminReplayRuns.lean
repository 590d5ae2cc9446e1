import Sigui.AdminCalls
import Sigui.RunRules

/-! Runs of the admin runtime with reboots: which logins it has let in. -/
namespace Sigui.Admin

/-- The device with the logins that brought its session to authenticated, the newest first. -/
structure Booted where
  device : Device
  logins : List (Key × Nat)

inductive DeviceOp
  | call (call : RuntimeCall)
  | reboot

/-- What this call logged in: the peer and the server timestamp of its response. -/
def loginOf (d d' : Device) : Option (Key × Nat) :=
  if d.runtime.session.state.active = false ∧ d'.runtime.session.state.active = true then
    some (d'.runtime.session.peerPublicKey, d'.runtime.session.serverTimestamp)
  else none

def Booted.step (w : Booted) : DeviceOp → Booted
  | .call call =>
    ⟨(call.run w.device).2, (loginOf w.device (call.run w.device).2).toList ++ w.logins⟩
  | .reboot => ⟨⟨.init, w.device.nvs⟩, w.logins⟩

def Booted.start (nvs : Nvs) : Booted := ⟨⟨.init, nvs⟩, []⟩

section Invariant

def Remembered (nvs : Nvs) (peer : Key) (serverTimestamp : Nat) : Prop :=
  ∃ blob, nvs (durableReplayKey peer) = some blob ∧ blob.record.peerPublicKey = peer ∧
    serverTimestamp ≤ blob.record.highestServerTimestamp

/-- The logins of one peer went forward, and the flash knows of all of them. -/
structure ReplayInv (w : Booted) : Prop where
  remembered : ∀ login ∈ w.logins, Remembered w.device.nvs login.1 login.2
  ordered : w.logins.Pairwise fun newer older => newer.1 = older.1 → older.2 < newer.2
  active : w.device.runtime.session.state.active = true →
    ∃ t, (w.device.runtime.session.peerPublicKey, t) ∈ w.logins

variable {nvs nvs' : Nvs} {peer : Key} {t : Nat} {d d' : Device} {call : RuntimeCall}
  {result : RuntimeResult}

theorem Remembered.write (h : Remembered nvs peer t) {writer : Key} {response : LoginResponse}
    {serverTimestamp : Nat} (hwrite : RecordWrite nvs writer serverTimestamp) :
    Remembered (Function.update nvs (durableReplayKey writer)
      (some (durableRecord writer response serverTimestamp))) peer t := by
  obtain ⟨blob, hblob, hpeer, hle⟩ := h
  by_cases hkey : durableReplayKey peer = durableReplayKey writer
  · rw [hkey] at hblob
    obtain ⟨howner, hlt⟩ := hwrite.older blob hblob
    refine ⟨durableRecord writer response serverTimestamp, ?_, howner.symm.trans hpeer,
      hle.trans hlt.le⟩
    rw [hkey, Function.update_self]
  · exact ⟨blob, by rw [Function.update_of_ne hkey, hblob], hpeer, hle⟩

theorem Remembered.step (h : Remembered nvs peer t) (hstep : NvsStep nvs nvs') :
    Remembered nvs' peer t := by
  rcases hstep with rfl | ⟨writer, response, serverTimestamp, hwrite, rfl⟩
  · exact h
  · exact h.write hwrite

theorem CallStep.nvsStep (h : CallStep d call result d') : NvsStep d.nvs d'.nvs := by
  cases h with
  | kept _ _ _ _ hnvs => exact .inl hnvs
  | refreshed _ _ _ _ _ hnvs => exact .inl hnvs
  | ended _ _ _ _ _ hnvs => exact hnvs
  | beganLogin _ _ _ _ _ hnvs => exact .inl hnvs
  | beganRequest _ _ _ _ _ _ _ hnvs => exact .inl hnvs
  | completed _ _ _ _ _ _ _ _ hnvs => exact .inl hnvs
  | loggedIn _ _ _ _ _ _ hwrite hnvs => exact .inr ⟨_, _, _, hwrite, hnvs⟩

/-- The session becomes authenticated only by a response whose timestamp is in flash. -/
structure LoginStep (d d' : Device) : Prop where
  waiting : d.runtime.session.state = .loginPending
  bound : d'.runtime.session.peerPublicKey = d.runtime.session.peerPublicKey
  write : RecordWrite d.nvs d'.runtime.session.peerPublicKey d'.runtime.session.serverTimestamp
  committed : ∃ response, d'.nvs = Function.update d.nvs
    (durableReplayKey d'.runtime.session.peerPublicKey)
    (some (durableRecord d'.runtime.session.peerPublicKey response
      d'.runtime.session.serverTimestamp))

theorem CallStep.login (h : CallStep d call result d')
    (hbefore : d.runtime.session.state.active = false)
    (hafter : d'.runtime.session.state.active = true) : LoginStep d d' := by
  cases h with
  | kept _ hsession =>
    rw [hsession, hbefore] at hafter
    cases hafter
  | refreshed _ nowUs _ hsession =>
    rw [hsession] at hafter
    exact absurd (hbefore.symm.trans hafter) nofun
  | ended _ _ _ hover => exact absurd ((AdminState.over_iff.mp hover).2.symm.trans hafter) nofun
  | beganLogin _ _ _ hstate =>
    rw [hstate] at hafter
    cases hafter
  | beganRequest _ _ _ hstate =>
    rw [hstate] at hbefore
    cases hbefore
  | completed _ _ _ _ hstate =>
    rw [requestPending_active hstate] at hbefore
    cases hbefore
  | loggedIn plaintext nowUs _ _ hstate hsession hwrite hnvs =>
    have hpeer : d'.runtime.session.peerPublicKey = d.runtime.session.peerPublicKey := by
      rw [hsession]
      rfl
    have htimestamp : d'.runtime.session.serverTimestamp = readLe32 plaintext 0 :=
      congrArg Session.serverTimestamp hsession
    refine ⟨hstate, hpeer, ?_, loginResponse plaintext, ?_⟩
    · rw [hpeer, htimestamp]
      exact hwrite
    · rw [hpeer, htimestamp]
      exact hnvs

theorem CallStep.peer_kept (h : CallStep d call result d')
    (hbefore : d.runtime.session.state.active = true)
    (hafter : d'.runtime.session.state.active = true) :
    d'.runtime.session.peerPublicKey = d.runtime.session.peerPublicKey := by
  cases h with
  | kept _ hsession => exact congrArg Session.peerPublicKey hsession
  | refreshed _ nowUs _ hsession =>
    rw [hsession]
    rfl
  | ended _ _ _ hover => exact absurd ((AdminState.over_iff.mp hover).2.symm.trans hafter) nofun
  | beganLogin _ _ _ hstate =>
    rw [hstate] at hafter
    cases hafter
  | beganRequest _ _ _ _ _ hpeer => exact hpeer
  | completed _ _ _ _ _ _ hpeer => exact hpeer
  | loggedIn plaintext nowUs _ _ hstate =>
    rw [hstate] at hbefore
    cases hbefore

theorem loginOf_eq_none (h : ¬ (d.runtime.session.state.active = false ∧
    d'.runtime.session.state.active = true)) : loginOf d d' = none := if_neg h

theorem ReplayInv.callStep {w : Booted} (h : ReplayInv w) (call : RuntimeCall) :
    ReplayInv (w.step (.call call)) := by
  obtain ⟨d, logins⟩ := w
  have hstep := run_step d call
  unfold Booted.step
  dsimp only
  generalize (call.run d).1 = result, (call.run d).2 = d' at hstep ⊢
  have hold : ∀ login ∈ logins, Remembered d'.nvs login.1 login.2 :=
    fun login hmem => (h.remembered login hmem).step hstep.nvsStep
  by_cases hlogin : d.runtime.session.state.active = false ∧
      d'.runtime.session.state.active = true
  · rw [loginOf, if_pos hlogin]
    obtain ⟨_, _, hwrite, response, hnvs⟩ := hstep.login hlogin.1 hlogin.2
    refine ⟨fun login hmem => ?_, ?_, fun _ => ⟨_, List.mem_cons_self⟩⟩
    · rcases List.mem_cons.mp hmem with rfl | hmem
      · refine ⟨durableRecord d'.runtime.session.peerPublicKey response
          d'.runtime.session.serverTimestamp, ?_, rfl, le_rfl⟩
        rw [hnvs, Function.update_self]
      · exact hold login hmem
    · refine List.pairwise_cons.mpr ⟨fun older hmem hpeer => ?_, h.ordered⟩
      -- the record that knew the older login had to be beaten
      obtain ⟨blob, hblob, _, hle⟩ := h.remembered older hmem
      rw [← hpeer] at hblob
      exact hle.trans_lt (hwrite.older blob hblob).2
  · rw [loginOf_eq_none hlogin]
    refine ⟨hold, h.ordered, fun hafter => ?_⟩
    have hbefore : d.runtime.session.state.active = true := by
      cases hactive : d.runtime.session.state.active with
      | true => rfl
      | false => exact absurd ⟨hactive, hafter⟩ hlogin
    obtain ⟨t, hmem⟩ := h.active hbefore
    exact ⟨t, hstep.peer_kept hbefore hafter ▸ hmem⟩

theorem ReplayInv.step {w : Booted} (h : ReplayInv w) (op : DeviceOp) : ReplayInv (w.step op) := by
  cases op with
  | call call => exact h.callStep call
  | reboot => exact ⟨h.remembered, h.ordered, fun hactive => by cases hactive⟩

theorem replayInv_start (nvs : Nvs) : ReplayInv (.start nvs) where
  remembered := nofun
  ordered := List.Pairwise.nil
  active h := by cases h

end Invariant

theorem CallStep.cache (h : CallStep d call result d')
    (hresult : ∀ considered, result ≠ .response .accepted considered) :
    d'.runtime.replayCache = d.runtime.replayCache := by
  cases h with
  | kept _ _ _ hcache => exact hcache
  | refreshed _ _ _ _ hcache => exact hcache
  | ended _ _ _ _ hcache => exact hcache
  | beganLogin _ _ _ _ hcache => exact hcache
  | beganRequest _ _ _ _ _ _ hcache => exact hcache
  | completed _ _ _ _ _ _ _ hcache => exact hcache
  | loggedIn _ _ _ hr => exact absurd hr (hresult true)

/-- What no sequence of calls, storage failures and reboots can break. -/
structure ReplaySafe (w : Booted) : Prop where
  /-- The logins of one peer are strictly increasing in their server timestamps. -/
  increasing : w.logins.Pairwise fun newer older => newer.1 = older.1 → older.2 < newer.2
  /-- A login is let in only with its timestamp committed. -/
  durable : ∀ call : RuntimeCall, w.device.runtime.session.state.active = false →
    (call.run w.device).2.runtime.session.state.active = true →
    LoginStep w.device (call.run w.device).2
  known : w.device.runtime.session.state.active = true →
    ∃ t, (w.device.runtime.session.peerPublicKey, t) ∈ w.logins ∧
      Remembered w.device.nvs w.device.runtime.session.peerPublicKey t
  untouched : ∀ call : RuntimeCall,
    (∀ considered, (call.run w.device).1 ≠ .response .accepted considered) →
    (call.run w.device).2.runtime.replayCache = w.device.runtime.replayCache

theorem ReplayInv.safe {w : Booted} (h : ReplayInv w) : ReplaySafe w where
  increasing := h.ordered
  durable call := (run_step w.device call).login
  known hactive := by
    obtain ⟨t, hmem⟩ := h.active hactive
    exact ⟨t, hmem, h.remembered _ hmem⟩
  untouched call := (run_step w.device call).cache

/-- Whatever the flash holds at first, across any calls, storage failures and reboots. -/
theorem admin_logins_never_replayed (nvs : Nvs) (ops : List DeviceOp) :
    ReplaySafe (runSteps Booted.step (.start nvs) ops) :=
  ReplayInv.safe (run_always (fun _ op h => h.step op) ops (replayInv_start nvs))

end Sigui.Admin
