import Sigui.ChannelBoot
import Sigui.RunRules

/-! Runs of the channel store over reboots, with a log of the ids it handed out. -/
namespace Sigui.Channel

/-- A reboot clears RAM before init; without one, init is what a call on an unloaded store runs. -/
inductive ChannelOp
  | init (rebooted : Bool) (env : InitEnv)
  | reset (env : ResetEnv)
  | add (name : Option CStr) (secret : Option (List UInt8)) (enabled makeDefault : Bool) (nowMs : Nat)
      (w : NvsWrite)
  | importUri (uri : Option (List UInt8)) (nowMs : Nat) (w : NvsWrite)
  | update (channelId : UInt64) (name : Option CStr) (enabled makeDefault : Bool) (nowMs : Nat)
      (w : NvsWrite)
  | select (channelId : UInt64) (nowMs : Nat) (w : NvsWrite)
  | onboarding (env : OnboardingEnv)
  | remove (channelId : UInt64) (w : NvsWrite)
  | note (channelId : UInt64) (messageSeq : Nat) (unread : Bool) (nowMs : Nat) (w : NvsWrite)
  | markAllRead (channelId : UInt64) (nowMs : Nat) (w : NvsWrite)
  | reconcile (rows : Option (List RetainedRow)) (generation : Option MessageGeneration)
      (nowMs : Nat) (w : NvsWrite)

section Machine

def handedOut (r : Reply) : List UInt64 :=
  if r.result = .created then (r.info.map (·.channelId)).toList else []

variable (md : List UInt8 → Option UInt8)

def onboardingIds (d : ChannelDevice) (env : OnboardingEnv) : List UInt64 :=
  let (d, bot) := addChannel md d (some botName) (some botSecret) true false env.nowMs env.botWrite
  if !defaultAdded bot botName then handedOut bot
  else
    handedOut bot ++
      handedOut (addChannel md d (some testName) (some testSecret) true false env.nowMs
        env.testWrite).2

def callLoaded (d : ChannelDevice) : ChannelOp → ChannelDevice × EspErr × List UInt64
  | .init _ _ => (d, espOk, [])
  | .reset _ => (d, espOk, [])
  | .add name secret enabled makeDefault nowMs w =>
    let (d, r) := addChannel md d name secret enabled makeDefault nowMs w
    (d, r.ret, handedOut r)
  | .importUri uri nowMs w =>
    let (d, r) := importUri md d uri nowMs w
    (d, r.ret, handedOut r)
  | .update channelId name enabled makeDefault nowMs w =>
    let (d, r) := updateChannel d channelId name enabled makeDefault nowMs w
    (d, r.ret, [])
  | .select channelId nowMs w =>
    let (d, r) := selectChannel d channelId nowMs w
    (d, r.ret, [])
  | .onboarding env =>
    let (d', ret) := seedOnboardingDefaults md d env
    (d', ret, onboardingIds md d env)
  | .remove channelId w =>
    let (d, r) := removeChannel d channelId w
    (d, r.ret, [])
  | .note channelId messageSeq unread nowMs w =>
    let (d, ret) := noteMessage d channelId messageSeq unread nowMs w
    (d, ret, [])
  | .markAllRead channelId nowMs w =>
    let (d, ret) := markAllRead d channelId nowMs w
    (d, ret, [])
  | .reconcile rows generation nowMs w =>
    let (d, ret) := reconcileRetainedRows d rows generation nowMs w
    (d, ret, [])

/-- One operation; `none` while it is still drawing random numbers. -/
def callChannel (d : ChannelDevice) : ChannelOp → Option (ChannelDevice × EspErr × List UInt64)
  | .init rebooted env =>
    (initStore md (if rebooted then { d with store := {} } else d) env).map
      fun (d, ret) => (d, ret, [])
  | .reset env => (resetStore md d env).map fun (d, ret) => (d, ret, [])
  | op => some (if d.store.loaded then callLoaded md d op else (d, espErrInvalidState, []))

structure ChannelWorld where
  device : ChannelDevice
  handed : List UInt64

/-- A reset of a store that is not loaded starts over once its blob is in NVS. -/
def startsOver (d d' : ChannelDevice) : ChannelOp → Bool
  | .reset _ => !d.store.loaded && decide (d'.nvs ≠ d.nvs)
  | _ => false

def stepChannel (w : ChannelWorld) (op : ChannelOp) : ChannelWorld :=
  match callChannel md w.device op with
  | none => w
  | some (d, _, ids) =>
    ⟨d, (if startsOver w.device d op then [] else w.handed) ++ ids⟩

end Machine

section Invariant

variable (md : List UInt8 → Option UInt8)

structure ChannelInv (w : ChannelWorld) : Prop where
  valid : w.device.store.loaded = true → StoreValid md w.device.store
  nodup : w.handed.Nodup
  below : w.device.store.loaded = true → ∀ id ∈ w.handed, id < w.device.store.nextChannelId
  kept : ∀ id ∈ w.handed, ∃ b, ImageValid md w.device.nvs b ∧ id < b.nextChannelId

variable {md} {d d' : ChannelDevice} {handed : List UInt64} {ret : EspErr}

theorem imageValid_fillBlob {t : ChannelStore} (h : StoreValid md t) :
    ImageValid md (some (.v3 (fillBlob t))) (fillBlob t) :=
  ⟨rfl, h.blobIsValid⟩

theorem ChannelInv.served (h : ChannelInv md ⟨d, handed⟩) (hloaded : d.store.loaded = true)
    (hs : Served md d d' ret) : ChannelInv md ⟨d', handed⟩ := by
  refine ⟨fun _ => hs.valid (h.valid hloaded), h.nodup, fun _ id hid => ?_, fun id hid => ?_⟩
  · exact UInt64.lt_of_lt_of_le (h.below hloaded id hid) hs.next_le
  · have hbelow := h.below hloaded id hid
    cases hs with
    | same => exact h.kept id hid
    | stored edit =>
      exact ⟨_, imageValid_fillBlob edit.valid, UInt64.lt_of_lt_of_le hbelow edit.next_le⟩
    | rolledBack edit failed kept =>
      rcases kept with rfl | rfl
      · exact h.kept id hid
      · exact ⟨_, imageValid_fillBlob edit.valid, UInt64.lt_of_lt_of_le hbelow edit.next_le⟩

theorem ChannelInv.added {r : ChannelDevice × Reply} (h : ChannelInv md ⟨d, handed⟩)
    (hloaded : d.store.loaded = true) (hs : AddServed md d r) :
    ChannelInv md ⟨r.1, handed ++ handedOut r.2⟩ := by
  have hbase := h.served hloaded hs.1
  unfold handedOut
  by_cases hcreated : r.2.result = .created
  · obtain ⟨e, hinfo, hle, hlt⟩ := hs.2 hcreated
    rw [if_pos hcreated, hinfo]
    have hnew : e.channelId ∉ handed := fun hmem =>
      UInt64.lt_irrefl _ (UInt64.lt_of_lt_of_le (h.below hloaded _ hmem) hle)
    refine ⟨hbase.valid, ?_, ?_, ?_⟩
    · refine List.nodup_append.mpr ⟨h.nodup, List.nodup_singleton _, fun id hid other hother => ?_⟩
      rw [List.mem_singleton.mp hother]
      intro heq
      have hsame : id = e.channelId := heq
      exact hnew (hsame ▸ hid)
    · intro hl
      exact List.forall_mem_append.mpr ⟨hbase.below hl, by simpa using hlt⟩
    · refine List.forall_mem_append.mpr ⟨hbase.kept, ?_⟩
      intro id hid
      obtain rfl : id = e.channelId := by simpa using hid
      -- an id is only reported once its channel is stored
      obtain ⟨d', reply⟩ := r
      dsimp only at hs hlt ⊢
      have hserved := hs.1
      dsimp only at hserved
      generalize reply.ret = ret at hserved
      cases hserved with
      | same => exact absurd (UInt64.lt_of_le_of_lt hle hlt) (UInt64.lt_irrefl _)
      | stored edit => exact ⟨_, imageValid_fillBlob edit.valid, hlt⟩
      | rolledBack => exact absurd (UInt64.lt_of_le_of_lt hle hlt) (UInt64.lt_irrefl _)
  · rw [if_neg hcreated, List.append_nil]
    exact hbase

theorem ChannelInv.booted (h : ChannelInv md ⟨d, handed⟩) (hb : Booted md d.nvs d' ret) :
    ChannelInv md ⟨d', handed⟩ := by
  have hnone : (∀ b, ¬ImageValid md d.nvs b) → handed = [] := by
    intro habsent
    refine List.eq_nil_iff_forall_not_mem.mpr fun id hid => ?_
    obtain ⟨b, himage, -⟩ := h.kept id hid
    exact habsent b himage
  cases hb with
  | refused failed unloaded =>
    exact ⟨fun hl => absurd (unloaded.symm.trans hl) Bool.false_ne_true, h.nodup,
      fun hl => absurd (unloaded.symm.trans hl) Bool.false_ne_true, h.kept⟩
  | read image valid loaded next =>
    refine ⟨fun _ => valid, h.nodup, fun _ id hid => ?_, h.kept⟩
    obtain ⟨b, himage, hlt⟩ := h.kept id hid
    have hsame : some (ChannelImage.v3 b) = some (.v3 _) := himage.1.symm.trans image.1
    cases hsame
    change id < _
    rw [next]
    exact hlt
  | written absent valid loaded =>
    obtain rfl := hnone absent
    exact ⟨fun _ => valid, List.nodup_nil, fun _ id hid => absurd hid List.not_mem_nil,
      fun id hid => absurd hid List.not_mem_nil⟩
  | unwritten absent valid failed unloaded kept =>
    obtain rfl := hnone absent
    exact ⟨fun hl => absurd (unloaded.symm.trans hl) Bool.false_ne_true, List.nodup_nil,
      fun _ id hid => absurd hid List.not_mem_nil, fun id hid => absurd hid List.not_mem_nil⟩

theorem ChannelInv.resetServed (h : ChannelInv md ⟨d, handed⟩) (hr : ResetServed md d d' ret) :
    ChannelInv md ⟨d', if !d.store.loaded && decide (d'.nvs ≠ d.nvs) then [] else handed⟩ := by
  have hloadedOk : d'.store.loaded = true → StoreValid md d'.store := by
    intro hl
    by_cases hok : ret = espOk
    · exact (hr.ok hok).1
    · have hfailed := hr.failed hok
      by_cases hloaded : d.store.loaded = true
      · rw [if_pos hloaded] at hfailed
        rw [hfailed]
        exact h.valid hloaded
      · rw [if_neg hloaded] at hfailed
        exact absurd (hfailed.symm.trans hl) Bool.false_ne_true
  by_cases hloaded : d.store.loaded = true
  · -- a loaded store goes on with its ids, whether its blob is stored or not
    rw [hloaded]
    change ChannelInv md ⟨d', handed⟩
    refine ⟨hloadedOk, h.nodup, fun _ id hid => ?_, fun id hid => ?_⟩
    · change id < d'.store.nextChannelId
      rw [hr.next hloaded]
      exact h.below hloaded id hid
    · rcases hr.written with hsame | ⟨t, hnvs, hvalid, hnext⟩
      · obtain ⟨b, himage, hlt⟩ := h.kept id hid
        exact ⟨b, ⟨hsame.trans himage.1, himage.2⟩, hlt⟩
      · refine ⟨fillBlob t, ⟨hnvs, hvalid.blobIsValid⟩, ?_⟩
        change id < t.nextChannelId
        rw [hnext hloaded]
        exact h.below hloaded id hid
  · rw [Bool.not_eq_true] at hloaded
    rw [hloaded]
    by_cases hsame : d'.nvs = d.nvs
    · rw [decide_eq_false (not_not.mpr hsame)]
      have hkept : ∀ id ∈ handed, ∃ b, ImageValid md d'.nvs b ∧ id < b.nextChannelId := by
        intro id hid
        obtain ⟨b, himage, hlt⟩ := h.kept id hid
        exact ⟨b, ⟨hsame.trans himage.1, himage.2⟩, hlt⟩
      refine ⟨hloadedOk, h.nodup, fun hl id hid => ?_, hkept⟩
      by_cases hok : ret = espOk
      · obtain ⟨b, himage, hlt⟩ := hkept id hid
        have hblob : some (ChannelImage.v3 b) = some (.v3 (fillBlob d'.store)) :=
          himage.1.symm.trans (hr.ok hok).2.2
        cases hblob
        exact hlt
      · have hfailed := hr.failed hok
        rw [hloaded, if_neg Bool.false_ne_true] at hfailed
        exact absurd (hfailed.symm.trans hl) Bool.false_ne_true
    · rw [decide_eq_true hsame]
      exact ⟨hloadedOk, List.nodup_nil, fun _ id hid => absurd hid List.not_mem_nil,
        fun id hid => absurd hid List.not_mem_nil⟩

theorem ChannelInv.onboarding (h : ChannelInv md ⟨d, handed⟩) (hloaded : d.store.loaded = true)
    (env : OnboardingEnv) :
    ChannelInv md ⟨(seedOnboardingDefaults md d env).1, handed ++ onboardingIds md d env⟩ := by
  have hbot := addChannel_served (h.valid hloaded) (some botName) (some botSecret) true false
    env.nowMs env.botWrite
  have hbotInv := h.added hloaded hbot
  have hbotLoaded := hbot.1.loaded_eq.trans hloaded
  unfold seedOnboardingDefaults onboardingIds
  generalize addChannel md d (some botName) (some botSecret) true false env.nowMs env.botWrite = r₁
    at hbot hbotInv hbotLoaded ⊢
  obtain ⟨d₁, bot⟩ := r₁
  dsimp only at hbotInv hbotLoaded ⊢
  by_cases hadded : (!defaultAdded bot botName) = true
  · rw [if_pos hadded, if_pos hadded]
    exact hbotInv
  rw [if_neg hadded, if_neg hadded]
  have htest := addChannel_served (hbotInv.valid hbotLoaded) (some testName) (some testSecret) true
    false env.nowMs env.testWrite
  have htestInv := hbotInv.added hbotLoaded htest
  have htestLoaded := htest.1.loaded_eq.trans hbotLoaded
  generalize addChannel md d₁ (some testName) (some testSecret) true false env.nowMs
    env.testWrite = r₂ at htest htestInv htestLoaded ⊢
  obtain ⟨d₂, test⟩ := r₂
  dsimp only at htestInv htestLoaded ⊢
  rw [← List.append_assoc]
  by_cases hsecond : (!defaultAdded test testName) = true
  · rw [if_pos hsecond]
    exact htestInv
  · rw [if_neg hsecond]
    exact htestInv.served htestLoaded (selectChannel_served (htestInv.valid htestLoaded) _ _ _)

theorem ChannelInv.callLoaded (h : ChannelInv md ⟨d, handed⟩) (hloaded : d.store.loaded = true)
    (op : ChannelOp) :
    ChannelInv md ⟨(callLoaded md d op).1, handed ++ (callLoaded md d op).2.2⟩ := by
  have hd := h.valid hloaded
  have hnone : ∀ {d' ret}, Served md d d' ret → ChannelInv md ⟨d', handed ++ []⟩ := by
    intro d' ret hs
    rw [List.append_nil]
    exact h.served hloaded hs
  cases op with
  | init rebooted env => exact hnone (.same espOk)
  | reset env => exact hnone (.same espOk)
  | add name secret enabled makeDefault nowMs w =>
    exact h.added hloaded (addChannel_served hd name secret enabled makeDefault nowMs w)
  | importUri uri nowMs w => exact h.added hloaded (importUri_served hd uri nowMs w)
  | update channelId name enabled makeDefault nowMs w =>
    exact hnone (updateChannel_served hd channelId name enabled makeDefault nowMs w)
  | select channelId nowMs w => exact hnone (selectChannel_served hd channelId nowMs w)
  | onboarding env => exact h.onboarding hloaded env
  | remove channelId w => exact hnone (removeChannel_served hd channelId w)
  | note channelId messageSeq unread nowMs w =>
    exact hnone (noteMessage_served hd channelId messageSeq unread nowMs w)
  | markAllRead channelId nowMs w => exact hnone (markAllRead_served hd channelId nowMs w)
  | reconcile rows generation nowMs w =>
    exact hnone (reconcileRetainedRows_served hd rows generation nowMs w)

theorem ChannelInv.rebooted (h : ChannelInv md ⟨d, handed⟩) :
    ChannelInv md ⟨{ d with store := {} }, handed⟩ where
  valid := fun hl => by cases hl
  nodup := h.nodup
  below := fun hl => by cases hl
  kept := h.kept

theorem ChannelInv.step {w : ChannelWorld} (h : ChannelInv md w) (op : ChannelOp) :
    ChannelInv md (stepChannel md w op) := by
  obtain ⟨d, handed⟩ := w
  have hcalled : ChannelInv md ⟨(if d.store.loaded then Channel.callLoaded md d op
      else (d, espErrInvalidState, [])).1, handed ++ (if d.store.loaded then
        Channel.callLoaded md d op else (d, espErrInvalidState, [])).2.2⟩ := by
    by_cases hloaded : d.store.loaded = true
    · rw [if_pos hloaded]
      exact h.callLoaded hloaded op
    · rw [if_neg hloaded, List.append_nil]
      exact h
  cases op with
  | init rebooted env =>
    unfold stepChannel
    cases hcall : callChannel md d (.init rebooted env) with
    | none => exact h
    | some outcome =>
      obtain ⟨r, hinit, houtcome⟩ := Option.map_eq_some_iff.mp hcall
      subst houtcome
      dsimp only
      rw [List.append_nil]
      cases rebooted
      · exact h.booted (initStore_booted hinit)
      · exact h.rebooted.booted (initStore_booted hinit)
  | reset env =>
    unfold stepChannel
    cases hcall : callChannel md d (.reset env) with
    | none => exact h
    | some outcome =>
      obtain ⟨r, hreset, houtcome⟩ := Option.map_eq_some_iff.mp hcall
      subst houtcome
      dsimp only
      rw [List.append_nil]
      exact h.resetServed (resetStore_served h.valid hreset)
  | add | importUri | update | select | onboarding | remove | note | markAllRead | reconcile =>
    exact hcalled

end Invariant

section Failures

variable (md : List UInt8 → Option UInt8)

/-- Init found an older layout it can read, so all that is left is to write the migrated store. -/
def Migrates (nvs : Option ChannelImage) (env : InitEnv) : Prop :=
  env.openRet = espOk ∧ env.readRet = espOk ∧
    ((∃ b, nvs = some (.v2 b) ∧ blobV2IsValid md b = true) ∨
      ∃ b, nvs = some (.v1 b) ∧ blobV1IsValid md b = true)

/-- What a failed operation leaves in RAM: everything as it was. The onboarding seeding is three
calls, and those that came through stay; a migration that cannot be written leaves RAM empty. -/
def FailureKeeps (d d' : ChannelDevice) (ret : EspErr) : ChannelOp → Prop
  | .init _ env => Migrates md d.nvs env → d'.store = { loadStatus := ret }
  | .onboarding env =>
    let bot := addChannel md d (some botName) (some botSecret) true false env.nowMs env.botWrite
    let test := addChannel md bot.1 (some testName) (some testSecret) true false env.nowMs
      env.testWrite
    d.store.loaded = true → d'.store = d.store ∨ (d'.store = bot.1.store ∧ bot.2.ret = espOk) ∨
      d'.store = test.1.store ∧ bot.2.ret = espOk ∧ test.2.ret = espOk
  | _ => d.store.loaded = true → d'.store = d.store

variable {md} {d : ChannelDevice}

theorem selectChannel_reply {channelId : UInt64} {nowMs : Nat} {w : NvsWrite}
    (hle : d.store.entries.length ≤ channelStoreCapacity)
    (h : (selectChannel d channelId nowMs w).2.ret = espOk) :
    ((selectChannel d channelId nowMs w).2.result = .updated ∨
        (selectChannel d channelId nowMs w).2.result = .existing) ∧
      ∃ e, (selectChannel d channelId nowMs w).2.info = some e ∧ e.enabled ≠ 0 ∧
        e.isDefault ≠ 0 := by
  unfold selectChannel at h ⊢
  by_cases hargs : channelId = 0
  · rw [if_pos hargs] at h
    cases h
  rw [if_neg hargs] at h ⊢
  cases hsplit : splitById d.store.entries channelId with
  | none =>
    rw [hsplit] at h
    cases h
  | some found =>
    obtain ⟨pre, e, post⟩ := found
    rw [hsplit] at h
    dsimp only at h ⊢
    by_cases hoff : e.enabled = 0
    · rw [if_pos hoff] at h
      cases h
    rw [if_neg hoff] at h ⊢
    by_cases hdefault : e.isDefault ≠ 0
    · rw [if_pos hdefault]
      exact ⟨.inr rfl, e, rfl, hoff, hdefault⟩
    rw [if_neg hdefault] at h ⊢
    by_cases hroom : mutationCounterAvailable d.store = true
    · rw [if_neg (by simp [hroom])] at h ⊢
      rcases commit_cases { d.store with entries := onlyDefault pre { e with updatedMs := nowMs } post }
        w .updated (some (makeDefault 1 { e with updatedMs := nowMs })) hle rfl rfl with
        hc | ⟨hret, nvs, -, hc⟩
      · rw [hc]
        exact ⟨.inl rfl, _, rfl, hoff, Nat.one_ne_zero⟩
      · rw [hc] at h
        exact absurd h hret
    · rw [if_pos (by simp [hroom])] at h
      cases h

theorem seedOnboarding_failure {env : OnboardingEnv} (hd : StoreValid md d.store)
    (hret : (seedOnboardingDefaults md d env).2 ≠ espOk) :
    let bot := addChannel md d (some botName) (some botSecret) true false env.nowMs env.botWrite
    let test := addChannel md bot.1 (some testName) (some testSecret) true false env.nowMs
      env.testWrite
    (seedOnboardingDefaults md d env).1.store = d.store ∨
      ((seedOnboardingDefaults md d env).1.store = bot.1.store ∧ bot.2.ret = espOk) ∨
      (seedOnboardingDefaults md d env).1.store = test.1.store ∧ bot.2.ret = espOk ∧
        test.2.ret = espOk := by
  have hbot := (addChannel_served hd (some botName) (some botSecret) true false env.nowMs
    env.botWrite).1
  unfold seedOnboardingDefaults at hret ⊢
  generalize addChannel md d (some botName) (some botSecret) true false env.nowMs env.botWrite = r₁
    at hbot hret ⊢
  obtain ⟨d₁, bot⟩ := r₁
  have hvalid₁ := hbot.valid hd
  have htest := (addChannel_served hvalid₁ (some testName) (some testSecret) true false env.nowMs
    env.testWrite).1
  dsimp only at hbot htest hret ⊢
  by_cases hbotRet : bot.ret = espOk
  · by_cases hadded : (!defaultAdded bot botName) = true
    · rw [if_pos hadded]
      exact .inr (.inl ⟨rfl, hbotRet⟩)
    rw [if_neg hadded] at hret ⊢
    generalize addChannel md d₁ (some testName) (some testSecret) true false env.nowMs
      env.testWrite = r₂ at htest hret ⊢
    obtain ⟨d₂, test⟩ := r₂
    dsimp only at htest hret ⊢
    by_cases htestRet : test.ret = espOk
    · by_cases hsecond : (!defaultAdded test testName) = true
      · rw [if_pos hsecond]
        exact .inr (.inr ⟨rfl, hbotRet, htestRet⟩)
      · rw [if_neg hsecond] at hret ⊢
        have hvalid₂ := htest.valid hvalid₁
        have hselect := selectChannel_served hvalid₂ channelPublicId env.nowMs env.selectWrite
        by_cases hselectRet : (selectChannel d₂ channelPublicId env.nowMs env.selectWrite).2.ret =
            espOk
        · -- a selection that came through is what the last check asks for
          obtain ⟨hresult, e, hinfo, hon, hset⟩ := selectChannel_reply hvalid₂.count_le hselectRet
          rw [hselectRet, hinfo] at hret
          simp [hresult, hon, hset] at hret
        · exact .inr (.inr ⟨hselect.store_of_failed hselectRet, hbotRet, htestRet⟩)
    · have hnot : (!defaultAdded test testName) = true := by simp [defaultAdded, htestRet]
      rw [if_pos hnot]
      exact .inr (.inl ⟨htest.store_of_failed htestRet, hbotRet⟩)
  · have hnot : (!defaultAdded bot botName) = true := by simp [defaultAdded, hbotRet]
    rw [if_pos hnot]
    exact .inl (hbot.store_of_failed hbotRet)

theorem StoreValid.public_hash {s : ChannelStore} (h : StoreValid md s) :
    ∃ hash, protocolHash md publicSecret channelSecret128Len = some hash := by
  have hone : 0 < s.entries.countP fun e => decide (e.channelId = channelPublicId) := by
    rw [h.rows.onePublic]
    exact Nat.one_pos
  obtain ⟨e, he, hid⟩ := List.countP_pos_iff.mp hone
  have hsound := h.rows.sound e he
  have hexact := hsound.isPublic (by simpa using hid)
  simp only [publicEntryIsExact, Bool.and_eq_true, decide_eq_true_eq] at hexact
  have hhash := hsound.hash
  rw [hexact.1.1.2, hexact.1.1.1.2] at hhash
  exact ⟨_, hhash⟩

theorem blobV1_public_hash {b : ChannelBlobV1} (h : blobV1IsValid md b = true) :
    ∃ hash, protocolHash md publicSecret channelSecret128Len = some hash := by
  simp only [blobV1IsValid, Bool.and_eq_true, decide_eq_true_eq, List.all_eq_true, and_assoc] at h
  obtain ⟨-, -, -, -, -, -, hvalid, hexact, -, hpublic, -⟩ := h
  have hone : 0 < b.rows.countP fun e => decide (e.channelId = channelPublicId) := by
    rw [hpublic]
    exact Nat.one_pos
  obtain ⟨e, he, hid⟩ := List.countP_pos_iff.mp hone
  have hpublicEntry := hexact e he
  rw [hid, Bool.not_true, Bool.false_or] at hpublicEntry
  simp only [v1PublicEntryIsExact, Bool.and_eq_true, decide_eq_true_eq] at hpublicEntry
  have hentry := hvalid e he
  simp only [v1EntryIsValid, Bool.and_eq_true, decide_eq_true_eq] at hentry
  have hhash := hentry.2
  rw [hpublicEntry.1.2, hpublicEntry.1.1.2] at hhash
  exact ⟨_, hhash⟩

theorem initFinish_migration_failed {s : ChannelStore} {nvs : Option ChannelImage} {w : NvsWrite}
    (hret : (initFinish ⟨s, nvs⟩ espOk true true w).2 ≠ espOk) :
    (initFinish ⟨s, nvs⟩ espOk true true w).1.store =
      { loadStatus := (initFinish ⟨s, nvs⟩ espOk true true w).2 } := by
  have hwrite : w.ret ≠ espOk := by
    simpa [initFinish, persistStore] using hret
  simp [initFinish, persistStore, hwrite, clearUnloadedRam]

theorem initStore_migration_failed {env : InitEnv} {r : ChannelDevice × EspErr}
    (hmig : Migrates md d.nvs env) (h : initStore md d env = some r) (hret : r.2 ≠ espOk) :
    r.1.store = { loadStatus := r.2 } := by
  obtain ⟨hopen, hread, hblob⟩ := hmig
  obtain ⟨hash, hhash⟩ : ∃ hash, protocolHash md publicSecret channelSecret128Len = some hash := by
    rcases hblob with ⟨b, -, hb⟩ | ⟨b, -, hb⟩
    · exact (migrateV2Blob_valid (s := {}) hb).public_hash
    · exact blobV1_public_hash hb
  simp only [initStore, Option.bind_eq_bind, Option.bind_eq_some_iff] at h
  obtain ⟨lineage, -, next, -, h⟩ := h
  have hseed : (seedPublicRam md d.store lineage 1 next).2 = espOk := by
    simp [seedPublicRam, hhash]
  rw [if_neg fun hne : _ ≠ espOk => hne hseed,
    if_neg fun hne : env.openRet ≠ espOk => hne hopen] at h
  obtain ⟨read, hinit, h⟩ := Option.bind_eq_some_iff.mp h
  cases h
  rcases hblob with ⟨b, hnvs, hb⟩ | ⟨b, hnvs, hb⟩
  · rw [hnvs] at hinit
    dsimp only [initRead] at hinit
    rw [if_neg fun hne : env.readRet ≠ espOk => hne hread, if_pos hb] at hinit
    cases hinit
    exact initFinish_migration_failed hret
  · rw [hnvs] at hinit
    dsimp only [initRead] at hinit
    rw [if_neg fun hne : env.readRet ≠ espOk => hne hread, if_pos hb] at hinit
    obtain ⟨drawn, -, hmigrated⟩ := Option.map_eq_some_iff.mp hinit
    cases hmigrated
    exact initFinish_migration_failed hret

theorem callChannel_failure {d' : ChannelDevice} {ret : EspErr} {ids : List UInt64} {op : ChannelOp}
    (hvalid : d.store.loaded = true → StoreValid md d.store)
    (h : callChannel md d op = some (d', ret, ids)) (hret : ret ≠ espOk) :
    FailureKeeps md d d' ret op := by
  have hsame : ∀ {d₀ : ChannelDevice} {ids₀ : List UInt64} {ret₀ : EspErr},
      (d.store.loaded = true → Served md d d₀ ret₀) →
      some (if d.store.loaded then (d₀, ret₀, ids₀) else (d, espErrInvalidState, [])) =
        some (d', ret, ids) → d.store.loaded = true → d'.store = d.store := by
    intro d₀ ids₀ ret₀ hs hcall hloaded
    rw [if_pos hloaded] at hcall
    cases hcall
    exact (hs hloaded).store_of_failed hret
  cases op with
  | init rebooted env =>
    intro hmig
    obtain ⟨r, hinit, houtcome⟩ := Option.map_eq_some_iff.mp h
    cases houtcome
    cases rebooted
    · exact initStore_migration_failed hmig hinit hret
    · exact initStore_migration_failed (d := { d with store := {} }) hmig hinit hret
  | reset env =>
    intro hloaded
    obtain ⟨r, hreset, houtcome⟩ := Option.map_eq_some_iff.mp h
    cases houtcome
    have hfailed := (resetStore_served hvalid hreset).failed hret
    rw [if_pos hloaded] at hfailed
    exact hfailed
  | onboarding env =>
    intro hloaded
    have hcall : some (if d.store.loaded then callLoaded md d (.onboarding env)
      else (d, espErrInvalidState, [])) = some (d', ret, ids) := h
    rw [if_pos hloaded] at hcall
    cases hcall
    exact seedOnboarding_failure (hvalid hloaded) hret
  | add name secret enabled makeDefault nowMs w =>
    exact hsame (fun hl => (addChannel_served (hvalid hl) name secret enabled makeDefault nowMs w).1) h
  | importUri uri nowMs w => exact hsame (fun hl => (importUri_served (hvalid hl) uri nowMs w).1) h
  | update channelId name enabled makeDefault nowMs w =>
    exact hsame
      (fun hl => updateChannel_served (hvalid hl) channelId name enabled makeDefault nowMs w) h
  | select channelId nowMs w =>
    exact hsame (fun hl => selectChannel_served (hvalid hl) channelId nowMs w) h
  | remove channelId w => exact hsame (fun hl => removeChannel_served (hvalid hl) channelId w) h
  | note channelId messageSeq unread nowMs w =>
    exact hsame (fun hl => noteMessage_served (hvalid hl) channelId messageSeq unread nowMs w) h
  | markAllRead channelId nowMs w =>
    exact hsame (fun hl => markAllRead_served (hvalid hl) channelId nowMs w) h
  | reconcile rows generation nowMs w =>
    exact hsame (fun hl => reconcileRetainedRows_served (hvalid hl) rows generation nowMs w) h

end Failures

section Runs

variable (md : List UInt8 → Option UInt8)

def bootWorld (nvs : Option ChannelImage) : ChannelWorld := ⟨⟨{}, nvs⟩, []⟩

theorem channelInv_bootWorld (nvs : Option ChannelImage) : ChannelInv md (bootWorld nvs) where
  valid := fun hl => by cases hl
  nodup := List.nodup_nil
  below := fun hl => by cases hl
  kept := fun _ hid => absurd hid List.not_mem_nil

theorem channelInv_run (nvs : Option ChannelImage) (ops : List ChannelOp) :
    ChannelInv md (runSteps (stepChannel md) (bootWorld nvs) ops) :=
  run_always (fun _ op h => h.step op) ops (channelInv_bootWorld md nvs)

/-- In every run, with every write that fails and every reboot, a loaded store is written as a blob
that passes the validator, no id is handed out twice within the lineage, and a failed operation
leaves what `FailureKeeps` says. -/
theorem run_stays_valid (nvs : Option ChannelImage) (ops : List ChannelOp) :
    let w := runSteps (stepChannel md) (bootWorld nvs) ops
    (w.device.store.loaded = true → blobIsValid md (fillBlob w.device.store) = true) ∧
      w.handed.Nodup ∧
      ∀ op d' ret ids, callChannel md w.device op = some (d', ret, ids) → ret ≠ espOk →
        FailureKeeps md w.device d' ret op := by
  intro w
  have hinv : ChannelInv md w := channelInv_run md nvs ops
  refine ⟨fun hl => (hinv.valid hl).blobIsValid, hinv.nodup, ?_⟩
  intro op d' ret ids hcall hret
  exact callChannel_failure hinv.valid hcall hret

/-- The first bytes of SHA-256 of the three secrets every device knows. -/
def knownDigest (bytes : List UInt8) : Option UInt8 :=
  if bytes = publicSecret.bytes.take channelSecret128Len then some 0x11
  else if bytes = botSecret then some 0xca
  else if bytes = testSecret then some 0xd9
  else none

/-- The onboarding of a fresh store whose second write fails returns an error and keeps `#bot`. -/
theorem failed_onboarding_keeps_bot :
    let w := runSteps (stepChannel knownDigest) (bootWorld none)
      [.init true ⟨[0x5d3c9a7e12f04b68], [], espOk, espOk, ⟨espOk, true⟩⟩]
    let op := ChannelOp.onboarding ⟨1000, ⟨espOk, true⟩, ⟨espFail, false⟩, ⟨espOk, true⟩⟩
    w.device.store.loaded = true ∧
      (callChannel knownDigest w.device op).map
        (fun r => (r.2.1, decide (r.1.store = w.device.store))) = some (espFail, false) := by
  decide +kernel

end Runs

end Sigui.Channel
