import Sigui.ContactPasses
import Sigui.RunRules

/-! Runs of the contact store: its calls, clears, flushes and inits, reboots, and cards that come
and go. -/
namespace Sigui.Contact

inductive ContactOp
  | call (call : ContactCall) (io : OpIo)
  | clear (io : OpIo)
  | flush (force : Bool) (io : OpIo)
  | init (io : InitIo)
  | reboot
  | mount (enabled : Bool) (generation : Nat) (card : Option ContactImage)

def stepContact (d : ContactDevice) : ContactOp → ContactDevice
  | .call call io => runCall d io call
  | .clear io => (clearStore d io).1
  | .flush force io => (flushDeferred d force io).1
  | .init io => (initStore d io).1
  | .reboot => { d with store := {} }
  | .mount enabled generation card =>
    { d with enabled := enabled, generation := generation, card := card }

section Steps

variable {p : ContactDevice} {ret : EspErr}

inductive LoadedStep (d : ContactDevice) : ContactOp → ContactDevice → Prop
  | same (op : ContactOp) : LoadedStep d op d
  | deferred (call : ContactCall) (io : OpIo) (edited : ContactStore) (nowMs : Nat)
      (edit : RowEdit call.advertKey call.name d.store edited) :
    LoadedStep d (.call call io) { d with store := markDeferredPersistence edited nowMs }
  | called (call : ContactCall) (io : OpIo) (edited : ContactStore)
      (made : ((call.change io.nowMs).bind fun change => change d.store) = some (edited, true))
      (edit : RowEdit call.advertKey call.name d.store edited) (d' : ContactDevice)
      (finished : Finished { d with store := edited } d.store d') :
    LoadedStep d (.call call io) d'
  | cleared (io : OpIo) (s : ContactStore) (nowMs : Nat)
      (reserved : reservePersistenceRevision d.store false = some s) (p : ContactDevice)
      (ret : EspErr) (outcome : PersistOutcome { d with store := clearedStore s nowMs } p ret) :
    LoadedStep d (.clear io) (settleIfDurable p ret)
  | flushed (force : Bool) (io : OpIo) (on : d.enabled = true) (met : mustReconcile d = true)
      (p : ContactDevice) (ret : EspErr) (outcome : PersistOutcome d p ret) :
    LoadedStep d (.flush force io) (settleIfDurable p ret)
  | noted (force : Bool) (io : OpIo) (off : d.enabled = false) :
    LoadedStep d (.flush force io) { d with store := { d.store with sdReconcilePending := true } }
  | written (force : Bool) (io : OpIo) (on : d.enabled = true) (known : mustReconcile d = false)
      (d' : ContactDevice) (outcome : SnapshotOutcome d d') : LoadedStep d (.flush force io) d'

/-- The device of an operation once the store is loaded, and how it came to it. -/
inductive Loads (d : ContactDevice) : ContactDevice → Prop
  | already (loaded : d.store.loaded = true) : Loads d d
  | init (unloaded : d.store.loaded = false) (p : ContactDevice) (ret : EspErr)
      (outcome : InitOutcome d p ret) :
    Loads d { p with store := { p.store with loaded := decide (ret = espOk) } }

def RowsFit (d : ContactDevice) : Prop := d.store.entries.length ≤ contactStoreCapacity

variable {d d' : ContactDevice}

theorem RowEdit.length_le {advertKey name : Option (List UInt8)} {s t : ContactStore}
    (h : RowEdit advertKey name s t) (hs : s.entries.length ≤ contactStoreCapacity) :
    t.entries.length ≤ contactStoreCapacity := by
  cases h with
  | rewrite touched pre e post row split _ _ _ _ stored =>
    rw [split] at hs
    rw [(storeRow_spec stored).2.1]
    simpa using hs
  | append touched row room _ _ _ stored =>
    rw [(storeRow_spec stored).2.1, List.length_append, List.length_singleton]
    exact room
  | evict touched pre e post row split _ _ _ _ stored =>
    rw [split] at hs
    rw [(storeRow_spec stored).2.1]
    simpa using hs
  | remove pre e post split _ _ removed =>
    rw [split, List.length_append, List.length_cons] at hs
    rw [(removeRow_spec removed).2.1, List.length_append]
    omega

theorem runCall_loaded (io : OpIo) (call : ContactCall)
    (hloaded : d.store.loaded = true) (hfit : RowsFit d) :
    LoadedStep d (.call call io) (runCall d io call) := by
  rw [runCall_eq]
  cases hchange : call.change io.nowMs with
  | none => exact .same _
  | some change =>
    have hensure : ensureLoaded d io.init = (d, espOk) := if_pos hloaded
    have hsound := call_sound hchange d.store
    dsimp only
    unfold changeLoaded
    rw [hensure]
    dsimp only
    rw [if_neg (fun h => h rfl)]
    have hmade : ((call.change io.nowMs).bind fun change => change d.store) = change d.store := by
      rw [hchange]
      rfl
    generalize change d.store = result at hsound hmade
    cases hsound with
    | none => exact .same _
    | deferred edited nowMs edit => exact .deferred call io edited nowMs edit
    | persisted edited edit =>
      exact .called call io edited hmade edit _
        (persistOrRollback_finished (edit.length_le hfit) hfit io.persist io.nowMs)

theorem clearStore_loaded (io : OpIo) (hloaded : d.store.loaded = true) :
    LoadedStep d (.clear io) (clearStore d io).1 := by
  have hensure : ensureLoaded d io.init = (d, espOk) := if_pos hloaded
  unfold clearStore
  rw [hensure]
  dsimp only
  rw [if_neg (fun h => h rfl)]
  cases hreserved : reservePersistenceRevision d.store false with
  | none => exact .same _
  | some s =>
    have houtcome := @persistStore_outcome { d with store := clearedStore s io.nowMs }
      (Nat.zero_le _) io.persist
    dsimp only
    generalize persistStore { d with store := clearedStore s io.nowMs } io.persist = result
      at houtcome ⊢
    obtain ⟨p, ret⟩ := result
    have hstep := LoadedStep.cleared io s io.nowMs hreserved p ret houtcome
    unfold settleIfDurable at hstep
    dsimp only
    split_ifs at hstep ⊢ <;> exact hstep

theorem PersistOutcome.durable_of_on (h : PersistOutcome d p ret) (on : d.enabled = true)
    (hret : ret = espOk) : p.store.lastPersistDurable = true := by
  cases h with
  | offline _ off => exact absurd (on.symm.trans off) (by decide)
  | refused _ _ _ failed => exact absurd hret failed
  | torn _ _ _ _ _ failed => exact absurd hret failed
  | durable _ _ _ _ _ durable => exact durable

theorem flushDeferred_loaded (force : Bool) (io : OpIo) (hloaded : d.store.loaded = true)
    (hfit : RowsFit d) : LoadedStep d (.flush force io) (flushDeferred d force io).1 := by
  have hensure : ensureLoaded d io.init = (d, espOk) := if_pos hloaded
  unfold flushDeferred
  rw [hensure]
  dsimp only
  rw [if_neg (fun h => h rfl)]
  generalize hchanged : (d.enabled && decide (d.generation ≠ d.store.acceptedSdBackendGeneration)) =
    changed
  by_cases hclean : (!d.store.persistenceDirty && !d.store.sdReconcilePending && !changed) = true
  · rw [if_pos hclean]
    exact .same _
  rw [if_neg hclean]
  by_cases on : d.enabled = true
  · rw [on, Bool.not_true, if_neg Bool.false_ne_true]
    rw [on, Bool.true_and] at hchanged
    have hmust : mustReconcile d = (changed || d.store.sdReconcilePending) := by
      rw [mustReconcile, on, Bool.true_and, hchanged]
    by_cases hmet : (changed || d.store.sdReconcilePending) = true
    · rw [if_pos hmet]
      have houtcome := persistStore_outcome hfit io.persist
      generalize persistStore d io.persist = result at houtcome ⊢
      obtain ⟨p, ret⟩ := result
      have hstep := LoadedStep.flushed force io on (hmust.trans hmet) p ret houtcome
      dsimp only
      by_cases hret : ret = espOk
      · have hdurable := houtcome.durable_of_on on hret
        rw [if_neg (fun h => h hret), hdurable, Bool.not_true, if_neg Bool.false_ne_true]
        unfold settleIfDurable at hstep
        rw [if_pos ⟨hret, hdurable⟩] at hstep
        exact hstep
      · rw [if_pos hret]
        unfold settleIfDurable at hstep
        rw [if_neg (fun h => hret h.1)] at hstep
        exact hstep
    · rw [if_neg hmet]
      split_ifs
      · exact .same _
      · exact .written force io on (hmust.trans (Bool.eq_false_iff.mpr hmet)) _
          (flushSnapshot_outcome d io.persist)
  · have off : d.enabled = false := Bool.eq_false_iff.mpr on
    have hoff : (!d.enabled) = true := by
      rw [off]
      rfl
    rw [if_pos hoff]
    exact .noted force io off

theorem Reconciled.length_le {t : ContactStore} {work : CardWork} (h : Reconciled d t work)
    (hfit : RowsFit d) : t.entries.length ≤ contactStoreCapacity := by
  have hsame : SameBook d.store t → t.entries.length ≤ contactStoreCapacity := fun same =>
    (congrArg List.length same.entries).trans_le hfit
  cases h with
  | own _ same => exact hsame same
  | absent _ _ same => exact hsame same
  | adopted blob _ _ valid _ _ rows =>
    have hrows : t.entries = blob.entries := congrArg ContactBlob.entries rows
    exact (congrArg List.length hrows).trans_le (blobIsValid_iff.mp valid).2.1
  | cleared _ _ _ _ _ same => exact hsame same
  | merged blob merged _ _ valid _ merge _ rows =>
    have hrows : t.entries = merged.entries := congrArg ContactBlob.entries rows
    exact (congrArg List.length hrows).trans_le
      (merged_length (blobIsValid_iff.mp valid).2.1 merge)

theorem PersistOutcome.fit (h : PersistOutcome d p ret) (hfit : RowsFit d) : RowsFit p := by
  cases h with
  | offline t _ same => exact (congrArg List.length same.entries).trans_le hfit
  | refused t _ _ _ same => exact (congrArg List.length same.entries).trans_le hfit
  | torn t work _ _ _ _ reconciled => exact reconciled.length_le hfit
  | durable t work _ reconciled => exact reconciled.length_le hfit

theorem initInput_rows {image : ContactImage} {blob : ContactBlob} {migrated : Bool}
    (h : acceptImage image = some (blob, migrated)) (fromSd : Bool) (nowMs : Nat) :
    fillBlob (initInput (reading d blob) fromSd nowMs).store = blob := by
  obtain ⟨hschema, hlen, -⟩ := blobIsValid_iff.mp (acceptImage_valid h)
  exact (initInput_spec _ fromSd nowMs).1.trans (fillBlob_restoreBlob hschema hlen _)

theorem InitOutcome.fit (h : InitOutcome d p ret) : RowsFit p := by
  have hrows : ∀ {t : ContactStore} {blob : ContactBlob}, fillBlob t = blob →
      blob.entries.length ≤ contactStoreCapacity → t.entries.length ≤ contactStoreCapacity := by
    rintro t blob rfl hlen
    exact hlen
  cases h with
  | refused t _ _ blank => exact hrows blank.rows (Nat.zero_le _)
  | empty => exact Nat.zero_le _
  | read blob _ _ valid =>
    obtain ⟨hschema, hlen, -⟩ := blobIsValid_iff.mp valid
    exact hrows (fillBlob_restoreBlob hschema hlen (resetStore d.generation)) hlen
  | persisted image blob fromSd migrated nowMs source accepted p ret outcome =>
    have hlen := (blobIsValid_iff.mp (acceptImage_valid accepted)).2.1
    have hout := outcome.fit (hrows (initInput_rows accepted fromSd nowMs) hlen)
    unfold settleIfDurable
    split_ifs
    · exact hout
    · exact hout

theorem Loads.fit {d₁ : ContactDevice} (h : Loads d d₁) (hfit : RowsFit d) : RowsFit d₁ := by
  cases h with
  | already => exact hfit
  | init _ p ret outcome => exact outcome.fit

theorem ensureLoaded_loads (d : ContactDevice) (io : InitIo) : Loads d (ensureLoaded d io).1 ∧
    ((ensureLoaded d io).2 = espOk → (ensureLoaded d io).1.store.loaded = true) := by
  rcases ensureLoaded_cases d io with ⟨hloaded, hensure⟩ | ⟨hunloaded, p, ret, houtcome, hensure⟩
  · rw [hensure]
    exact ⟨.already hloaded, fun _ => hloaded⟩
  · rw [hensure]
    exact ⟨.init hunloaded p ret houtcome, fun hret => decide_eq_true hret⟩

/-- The operations that load the store first and then are an operation of a loaded store. -/
inductive ContactOp.NeedsStore : ContactOp → Prop
  | call (call : ContactCall) (io : OpIo) : NeedsStore (.call call io)
  | clear (io : OpIo) : NeedsStore (.clear io)
  | flush (force : Bool) (io : OpIo) : NeedsStore (.flush force io)

def loadedDevice (d : ContactDevice) : ContactOp → ContactDevice
  | .call _ io => (ensureLoaded d io.init).1
  | .clear io => (ensureLoaded d io.init).1
  | .flush _ io => (ensureLoaded d io.init).1
  | _ => d

theorem step_cases {op : ContactOp} (hop : op.NeedsStore) (hfit : RowsFit d) :
    stepContact d op = d ∨ (Loads d (loadedDevice d op) ∧ (stepContact d op = loadedDevice d op ∨
      ((loadedDevice d op).store.loaded = true ∧
        LoadedStep (loadedDevice d op) op (stepContact d op)))) := by
  -- once the store is loaded, the operation runs as if it had been loaded before
  have hload : ∀ (io : InitIo) (run : ContactDevice → ContactDevice),
      (∀ d₁ ret, ensureLoaded d io = (d₁, ret) → ret ≠ espOk → run d = d₁) →
      (∀ d₁, ensureLoaded d io = (d₁, espOk) → ensureLoaded d₁ io = (d₁, espOk) →
        run d = run d₁) →
      (∀ d₁, d₁.store.loaded = true → RowsFit d₁ → LoadedStep d₁ op (run d₁)) →
      Loads d (ensureLoaded d io).1 ∧ (run d = (ensureLoaded d io).1 ∨
        ((ensureLoaded d io).1.store.loaded = true ∧
          LoadedStep (ensureLoaded d io).1 op (run d))) := by
    intro io run hfail hagain hrun
    obtain ⟨hloads, hloaded⟩ := ensureLoaded_loads d io
    refine ⟨hloads, ?_⟩
    by_cases hret : (ensureLoaded d io).2 = espOk
    · right
      refine ⟨hloaded hret, ?_⟩
      rw [hagain _ (Prod.ext rfl hret) (if_pos (hloaded hret))]
      exact hrun _ (hloaded hret) (hloads.fit hfit)
    · exact .inl (hfail _ _ rfl hret)
  cases hop with
  | call call io =>
    cases hchange : call.change io.nowMs with
    | none =>
      left
      change runCall d io call = d
      rw [runCall_eq, hchange]
    | some change =>
      have hrun : ∀ d₁, runCall d₁ io call = changeLoaded d₁ io change := fun d₁ => by
        rw [runCall_eq, hchange]
      refine .inr (hload io.init (fun d => runCall d io call) ?_ ?_ ?_)
      · intro d₁ ret hensure hret
        rw [hrun]
        unfold changeLoaded
        rw [hensure]
        exact if_pos hret
      · intro d₁ hensure hagain
        rw [hrun, hrun]
        unfold changeLoaded
        rw [hensure, hagain]
      · exact fun d₁ hloaded hfit => runCall_loaded io call hloaded hfit
  | clear io =>
    refine .inr (hload io.init (fun d => (clearStore d io).1) ?_ ?_ ?_)
    · intro d₁ ret hensure hret
      unfold clearStore
      rw [hensure]
      dsimp only
      rw [if_pos hret]
    · intro d₁ hensure hagain
      unfold clearStore
      rw [hensure, hagain]
    · exact fun d₁ hloaded _ => clearStore_loaded io hloaded
  | flush force io =>
    refine .inr (hload io.init (fun d => (flushDeferred d force io).1) ?_ ?_ ?_)
    · intro d₁ ret hensure hret
      unfold flushDeferred
      rw [hensure]
      dsimp only
      rw [if_pos hret]
    · intro d₁ hensure hagain
      unfold flushDeferred
      rw [hensure, hagain]
    · exact fun d₁ hloaded hfit => flushDeferred_loaded force io hloaded hfit

end Steps

end Sigui.Contact
