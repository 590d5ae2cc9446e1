import Sigui.AckCompletion

/-! Runs of the acknowledgement calls: terminal effects happen once and on durable evidence. -/
namespace Sigui.Ack

abbrev AckLog := List (AckCall × AckAnswer)

def lastBegun : AckLog → Option (UInt64 × UInt32)
  | [] => none
  | (.completionBegin sessionId baseRevision, .flag true) :: _ => some (sessionId, baseRevision)
  | (.completionClear, _) :: _ => none
  | _ :: earlier => lastBegun earlier

def sinceBegun : AckLog → AckLog
  | [] => []
  | (.completionBegin _ _, .flag true) :: _ => []
  | (.completionClear, _) :: _ => []
  | entry :: earlier => entry :: sinceBegun earlier

def lastBound : AckLog → Option (UInt64 × UInt32 × UInt32)
  | [] => none
  | (.receiptBegin sessionId baseRevision ackHash, .flag true) :: _ =>
    some (sessionId, baseRevision, ackHash)
  | (.receiptClear, _) :: _ => none
  | _ :: earlier => lastBound earlier

/-- The compare-and-set on this session and base revision was admitted here. -/
def Admission (sessionId : UInt64) (base : UInt32) (entry : AckCall × AckAnswer) : Prop :=
  ∃ durable, entry = (.observeCas sessionId base (base + 1) true durable,
    .cas (if durable then .acceptedDurable else .acceptedPending))

def DurableReport (sessionId : UInt64) (base : UInt32) (entry : AckCall × AckAnswer) : Prop :=
  entry = (.observeCas sessionId base (base + 1) true true, .cas .acceptedDurable) ∨
    entry = (.observeCas sessionId base (base + 1) true true, .cas .alreadyDurable) ∨
    entry = (.markReconciled sessionId (base + 1), .flag true)

def Taken (entry : AckCall × AckAnswer) : Prop :=
  ∃ sessionId published, entry = (.takeTerminalEffects sessionId published, .flag true)

structure Logged where
  pending : PendingAck
  log : AckLog
  deriving DecidableEq

def Logged.step (w : Logged) (call : AckCall) : Logged :=
  ⟨(runCall w.pending call).1, (call, (runCall w.pending call).2) :: w.log⟩

abbrev runAck (calls : List AckCall) : Logged := runSteps Logged.step ⟨.zero, []⟩ calls

section Completion

variable {sessionId : UInt64} {completion' : AckCompletion} {revision : UInt32}

structure CompletionSound (completion : AckCompletion) (log : AckLog) : Prop where
  begun : lastBegun log =
    if completion.active then some (completion.sessionId, completion.baseRevision) else none
  below : completion.active = true → completion.baseRevision ≠ revisionMax
  active : completion.casAdmitted = true → completion.active = true ∧
    completion.admittedRevision = completion.baseRevision + 1
  admitted : completion.casAdmitted = true ↔ ∃ entry ∈ sinceBegun log,
    Admission completion.sessionId completion.baseRevision entry
  durable : completion.durable = true ↔ ∃ entry ∈ sinceBegun log,
    DurableReport completion.sessionId completion.baseRevision entry
  durable_admitted : completion.durable = true → completion.casAdmitted = true
  taken : completion.terminalEffectsTaken = true ↔ ∃ entry ∈ sinceBegun log, Taken entry

structure Quiet (entry : AckCall × AckAnswer) : Prop where
  begun : ∀ log, lastBegun (entry :: log) = lastBegun log
  since : ∀ log, sinceBegun (entry :: log) = entry :: sinceBegun log
  admission : ∀ sessionId base, ¬ Admission sessionId base entry
  durable : ∀ sessionId base, ¬ DurableReport sessionId base entry
  taken : ¬ Taken entry

variable {completion : AckCompletion} {log : AckLog}

theorem CompletionSound.quiet (h : CompletionSound completion log)
    {entry : AckCall × AckAnswer} (hquiet : Quiet entry) :
    CompletionSound completion (entry :: log) where
  begun := by rw [hquiet.begun]; exact h.begun
  below := h.below
  active := h.active
  admitted := by
    rw [hquiet.since, List.exists_mem_cons_iff, h.admitted]
    exact (or_iff_right (hquiet.admission _ _)).symm
  durable := by
    rw [hquiet.since, List.exists_mem_cons_iff, h.durable]
    exact (or_iff_right (hquiet.durable _ _)).symm
  durable_admitted := h.durable_admitted
  taken := by
    rw [hquiet.since, List.exists_mem_cons_iff, h.taken]
    exact (or_iff_right hquiet.taken).symm

theorem nothing_in_nil {P : AckCall × AckAnswer → Prop} :
    false = true ↔ ∃ entry ∈ ([] : AckLog), P entry := by
  simp only [Bool.false_eq_true, List.not_mem_nil, false_and, exists_false]

theorem CompletionSound.fresh {base : UInt32} {active : Bool}
    (hbegun : lastBegun log = if active then some (sessionId, base) else none)
    (hsince : sinceBegun log = []) (hbelow : active = true → base ≠ revisionMax) :
    CompletionSound { AckCompletion.zero with
      sessionId := sessionId, baseRevision := base, active := active } log where
  begun := hbegun
  below := hbelow
  active h := by cases h
  admitted := by
    rw [hsince]
    exact nothing_in_nil
  durable := by
    rw [hsince]
    exact nothing_in_nil
  durable_admitted h := by cases h
  taken := by
    rw [hsince]
    exact nothing_in_nil

theorem observeCas_cases (completion : AckCompletion) (sessionId : UInt64)
    (expectedRevision resultingRevision : UInt32) (casAdmitted durable : Bool) :
    (∃ result, (result = .rejected ∨ result = .stale) ∧
      observeCas completion sessionId expectedRevision resultingRevision casAdmitted durable =
        (completion, result)) ∨
    (casAdmitted = true ∧ completion.active = true ∧ completion.sessionId = sessionId ∧
      completion.baseRevision = expectedRevision ∧ expectedRevision ≠ revisionMax ∧
      resultingRevision = expectedRevision + 1 ∧
      ((completion.casAdmitted = true ∧ completion.admittedRevision = resultingRevision ∧
        observeCas completion sessionId expectedRevision resultingRevision casAdmitted durable =
          ({ completion with durable := completion.durable || durable },
            if completion.durable || durable then .alreadyDurable else .alreadyPending)) ∨
      (completion.casAdmitted = false ∧
        observeCas completion sessionId expectedRevision resultingRevision casAdmitted durable =
          ({ completion with
              casAdmitted := true, admittedRevision := resultingRevision, durable := durable },
            if durable then .acceptedDurable else .acceptedPending)))) := by
  rw [observeCas]
  cases casAdmitted with
  | false => exact .inl ⟨_, .inl rfl, rfl⟩
  | true =>
    rw [if_neg (by decide)]
    by_cases hstale : (!completion.active || completion.sessionId != sessionId ||
        completion.baseRevision != expectedRevision || expectedRevision == revisionMax ||
        resultingRevision != expectedRevision + 1) = true
    · rw [if_pos hstale]
      exact .inl ⟨_, .inr rfl, rfl⟩
    rw [if_neg hstale]
    simp only [Bool.or_eq_true, not_or, Bool.not_eq_true', Bool.not_eq_false, bne_iff_ne,
      ne_eq, not_not, beq_iff_eq] at hstale
    obtain ⟨⟨⟨⟨hactive, hsession⟩, hbase⟩, hmax⟩, hresult⟩ := hstale
    by_cases hadmitted : completion.casAdmitted = true
    · rw [if_pos hadmitted]
      by_cases hother : (completion.admittedRevision != resultingRevision) = true
      · rw [if_pos hother]
        exact .inl ⟨_, .inr rfl, rfl⟩
      rw [if_neg hother]
      rw [bne_iff_ne, not_not] at hother
      refine .inr ⟨rfl, hactive, hsession, hbase, hmax, hresult,
        .inl ⟨hadmitted, hother, ?_⟩⟩
      cases durable with
      | true => rw [Bool.or_true]; rfl
      | false => rw [Bool.or_false]; rfl
    · rw [if_neg hadmitted]
      exact .inr ⟨rfl, hactive, hsession, hbase, hmax, hresult,
        .inr ⟨Bool.eq_false_iff.mpr hadmitted, rfl⟩⟩

def AckCall.foreign : AckCall → Bool
  | .ownerBegin .. | .ownerApply .. | .ownerClear | .receiptBegin .. | .receiptClear => true
  | .completionBegin .. | .observeCas .. | .markReconciled .. | .takeTerminalEffects ..
  | .completionClear => false

theorem quiet_foreign {call : AckCall} (h : call.foreign = true) (answer : AckAnswer) :
    Quiet (call, answer) := by
  cases call with
  | completionBegin | observeCas | markReconciled | takeTerminalEffects | completionClear =>
    cases h
  | ownerBegin | ownerApply | ownerClear | receiptBegin | receiptClear =>
    refine ⟨fun _ => rfl, fun _ => rfl, ?_, ?_, ?_⟩
    · rintro sessionId base ⟨durable, hentry⟩
      cases hentry
    · rintro sessionId base (hentry | hentry | hentry) <;> cases hentry
    · rintro ⟨sessionId, published, hentry⟩
      cases hentry

theorem quiet_refused {call : AckCall} (h : call ≠ .completionClear) :
    Quiet (call, .flag false) := by
  refine ⟨?_, ?_, ?_, ?_, ?_⟩
  · intro log
    cases call with
    | completionClear => exact absurd rfl h
    | _ => rfl
  · intro log
    cases call with
    | completionClear => exact absurd rfl h
    | _ => rfl
  · rintro sessionId base ⟨durable, hentry⟩
    cases hentry
  · rintro sessionId base (hentry | hentry | hentry) <;> cases hentry
  · rintro ⟨sessionId, published, hentry⟩
    cases hentry

theorem quiet_observed {expected resulting : UInt32} {casAdmitted durable : Bool}
    {result : CasResult} (hpending : result ≠ .acceptedPending)
    (haccepted : result ≠ .acceptedDurable)
    (hdurable : result = .alreadyDurable → durable = false) :
    Quiet (.observeCas sessionId expected resulting casAdmitted durable, .cas result) := by
  refine ⟨fun _ => rfl, fun _ => rfl, ?_, ?_, ?_⟩
  · rintro session base ⟨reported, hentry⟩
    cases reported <;> cases hentry
    · exact hpending rfl
    · exact haccepted rfl
  · rintro session base (hentry | hentry | hentry)
    · cases hentry
      exact haccepted rfl
    · cases hentry
      cases hdurable rfl
    · cases hentry
  · rintro ⟨session, published, hentry⟩
    cases hentry

theorem CompletionSound.observe (h : CompletionSound completion log) (sessionId : UInt64)
    (expected resulting : UInt32) (casAdmitted durable : Bool) :
    CompletionSound (observeCas completion sessionId expected resulting casAdmitted durable).1
      ((.observeCas sessionId expected resulting casAdmitted durable,
        .cas (observeCas completion sessionId expected resulting casAdmitted durable).2) ::
        log) := by
  rcases observeCas_cases completion sessionId expected resulting casAdmitted durable with
    ⟨result, hresult, hobserve⟩ |
    ⟨rfl, hactive, rfl, rfl, hmax, rfl, ⟨hadmitted, hrevision, hobserve⟩ |
      ⟨hfresh, hobserve⟩⟩
  · rw [hobserve]
    apply h.quiet
    rcases hresult with rfl | rfl <;> exact quiet_observed nofun nofun nofun
  · rw [hobserve]
    by_cases hreport : durable = true
    · -- the retry of the same revision reports it durable
      rw [hreport, Bool.or_true, if_pos rfl]
      refine ⟨h.begun, h.below, h.active, ?_, ?_, fun _ => hadmitted, ?_⟩
      · change completion.casAdmitted = true ↔ ∃ entry ∈ _ :: sinceBegun log, _
        rw [List.exists_mem_cons_iff, ← h.admitted]
        exact ⟨.inr, fun _ => hadmitted⟩
      · exact ⟨fun _ => ⟨_, List.mem_cons_self .., .inr (.inl rfl)⟩, fun _ => rfl⟩
      · change completion.terminalEffectsTaken = true ↔ ∃ entry ∈ _ :: sinceBegun log, _
        rw [List.exists_mem_cons_iff, ← h.taken]
        refine ⟨.inr, fun hor => hor.resolve_left ?_⟩
        rintro ⟨session, published, hentry⟩
        cases hentry
    · rw [Bool.not_eq_true] at hreport
      rw [hreport, Bool.or_false]
      apply h.quiet
      by_cases hold : completion.durable = true
      · rw [if_pos hold]
        exact quiet_observed nofun nofun fun _ => rfl
      · rw [if_neg hold]
        exact quiet_observed nofun nofun nofun
  · rw [hobserve]
    refine ⟨h.begun, h.below, fun _ => ⟨hactive, rfl⟩, ?_, ?_, fun _ => rfl, ?_⟩
    · exact ⟨fun _ => ⟨_, List.mem_cons_self .., durable, rfl⟩, fun _ => rfl⟩
    · change durable = true ↔ ∃ entry ∈ _ :: sinceBegun log, _
      have hold : ¬ ∃ entry ∈ sinceBegun log,
          DurableReport completion.sessionId completion.baseRevision entry := by
        rw [← h.durable]
        intro hdurable
        rw [h.durable_admitted hdurable] at hfresh
        cases hfresh
      rw [List.exists_mem_cons_iff, or_iff_left hold]
      constructor
      · rintro rfl
        exact .inl rfl
      · rintro (hentry | hentry | hentry)
        · cases durable with
          | true => rfl
          | false => cases hentry
        · cases durable <;> cases hentry
        · cases hentry
    · change completion.terminalEffectsTaken = true ↔ ∃ entry ∈ _ :: sinceBegun log, _
      rw [List.exists_mem_cons_iff, ← h.taken]
      refine ⟨.inr, fun hor => hor.resolve_left ?_⟩
      rintro ⟨session, published, hentry⟩
      cases hentry

theorem markReconciled_spec (h : markReconciled completion sessionId revision = some completion') :
    completion.active = true ∧ completion.casAdmitted = true ∧
      completion.sessionId = sessionId ∧ completion.admittedRevision = revision ∧
      completion' = { completion with durable := true } := by
  unfold markReconciled at h
  split_ifs at h with hrefused
  cases h
  simp only [Bool.or_eq_true, not_or, Bool.not_eq_true', Bool.not_eq_false, bne_iff_ne, ne_eq,
    not_not] at hrefused
  obtain ⟨⟨⟨⟨hactive, hadmitted⟩, hsession⟩, hrevision⟩, _⟩ := hrefused
  exact ⟨hactive, hadmitted, hsession, hrevision, rfl⟩

theorem takeTerminalEffects_spec
    (h : takeTerminalEffects completion sessionId revision = some completion') :
    completion.active = true ∧ completion.casAdmitted = true ∧ completion.durable = true ∧
      completion.terminalEffectsTaken = false ∧ completion.sessionId = sessionId ∧
      completion.admittedRevision = revision ∧
      completion' = { completion with terminalEffectsTaken := true } := by
  unfold takeTerminalEffects at h
  split_ifs at h with hrefused
  cases h
  simp only [Bool.or_eq_true, not_or, Bool.not_eq_true', Bool.not_eq_false, bne_iff_ne, ne_eq,
    not_not, Bool.not_eq_true] at hrefused
  obtain ⟨⟨⟨⟨⟨hactive, hadmitted⟩, hdurable⟩, htaken⟩, hsession⟩, hrevision⟩ := hrefused
  exact ⟨hactive, hadmitted, hdurable, htaken, hsession, hrevision, rfl⟩

theorem completionBegin_spec {base : UInt32}
    (h : completionBegin completion sessionId base = some completion') :
    base ≠ revisionMax ∧ completion' = { AckCompletion.zero with
      sessionId := sessionId, baseRevision := base, active := true } := by
  unfold completionBegin at h
  split_ifs at h with hrefused
  cases h
  simp only [Bool.or_eq_true, not_or, beq_iff_eq] at hrefused
  exact ⟨hrefused.2, rfl⟩

theorem CompletionSound.reconcile (h : CompletionSound completion log)
    (hmark : markReconciled completion sessionId revision = some completion') :
    CompletionSound completion' ((.markReconciled sessionId revision, .flag true) :: log) := by
  obtain ⟨hactive, hadmitted, rfl, rfl, rfl⟩ := markReconciled_spec hmark
  refine ⟨h.begun, h.below, h.active, ?_, ?_, fun _ => hadmitted, ?_⟩
  · change completion.casAdmitted = true ↔ ∃ entry ∈ _ :: sinceBegun log, _
    rw [List.exists_mem_cons_iff, ← h.admitted]
    exact ⟨.inr, fun _ => hadmitted⟩
  · refine ⟨fun _ => ⟨_, List.mem_cons_self .., .inr (.inr ?_)⟩, fun _ => rfl⟩
    rw [(h.active hadmitted).2]
  · change completion.terminalEffectsTaken = true ↔ ∃ entry ∈ _ :: sinceBegun log, _
    rw [List.exists_mem_cons_iff, ← h.taken]
    refine ⟨.inr, fun hor => hor.resolve_left ?_⟩
    rintro ⟨session, published, hentry⟩
    cases hentry

theorem CompletionSound.take (h : CompletionSound completion log)
    (htake : takeTerminalEffects completion sessionId revision = some completion') :
    CompletionSound completion'
      ((.takeTerminalEffects sessionId revision, .flag true) :: log) := by
  obtain ⟨hactive, hadmitted, hdurable, _, rfl, rfl, rfl⟩ := takeTerminalEffects_spec htake
  refine ⟨h.begun, h.below, h.active, ?_, ?_, h.durable_admitted, ?_⟩
  · change completion.casAdmitted = true ↔ ∃ entry ∈ _ :: sinceBegun log, _
    rw [List.exists_mem_cons_iff, ← h.admitted]
    exact ⟨.inr, fun _ => hadmitted⟩
  · change completion.durable = true ↔ ∃ entry ∈ _ :: sinceBegun log, _
    rw [List.exists_mem_cons_iff, ← h.durable]
    exact ⟨.inr, fun _ => hdurable⟩
  · exact ⟨fun _ => ⟨_, List.mem_cons_self .., _, _, rfl⟩, fun _ => rfl⟩

end Completion

section Runs

variable {completion : AckCompletion} {log : AckLog} {binding : ReceiptBinding} {sessionId : UInt64}

structure ReceiptSound (binding : ReceiptBinding) (log : AckLog) : Prop where
  bound : lastBound log =
    if binding.valid then some (binding.sessionId, binding.baseRevision, binding.ackHash)
    else none

theorem receiptMatches_spec {base ackHash : UInt32}
    (h : receiptMatches binding sessionId base ackHash = true) :
    binding.valid = true ∧ binding.sessionId = sessionId ∧ binding.baseRevision = base ∧
      binding.ackHash = ackHash := by
  simp only [receiptMatches, Bool.and_eq_true, beq_iff_eq] at h
  obtain ⟨⟨⟨⟨hvalid, _⟩, hsession⟩, hbase⟩, hhash⟩ := h
  exact ⟨hvalid.1.1, hsession, hbase, hhash⟩

theorem ReceiptSound.begin (h : ReceiptSound binding log) (sessionId : UInt64)
    (base ackHash : UInt32) : ReceiptSound (receiptBegin binding sessionId base ackHash).1
      ((.receiptBegin sessionId base ackHash,
        .flag (receiptBegin binding sessionId base ackHash).2) :: log) := by
  rw [receiptBegin]
  by_cases hrefused : (sessionId == 0 || base == 0 || base == revisionMax) = true
  · rw [if_pos hrefused]
    exact ⟨h.bound⟩
  rw [if_neg hrefused]
  by_cases hvalid : binding.valid = true
  · rw [if_pos hvalid]
    cases hmatches : receiptMatches binding sessionId base ackHash with
    | false => exact ⟨h.bound⟩
    | true =>
      obtain ⟨_, rfl, rfl, rfl⟩ := receiptMatches_spec hmatches
      refine ⟨?_⟩
      rw [if_pos hvalid]
      rfl
  · rw [if_neg hvalid]
    exact ⟨rfl⟩

structure Logged.Sound (w : Logged) : Prop where
  completion : CompletionSound w.pending.completion w.log
  receipt : ReceiptSound w.pending.receipt w.log

theorem zero_sound : Logged.Sound ⟨.zero, []⟩ where
  completion := CompletionSound.fresh rfl rfl nofun
  receipt := ⟨rfl⟩

theorem Logged.Sound.step {w : Logged} (h : w.Sound) (call : AckCall) : (w.step call).Sound := by
  cases call with
  | ownerBegin sessionId revision ackHash =>
    exact ⟨h.completion.quiet (quiet_foreign rfl _), ⟨h.receipt.bound⟩⟩
  | ownerApply sessionId expected nextState next =>
    exact ⟨h.completion.quiet (quiet_foreign rfl _), ⟨h.receipt.bound⟩⟩
  | ownerClear => exact ⟨h.completion.quiet (quiet_foreign rfl _), ⟨h.receipt.bound⟩⟩
  | completionBegin sessionId base =>
    refine ⟨?_, ⟨h.receipt.bound⟩⟩
    rw [Logged.step, runCall]
    cases hbegin : completionBegin w.pending.completion sessionId base with
    | none => exact h.completion.quiet (quiet_refused nofun)
    | some completion' =>
      obtain ⟨hbelow, rfl⟩ := completionBegin_spec hbegin
      exact CompletionSound.fresh rfl rfl fun _ => hbelow
  | observeCas sessionId expected resulting casAdmitted durable =>
    exact ⟨h.completion.observe sessionId expected resulting casAdmitted durable,
      ⟨h.receipt.bound⟩⟩
  | markReconciled sessionId revision =>
    refine ⟨?_, ⟨h.receipt.bound⟩⟩
    rw [Logged.step, runCall]
    cases hmark : markReconciled w.pending.completion sessionId revision with
    | none => exact h.completion.quiet (quiet_refused nofun)
    | some completion' => exact h.completion.reconcile hmark
  | takeTerminalEffects sessionId revision =>
    refine ⟨?_, ⟨h.receipt.bound⟩⟩
    rw [Logged.step, runCall]
    cases htake : takeTerminalEffects w.pending.completion sessionId revision with
    | none => exact h.completion.quiet (quiet_refused nofun)
    | some completion' => exact h.completion.take htake
  | completionClear =>
    exact ⟨CompletionSound.fresh rfl rfl nofun, ⟨h.receipt.bound⟩⟩
  | receiptBegin sessionId base ackHash =>
    exact ⟨h.completion.quiet (quiet_foreign rfl _), h.receipt.begin sessionId base ackHash⟩
  | receiptClear => exact ⟨h.completion.quiet (quiet_foreign rfl _), ⟨rfl⟩⟩

theorem run_sound (calls : List AckCall) : (runAck calls).Sound :=
  run_always (fun _ call h => h.step call) calls zero_sound

theorem CompletionSound.took (h : CompletionSound completion log) {published : UInt32}
    (htake : (takeTerminalEffects completion sessionId published).isSome = true) :
    ∃ base, lastBegun log = some (sessionId, base) ∧ base ≠ revisionMax ∧
      published = base + 1 ∧ (∃ entry ∈ sinceBegun log, Admission sessionId base entry) ∧
      (∃ entry ∈ sinceBegun log, DurableReport sessionId base entry) ∧
      ∀ entry ∈ sinceBegun log, ¬ Taken entry := by
  obtain ⟨completion', hsome⟩ := Option.isSome_iff_exists.mp htake
  obtain ⟨hactive, hadmitted, hdurable, htaken, rfl, rfl, _⟩ := takeTerminalEffects_spec hsome
  refine ⟨completion.baseRevision, ?_, h.below hactive, (h.active hadmitted).2,
    h.admitted.mp hadmitted, h.durable.mp hdurable, ?_⟩
  · rw [h.begun, if_pos hactive]
  · intro entry hentry htook
    rw [h.taken.mpr ⟨entry, hentry, htook⟩] at htaken
    cases htaken

theorem CompletionSound.suppresses (h : CompletionSound completion log) :
    suppressesRfRetry completion = true ↔
      ∃ sessionId base, lastBegun log = some (sessionId, base) ∧
        (∃ entry ∈ sinceBegun log, Admission sessionId base entry) ∧
        ∀ entry ∈ sinceBegun log, ¬ Taken entry := by
  rw [suppressesRfRetry, Bool.and_eq_true, Bool.and_eq_true, Bool.not_eq_true', h.begun]
  constructor
  · rintro ⟨⟨hactive, hadmitted⟩, htaken⟩
    refine ⟨_, _, if_pos hactive, h.admitted.mp hadmitted, ?_⟩
    intro entry hentry htook
    rw [h.taken.mpr ⟨entry, hentry, htook⟩] at htaken
    cases htaken
  · rintro ⟨sessionId, base, hbegun, hadmitted, huntaken⟩
    split_ifs at hbegun with hactive
    cases hbegun
    refine ⟨⟨hactive, h.admitted.mpr hadmitted⟩, ?_⟩
    rw [← Bool.not_eq_true, h.taken]
    rintro ⟨entry, hentry, htook⟩
    exact huntaken entry hentry htook

theorem CompletionSound.stays_durable (h : CompletionSound completion log)
    (hdurable : completion.durable = true) {pending : PendingAck}
    (hpending : pending.completion = completion) {call : AckCall}
    (hcall : call ≠ .completionClear) : (runCall pending call).1.completion.durable = true := by
  subst hpending
  have hadmitted := h.durable_admitted hdurable
  cases call with
  | ownerBegin | ownerApply | ownerClear | receiptBegin | receiptClear => exact hdurable
  | completionClear => exact absurd rfl hcall
  | completionBegin sessionId base =>
    have hrefused : completionBegin pending.completion sessionId base = none := by
      rw [completionBegin, (h.active hadmitted).1]
      rfl
    rw [runCall, hrefused]
    exact hdurable
  | observeCas sessionId expected resulting casAdmitted durable =>
    rw [runCall]
    rcases observeCas_cases pending.completion sessionId expected resulting casAdmitted durable
      with ⟨result, _, hobserve⟩ | ⟨_, _, _, _, _, _, ⟨_, _, hobserve⟩ | ⟨hfresh, _⟩⟩
    · rw [hobserve]
      exact hdurable
    · rw [hobserve]
      exact Bool.or_eq_true_iff.mpr (.inl hdurable)
    · rw [hadmitted] at hfresh
      cases hfresh
  | markReconciled sessionId revision =>
    rw [runCall]
    cases hmark : markReconciled pending.completion sessionId revision with
    | none => exact hdurable
    | some completion' =>
      rw [(markReconciled_spec hmark).2.2.2.2]
      rfl
  | takeTerminalEffects sessionId revision =>
    rw [runCall]
    cases htake : takeTerminalEffects pending.completion sessionId revision with
    | none => exact hdurable
    | some completion' =>
      obtain ⟨_, _, _, _, _, _, rfl⟩ := takeTerminalEffects_spec htake
      exact hdurable

/-- The terminal effects of a completion are taken once and on durable evidence, and a receipt
answers for the triple it is bound to. -/
theorem ack_effects_once_on_durable_evidence (calls : List AckCall) :
    (∀ sessionId published,
      (takeTerminalEffects (runAck calls).pending.completion sessionId published).isSome = true →
      ∃ base, lastBegun (runAck calls).log = some (sessionId, base) ∧ base ≠ revisionMax ∧
        published = base + 1 ∧
        (∃ entry ∈ sinceBegun (runAck calls).log, Admission sessionId base entry) ∧
        (∃ entry ∈ sinceBegun (runAck calls).log, DurableReport sessionId base entry) ∧
        ∀ entry ∈ sinceBegun (runAck calls).log, ¬ Taken entry) ∧
    (suppressesRfRetry (runAck calls).pending.completion = true ↔
      ∃ sessionId base, lastBegun (runAck calls).log = some (sessionId, base) ∧
        (∃ entry ∈ sinceBegun (runAck calls).log, Admission sessionId base entry) ∧
        ∀ entry ∈ sinceBegun (runAck calls).log, ¬ Taken entry) ∧
    (∀ sessionId expected resulting casAdmitted durable,
      (observeCas (runAck calls).pending.completion sessionId expected resulting casAdmitted
          durable).2 = .rejected ∨
        (observeCas (runAck calls).pending.completion sessionId expected resulting casAdmitted
          durable).2 = .stale →
      (observeCas (runAck calls).pending.completion sessionId expected resulting casAdmitted
        durable).1 = (runAck calls).pending.completion) ∧
    ((runAck calls).pending.completion.durable = true → ∀ call, call ≠ .completionClear →
      (runCall (runAck calls).pending call).1.completion.durable = true) ∧
    ∀ sessionId base ackHash,
      receiptMatches (runAck calls).pending.receipt sessionId base ackHash = true ∨
        (receiptBegin (runAck calls).pending.receipt sessionId base ackHash).2 = true →
      ∀ bound, lastBound (runAck calls).log = some bound → bound = (sessionId, base, ackHash) := by
  have hsound := run_sound calls
  generalize runAck calls = w at *
  refine ⟨?_, hsound.completion.suppresses, ?_, ?_, ?_⟩
  · intro sessionId published htake
    exact hsound.completion.took htake
  · intro sessionId expected resulting casAdmitted durable hnone
    rcases observeCas_cases w.pending.completion sessionId expected resulting casAdmitted durable
      with ⟨result, _, hobserve⟩ | ⟨_, _, _, _, _, _, ⟨_, _, hobserve⟩ | ⟨_, hobserve⟩⟩
    · rw [hobserve]
    · rw [hobserve] at hnone
      dsimp only at hnone
      split_ifs at hnone <;> rcases hnone with hnone | hnone <;> cases hnone
    · rw [hobserve] at hnone
      dsimp only at hnone
      split_ifs at hnone <;> rcases hnone with hnone | hnone <;> cases hnone
  · intro hdurable call hcall
    exact hsound.completion.stays_durable hdurable rfl hcall
  · intro sessionId base ackHash hanswer bound hbound
    rw [hsound.receipt.bound] at hbound
    split_ifs at hbound with hvalid
    cases hbound
    have hmatches : receiptMatches w.pending.receipt sessionId base ackHash = true := by
      rcases hanswer with hmatches | hbegin
      · exact hmatches
      · rw [receiptBegin] at hbegin
        split_ifs at hbegin
        exact hbegin
    obtain ⟨_, rfl, rfl, rfl⟩ := receiptMatches_spec hmatches
    rfl

end Runs

end Sigui.Ack
