import Sigui.TraceFrame

/-! The TRACE loop to a contact: out along an authorised route and back by the same hops. -/
namespace Sigui.Trace

open Wire MeshPath

/-- `D1L_MESHCORE_TRACE_MAX_CONTACT_HASH_BYTES` -/
def traceMaxContactHashBytes : Nat := 2

inductive PlanResult
  | ok
  | invalid
  | unsupportedWidth
  | empty
  | tooLong
  deriving DecidableEq

structure ContactTracePlan where
  includesContact : Bool
  pathHashBytes : Nat
  pathHops : Nat
  pathHashes : List UInt8
  deriving DecidableEq

/-- `d1l_meshcore_trace_contact_hash_width` -/
def contactHashWidth (routeHashBytes : Nat) : Nat :=
  if routeHashBytes = 1 then 1
  else if routeHashBytes = 2 ∨ routeHashBytes = 3 then 2
  else 0

/-- The first `width` bytes of the hash of hop `i`. A null route has no hops to be read. -/
def routeHash (outPath : Option Bytes.Memory) (routeHashBytes width i : Nat) : List UInt8 :=
  Bytes.read (fun k => outPath.getD (fun _ => 0) (i * routeHashBytes + k)) width

def copyOut (hashAt : Nat → List UInt8) (width hops : Nat) (hashes : List UInt8) : List UInt8 :=
  (List.range hops).foldl (fun hashes i => Bytes.write hashes (i * width) (hashAt i)) hashes

/-- The loop that counts `i` down to 1 and copies hop `i - 1`. -/
def copyBack (hashAt : Nat → List UInt8) (width : Nat) : Nat → List UInt8 × Nat → List UInt8 × Nat
  | 0, acc => acc
  | i + 1, (hashes, writeHop) =>
    copyBack hashAt width i (Bytes.write hashes (writeHop * width) (hashAt i), writeHop + 1)

/-- `d1l_meshcore_trace_plan_contact`, with what `*out_plan` holds afterwards. -/
def planContact (outPath : Option Bytes.Memory) (outPathLen : UInt8) (contactForwardsTrace : Bool)
    (contactHash : Option Bytes.Memory) (out : Option ContactTracePlan) :
    PlanResult × Option ContactTracePlan :=
  if out.isNone ∨ wirePathLenValid outPathLen = false then (.invalid, out)
  else
    let routeHashBytes := wirePathHashSize outPathLen
    let traceHashBytes := contactHashWidth routeHashBytes
    let pathHops := wirePathHashCount outPathLen
    let pathBytes := wirePathByteLen outPathLen
    if traceHashBytes = 0 ∨ traceMaxContactHashBytes < traceHashBytes then (.unsupportedWidth, out)
    else if 0 < pathBytes ∧ outPath.isNone then (.invalid, out)
    else if contactForwardsTrace = true ∧ contactHash.isNone then (.invalid, out)
    else if pathHops = 0 ∧ contactForwardsTrace = false then (.empty, out)
    else
      let loopHops := if contactForwardsTrace then pathHops * 2 + 1 else pathHops * 2 - 1
      if traceMaxHops < loopHops then (.tooLong, out)
      else if traceMaxPathBytes < loopHops * traceHashBytes then (.tooLong, out)
      else
        let hashAt := routeHash outPath routeHashBytes traceHashBytes
        let outward :=
          copyOut hashAt traceHashBytes pathHops (List.replicate traceMaxPathBytes 0)
        let (hashes, writeHop) :=
          if contactForwardsTrace then
            copyBack hashAt traceHashBytes pathHops
              (Bytes.write outward (pathHops * traceHashBytes) (pointed contactHash traceHashBytes),
                pathHops + 1)
          else copyBack hashAt traceHashBytes (pathHops - 1) (outward, pathHops)
        if writeHop ≠ loopHops then (.invalid, out)
        else (.ok, some ⟨contactForwardsTrace, traceHashBytes, loopHops % 256, hashes⟩)

section Loop

/-- Hop `i` of a plan. -/
def ContactTracePlan.hop (plan : ContactTracePlan) (i : Nat) : List UInt8 :=
  (plan.pathHashes.drop (i * plan.pathHashBytes)).take plan.pathHashBytes

def ContactTracePlan.hops (plan : ContactTracePlan) : List (List UInt8) :=
  (List.range plan.pathHops).map plan.hop

/-- Where a loop over `pathHops` hops turns round. -/
def pivotHop (pathHops : Nat) (contactForwardsTrace : Bool) : Nat :=
  if contactForwardsTrace then pathHops else pathHops - 1

structure AuthorisedLoop (outPath : Option Bytes.Memory) (outPathLen : UInt8)
    (contactForwardsTrace : Bool) (contactHash : Option Bytes.Memory) (plan : ContactTracePlan) :
    Prop where
  width : plan.pathHashBytes = contactHashWidth (wirePathHashSize outPathLen)
  includesContact : plan.includesContact = contactForwardsTrace
  pathHops : plan.pathHops = 2 * pivotHop (wirePathHashCount outPathLen) contactForwardsTrace + 1
  outward : ∀ i, i < wirePathHashCount outPathLen →
    plan.hop i = routeHash outPath (wirePathHashSize outPathLen) plan.pathHashBytes i
  pivot : plan.hop (pivotHop (wirePathHashCount outPathLen) contactForwardsTrace) =
    if contactForwardsTrace then pointed contactHash plan.pathHashBytes
    else routeHash outPath (wirePathHashSize outPathLen) plan.pathHashBytes
      (wirePathHashCount outPathLen - 1)
  back : ∀ i, i < pivotHop (wirePathHashCount outPathLen) contactForwardsTrace →
    plan.hop (pivotHop (wirePathHashCount outPathLen) contactForwardsTrace + 1 + i) =
      routeHash outPath (wirePathHashSize outPathLen) plan.pathHashBytes
        (pivotHop (wirePathHashCount outPathLen) contactForwardsTrace - 1 - i)
  palindrome : plan.hops.reverse = plan.hops
  accepted : ∀ tag authCode, (buildSource tag authCode plan.pathHashBytes
    (some (Bytes.pointer plan.pathHashes 0)) plan.pathHops).isSome = true

variable {hashAt : Nat → List UInt8} {width : Nat}

theorem copyOut_write (hlength : ∀ i, (hashAt i).length = width) (hops : Nat)
    (dest : List UInt8) :
    copyOut hashAt width hops dest =
        Bytes.write dest 0 ((List.range hops).flatMap hashAt) ∧
      ((List.range hops).flatMap hashAt).length = hops * width := by
  induction hops with
  | zero =>
    refine ⟨?_, by simp⟩
    show dest = _
    simp [Bytes.write]
  | succ hops ih =>
    obtain ⟨hcopied, hlen⟩ := ih
    have hstep : copyOut hashAt width (hops + 1) dest =
        Bytes.write (copyOut hashAt width hops dest) (hops * width) (hashAt hops) := by
      unfold copyOut
      rw [List.range_succ, List.foldl_append]
      rfl
    have hflat : (List.range (hops + 1)).flatMap hashAt =
        (List.range hops).flatMap hashAt ++ hashAt hops := by
      rw [List.range_succ, List.flatMap_append]
      simp
    rw [hstep, hcopied, hflat]
    refine ⟨?_, ?_⟩
    · rw [← hlen, Bytes.write_write]
    · rw [List.length_append, hlen, hlength, Nat.succ_mul]

theorem copyBack_write (hlength : ∀ i, (hashAt i).length = width) (dest : List UInt8) (n : Nat)
    {writeHop : Nat} {copied : List UInt8} (hcopied : copied.length = writeHop * width) :
    copyBack hashAt width n (Bytes.write dest 0 copied, writeHop) =
      (Bytes.write dest 0 (copied ++ (List.range n).reverse.flatMap hashAt), writeHop + n) := by
  induction n generalizing writeHop copied with
  | zero => simp [copyBack]
  | succ n ih =>
    have hnext : (copied ++ hashAt n).length = (writeHop + 1) * width := by
      rw [List.length_append, hcopied, hlength, Nat.succ_mul]
    have hwrite : Bytes.write (Bytes.write dest 0 copied) (writeHop * width) (hashAt n) =
        Bytes.write dest 0 (copied ++ hashAt n) := by
      rw [← hcopied, Bytes.write_write]
    unfold copyBack
    rw [hwrite, ih hnext, List.range_succ, List.reverse_append, List.flatMap_append,
      List.append_assoc]
    refine Prod.ext ?_ ?_
    · simp
    · show writeHop + 1 + n = writeHop + (n + 1)
      omega

theorem chunk_flatten {chunks : List (List UInt8)} (hchunks : ∀ c ∈ chunks, c.length = width)
    (rest : List UInt8) {i : Nat} {chunk : List UInt8} (hi : chunks[i]? = some chunk) :
    ((chunks.flatten ++ rest).drop (i * width)).take width = chunk := by
  induction chunks generalizing i with
  | nil => cases hi
  | cons c chunks ih =>
    have hc : c.length = width := hchunks c List.mem_cons_self
    rw [List.flatten_cons, List.append_assoc]
    cases i with
    | zero =>
      obtain rfl : c = chunk := Option.some.inj hi
      rw [Nat.zero_mul, List.drop_zero, ← hc, List.take_left]
    | succ i =>
      have hdrop : (i + 1) * width = c.length + i * width := by
        rw [Nat.succ_mul, hc, Nat.add_comm]
      rw [hdrop, ← List.drop_drop, List.drop_left]
      exact ih (fun c hmem => hchunks c (List.mem_cons_of_mem _ hmem)) hi

def loopChunks (hashAt : Nat → List UInt8) (pivotHop : Nat) (pivot : List UInt8) :
    List (List UInt8) :=
  (List.range pivotHop).map hashAt ++ pivot :: ((List.range pivotHop).map hashAt).reverse

theorem reverse_loopChunks (hashAt : Nat → List UInt8) (pivotHop : Nat) (pivot : List UInt8) :
    (loopChunks hashAt pivotHop pivot).reverse = loopChunks hashAt pivotHop pivot := by
  unfold loopChunks
  rw [List.reverse_append, List.reverse_cons, List.reverse_reverse, List.append_assoc]
  rfl

theorem length_loopChunks (hashAt : Nat → List UInt8) (pivotHop : Nat) (pivot : List UInt8) :
    (loopChunks hashAt pivotHop pivot).length = 2 * pivotHop + 1 := by
  simp only [loopChunks, List.length_append, List.length_cons, List.length_reverse,
    List.length_map, List.length_range]
  omega

theorem loopChunks_outward {p i : Nat} (hi : i < p) (pivot : List UInt8) :
    (loopChunks hashAt p pivot)[i]? = some (hashAt i) := by
  unfold loopChunks
  rw [List.getElem?_append_left (by simpa using hi), List.getElem?_map, List.getElem?_range hi]
  rfl

theorem loopChunks_pivot (hashAt : Nat → List UInt8) (p : Nat) (pivot : List UInt8) :
    (loopChunks hashAt p pivot)[p]? = some pivot := by
  unfold loopChunks
  rw [List.getElem?_append_right (by simp)]
  simp

theorem loopChunks_back {p i : Nat} (hi : i < p) (pivot : List UInt8) :
    (loopChunks hashAt p pivot)[p + 1 + i]? = some (hashAt (p - 1 - i)) := by
  unfold loopChunks
  rw [List.getElem?_append_right (by simp; omega)]
  have hindex : p + 1 + i - ((List.range p).map hashAt).length = i + 1 := by
    simp only [List.length_map, List.length_range]
    omega
  rw [hindex, List.getElem?_cons_succ, List.getElem?_reverse (by simpa using hi), List.getElem?_map,
    List.length_map, List.length_range, List.getElem?_range (by omega)]
  rfl

theorem mem_loopChunks_length (hlength : ∀ i, (hashAt i).length = width) {pivot : List UInt8}
    (hpivot : pivot.length = width) (p : Nat) :
    ∀ c ∈ loopChunks hashAt p pivot, c.length = width := by
  intro c hc
  unfold loopChunks at hc
  rcases List.mem_append.mp hc with hc | hc
  · obtain ⟨i, -, rfl⟩ := List.mem_map.mp hc
    exact hlength i
  · rcases List.mem_cons.mp hc with rfl | hc
    · exact hpivot
    · obtain ⟨i, -, rfl⟩ := List.mem_map.mp (List.mem_reverse.mp hc)
      exact hlength i

theorem length_flatten_loopChunks (hlength : ∀ i, (hashAt i).length = width) {pivot : List UInt8}
    (hpivot : pivot.length = width) (p : Nat) :
    (loopChunks hashAt p pivot).flatten.length = (2 * p + 1) * width := by
  rw [List.length_flatten, List.map_congr_left (mem_loopChunks_length hlength hpivot p),
    List.map_const', length_loopChunks, List.sum_replicate_nat]

theorem forwarded_loop (hlength : ∀ i, (hashAt i).length = width) {pivot : List UInt8}
    (hpivot : pivot.length = width) (n : Nat) (dest : List UInt8) :
    copyBack hashAt width n
        (Bytes.write (copyOut hashAt width n dest) (n * width) pivot, n + 1) =
      (Bytes.write dest 0 (loopChunks hashAt n pivot).flatten, n * 2 + 1) := by
  obtain ⟨hout, hlen⟩ := copyOut_write hlength n dest
  have hnext : ((List.range n).flatMap hashAt ++ pivot).length = (n + 1) * width := by
    rw [List.length_append, hlen, hpivot, Nat.succ_mul]
  rw [hout, ← hlen, Bytes.write_write, copyBack_write hlength dest n hnext]
  refine Prod.ext ?_ ?_
  · show Bytes.write dest 0 _ = Bytes.write dest 0 _
    unfold loopChunks
    rw [List.flatten_append, List.flatten_cons, ← List.map_reverse, List.append_assoc,
      List.flatMap_def, List.flatMap_def]
  · show n + 1 + n = n * 2 + 1
    omega

theorem unforwarded_loop (hlength : ∀ i, (hashAt i).length = width) (n : Nat)
    (dest : List UInt8) :
    copyBack hashAt width n (copyOut hashAt width (n + 1) dest, n + 1) =
      (Bytes.write dest 0 (loopChunks hashAt n (hashAt n)).flatten, (n + 1) * 2 - 1) := by
  obtain ⟨hout, hlen⟩ := copyOut_write hlength (n + 1) dest
  rw [hout, copyBack_write hlength dest n hlen]
  refine Prod.ext ?_ ?_
  · show Bytes.write dest 0 _ = Bytes.write dest 0 _
    unfold loopChunks
    have hlast : [n].flatMap hashAt = hashAt n := List.append_nil _
    rw [List.flatten_append, List.flatten_cons, ← List.map_reverse, List.range_succ,
      List.flatMap_append, hlast, List.append_assoc, List.flatMap_def, List.flatMap_def]
  · show n + 1 + n = (n + 1) * 2 - 1
    omega

end Loop

section Outcome

variable {outPath contactHash : Option Bytes.Memory} {outPathLen : UInt8} {forwards : Bool}
variable {out : Option ContactTracePlan}

theorem contactHashWidth_cases (h : wirePathLenValid outPathLen = true) :
    contactHashWidth (wirePathHashSize outPathLen) = 1 ∨
      contactHashWidth (wirePathHashSize outPathLen) = 2 := by
  simp only [wirePathLenValid, Bool.and_eq_true, decide_eq_true_eq] at h
  have hpos : 0 < wirePathHashSize outPathLen := Nat.succ_pos _
  unfold contactHashWidth
  split
  · exact .inl rfl
  · rw [if_pos (by omega)]
    exact .inr rfl

/-- What the planner comes to: a refusal that leaves the plan alone, or the loop. -/
inductive Planned (outPath : Option Bytes.Memory) (outPathLen : UInt8) (forwards : Bool)
    (contactHash : Option Bytes.Memory) (out : Option ContactTracePlan) :
    PlanResult × Option ContactTracePlan → Prop
  | refused (result : PlanResult) (notOk : result ≠ .ok)
    (tooLong : result = .tooLong →
      traceMaxHops < 2 * pivotHop (wirePathHashCount outPathLen) forwards + 1) :
    Planned outPath outPathLen forwards contactHash out (result, out)
  | planned (hops : 2 * pivotHop (wirePathHashCount outPathLen) forwards + 1 ≤ traceMaxHops)
    (some_hop : wirePathHashCount outPathLen ≠ 0 ∨ forwards = true)
    (contact : forwards = true → contactHash.isSome = true)
    (width : contactHashWidth (wirePathHashSize outPathLen) = 1 ∨
      contactHashWidth (wirePathHashSize outPathLen) = 2) :
    Planned outPath outPathLen forwards contactHash out (.ok, some
      { includesContact := forwards
        pathHashBytes := contactHashWidth (wirePathHashSize outPathLen)
        pathHops := 2 * pivotHop (wirePathHashCount outPathLen) forwards + 1
        pathHashes := Bytes.write (List.replicate traceMaxPathBytes 0) 0
          (loopChunks
            (routeHash outPath (wirePathHashSize outPathLen)
              (contactHashWidth (wirePathHashSize outPathLen)))
            (pivotHop (wirePathHashCount outPathLen) forwards)
            (if forwards then pointed contactHash (contactHashWidth (wirePathHashSize outPathLen))
            else routeHash outPath (wirePathHashSize outPathLen)
              (contactHashWidth (wirePathHashSize outPathLen))
              (wirePathHashCount outPathLen - 1))).flatten })

theorem length_routeHash (outPath : Option Bytes.Memory) (routeHashBytes width i : Nat) :
    (routeHash outPath routeHashBytes width i).length = width := Bytes.length_read _ _

theorem planContact_planned (outPath : Option Bytes.Memory) (outPathLen : UInt8)
    (forwards : Bool) (contactHash : Option Bytes.Memory) (out : Option ContactTracePlan) :
    Planned outPath outPathLen forwards contactHash out
      (planContact outPath outPathLen forwards contactHash out) := by
  unfold planContact
  by_cases hout : out.isNone = true ∨ wirePathLenValid outPathLen = false
  · rw [if_pos hout]
    exact .refused _ (by decide) (fun h => nomatch h)
  rw [if_neg hout]
  have hvalid : wirePathLenValid outPathLen = true := by
    simpa using fun h => hout (.inr h)
  have hwidth := contactHashWidth_cases hvalid
  dsimp only
  generalize hw : contactHashWidth (wirePathHashSize outPathLen) = w at hwidth ⊢
  generalize hn : wirePathHashCount outPathLen = n
  have hwidthOk : ¬ (w = 0 ∨ traceMaxContactHashBytes < w) := by
    unfold traceMaxContactHashBytes
    omega
  rw [if_neg hwidthOk]
  by_cases hpath : 0 < wirePathByteLen outPathLen ∧ outPath.isNone = true
  · rw [if_pos hpath]
    exact .refused _ (by decide) (fun h => nomatch h)
  rw [if_neg hpath]
  by_cases hcontact : forwards = true ∧ contactHash.isNone = true
  · rw [if_pos hcontact]
    exact .refused _ (by decide) (fun h => nomatch h)
  rw [if_neg hcontact]
  by_cases hempty : n = 0 ∧ forwards = false
  · rw [if_pos hempty]
    exact .refused _ (by decide) (fun h => nomatch h)
  rw [if_neg hempty]
  have hloop : (if forwards = true then n * 2 + 1 else n * 2 - 1) = 2 * pivotHop n forwards + 1 := by
    unfold pivotHop
    cases forwards with
    | true => simp [Nat.mul_comm]
    | false =>
      have hne : n ≠ 0 := fun h => hempty ⟨h, rfl⟩
      simp only [Bool.false_eq_true, if_false]
      omega
  rw [hloop]
  by_cases hlong : traceMaxHops < 2 * pivotHop n forwards + 1
  · rw [if_pos hlong]
    exact .refused _ (by decide) (fun _ => by rw [hn]; exact hlong)
  rw [if_neg hlong]
  have hbytes : ¬ traceMaxPathBytes < (2 * pivotHop n forwards + 1) * w := by
    unfold traceMaxHops at hlong
    unfold traceMaxPathBytes
    rcases hwidth with rfl | rfl <;> omega
  rw [if_neg hbytes]
  have hlength := length_routeHash outPath (wirePathHashSize outPathLen) w
  have hmod : (2 * pivotHop n forwards + 1) % 256 = 2 * pivotHop n forwards + 1 := by
    unfold traceMaxHops at hlong
    omega
  cases forwards with
  | true =>
    have hsome : contactHash.isSome = true := by
      cases contactHash with
      | none => exact absurd ⟨rfl, rfl⟩ hcontact
      | some _ => rfl
    have hpivot : (pointed contactHash w).length = w := length_pointed fun _ => hsome
    rw [if_pos rfl, forwarded_loop hlength hpivot]
    dsimp only
    rw [if_neg (by unfold pivotHop; simp [Nat.mul_comm]), hmod]
    have hplanned : Planned outPath outPathLen true contactHash out _ :=
      .planned (by rw [hn]; omega) (.inr rfl) (fun _ => hsome) (by rw [hw]; exact hwidth)
    rw [hw, hn] at hplanned
    exact hplanned
  | false =>
    have hne : n ≠ 0 := fun h => hempty ⟨h, rfl⟩
    obtain ⟨m, rfl⟩ := Nat.exists_eq_succ_of_ne_zero hne
    rw [if_neg Bool.false_ne_true, Nat.succ_sub_one, unforwarded_loop hlength m]
    dsimp only
    rw [if_neg (by unfold pivotHop; simp; omega), hmod]
    have hplanned : Planned outPath outPathLen false contactHash out _ :=
      .planned (by rw [hn]; omega) (.inl (by rw [hn]; exact hne)) (fun h => nomatch h)
        (by rw [hw]; exact hwidth)
    rw [hw, hn] at hplanned
    exact hplanned

theorem pointer_append (bytes rest : List UInt8) {n : Nat} (h : n ≤ bytes.length) :
    Bytes.read (Bytes.pointer (bytes ++ rest) 0) n = bytes.take n := by
  rw [Bytes.read_pointer (by rw [List.length_append]; omega), List.drop_zero,
    List.take_append_of_le_length h]

theorem buildSource_accepts (tag authCode : UInt32) {w h : Nat} {hashes : List UInt8}
    (hfits : PathFits w h hashes) (rest : List UInt8) :
    (buildSource tag authCode w (some (Bytes.pointer (hashes ++ rest) 0)) h).isSome = true := by
  obtain ⟨source, hbuild, -⟩ := buildSource_frame tag authCode hfits
  have hread : pointed (some (Bytes.pointer (hashes ++ rest) 0)) (h * w) =
      pointed (some (Bytes.pointer hashes 0)) (h * w) := by
    show Bytes.read _ _ = Bytes.read _ _
    have hsame := pointer_append hashes [] (n := h * w) (le_of_eq hfits.length.symm)
    rw [List.append_nil] at hsame
    rw [pointer_append hashes rest (le_of_eq hfits.length.symm), hsame]
  have hsame : buildSource tag authCode w (some (Bytes.pointer (hashes ++ rest) 0)) h =
      buildSource tag authCode w (some (Bytes.pointer hashes 0)) h := by
    unfold buildSource
    dsimp only
    rw [hread]
    rfl
  rw [hsame, hbuild]
  rfl

theorem write_start (dest bytes : List UInt8) :
    Bytes.write dest 0 bytes = bytes ++ dest.drop bytes.length := by
  unfold Bytes.write
  rw [List.take_zero, List.nil_append, Nat.zero_add]

theorem loop_authorised {n w : Nat} (hn : wirePathHashCount outPathLen = n)
    (hw : contactHashWidth (wirePathHashSize outPathLen) = w) (hwidth : w = 1 ∨ w = 2)
    (hhops : 2 * pivotHop n forwards + 1 ≤ traceMaxHops) (hsome : n ≠ 0 ∨ forwards = true)
    {pivot : List UInt8} (hlength : pivot.length = w)
    (hpivot : pivot = if forwards then pointed contactHash w
      else routeHash outPath (wirePathHashSize outPathLen) w (n - 1)) :
    AuthorisedLoop outPath outPathLen forwards contactHash
      { includesContact := forwards
        pathHashBytes := w
        pathHops := 2 * pivotHop n forwards + 1
        pathHashes := Bytes.write (List.replicate traceMaxPathBytes 0) 0
          (loopChunks (routeHash outPath (wirePathHashSize outPathLen) w) (pivotHop n forwards)
            pivot).flatten } := by
  generalize hp : pivotHop n forwards = p at hhops ⊢
  generalize hhash : routeHash outPath (wirePathHashSize outPathLen) w = hashAt
  have hashLength : ∀ i, (hashAt i).length = w := by
    intro i
    rw [← hhash]
    exact length_routeHash _ _ _ _
  have hchunks := mem_loopChunks_length hashLength hlength p
  have hflat := length_flatten_loopChunks hashLength hlength p
  generalize hplan : ({
    includesContact := forwards
    pathHashBytes := w
    pathHops := 2 * p + 1
    pathHashes := Bytes.write (List.replicate traceMaxPathBytes 0) 0
      (loopChunks hashAt p pivot).flatten } : ContactTracePlan) = plan
  have hbytes : plan.pathHashBytes = w := by rw [← hplan]
  have hcount : plan.pathHops = 2 * p + 1 := by rw [← hplan]
  have hhashes : plan.pathHashes = (loopChunks hashAt p pivot).flatten ++
      (List.replicate traceMaxPathBytes 0).drop (loopChunks hashAt p pivot).flatten.length := by
    rw [← hplan]
    exact write_start _ _
  -- every hop of the plan is read off the chunks
  have hhop : ∀ i chunk, (loopChunks hashAt p pivot)[i]? = some chunk → plan.hop i = chunk := by
    intro i chunk hi
    unfold ContactTracePlan.hop
    rw [hhashes, hbytes]
    exact chunk_flatten hchunks _ hi
  have hhopsList : plan.hops = loopChunks hashAt p pivot := by
    apply List.ext_getElem?
    intro i
    unfold ContactTracePlan.hops
    rw [List.getElem?_map, hcount]
    by_cases hi : i < 2 * p + 1
    · have hlt : i < (loopChunks hashAt p pivot).length := by rw [length_loopChunks]; exact hi
      rw [List.getElem?_range hi, List.getElem?_eq_getElem hlt]
      exact congrArg some (hhop i _ (List.getElem?_eq_getElem hlt))
    · have hrange : (List.range (2 * p + 1)).length ≤ i := by
        rw [List.length_range]
        omega
      have hend : (loopChunks hashAt p pivot).length ≤ i := by
        rw [length_loopChunks]
        omega
      rw [List.getElem?_eq_none hrange, List.getElem?_eq_none hend]
      rfl
  refine ⟨hbytes.trans hw.symm, by rw [← hplan], ?_, ?_, ?_, ?_, ?_, ?_⟩
  · rw [hcount, hn, hp]
  · intro i hi
    rw [hn] at hi
    rw [hbytes, hhash]
    by_cases hlast : i < p
    · exact hhop i _ (loopChunks_outward hlast pivot)
    · -- only the route's own last hop is its pivot
      unfold pivotHop at hp
      cases forwards with
      | true =>
        rw [if_pos rfl] at hp
        omega
      | false =>
        rw [if_neg Bool.false_ne_true] at hp hpivot
        obtain rfl : i = p := by omega
        rw [hhop i pivot (loopChunks_pivot hashAt i pivot), hpivot, hhash, hp]
  · rw [hn, hp, hbytes, hhash, hhop p pivot (loopChunks_pivot hashAt p pivot), hpivot, hhash]
  · intro i hi
    rw [hn, hp] at hi
    rw [hn, hp, hbytes, hhash]
    exact hhop _ _ (loopChunks_back hi pivot)
  · rw [hhopsList, reverse_loopChunks]
  · intro tag authCode
    have hfits : PathFits w (2 * p + 1) (loopChunks hashAt p pivot).flatten := by
      refine ⟨hashWidthSupported_iff.mpr ?_, hflat, by omega, hhops, ?_⟩
      · rcases hwidth with h | h
        · exact .inl h
        · exact .inr (.inl h)
      · unfold traceMaxHops at hhops
        unfold traceMaxPathBytes
        rcases hwidth with rfl | rfl <;> omega
    rw [hbytes, hcount, hhashes]
    exact buildSource_accepts tag authCode hfits _

/-- A contact's TRACE plan is the authorised loop, is refused as too long only when that loop has
more than 63 hops, and is left alone by every refusal. -/
theorem contact_trace_plan (outPath : Option Bytes.Memory) (outPathLen : UInt8) (forwards : Bool)
    (contactHash : Option Bytes.Memory) (out : Option ContactTracePlan) :
    let planned := planContact outPath outPathLen forwards contactHash out
    (planned.1 = .ok → ∃ plan, planned.2 = some plan ∧
        AuthorisedLoop outPath outPathLen forwards contactHash plan) ∧
      (planned.1 = .tooLong →
        traceMaxHops < 2 * pivotHop (wirePathHashCount outPathLen) forwards + 1) ∧
      (planned.1 ≠ .ok → planned.2 = out) := by
  have hplanned := planContact_planned outPath outPathLen forwards contactHash out
  generalize planContact outPath outPathLen forwards contactHash out = planned at hplanned ⊢
  dsimp only
  cases hplanned with
  | refused result notOk tooLong => exact ⟨fun hok => absurd hok notOk, tooLong, fun _ => rfl⟩
  | planned hops some_hop contact width =>
    refine ⟨?_, ?_, fun hne => absurd rfl hne⟩
    · intro _
      refine ⟨_, rfl, ?_⟩
      apply loop_authorised rfl rfl width hops some_hop
      · cases forwards with
        | true => exact length_pointed fun _ => contact rfl
        | false => exact length_routeHash _ _ _ _
      · rfl
    · intro hlong
      cases hlong

/-- A repeater behind one hop with a two-byte hash. -/
theorem contact_trace_plan_one_hop :
    ∃ plan, (planContact (some (Bytes.pointer [1, 2] 0)) 65 true
        (some (Bytes.pointer [7, 8, 9] 0)) (some ⟨false, 0, 0, []⟩)).2 = some plan ∧
      AuthorisedLoop (some (Bytes.pointer [1, 2] 0)) 65 true
        (some (Bytes.pointer [7, 8, 9] 0)) plan :=
  (contact_trace_plan (some (Bytes.pointer [1, 2] 0)) 65 true
    (some (Bytes.pointer [7, 8, 9] 0)) (some ⟨false, 0, 0, []⟩)).1 (by decide +kernel)

end Outcome

end Sigui.Trace
