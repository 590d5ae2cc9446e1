import Mathlib.Data.Option.Basic
import Sigui.AdminBytes
import Sigui.PacketQuery

/-! The files a map provider keeps on the card: its manifest, its directory and its paths. -/
namespace Sigui.MapPaths

open Admin (ascii decimal)
open Packet (lowerAscii)

def sourceIdMax : Nat := 24
def urlMax : Nat := 192
def attributionMax : Nat := 64
def licenseUrlMax : Nat := 128
def zoomMax : Nat := 18
def downloadMaxBytes : Nat := 196 * 1024

structure Provider where
  sourceId : List UInt8
  urlTemplate : List UInt8
  attribution : List UInt8
  licenseUrl : List UInt8
  configured : Bool
  networkFetchAllowed : Bool
  offlineStoragePermitted : Bool
  backgroundPrefetchPermitted : Bool
  maxZoom : Nat
  averageTileBytes : Nat
  minimumRequestIntervalMs : Nat
  cacheBudgetMb : Nat
  deriving DecidableEq

/-- `D1L_MAP_TILE_SOURCE_ID` -/
def tileSourceId : List UInt8 := ascii "openstreetmap-standard"

def idChar (ch : UInt8) : Bool :=
  (65 ≤ ch && ch ≤ 90) || (97 ≤ ch && ch ≤ 122) || (48 ≤ ch && ch ≤ 57) || ch == 45 || ch == 95

def sourceIdValid (value : List UInt8) : Bool :=
  !value.isEmpty && value.all idChar && decide (value.length ≤ sourceIdMax) && value != tileSourceId

def safeText (value : List UInt8) (capacity : Nat) : Bool :=
  !value.isEmpty && decide (value.length < capacity) &&
    value.all fun ch => 32 ≤ ch && ch ≤ 126 && ch != 34 && ch != 92

/-- The tokens it is asked for do not overlap themselves. -/
def tokenCount (text token : List UInt8) : Nat := text.tails.countP (token.isPrefixOf ·)

def https : List UInt8 := ascii "https://"

def urlTemplateValid (value : List UInt8) : Bool :=
  safeText value (urlMax + 1) && https.isPrefixOf value &&
    [122, 120, 121].all (fun axis => tokenCount value [123, axis, 125] == 1) && !value.contains 35

def osmStandardUrl (value : List UInt8) : Bool :=
  https.isPrefixOf value && (value.drop 8).tails.any fun tail =>
    (ascii "tile.openstreetmap.org").isPrefixOf (tail.map lowerAscii)

def usesOsmStandard (sourceId urlTemplate : List UInt8) : Bool :=
  sourceId == tileSourceId || osmStandardUrl urlTemplate

def isSpace (ch : UInt8) : Bool := ch == 32 || (9 ≤ ch && ch ≤ 13)
def isDigit (ch : UInt8) : Bool := 48 ≤ ch && ch ≤ 57

def jsonValue (json : List UInt8) (key : String) : Option (List UInt8) :=
  let needle := [34] ++ ascii key ++ [34]
  match json.tails.find? (needle.isPrefixOf ·) with
  | none => none
  | some cursor =>
    match (cursor.drop needle.length).dropWhile isSpace with
    | 58 :: rest => some (rest.dropWhile isSpace)
    | _ => none

def jsonString (json : List UInt8) (key : String) (destSize : Nat) : Option (List UInt8) :=
  match jsonValue json key with
  | some (34 :: rest) =>
    let text := rest.takeWhile (· != 34)
    if text.all (fun ch => 32 ≤ ch && ch ≤ 126 && ch != 92) && decide (text.length < destSize) &&
        decide (text.length < rest.length) && !text.isEmpty then some text
    else none
  | _ => none

def valueEnds (rest : List UInt8) : Bool :=
  match rest with
  | [] => false
  | ch :: _ => ch == 44 || ch == 125 || isSpace ch

def jsonBool (json : List UInt8) (key : String) : Option Bool :=
  match jsonValue json key with
  | none => none
  | some cursor =>
    if (ascii "true").isPrefixOf cursor && valueEnds (cursor.drop 4) then some true
    else if (ascii "false").isPrefixOf cursor && valueEnds (cursor.drop 5) then some false
    else none

/-- `strtoul` stops at the largest `unsigned long`, which has 32 bits on the device. -/
def jsonU32 (json : List UInt8) (key : String) : Option Nat :=
  match jsonValue json key with
  | none => none
  | some cursor =>
    let digits := cursor.takeWhile isDigit
    if !digits.isEmpty && valueEnds (cursor.drop digits.length) then
      some (min (digits.foldl (fun value ch => 10 * value + (ch.toNat - 48)) 0) uint32Max)
    else none

/-- The key is there and its value is not `null`. -/
def jsonGiven (json : List UInt8) (key : String) : Bool :=
  match jsonValue json key with
  | none => false
  | some cursor => !(ascii "null").isPrefixOf cursor

def boundedU32 (json : List UInt8) (key : String) (default least most : Nat) : Option Nat :=
  if jsonGiven json key then (jsonU32 json key).filter fun value => least ≤ value && value ≤ most
  else some default

def networkUrl (json : List UInt8) : Option (List UInt8) :=
  if jsonGiven json "network_url_template" then
    (jsonString json "network_url_template" (urlMax + 1)).filter urlTemplateValid
  else some []

/-- `none` is `ESP_ERR_INVALID_RESPONSE`. -/
def parseProviderConfig (json : List UInt8) : Option Provider := do
  let schema ← jsonU32 json "schema"
  let sourceId ← jsonString json "source_id" (sourceIdMax + 1)
  let attribution ← jsonString json "attribution" (attributionMax + 1)
  let licenseUrl ← jsonString json "license_url" (licenseUrlMax + 1)
  let offlineAllowed ← jsonBool json "offline_storage_permitted"
  let backgroundAllowed ← jsonBool json "background_prefetch_permitted"
  let maxZoom ← jsonU32 json "max_zoom"
  let averageTileBytes ← jsonU32 json "average_tile_bytes"
  guard (schema = 1 ∧ sourceIdValid sourceId ∧ safeText attribution (attributionMax + 1) ∧
    safeText licenseUrl (licenseUrlMax + 1) ∧ https.isPrefixOf licenseUrl ∧ offlineAllowed ∧
    14 ≤ maxZoom ∧ maxZoom ≤ zoomMax ∧ 4096 ≤ averageTileBytes ∧
    averageTileBytes ≤ downloadMaxBytes)
  let minimumRequestIntervalMs ← boundedU32 json "minimum_request_interval_ms" 250 100 5000
  let cacheBudgetMb ← boundedU32 json "cache_budget_mb" 18432 256 24576
  let urlTemplate ← networkUrl json
  let networkFetchAllowed := jsonGiven json "network_url_template"
  guard ((backgroundAllowed → networkFetchAllowed) ∧ ¬usesOsmStandard sourceId urlTemplate)
  return {
    sourceId, urlTemplate, attribution, licenseUrl, networkFetchAllowed, maxZoom, averageTileBytes,
    minimumRequestIntervalMs, cacheBudgetMb
    configured := true
    offlineStoragePermitted := true
    backgroundPrefetchPermitted := backgroundAllowed }

/-- `d1l_map_tile_provider_builtin` -/
def builtin : Provider where
  sourceId := tileSourceId
  urlTemplate := ascii "https://tile.openstreetmap.org/" ++
    [123, 122, 125, 47, 123, 120, 125, 47, 123, 121, 125] ++ ascii ".png"
  attribution := [0xC2, 0xA9] ++ ascii " OpenStreetMap contributors"
  licenseUrl := ascii "https://www.openstreetmap.org/copyright"
  configured := false
  networkFetchAllowed := true
  offlineStoragePermitted := false
  backgroundPrefetchPermitted := false
  maxZoom := zoomMax
  averageTileBytes := 64 * 1024
  minimumRequestIntervalMs := 250
  cacheBudgetMb := 18432

inductive Accepted : Provider → Prop
  | parsed {json : CStr} {p : Provider} (h : parseProviderConfig json.bytes = some p) : Accepted p
  | builtin : Accepted builtin

/-- The file path buffers, `D1L_RP2040_FILE_PATH_MAX` and the final byte. -/
def pathSize : Nat := 96 + 1

/-- `snprintf` into one of them. -/
def printed (text : List UInt8) : Option (List UInt8) :=
  if text ≠ [] ∧ text.length < pathSize then some text else none

def coordValid (z x y : Nat) : Bool :=
  decide (z ≤ zoomMax) && decide (x < 2 ^ z) && decide (y < 2 ^ z)

def Provider.directory (p : Provider) : List UInt8 :=
  if p.configured then p.sourceId else ascii "openstreetmap"

def Provider.under (p : Provider) (name : List UInt8) : List UInt8 :=
  ascii "map/tiles/" ++ p.directory ++ 47 :: name

/-- `z%u/x%lu/y%lu` -/
def coordText (z x y : Nat) : List UInt8 :=
  ascii "z" ++ decimal z ++ ascii "/x" ++ decimal x ++ ascii "/y" ++ decimal y

def providerPath (p : Provider) (z x y : Nat) : Option (List UInt8) :=
  if p.maxZoom < z ∨ coordValid z x y = false then none
  else printed (p.under (coordText z x y ++ ascii ".png"))

def attributionPath (p : Provider) (temporary : Bool) : Option (List UInt8) :=
  printed (p.under (ascii "attribution." ++ if temporary then ascii "tmp" else ascii "json"))

structure TilePaths where
  path : List UInt8
  tmpPath : List UInt8
  metadataPath : List UInt8
  metadataTmpPath : List UInt8
  attributionPath : List UInt8
  attributionTmpPath : List UInt8

def tileResultPaths (p : Provider) (z x y : Nat) : Option TilePaths := do
  guard (coordValid z x y)
  let path ← providerPath p z x y
  let stem := path.take (path.length - 4)
  guard (4 ≤ path.length ∧ path.drop (path.length - 4) = ascii ".png" ∧ path.length + 6 < pathSize)
  return ⟨path, ← printed (stem ++ ascii ".tmp"), ← printed (stem ++ ascii ".meta"),
    ← printed (stem ++ ascii ".meta.tmp"), ← attributionPath p false, ← attributionPath p true⟩

/-- The files that belong to the coordinate. -/
def TilePaths.own (t : TilePaths) : List (List UInt8) :=
  [t.path, t.tmpPath, t.metadataPath, t.metadataTmpPath]

def controlNames : List (List UInt8) :=
  ["cache-journal.v1", "cache-journal-repair.tmp", "cache-journal.v1.bak", "cache-state.v1",
    "cache-state.tmp", "cache-state.v1.bak"].map ascii

/-- The journal and the state with their temporary and backup files, as `controlNames` has them. -/
def cacheControlPaths (p : Provider) : Option (List (List UInt8)) := do
  guard (p.sourceId ≠ [])
  controlNames.mapM fun name => printed (p.under name)

/-- The provider's calls build the path. -/
def Builds (p : Provider) (path : List UInt8) : Prop :=
  (∃ z x y paths, tileResultPaths p z x y = some paths ∧
    path ∈ paths.own ++ [paths.attributionPath, paths.attributionTmpPath]) ∨
  ∃ paths, cacheControlPaths p = some paths ∧ path ∈ paths

/-- As a FAT card sees a path. -/
def fold (path : List UInt8) : List UInt8 := path.map lowerAscii

section Facts

variable {p : Provider} {z x y : Nat}

theorem split_at {α : Type} {p : α → Bool} {xs ys as bs : List α} {c d : α}
    (hx : ∀ a ∈ xs, p a = true) (hy : ∀ a ∈ ys, p a = true) (hc : p c = false) (hd : p d = false)
    (h : xs ++ c :: as = ys ++ d :: bs) : xs = ys ∧ c :: as = d :: bs := by
  have htake := congrArg (List.takeWhile p) h
  have hdrop := congrArg (List.dropWhile p) h
  rw [List.takeWhile_append_of_pos hx, List.takeWhile_append_of_pos hy,
    List.takeWhile_cons_of_neg (by simp [hc]), List.takeWhile_cons_of_neg (by simp [hd]),
    List.append_nil, List.append_nil] at htake
  rw [List.dropWhile_append_of_pos hx, List.dropWhile_append_of_pos hy,
    List.dropWhile_cons_of_neg (by simp [hc]), List.dropWhile_cons_of_neg (by simp [hd])] at hdrop
  exact ⟨htake, hdrop⟩

theorem digits_decimal (n : Nat) {c : Char} (hc : c ∈ Nat.toDigits 10 n) :
    (UInt8.ofNat c.toNat).toNat = c.toNat ∧ 48 ≤ c.toNat ∧ c.toNat ≤ 57 := by
  have hdigit := Char.isDigit_iff_toNat.mp
    (Nat.isDigit_of_mem_toDigits (by decide) (by decide) hc)
  change 48 ≤ c.toNat ∧ c.toNat ≤ 57 at hdigit
  refine ⟨?_, hdigit⟩
  rw [UInt8.toNat_ofNat']
  omega

theorem isDigit_decimal (n : Nat) : ∀ ch ∈ decimal n, isDigit ch = true := by
  intro ch hch
  obtain ⟨c, hc, rfl⟩ := List.mem_map.mp hch
  obtain ⟨hsame, hlow, hhigh⟩ := digits_decimal n hc
  simp only [isDigit, Bool.and_eq_true, decide_eq_true_eq, UInt8.le_iff_toNat_le, hsame]
  exact ⟨hlow, hhigh⟩

theorem decimal_injective {m n : Nat} (h : decimal m = decimal n) : m = n := by
  have hback (k : Nat) :
      (decimal k).map (fun ch => Char.ofNat ch.toNat) = Nat.toDigits 10 k := by
    rw [decimal, List.map_map]
    refine (List.map_congr_left fun c hc => ?_).trans (List.map_id _)
    rw [Function.comp_apply, (digits_decimal k hc).1, Char.ofNat_toNat]
    rfl
  have hdigits := (hback m).symm.trans ((congrArg _ h).trans (hback n))
  rw [← @Nat.ofDigitChars_ten_toDigits m, hdigits, Nat.ofDigitChars_ten_toDigits]

theorem fold_decimal (n : Nat) : fold (decimal n) = decimal n := by
  refine (List.map_congr_left fun ch hch => ?_).trans (List.map_id _)
  have hdigit := isDigit_decimal n ch hch
  simp only [isDigit, Bool.and_eq_true, decide_eq_true_eq, UInt8.le_iff_toNat_le] at hdigit
  have hhigh : ch.toNat ≤ 57 := hdigit.2
  exact if_neg (by omega)

theorem fold_idChar {ch : UInt8} (h : idChar ch = true) : (lowerAscii ch != 47) = true := by
  rw [bne_iff_ne]
  intro hslash
  unfold lowerAscii at hslash
  split_ifs at hslash with hupper
  · have hnat := congrArg UInt8.toNat hslash
    rw [UInt8.toNat_add] at hnat
    change (ch.toNat + 32) % 256 = 47 at hnat
    omega
  · rw [hslash] at h
    exact absurd h (by decide)

theorem coord_apart {z' x' y' : Nat} {s s' : List UInt8}
    (h : fold (coordText z x y ++ 46 :: s) = fold (coordText z' x' y' ++ 46 :: s')) :
    z = z' ∧ x = x' ∧ y = y' := by
  have hform (z x y : Nat) (s : List UInt8) : fold (coordText z x y ++ 46 :: s) =
      122 :: (decimal z ++ 47 :: 120 :: (decimal x ++ 47 :: 121 :: (decimal y ++ 46 :: fold s))) := by
    have hmap (xs ys : List UInt8) : fold (xs ++ ys) = fold xs ++ fold ys := List.map_append
    simp only [coordText, hmap, fold_decimal, List.append_assoc]
    rfl
  rw [hform, hform] at h
  obtain ⟨hz, hrest⟩ := split_at (isDigit_decimal z) (isDigit_decimal z') rfl rfl
    (List.cons.inj h).2
  obtain ⟨hx, hrest⟩ := split_at (isDigit_decimal x) (isDigit_decimal x') rfl rfl
    (List.cons.inj (List.cons.inj hrest).2).2
  obtain ⟨hy, _⟩ := split_at (isDigit_decimal y) (isDigit_decimal y') rfl rfl
    (List.cons.inj (List.cons.inj hrest).2).2
  exact ⟨decimal_injective hz, decimal_injective hx, decimal_injective hy⟩

theorem Accepted.sourceId_ok (h : Accepted p) :
    p.sourceId ≠ [] ∧ p.sourceId.length ≤ sourceIdMax ∧ ∀ ch ∈ p.sourceId, idChar ch = true := by
  cases h with
  | parsed h =>
    obtain ⟨_, _, h⟩ := Option.bind_eq_some_iff.mp h
    obtain ⟨sourceId, _, h⟩ := Option.bind_eq_some_iff.mp h
    iterate 6 obtain ⟨_, _, h⟩ := Option.bind_eq_some_iff.mp h
    obtain ⟨_, hguard, h⟩ := Option.bind_eq_some_iff.mp h
    rw [Option.guard_eq_some'] at hguard
    iterate 4 obtain ⟨_, _, h⟩ := Option.bind_eq_some_iff.mp h
    have hvalid := hguard.2.1
    simp only [sourceIdValid, Bool.and_eq_true, Bool.not_eq_true', List.isEmpty_eq_false_iff,
      List.all_eq_true, decide_eq_true_eq] at hvalid
    cases h
    exact ⟨hvalid.1.1.1, hvalid.1.2, hvalid.1.1.2⟩
  | builtin => exact ⟨by decide, by decide, List.all_eq_true.mp (by decide)⟩

theorem Accepted.directory_ok (h : Accepted p) :
    p.directory.length ≤ sourceIdMax ∧ ∀ ch ∈ p.directory, idChar ch = true := by
  unfold Provider.directory
  split_ifs
  · exact h.sourceId_ok.2
  · exact ⟨by decide, List.all_eq_true.mp (by decide)⟩

theorem under_fold {q : Provider} (hp : Accepted p) (hq : Accepted q) {a b : List UInt8}
    (h : fold (p.under a) = fold (q.under b)) :
    fold p.directory = fold q.directory ∧ fold a = fold b := by
  have hplain {r : Provider} (hr : Accepted r) :
      ∀ ch ∈ fold r.directory, (ch != 47) = true := by
    intro ch hch
    obtain ⟨c, hc, rfl⟩ := List.mem_map.mp hch
    exact fold_idChar (hr.directory_ok.2 c hc)
  simp only [fold, Provider.under, List.map_append, List.map_cons, List.append_assoc,
    List.append_cancel_left_eq] at h
  obtain ⟨hdir, hrest⟩ := split_at (hplain hp) (hplain hq) rfl rfl h
  exact ⟨hdir, (List.cons.inj hrest).2⟩

theorem Accepted.cacheControlPaths_eq (h : Accepted p) :
    cacheControlPaths p = some (controlNames.map p.under) := by
  have hlen := h.directory_ok.1
  have hprinted : ∀ name ∈ controlNames, printed (p.under name) = some (p.under name) := by
    intro name hname
    have hshort : name.length ≤ 32 := by
      revert name
      decide
    refine if_pos ⟨by simp [Provider.under], ?_⟩
    have hroot : (ascii "map/tiles/").length = 10 := rfl
    rw [Provider.under, List.length_append, List.length_append, List.length_cons, hroot]
    unfold sourceIdMax at hlen
    unfold pathSize
    omega
  have hall : ∀ names ⊆ controlNames,
      names.mapM (fun name => printed (p.under name)) = some (names.map p.under) := by
    intro names
    induction names with
    | nil => exact fun _ => rfl
    | cons name names ih =>
      intro hsub
      obtain ⟨hname, hrest⟩ := List.cons_subset.mp hsub
      rw [List.mapM_cons, hprinted name hname, ih hrest]
      rfl
  rw [cacheControlPaths, guard, if_pos h.sourceId_ok.1]
  exact hall _ (List.Subset.refl _)

theorem tileResultPaths_eq {paths : TilePaths} (h : tileResultPaths p z x y = some paths) :
    paths = ⟨p.under (coordText z x y ++ ascii ".png"), p.under (coordText z x y ++ ascii ".tmp"),
      p.under (coordText z x y ++ ascii ".meta"), p.under (coordText z x y ++ ascii ".meta.tmp"),
      p.under (ascii "attribution.json"), p.under (ascii "attribution.tmp")⟩ := by
  have hprinted {text out : List UInt8} (hout : printed text = some out) : out = text := by
    unfold printed at hout
    split_ifs at hout
    exact (Option.some.inj hout).symm
  simp only [tileResultPaths, Option.bind_eq_bind, Option.bind_eq_some_iff] at h
  obtain ⟨_, _, path, hpath, _, _, tmp, htmp, metadata, hmetadata, metadataTmp, hmetadataTmp, own,
    hown, ownTmp, hownTmp, hpaths⟩ := h
  have hpath : path = p.under (coordText z x y) ++ ascii ".png" := by
    unfold providerPath at hpath
    split_ifs at hpath
    rw [hprinted hpath]
    simp [Provider.under]
  have hstem : path.take (path.length - 4) = p.under (coordText z x y) := by
    have hlen : path.length - 4 = (p.under (coordText z x y)).length := by
      rw [hpath, List.length_append]
      exact Nat.add_sub_cancel _ 4
    rw [hlen, hpath, List.take_left]
  rw [hstem] at htmp hmetadata hmetadataTmp
  rw [← Option.some.inj hpaths, hprinted htmp, hprinted hmetadata, hprinted hmetadataTmp,
    hprinted hown, hprinted hownTmp, hpath]
  have hjson : ascii "attribution." ++ ascii "json" = ascii "attribution.json" := by decide
  have htmpName : ascii "attribution." ++ ascii "tmp" = ascii "attribution.tmp" := by decide
  simp [Provider.under, hjson, htmpName]

theorem Builds.under (h : Accepted p) {path : List UInt8} (hbuilt : Builds p path) :
    ∃ name, path = p.under name := by
  rcases hbuilt with ⟨z, x, y, paths, hpaths, hmem⟩ | ⟨paths, hpaths, hmem⟩
  · rw [tileResultPaths_eq hpaths] at hmem
    simp only [TilePaths.own, List.cons_append, List.nil_append, List.mem_cons, List.not_mem_nil,
      or_false] at hmem
    rcases hmem with rfl | rfl | rfl | rfl | rfl | rfl
    all_goals exact ⟨_, rfl⟩
  · rw [h.cacheControlPaths_eq] at hpaths
    cases hpaths
    obtain ⟨name, _, rfl⟩ := List.mem_map.mp hmem
    exact ⟨name, rfl⟩

theorem own_under {paths : TilePaths} (h : tileResultPaths p z x y = some paths)
    {path : List UInt8} (hmem : path ∈ paths.own) :
    ∃ suffix, path = p.under (coordText z x y ++ 46 :: suffix) := by
  rw [tileResultPaths_eq h] at hmem
  simp only [TilePaths.own, List.mem_cons, List.not_mem_nil, or_false] at hmem
  rcases hmem with rfl | rfl | rfl | rfl
  all_goals exact ⟨_, rfl⟩

/-- Two providers keep their files apart exactly when their directories differ on the card; the
coordinates of one provider always do. -/
theorem providers_keep_apart {p q : Provider} (hp : Accepted p) (hq : Accepted q) :
    ((∀ a b, Builds p a → Builds q b → fold a ≠ fold b) ∧
      ∀ r, Accepted r → ∀ z x y z' x' y' paths paths', (z, x, y) ≠ (z', x', y') →
        tileResultPaths r z x y = some paths → tileResultPaths r z' x' y' = some paths' →
          ∀ a ∈ paths.own, ∀ b ∈ paths'.own, fold a ≠ fold b) ↔
      fold p.directory ≠ fold q.directory := by
  constructor
  · intro ⟨hapart, _⟩ hdir
    have hjournal {r : Provider} (hr : Accepted r) :
        Builds r (r.under (ascii "cache-journal.v1")) :=
      .inr ⟨_, hr.cacheControlPaths_eq, List.mem_map_of_mem List.mem_cons_self⟩
    refine hapart _ _ (hjournal hp) (hjournal hq) ?_
    simp only [fold, Provider.under, List.map_append] at hdir ⊢
    rw [hdir]
  · intro hdir
    refine ⟨fun a b ha hb hsame => ?_,
      fun r hr z x y z' x' y' paths paths' hne hpaths hpaths' a ha b hb hsame => ?_⟩
    · obtain ⟨_, rfl⟩ := ha.under hp
      obtain ⟨_, rfl⟩ := hb.under hq
      exact hdir (under_fold hp hq hsame).1
    · obtain ⟨_, rfl⟩ := own_under hpaths ha
      obtain ⟨_, rfl⟩ := own_under hpaths' hb
      obtain ⟨rfl, rfl, rfl⟩ := coord_apart (under_fold hr hr hsame).2
      exact hne rfl

def manifest (sourceId : String) : List UInt8 :=
  ["\x7b\"schema\":1,", "\"source_id\":\"", sourceId, "\",\"attribution", "\":\"a\",\"license",
    "_url\":\"https://l", "\",\"offline_stora", "ge_permitted\":t", "rue,\"background",
    "_prefetch_permi", "tted\":false,\"ma", "x_zoom\":15,\"ave", "rage_tile_bytes", "\":65536\x7d"].flatMap ascii

/-- What the parser makes of `manifest`. -/
def parsedManifest (sourceId : String) : Provider :=
  ⟨ascii sourceId, [], ascii "a", ascii "https://l", true, false, true, false, 15, 65536, 250,
    18432⟩

theorem providers_keep_apart_nrcan :
    (∀ a b, Builds builtin a → Builds (parsedManifest "nrcan-cbmt") b → fold a ≠ fold b) ∧
      ∀ r, Accepted r → ∀ z x y z' x' y' paths paths', (z, x, y) ≠ (z', x', y') →
        tileResultPaths r z x y = some paths → tileResultPaths r z' x' y' = some paths' →
          ∀ a ∈ paths.own, ∀ b ∈ paths'.own, fold a ≠ fold b :=
  (providers_keep_apart .builtin
    (@Accepted.parsed ⟨manifest "nrcan-cbmt", by decide +kernel⟩ _ (by decide +kernel))).mpr
    (by decide)

/-- A manifest named as the built-in's directory shares the built-in's journal. -/
theorem openstreetmap_shares_journal :
    ∃ p path, parseProviderConfig (manifest "openstreetmap") = some p ∧
      p.sourceId ≠ builtin.sourceId ∧ Builds p path ∧ Builds builtin path :=
  ⟨parsedManifest "openstreetmap", builtin.under (ascii "cache-journal.v1"), by decide +kernel,
    by decide, .inr ⟨controlNames.map builtin.under, by decide +kernel, by decide⟩,
    .inr ⟨controlNames.map builtin.under, by decide +kernel, by decide⟩⟩

end Facts

end Sigui.MapPaths
