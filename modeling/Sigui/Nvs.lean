import Sigui.FaultyStore
import Sigui.Text

/-! The NVS calls of the firmware over a store `σ`. A value set is durable once its commit
succeeds; when the set or the commit fails, or the power is lost meanwhile, it may or may not be. -/
namespace Sigui.Nvs

def errNotFound : EspErr := 0x1102

/-- How the calls of NVS fail: the code of a fault, which is neither success nor an absent key or
namespace, and whether the change became durable all the same. -/
structure Calls (φ ε : Type) where
  code : φ → EspErr
  ne_ok : ∀ fault, code fault ≠ espOk
  ne_not_found : ∀ fault, code fault ≠ errNotFound
  applied : ε → Bool

variable {φ ε σ α : Type}

def durably (update : σ → σ) (applied : Bool) (s : σ) : σ := if applied then update s else s

theorem durably_kept {kept : σ → Prop} {update : σ → σ} (h : ∀ s, kept s → kept (update s))
    (s : σ) (applied : Bool) (hs : kept s) : kept (durably update applied s) := by
  cases applied
  · exact hs
  · exact h s hs

namespace Calls

variable (io : Calls φ ε)

/-- `nvs_open(_, NVS_READONLY, _)` -/
def openReadOnly (present : σ → Bool) : Faulty φ ε σ EspErr :=
  .operate (fun s => (if present s then espOk else errNotFound, s)) (fun _ s => s) io.code

/-- `nvs_open(_, NVS_READWRITE, _)` creates the namespace when it is absent. -/
def openReadWrite (create : σ → σ) : Faulty φ ε σ EspErr :=
  .operate (fun s => (espOk, create s)) (fun effect => durably create (io.applied effect)) io.code

/-- `nvs_get_*` -/
def get (value : σ → Option α) : Faulty φ ε σ (Except EspErr α) :=
  .operate (fun s => ((value s).elim (.error errNotFound) .ok, s)) (fun _ s => s)
    fun fault => .error (io.code fault)

/-- `nvs_set_*` or `nvs_erase_key`, before its commit. -/
def stage (update : σ → σ) : Faulty φ ε σ EspErr :=
  .operate (fun s => (espOk, s)) (fun effect => durably update (io.applied effect)) io.code

/-- `nvs_commit` after the change `update`. -/
def commit (update : σ → σ) : Faulty φ ε σ EspErr :=
  .operate (fun s => (espOk, update s)) (fun effect => durably update (io.applied effect)) io.code

def transact (create update : σ → σ) : Faulty φ ε σ EspErr := do
  let opened ← io.openReadWrite create
  if opened = espOk then
    let staged ← io.stage update
    if staged = espOk then io.commit update else pure staged
  else pure opened

section Rules

variable (may : Prop)

theorem get_reads (value : σ → Option α) (s : σ) :
    (io.get value).Reads may s fun r => r = (value s).elim (.error errNotFound) .ok ∨
      may ∧ ∃ fault, r = .error (io.code fault) :=
  .operate (.inl rfl) fun hmay fault => .inr ⟨hmay, fault, rfl⟩

/-- What `openReadOnly` can return. -/
def Opened (present : σ → Bool) (s : σ) (r : EspErr) : Prop :=
  r = (if present s then espOk else errNotFound) ∨ may ∧ ∃ fault, r = io.code fault

theorem openReadOnly_reads (present : σ → Bool) (s : σ) :
    (io.openReadOnly present).Reads may s (io.Opened may present s) :=
  .operate (.inl rfl) fun hmay fault => .inr ⟨hmay, fault, rfl⟩

variable {io may}

theorem Opened.absent {present : σ → Bool} {s : σ} (h : io.Opened may present s errNotFound) :
    present s = false := by
  rcases h with h | ⟨-, fault, hfault⟩
  · by_contra hpresent
    rw [if_pos (by simpa using hpresent)] at h
    exact absurd h (by decide)
  · exact absurd hfault.symm (io.ne_not_found fault)

theorem Opened.failed {present : σ → Bool} {s : σ} {r : EspErr} (h : io.Opened may present s r)
    (hok : r ≠ espOk) (habsent : r ≠ errNotFound) : may := by
  rcases h with h | ⟨hmay, _⟩
  · by_cases hpresent : present s = true
    · exact absurd (h.trans (if_pos hpresent)) hok
    · exact absurd (h.trans (if_neg hpresent)) habsent
  · exact hmay

variable (io)

theorem transact_meets {create update : σ → σ} {old new : σ → Prop}
    (hcreate : ∀ s, old s → old (create s)) (hupdate : ∀ s, old s → new (update s)) :
    (io.transact create update).Meets may old
      (fun r s => r = espOk ∧ new s ∨
        may ∧ (∃ fault, r = io.code fault) ∧ (old s ∨ new s))
      (fun s => old s ∨ new s) := by
  have hdurably : ∀ s applied, old s →
      old (durably update applied s) ∨ new (durably update applied s) := by
    intro s applied hs
    cases applied
    · exact .inl hs
    · exact .inr (hupdate s hs)
  have hopened : ∀ s applied, old s → old (durably create applied s) := by
    intro s applied hs
    cases applied
    · exact hs
    · exact hcreate s hs
  apply Faulty.Meets.bind
    (q := fun r s => old s ∧ (r = espOk ∨ may ∧ ∃ fault, r = io.code fault))
  · exact .operate (fun s hs => ⟨hcreate s hs, .inl rfl⟩)
      (fun hmay s fault effect hs => ⟨hopened s _ hs, .inr ⟨hmay, fault, rfl⟩⟩)
      (fun _ s effect hs => .inl (hopened s _ hs))
  intro opened
  apply Faulty.Meets.ite
  · intro _
    apply Faulty.Meets.bind
      (q := fun r s => r = espOk ∧ old s ∨
        may ∧ (∃ fault, r = io.code fault) ∧ (old s ∨ new s))
    · exact .operate (fun s hs => .inl ⟨rfl, hs.1⟩)
        (fun hmay s fault effect hs => .inr ⟨hmay, ⟨fault, rfl⟩, hdurably s _ hs.1⟩)
        (fun _ s effect hs => hdurably s _ hs.1)
    intro staged
    apply Faulty.Meets.ite
    · intro hok
      have hold : ∀ s, (staged = espOk ∧ old s ∨
          may ∧ (∃ fault, staged = io.code fault) ∧ (old s ∨ new s)) → old s := by
        rintro s (hs | ⟨-, ⟨fault, rfl⟩, -⟩)
        · exact hs.2
        · exact absurd hok (io.ne_ok fault)
      exact .operate (fun s hs => .inl ⟨rfl, hupdate s (hold s hs)⟩)
        (fun hmay s fault effect hs => .inr ⟨hmay, ⟨fault, rfl⟩, hdurably s _ (hold s hs)⟩)
        (fun _ s effect hs => hdurably s _ (hold s hs))
    · intro hfailed
      exact .pure fun s hs => .inr (hs.resolve_left fun h => hfailed h.1)
  · intro hfailed
    apply Faulty.Meets.pure
    rintro s ⟨hs, hok | ⟨hmay, fault⟩⟩
    · exact absurd hok hfailed
    · exact .inr ⟨hmay, fault, .inl hs⟩

theorem transact_keeps {create update : σ → σ} {kept : σ → Prop}
    (hcreate : ∀ s, kept s → kept (create s)) (hupdate : ∀ s, kept s → kept (update s)) :
    (io.transact create update).Keeps may kept := by
  apply Faulty.Keeps.bind (.operate hcreate fun s _ => durably_kept hcreate s _)
  intro opened
  apply Faulty.Keeps.ite
  · intro _
    apply Faulty.Keeps.bind (.operate (fun _ hs => hs) fun s _ => durably_kept hupdate s _)
    intro staged
    exact .ite (fun _ => .operate hupdate fun s _ => durably_kept hupdate s _) fun _ => .pure _
  · exact fun _ => .pure _

end Rules

end Calls

/-- A code NVS reports for a failed call: neither success nor an absent key or namespace. -/
structure Fault where
  code : EspErr
  ne_ok : code ≠ espOk
  ne_not_found : code ≠ errNotFound
  deriving DecidableEq

abbrev Io (σ α : Type) := Faulty Fault Bool σ α

def calls : Calls Fault Bool where
  code := Fault.code
  ne_ok := Fault.ne_ok
  ne_not_found := Fault.ne_not_found
  applied := id

def openReadOnly (present : σ → Bool) : Io σ EspErr := calls.openReadOnly present
def openReadWrite (create : σ → σ) : Io σ EspErr := calls.openReadWrite create
def get (value : σ → Option α) : Io σ (Except EspErr α) := calls.get value
def stage (update : σ → σ) : Io σ EspErr := calls.stage update
def commit (update : σ → σ) : Io σ EspErr := calls.commit update
def transact (create update : σ → σ) : Io σ EspErr := calls.transact create update

section Rules

variable (may : Prop)

theorem get_reads (value : σ → Option α) (s : σ) :
    (get value).Reads may s fun r => r = (value s).elim (.error errNotFound) .ok ∨
      may ∧ ∃ fault : Fault, r = .error fault.code :=
  calls.get_reads may value s

/-- What `openReadOnly` can return. -/
def Opened (present : σ → Bool) (s : σ) (r : EspErr) : Prop := calls.Opened may present s r

theorem openReadOnly_reads (present : σ → Bool) (s : σ) :
    (openReadOnly present).Reads may s (Opened may present s) :=
  calls.openReadOnly_reads may present s

variable {may}

theorem Opened.absent {present : σ → Bool} {s : σ} (h : Opened may present s errNotFound) :
    present s = false :=
  Calls.Opened.absent h

theorem Opened.failed {present : σ → Bool} {s : σ} {r : EspErr} (h : Opened may present s r)
    (hok : r ≠ espOk) (habsent : r ≠ errNotFound) : may :=
  Calls.Opened.failed h hok habsent

theorem transact_meets {create update : σ → σ} {old new : σ → Prop}
    (hcreate : ∀ s, old s → old (create s)) (hupdate : ∀ s, old s → new (update s)) :
    (transact create update).Meets may old
      (fun r s => r = espOk ∧ new s ∨ may ∧ r ≠ espOk ∧ (old s ∨ new s))
      (fun s => old s ∨ new s) := by
  apply (calls.transact_meets hcreate hupdate).mono (fun _ hs => hs)
  rintro r s (h | ⟨hmay, ⟨fault, rfl⟩, hs⟩)
  · exact .inl h
  · exact .inr ⟨hmay, fault.ne_ok, hs⟩

theorem transact_keeps {create update : σ → σ} {kept : σ → Prop}
    (hcreate : ∀ s, kept s → kept (create s)) (hupdate : ∀ s, kept s → kept (update s)) :
    (transact create update).Keeps may kept :=
  calls.transact_keeps hcreate hupdate

end Rules

end Sigui.Nvs
