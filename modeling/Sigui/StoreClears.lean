import Sigui.ContactClear
import Sigui.RouteClear

/-! Clear as the way out of whatever a key holds, for the two stores whose clear first needs an
init that succeeds. -/
namespace Sigui

section Contact

open Sigui.Contact

def ContactClears (d : ContactDevice) : Prop :=
  (d.store.loaded = true → LoadedClears d) ∧ (d.store.loaded = false → StartsReadable d)

/-- A card with a blob of an older layout, which init would migrate, is mounted after init. -/
def LateMountLegacy (d : ContactDevice) : Prop :=
  d.store.loaded = true ∧ mustReconcile d = true ∧
    ∃ image, d.card = some image ∧ image.isLegacy = true ∧ (acceptImage image).isSome = true

def LateMountAccepts (d : ContactDevice) (nowMs : Nat) : Prop :=
  LateMountLegacy d → (flushDeferred d true (.accepted nowMs)).2 = espOk

theorem contactClears_iff (d : ContactDevice) (nowMs laterMs : Nat) :
    Contact.ClearRecovers d nowMs laterMs ↔ ContactClears d := by
  cases hloaded : d.store.loaded with
  | true =>
    rw [clearRecovers_loaded_iff hloaded, ContactClears, hloaded]
    exact ⟨fun h => ⟨fun _ => h, fun hne => absurd hne Bool.noConfusion⟩, fun h => h.1 rfl⟩
  | false =>
    rw [clearRecovers_unloaded_iff hloaded, ContactClears, hloaded]
    exact ⟨fun h => ⟨fun hne => absurd hne Bool.noConfusion, fun _ => h⟩, fun h => h.2 rfl⟩

theorem lateMountAccepts_iff (d : ContactDevice) (nowMs : Nat) :
    LateMountAccepts d nowMs ↔ ¬LateMountLegacy d := by
  refine ⟨fun h hlate => ?_, fun h hlate => absurd hlate h⟩
  have hok := h hlate
  obtain ⟨hloaded, hmust, image, hcard, hlegacy, -⟩ := hlate
  rw [lateMount_refuses hloaded hmust (not_cardIsCurrent_of_legacy hcard hlegacy)] at hok
  exact absurd hok (by decide)

end Contact

/-- From where a clear of the route store gets through: init accepts what the keys hold, and the
epoch that is written next is not zero. -/
def RouteClears (d : Route.RouteDevice) : Prop :=
  (d.store.loaded = false → Route.StartsReadable d) ∧
    (d.enabled = true → u32Succ (Route.clearedEpoch d) ≠ 0)

/-- Whatever the keys of the two stores hold, clear is a way out, and a card mounted late is read
like one that was there at init. -/
def ClearIsWayOut (c : Contact.ContactDevice) (r : Route.RouteDevice) (nowMs laterMs : Nat) :
    Prop :=
  Contact.ClearRecovers c nowMs laterMs ∧ LateMountAccepts c nowMs ∧
    Route.ClearRecovers r nowMs laterMs

theorem clearIsWayOut_iff (c : Contact.ContactDevice) (r : Route.RouteDevice)
    (nowMs laterMs : Nat) :
    ClearIsWayOut c r nowMs laterMs ↔
      ContactClears c ∧ ¬LateMountLegacy c ∧ RouteClears r := by
  rw [ClearIsWayOut, contactClears_iff, lateMountAccepts_iff, Route.clearRecovers_iff]
  rfl

/-- A store that was just powered up, over a card with a blob that no layout explains. -/
def corruptCard : Contact.ContactDevice :=
  ⟨{}, true, 1, some (.other 3), none⟩

def emptyRoutes : Route.RouteDevice := ⟨{}, true, 1, none, none, none, none⟩

theorem corruptCard_keeps_clear_out :
    ¬∀ c r nowMs laterMs, ClearIsWayOut c r nowMs laterMs := by
  intro h
  have hclear : (Contact.clearStore corruptCard (.accepted 0)).2 = espErrInvalidState := by decide
  have hok := (h corruptCard emptyRoutes 0 0).1.1
  exact absurd (hclear.symm.trans hok) (by decide)

end Sigui
