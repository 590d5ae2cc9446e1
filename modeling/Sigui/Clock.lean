import Mathlib.Data.Nat.ModEq

/-! A clock that wraps: what a counter read modulo `modulus` still says about true time. -/
namespace Sigui

section WrappingClock

variable {modulus : Nat}

/-- The reading of the clock at the true time `t`. -/
def stamp (modulus t : Nat) : Nat := t % modulus

/-- The difference of two readings, as unsigned subtraction computes it. -/
def elapsed (modulus since now : Nat) : Nat := (now + modulus - since) % modulus

theorem elapsed_stamp (hpos : 0 < modulus) {since now : Nat} (horder : since ≤ now) :
    elapsed modulus (stamp modulus since) (stamp modulus now) = (now - since) % modulus := by
  have hsince : since % modulus < modulus := Nat.mod_lt _ hpos
  -- both sides, with the reading of `since` added, are the reading of `now`
  have hback : (now % modulus + modulus - since % modulus + since % modulus) % modulus =
      (now - since + since % modulus) % modulus := by
    rw [Nat.sub_add_cancel (hsince.le.trans (Nat.le_add_left _ _)), Nat.add_mod_right,
      Nat.mod_mod, Nat.add_mod_mod, Nat.sub_add_cancel horder]
  exact Nat.ModEq.add_right_cancel' (since % modulus) hback

theorem elapsed_stamp_of_lt {since now : Nat} (horder : since ≤ now)
    (hturn : now - since < modulus) :
    elapsed modulus (stamp modulus since) (stamp modulus now) = now - since := by
  rw [elapsed_stamp (Nat.zero_lt_of_lt hturn) horder, Nat.mod_eq_of_lt hturn]

theorem elapsed_of_looked {bound period since looked now : Nat}
    (hturn : bound + period < modulus) (horder : since ≤ now) (hyoung : looked ≤ since + bound)
    (hnow : now ≤ looked + period) :
    elapsed modulus (stamp modulus since) (stamp modulus now) = now - since := by
  apply elapsed_stamp_of_lt horder
  omega

end WrappingClock

def clockMs (t : Nat) : Nat := stamp (2 ^ 32) t

/-- `now_ms - since_ms` on two readings of it. -/
def ageMs (sinceMs nowMs : Nat) : Nat := elapsed (2 ^ 32) sinceMs nowMs

theorem ageMs_clockMs_le {since now : Nat} (horder : since ≤ now) :
    ageMs (clockMs since) (clockMs now) ≤ now - since := by
  rw [ageMs, clockMs, clockMs, elapsed_stamp (by decide) horder]
  exact Nat.mod_le _ _

theorem ageMs_clockMs_of_lt {since now : Nat} (horder : since ≤ now)
    (hturn : now - since < 2 ^ 32) : ageMs (clockMs since) (clockMs now) = now - since :=
  elapsed_stamp_of_lt horder hturn

end Sigui
