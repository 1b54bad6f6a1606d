/-!
# Powers of two and ten

The powers that bound numbers of so many bits, and those that decimals are scaled by.

Main statements:

* `twoTo_succ`, `tenTo_succ`: the next power is the base times the power.
* `twoTo_pos`, `tenTo_pos`: powers are positive.
-/

namespace TemplateCatalog

/-- The power of two with the given exponent, the bound below which numbers of so many bits lie. -/
def twoTo (bits : Nat) : Nat :=
  Nat.pow 2 bits

/-- The power of ten with the given exponent. -/
def tenTo (places : Nat) : Nat :=
  Nat.pow 10 places

/-- The next power of two is twice the power. -/
theorem twoTo_succ (bits : Nat) : twoTo (bits + 1) = twoTo bits * 2 := rfl

/-- The next power of ten is ten times the power. -/
theorem tenTo_succ (places : Nat) : tenTo (places + 1) = tenTo places * 10 := rfl

/-- Powers of two are positive. -/
theorem twoTo_pos (bits : Nat) : 0 < twoTo bits := by
  induction bits with
  | zero => decide
  | succ bits ih =>
    rw [twoTo_succ]
    omega

/-- Powers of ten are positive. -/
theorem tenTo_pos (places : Nat) : 0 < tenTo places := by
  induction places with
  | zero => decide
  | succ places ih =>
    rw [tenTo_succ]
    omega

end TemplateCatalog
