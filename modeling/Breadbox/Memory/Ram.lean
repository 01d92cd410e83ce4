/-!
# 64 KB of RAM

RAM is a vector of 65536 bytes, so every 16-bit address indexes it without a bounds check.
Loading a run of bytes wraps from `$FFFF` to `$0000`.
-/

namespace Breadbox

/-- 64 KB of bytes, one per 16-bit address. -/
abbrev Ram := Vector UInt8 65536

namespace Ram

/-- Every address is an index of RAM. -/
theorem addr_lt (a : UInt16) : a.toNat < 65536 := a.toNat_lt

/-- All bytes zero. -/
def zero : Ram := Vector.replicate 65536 0

/-- The byte at an address. -/
def get (m : Ram) (a : UInt16) : UInt8 :=
  have h := addr_lt a
  m[a.toNat]

/-- Replaces the byte at an address. -/
def set (m : Ram) (a : UInt16) (v : UInt8) : Ram :=
  Vector.set m a.toNat v (addr_lt a)

@[simp] theorem get_set (m : Ram) (a b : UInt16) (v : UInt8) :
    (m.set a v).get b = if a = b then v else m.get b := by
  unfold get set
  by_cases h : a = b
  · subst h; simp
  · have : a.toNat ≠ b.toNat := fun e => h (UInt16.toNat_inj.mp e)
    simp [h, this]

/-- Writes `bytes` from address `a` on, wrapping past `$FFFF`. -/
def load (m : Ram) (a : UInt16) : List UInt8 → Ram
  | [] => m
  | v :: rest => load (m.set a v) (a + 1) rest

/-- The `len` bytes from address `a` on, wrapping past `$FFFF`. -/
def slice (m : Ram) (a : UInt16) (len : Nat) : List UInt8 :=
  (List.range len).map fun i => m.get (a + UInt16.ofNat i)

end Ram

end Breadbox
