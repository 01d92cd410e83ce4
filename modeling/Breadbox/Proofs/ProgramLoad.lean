import Breadbox.Proofs.Banking

/-!
# Loading a program image

A program image is its load address, low byte first, and the bytes to store from there on,
wrapping at `$FFFF`; the last byte to land on an address wins (`Ram.get_load_of_last`). A load
to `$0801` also sets BASIC's pointers. Main statement: `Memory.loadPrg_spec`.
-/

namespace Breadbox

namespace Ram

/-- Byte `k` of a run written from `a + 1` lands where byte `k + 1` of a run from `a` does. -/
theorem lands_succ (a : UInt16) (k : Nat) :
    ((a + 1).toNat + k) % 65536 = (a.toNat + (k + 1)) % 65536 := by
  rw [UInt16.toNat_add]
  simp only [UInt16.reduceToNat]
  omega

variable {m : Ram} {a x : UInt16}

/-- An address that no byte of the run lands on keeps its byte. -/
theorem get_load_of_miss (bytes : List UInt8)
    (h : ∀ i < bytes.length, (a.toNat + i) % 65536 ≠ x.toNat) :
    (m.load a bytes).get x = m.get x := by
  induction bytes generalizing m a with
  | nil => rfl
  | cons v rest ih =>
    have h0 : a ≠ x := by
      intro e
      apply h 0 (by simp)
      rw [e, Nat.add_zero, Nat.mod_eq_of_lt x.toNat_lt]
    have hrest : ∀ k < rest.length, ((a + 1).toNat + k) % 65536 ≠ x.toNat := by
      intro k hk
      rw [lands_succ]
      exact h (k + 1) (by simp; omega)
    simp only [load]
    rw [ih hrest, get_set, if_neg h0]

/-- An address the run covers holds the byte of the largest index that lands on it. -/
theorem get_load_of_last (bytes : List UInt8) {i : Nat} (hi : i < bytes.length)
    (hx : (a.toNat + i) % 65536 = x.toNat)
    (hlast : ∀ j < bytes.length, (a.toNat + j) % 65536 = x.toNat → j ≤ i) :
    (m.load a bytes).get x = bytes[i] := by
  induction bytes generalizing m a i with
  | nil => simp at hi
  | cons v rest ih =>
    simp only [load]
    cases i with
    | zero =>
      have ha : a = x := by
        apply UInt16.toNat_inj.mp
        rw [← hx, Nat.add_zero, Nat.mod_eq_of_lt a.toNat_lt]
      have hmiss : ∀ k < rest.length, ((a + 1).toNat + k) % 65536 ≠ x.toNat := by
        intro k hk e
        rw [lands_succ] at e
        have := hlast (k + 1) (by simp; omega) e
        omega
      rw [get_load_of_miss rest hmiss, get_set, if_pos ha]
      rfl
    | succ k =>
      have hk : k < rest.length := by simp at hi; omega
      have hx' : ((a + 1).toNat + k) % 65536 = x.toNat := by rw [lands_succ]; exact hx
      have hlast' : ∀ j < rest.length, ((a + 1).toNat + j) % 65536 = x.toNat → j ≤ k := by
        intro j hj e
        rw [lands_succ] at e
        have := hlast (j + 1) (by simp; omega) e
        omega
      rw [ih hk hx' hlast']
      rfl

end Ram

namespace Memory

/-- A loaded image with BASIC's pointer writes spelled out. -/
theorem loadPrg_cons (m : Memory) (lo hi : UInt8) (body : List UInt8) :
    m.loadPrg (lo :: hi :: body) =
      let a := word lo hi
      let stop := a + UInt16.ofNat body.length
      let ram := m.ram.load a body
      .ok (a, { m with ram := if a = basicStart then
        (((((ram.set 0x2D stop.toUInt8).set 0x2E (stop >>> 8).toUInt8).set 0x2F stop.toUInt8).set
          0x30 (stop >>> 8).toUInt8).set 0x31 stop.toUInt8).set 0x32 (stop >>> 8).toUInt8
        else ram }) := by
  simp only [loadPrg, basicPointers, List.foldl]
  split_ifs <;> rfl

/-- Loading a program image: fewer than two bytes is refused with the length; otherwise the load
address is returned, each address the body lands on holds its last byte there, every other keeps
its own, and a load to `$0801` sets BASIC's three pointers to the end of the program. -/
theorem loadPrg_spec (m : Memory) :
    (∀ data : List UInt8, data.length < 2 →
      m.loadPrg data = .error (.programTooShort data.length)) ∧
    ∀ (lo hi : UInt8) (bytes : List UInt8),
      let a := word lo hi
      let stop := a + UInt16.ofNat bytes.length
      ∃ m', m.loadPrg (lo :: hi :: bytes) = .ok (a, m') ∧ m'.io = m.io ∧ m'.roms = m.roms ∧
        (a = 0x0801 → ∀ p ∈ ([0x2D, 0x2F, 0x31] : List UInt16),
          m'.ram.get p = stop.toUInt8 ∧ m'.ram.get (p + 1) = (stop >>> 8).toUInt8) ∧
        ∀ x : UInt16, (a = 0x0801 → x.toNat < 0x2D ∨ 0x32 < x.toNat) →
          (∀ i (hi : i < bytes.length), (a.toNat + i) % 65536 = x.toNat →
            (∀ j < bytes.length, (a.toNat + j) % 65536 = x.toNat → j ≤ i) →
              m'.ram.get x = bytes[i]) ∧
          ((∀ i < bytes.length, (a.toNat + i) % 65536 ≠ x.toNat) → m'.ram.get x = m.ram.get x) := by
  refine ⟨fun data hd => ?_, fun lo hi bytes => ?_⟩
  · rcases data with _ | ⟨v, _ | ⟨w, rest⟩⟩
    · rfl
    · rfl
    · simp at hd
  intro a stop
  refine ⟨_, loadPrg_cons m lo hi bytes, rfl, rfl, fun ha p hp => ?_, fun x hx => ?_⟩
  · have hs : word lo hi = basicStart := ha
    rw [if_pos hs]
    simp only [List.mem_cons, List.not_mem_nil, or_false] at hp
    rcases hp with rfl | rfl | rfl <;> simp [Ram.get_set, stop, a]
  have hram : (if a = basicStart then
        ((((((m.ram.load a bytes).set 0x2D stop.toUInt8).set 0x2E (stop >>> 8).toUInt8).set 0x2F
          stop.toUInt8).set 0x30 (stop >>> 8).toUInt8).set 0x31 stop.toUInt8).set 0x32
          (stop >>> 8).toUInt8
      else m.ram.load a bytes).get x = (m.ram.load a bytes).get x := by
    split_ifs with hs
    · have hx' := hx hs
      have hne : ∀ p : UInt16, 0x2D ≤ p.toNat → p.toNat ≤ 0x32 → p ≠ x := by
        intro p h1 h2 e
        rw [e] at h1 h2
        omega
      simp only [Ram.get_set, hne 0x2D (by decide) (by decide), hne 0x2E (by decide) (by decide),
        hne 0x2F (by decide) (by decide), hne 0x30 (by decide) (by decide),
        hne 0x31 (by decide) (by decide), hne 0x32 (by decide) (by decide), ↓reduceIte]
    · rfl
  exact ⟨fun i hi hx hlast => hram.trans (Ram.get_load_of_last bytes hi hx hlast),
    fun h => hram.trans (Ram.get_load_of_miss bytes h)⟩

end Memory

end Breadbox
