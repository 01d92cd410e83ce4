import Breadbox.Proofs.Exec
import Breadbox.Memory.Board

/-!
# Bank switching, address by address

One lemma per row of the bank table for the read decoder; the write decoder is the read
decoder with each ROM replaced by the RAM under it (`ofWrite_eq_ofRead`). Main statement
(`bank_switching`): what a bus read, a peek and a write do on a board.
-/

namespace Breadbox

namespace Region

/-- The regions that hold a ROM. -/
def isRom : Region → Bool
  | .basic _ | .kernal _ | .chargen _ => true
  | _ => false

variable {p : Nat} {a : UInt16}

/-- The offset of an address of the BASIC window inside it. -/
theorem offset_basic_lt {n : Nat} (h : 0xA000 ≤ n ∧ n ≤ 0xBFFF) : n - 0xA000 < 8192 := by
  omega

/-- The offset of an address of the I/O window inside it. -/
theorem offset_io_lt {n : Nat} (h : 0xD000 ≤ n ∧ n ≤ 0xDFFF) : n - 0xD000 < 4096 := by
  omega

/-- The offset of an address of the KERNAL window inside it. -/
theorem offset_kernal_lt (a : UInt16) : a.toNat - 0xE000 < 8192 := by
  have := a.toNat_lt
  omega

theorem ofRead_basic (h : 0xA000 ≤ a.toNat ∧ a.toNat ≤ 0xBFFF) (hp : p = 3 ∨ p = 7) :
    ofRead p a = .basic ⟨a.toNat - 0xA000, by omega⟩ := by
  unfold ofRead
  rw [dif_pos ⟨h.1, h.2, hp⟩]

theorem ofRead_chargen (h : 0xD000 ≤ a.toNat ∧ a.toNat ≤ 0xDFFF) (hp : 1 ≤ p ∧ p ≤ 3) :
    ofRead p a = .chargen ⟨a.toNat - 0xD000, by omega⟩ := by
  unfold ofRead
  rw [dif_neg (by omega), dif_pos h, if_pos hp]

theorem ofRead_io (h : 0xD000 ≤ a.toNat ∧ a.toNat ≤ 0xDFFF) (hp : 5 ≤ p) :
    ofRead p a = ofIo a.toNat h := by
  unfold ofRead
  rw [dif_neg (by omega), dif_pos h, if_neg (by omega), if_pos hp]

theorem ofRead_io_ram (h : 0xD000 ≤ a.toNat ∧ a.toNat ≤ 0xDFFF) (hp : p = 0 ∨ p = 4) :
    ofRead p a = .ram a := by
  unfold ofRead
  rw [dif_neg (by omega), dif_pos h, if_neg (by omega), if_neg (by omega)]

theorem ofRead_kernal (h : 0xE000 ≤ a.toNat) (hp : p = 2 ∨ p = 3 ∨ p = 6 ∨ p = 7) :
    ofRead p a = .kernal ⟨a.toNat - 0xE000, offset_kernal_lt a⟩ := by
  unfold ofRead
  rw [dif_neg (by omega), dif_neg (by omega), dif_pos ⟨h, hp⟩]

theorem ofRead_ram (hb : ¬(0xA000 ≤ a.toNat ∧ a.toNat ≤ 0xBFFF ∧ (p = 3 ∨ p = 7)))
    (hw : ¬(0xD000 ≤ a.toNat ∧ a.toNat ≤ 0xDFFF))
    (hk : ¬(0xE000 ≤ a.toNat ∧ (p = 2 ∨ p = 3 ∨ p = 6 ∨ p = 7))) : ofRead p a = .ram a := by
  unfold ofRead
  rw [dif_neg hb, dif_neg hw, dif_neg hk]

theorem ofIo_cia {n : Nat} (h : 0xD000 ≤ n ∧ n ≤ 0xDFFF) (hc : 0xDC00 ≤ n ∧ n ≤ 0xDCFF) :
    ofIo n h = .cia (UInt8.ofNat ((n - 0xDC00) % 16)) :=
  if_pos hc

theorem ofIo_io {n : Nat} (h : 0xD000 ≤ n ∧ n ≤ 0xDFFF) (hc : ¬(0xDC00 ≤ n ∧ n ≤ 0xDCFF)) :
    ofIo n h = .io ⟨n - 0xD000, offset_io_lt h⟩ :=
  if_neg hc

@[simp] theorem isRom_ofIo {n : Nat} (h : 0xD000 ≤ n ∧ n ≤ 0xDFFF) : (ofIo n h).isRom = false := by
  unfold ofIo
  split <;> rfl

theorem ofWrite_io (h : 0xD000 ≤ a.toNat ∧ a.toNat ≤ 0xDFFF) (hp : 4 < p) :
    ofWrite p a = ofIo a.toNat h :=
  dif_pos ⟨h.1, h.2, hp⟩

theorem ofWrite_ram (h : ¬(0xD000 ≤ a.toNat ∧ a.toNat ≤ 0xDFFF ∧ 4 < p)) : ofWrite p a = .ram a :=
  dif_neg h

/-- A read reaches RAM only at its own address. -/
theorem eq_of_ofRead_ram {a' : UInt16} (h : ofRead p a = .ram a') : a' = a := by
  unfold ofRead at h
  dsimp only at h
  split at h
  · cases h
  · split at h
    · split at h
      · cases h
      · split at h
        · unfold ofIo at h
          split at h <;> cases h
        · cases h
          rfl
    · split at h
      · cases h
      · cases h
        rfl

/-- Only addresses in `$DC00-$DCFF` reach a CIA register. -/
theorem cia_window_of_ofRead {r : UInt8} (h : ofRead p a = .cia r) :
    0xDC00 ≤ a.toNat ∧ a.toNat ≤ 0xDCFF := by
  unfold ofRead at h
  dsimp only at h
  split at h
  · cases h
  · split at h
    · split at h
      · cases h
      · split at h
        · unfold ofIo at h
          split at h
          · assumption
          · cases h
        · cases h
    · split at h <;> cases h

/-- A write reaches RAM only at its own address. -/
theorem eq_of_ofWrite_ram {a' : UInt16} (h : ofWrite p a = .ram a') : a' = a := by
  unfold ofWrite at h
  dsimp only at h
  split at h
  · unfold ofIo at h
    split at h <;> cases h
  · cases h
    rfl

/-- The write decoder is the read decoder with each ROM replaced by the RAM under it. -/
theorem ofWrite_eq_ofRead (p : Nat) (a : UInt16) :
    ofWrite p a = if (ofRead p a).isRom then .ram a else ofRead p a := by
  by_cases hw : 0xD000 ≤ a.toNat ∧ a.toNat ≤ 0xDFFF
  · by_cases hp : 4 < p
    · rw [ofWrite_io hw hp, ofRead_io hw hp, isRom_ofIo, if_neg Bool.false_ne_true]
    · -- the window shows the character ROM or plain RAM, and writes go to RAM either way
      rw [ofWrite_ram (by omega)]
      rcases (show (1 ≤ p ∧ p ≤ 3) ∨ p = 0 ∨ p = 4 by omega) with hc | hr
      · rw [ofRead_chargen hw hc]
        rfl
      · rw [ofRead_io_ram hw hr]
        rfl
  · rw [ofWrite_ram (fun h => hw ⟨h.1, h.2.1⟩)]
    by_cases hb : 0xA000 ≤ a.toNat ∧ a.toNat ≤ 0xBFFF ∧ (p = 3 ∨ p = 7)
    · rw [ofRead_basic ⟨hb.1, hb.2.1⟩ hb.2.2]
      rfl
    · by_cases hk : 0xE000 ≤ a.toNat ∧ (p = 2 ∨ p = 3 ∨ p = 6 ∨ p = 7)
      · rw [ofRead_kernal hk.1 hk.2]
        rfl
      · rw [ofRead_ram hb hw hk]
        rfl

/-- In `$DC00-$DCFF` the register number is the address's low four bits. -/
theorem cia_register (h : 0xDC00 ≤ a.toNat) :
    UInt8.ofNat ((a.toNat - 0xDC00) % 16) = a.toUInt8 &&& 0x0F := by
  have h15 : (0x0F : UInt8).toNat = 2 ^ 4 - 1 := rfl
  apply UInt8.toNat_inj.mp
  rw [UInt8.toNat_and, h15, Nat.and_two_pow_sub_one_eq_mod, UInt8.toNat_ofNat',
    UInt16.toNat_toUInt8]
  omega

end Region

namespace Board

/-- `b` shows `x` at `a`: a peek and a bus read both give `x`, and the read changes nothing. -/
def Shows (b : Board) (a : UInt16) (x : UInt8) : Prop :=
  b.peek a = x ∧ b.read a = (x, b)

variable {b : Board} {a : UInt16}

/-- Outside the CIA, reads have no side effect and give the byte the region holds. -/
theorem shows_of_resolve {r : Region} (h : b.memory.resolve a = r) (hr : ∀ x, r ≠ .cia x) :
    b.Shows a (b.memory.readRegion r) := by
  subst h
  cases hc : b.memory.resolve a with
  | cia x => exact absurd hc (hr x)
  | _ => exact ⟨by simp [peek, hc], by simp [read, hc]⟩

/-- A CIA register is read through the chip: `read` with its side effects, `peek` without. -/
theorem read_of_resolve_cia {r : UInt8} (h : b.memory.resolve a = .cia r) :
    b.peek a = b.cia.peek r ∧ b.read a = ((b.cia.fetch r).1, { b with cia := (b.cia.fetch r).2 }) :=
  ⟨by simp [peek, h], by simp [read, h]⟩

theorem write_of_resolveStore_cia {r : UInt8} (v : UInt8) (h : b.memory.resolveStore a = .cia r) :
    b.write a v = { b with cia := b.cia.store r v } := by
  unfold write
  rw [h]

theorem write_of_resolveStore_io (i : Fin 4096) (v : UInt8) (h : b.memory.resolveStore a = .io i) :
    b.write a v = { b with memory := b.memory.pokeIo i v } := by
  unfold write
  rw [h]

theorem write_of_resolveStore_ram (v : UInt8) (h : b.memory.resolveStore a = .ram a) :
    b.write a v = { b with memory := { b.memory with ram := b.memory.ram.set a v } } := by
  unfold write
  rw [h]
  rfl

/-- Writes never reach a ROM. -/
theorem write_roms (v : UInt8) : (b.write a v).memory.roms = b.memory.roms := by
  unfold write
  split <;> rfl

/-- A write changes RAM at its own address only. -/
theorem write_ram_get (v : UInt8) {a' : UInt16} (h : a' ≠ a) :
    (b.write a v).memory.ram.get a' = b.memory.ram.get a' := by
  unfold write
  split
  · rfl
  · rfl
  · next x hx =>
    have := Region.eq_of_ofWrite_ram hx
    subst this
    simp [Memory.pokeRam, Ne.symm h]
  · rfl

/-- Reads change nothing but the CIA. -/
@[simp] theorem read_memory (b : Board) (a : UInt16) : (b.read a).2.memory = b.memory := by
  unfold read
  split <;> rfl

/-- Outside `$DC00-$DCFF` a bus read is a peek. -/
theorem read_eq_peek (h : ¬(0xDC00 ≤ a.toNat ∧ a.toNat ≤ 0xDCFF)) : b.read a = (b.peek a, b) := by
  have hr : ∀ x, b.memory.resolve a ≠ .cia x := fun x hx => h (Region.cia_window_of_ofRead hx)
  obtain ⟨hp, hrd⟩ := shows_of_resolve rfl hr
  rw [hrd, hp]

/-- Two boards with one memory show the same outside the CIA's page. -/
theorem peek_of_memory {b' : Board} (hm : b'.memory = b.memory)
    (hc : ¬(0xDC00 ≤ a.toNat ∧ a.toNat ≤ 0xDCFF)) : b'.peek a = b.peek a := by
  unfold peek
  rw [hm]
  split
  · next r hr => exact absurd (Region.cia_window_of_ofRead hr) hc
  · rfl

/-- The processor's bus reads are the board's. -/
theorem bus_read_eq (a : UInt16) (b : Board) : Bus.read a b = b.read a :=
  rfl

/-- Below `$A000` every bank mode shows RAM to reads. -/
theorem read_low (h : a.toNat < 0xA000) : b.read a = (b.memory.ram.get a, b) :=
  (shows_of_resolve (Region.ofRead_ram (by omega) (by omega) (by omega)) nofun).2

/-- Below `$D000` every bank mode shows RAM to writes. -/
theorem write_low (v : UInt8) (h : a.toNat < 0xD000) :
    b.write a v = { b with memory := { b.memory with ram := b.memory.ram.set a v } } :=
  write_of_resolveStore_ram v (Region.ofWrite_ram (by omega))

/-- Only a write to `$0001` can change the bank mode. -/
theorem write_bankMode (v : UInt8) (h : a ≠ 1) :
    (b.write a v).memory.bankMode = b.memory.bankMode := by
  unfold Memory.bankMode
  rw [write_ram_get v (Ne.symm h)]

/-- `$0001` lies below every window, so a write there goes to RAM and sets the bank mode. -/
theorem write_one_bankMode (v : UInt8) : (b.write 1 v).memory.bankMode = (v &&& 0x07).toNat := by
  have h : b.memory.resolveStore 1 = .ram 1 := Region.ofWrite_ram fun h => absurd h.1 (by decide)
  rw [write_of_resolveStore_ram v h]
  simp [Memory.bankMode]

/-- A write below `$D000` elsewhere than `$0001` leaves every other address reading as before. -/
theorem peek_write_low (v : UInt8) {a' : UInt16} (h : a.toNat < 0xD000) (h1 : a ≠ 1)
    (ha' : a' ≠ a) : (b.write a v).peek a' = b.peek a' := by
  have hbank : (b.write a v).memory.bankMode = b.memory.bankMode := write_bankMode v h1
  rw [write_low v h] at hbank ⊢
  unfold peek
  simp only [Memory.resolve, hbank]
  cases hr : Region.ofRead b.memory.bankMode a' with
  | ram x =>
    have hx : x = a' := Region.eq_of_ofRead_ram hr
    subst hx
    simp [Memory.readRegion, Ne.symm ha']
  | _ => rfl

/-- The bus follows the bank table: reads and peeks give the byte the window shows, writes go
where reads do but for ROM, which gives way to RAM, and only a write to `$0001` moves the
banks. -/
theorem bank_switching (b : Board) (a : UInt16) (v : UInt8) :
    let p := (b.memory.ram.get 1 &&& 0x07).toNat
    let n := a.toNat
    let reg := a.toUInt8 &&& 0x0F
    ((∀ h : 0xA000 ≤ n ∧ n ≤ 0xBFFF, p = 3 ∨ p = 7 →
        b.Shows a (b.memory.roms.basic.get ⟨n - 0xA000, Region.offset_basic_lt h⟩)) ∧
      (∀ h : 0xD000 ≤ n ∧ n ≤ 0xDFFF, p = 1 ∨ p = 2 ∨ p = 3 →
        b.Shows a (b.memory.roms.chargen.get ⟨n - 0xD000, Region.offset_io_lt h⟩)) ∧
      (0xDC00 ≤ n ∧ n ≤ 0xDCFF → p = 5 ∨ p = 6 ∨ p = 7 →
        b.peek a = b.cia.peek reg ∧
          b.read a = ((b.cia.fetch reg).1, { b with cia := (b.cia.fetch reg).2 })) ∧
      (∀ h : 0xD000 ≤ n ∧ n ≤ 0xDFFF, ¬(0xDC00 ≤ n ∧ n ≤ 0xDCFF) → p = 5 ∨ p = 6 ∨ p = 7 →
        b.Shows a (b.memory.io.get ⟨n - 0xD000, Region.offset_io_lt h⟩)) ∧
      (0xE000 ≤ n ∧ n ≤ 0xFFFF → p = 2 ∨ p = 3 ∨ p = 6 ∨ p = 7 →
        b.Shows a (b.memory.roms.kernal.get ⟨n - 0xE000, Region.offset_kernal_lt a⟩)) ∧
      (¬(0xA000 ≤ n ∧ n ≤ 0xBFFF ∧ (p = 3 ∨ p = 7)) → ¬(0xD000 ≤ n ∧ n ≤ 0xDFFF ∧ p ≠ 0 ∧ p ≠ 4) →
        ¬(0xE000 ≤ n ∧ (p = 2 ∨ p = 3 ∨ p = 6 ∨ p = 7)) → b.Shows a (b.memory.ram.get a))) ∧
    ((0xDC00 ≤ n ∧ n ≤ 0xDCFF → 5 ≤ p → b.write a v = { b with cia := b.cia.store reg v }) ∧
      (∀ h : 0xD000 ≤ n ∧ n ≤ 0xDFFF, ¬(0xDC00 ≤ n ∧ n ≤ 0xDCFF) → 5 ≤ p →
        b.write a v = { b with memory := { b.memory with
          io := b.memory.io.set (n - 0xD000) v (Region.offset_io_lt h) } }) ∧
      (¬(0xD000 ≤ n ∧ n ≤ 0xDFFF ∧ 5 ≤ p) →
        b.write a v = { b with memory := { b.memory with ram := b.memory.ram.set a v } })) ∧
    b.memory.resolveStore a = (if (b.memory.resolve a).isRom then .ram a else b.memory.resolve a) ∧
    ((b.memory.resolve a).isRom →
      b.write a v = { b with memory := { b.memory with ram := b.memory.ram.set a v } }) ∧
    (b.write a v).memory.roms = b.memory.roms ∧
    (a ≠ 1 → ∀ a', (b.write a v).memory.resolve a' = b.memory.resolve a' ∧
      (b.write a v).memory.resolveStore a' = b.memory.resolveStore a') ∧
    ∀ a', (b.write 1 v).memory.resolve a' = Region.ofRead (v &&& 0x07).toNat a' := by
  intro p n reg
  have hp : b.memory.bankMode = p := rfl
  have hagree : b.memory.resolveStore a =
      if (b.memory.resolve a).isRom then .ram a else b.memory.resolve a :=
    Region.ofWrite_eq_ofRead p a
  have hreg : ∀ h : 0xDC00 ≤ n, UInt8.ofNat ((n - 0xDC00) % 16) = reg := Region.cia_register
  refine ⟨⟨?basic, ?chargen, ?cia, ?io, ?kernal, ?ram⟩, ⟨?wcia, ?wio, ?wram⟩, hagree, ?rom,
    write_roms v, ?later, ?one⟩
  case basic =>
    intro h hp
    exact shows_of_resolve (Region.ofRead_basic h hp) (by simp)
  case chargen =>
    intro h hp
    exact shows_of_resolve (Region.ofRead_chargen h (by omega)) (by simp)
  case cia =>
    intro hc hp
    have hw : 0xD000 ≤ n ∧ n ≤ 0xDFFF := by omega
    have hr : b.memory.resolve a = .cia reg := by
      rw [← hreg hc.1, ← Region.ofIo_cia hw hc]
      exact Region.ofRead_io hw (by omega)
    exact read_of_resolve_cia hr
  case io =>
    intro h hc hp
    have hr : b.memory.resolve a = .io ⟨n - 0xD000, by omega⟩ := by
      rw [← Region.ofIo_io h hc]
      exact Region.ofRead_io h (by omega)
    exact shows_of_resolve hr (by simp)
  case kernal =>
    intro h hp
    exact shows_of_resolve (Region.ofRead_kernal h.1 hp) (by simp)
  case ram =>
    intro hb hw hk
    have hr : b.memory.resolve a = .ram a := by
      by_cases hd : 0xD000 ≤ n ∧ n ≤ 0xDFFF
      · exact Region.ofRead_io_ram hd (by omega)
      · exact Region.ofRead_ram hb hd hk
    exact shows_of_resolve hr (by simp)
  case wcia =>
    intro hc hp
    have hw : 0xD000 ≤ n ∧ n ≤ 0xDFFF := by omega
    apply write_of_resolveStore_cia v
    rw [← hreg hc.1, ← Region.ofIo_cia hw hc]
    exact Region.ofWrite_io hw (by omega)
  case wio =>
    intro h hc hp
    apply write_of_resolveStore_io ⟨n - 0xD000, by omega⟩ v
    rw [← Region.ofIo_io h hc]
    exact Region.ofWrite_io h (by omega)
  case wram =>
    intro h
    exact write_of_resolveStore_ram v (Region.ofWrite_ram (by omega))
  case rom =>
    intro hrom
    exact write_of_resolveStore_ram v (hagree.trans (if_pos hrom))
  case later =>
    intro h1 a'
    have hm : (b.write a v).memory.bankMode = b.memory.bankMode := write_bankMode v h1
    exact ⟨by simp only [Memory.resolve, hm], by simp only [Memory.resolveStore, hm]⟩
  case one =>
    intro a'
    simp only [Memory.resolve, write_one_bankMode]

end Board

end Breadbox
