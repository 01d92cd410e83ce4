import Breadbox.Proofs.RasterSync
import Breadbox.Proofs.InterruptReturn

/-!
# What drawing and refreshing change

The video chip reads through the bus, so a line drawn from the CIA's page reads its registers,
with their side effects, and the raster publication reads `$D011` where it writes it.

Main statement (`Vic.refresh_board_effect`): drawing keeps memory and changes the CIA only as
register reads do; a refresh to a new line makes the two raster writes and then draws.
-/

namespace Breadbox

namespace Board

variable {b : Board} {a : UInt16}

/-- Outside `$DC00-$DCFF` a write leaves the CIA as it was. -/
theorem write_cia (v : UInt8) (h : ¬(0xDC00 ≤ a.toNat ∧ a.toNat ≤ 0xDCFF)) :
    (b.write a v).cia = b.cia := by
  unfold write
  split
  · next r hr =>
    simp only [Memory.resolveStore] at hr
    rw [Region.ofWrite_eq_ofRead] at hr
    split at hr
    · cases hr
    · exact absurd (Region.cia_window_of_ofRead hr) h
  all_goals rfl

/-- In bank modes 0 to 4 the I/O window shows RAM or the character ROM, never the CIA. -/
theorem hidesCia_of_bankMode (h : b.memory.bankMode < 5) : b.HidesCia := by
  intro a r hr
  have hw := Region.cia_window_of_ofRead hr
  have hio : 0xD000 ≤ a.toNat ∧ a.toNat ≤ 0xDFFF := by omega
  simp only [Memory.resolve] at hr
  rcases (show (1 ≤ b.memory.bankMode ∧ b.memory.bankMode ≤ 3) ∨ b.memory.bankMode = 0 ∨
      b.memory.bankMode = 4 by omega) with hc | hr'
  · rw [Region.ofRead_chargen hio hc] at hr
    cases hr
  · rw [Region.ofRead_io_ram hio hr'] at hr
    cases hr

/-- In bank modes 0 to 4 every write goes to RAM at its own address. -/
theorem write_of_bankMode (v : UInt8) (h : b.memory.bankMode < 5) :
    b.write a v = { b with memory := { b.memory with ram := b.memory.ram.set a v } } :=
  write_of_resolveStore_ram v (Region.ofWrite_ram fun h' => absurd h'.2.2 (by omega))

/-- A write elsewhere than `$0001` leaves every address leading where it did. -/
theorem resolve_write (v : UInt8) (h1 : a ≠ 1) (a' : UInt16) :
    (b.write a v).memory.resolve a' = b.memory.resolve a' := by
  simp only [Memory.resolve, write_bankMode v h1]

section Alike

variable (hw : 0xD000 ≤ a.toNat ∧ a.toNat ≤ 0xDFFF) (hc : ¬(0xDC00 ≤ a.toNat ∧ a.toNat ≤ 0xDCFF))
include hw hc

/-- In bank modes 0 and 4 to 7, reads and writes of `$D000-$DFFF` off the CIA reach one byte. -/
theorem resolve_alike (hm : b.memory.bankMode = 0 ∨ 4 ≤ b.memory.bankMode) :
    b.memory.resolveStore a = b.memory.resolve a ∧
      (b.memory.resolve a = .ram a ∨
        b.memory.resolve a = .io ⟨a.toNat - 0xD000, Region.offset_io_lt hw⟩) := by
  simp only [Memory.resolve, Memory.resolveStore]
  rcases (show b.memory.bankMode = 0 ∨ b.memory.bankMode = 4 ∨ 5 ≤ b.memory.bankMode by omega)
    with h0 | h4 | h5
  · rw [Region.ofRead_io_ram hw (.inl h0), Region.ofWrite_ram (by omega)]
    exact ⟨rfl, .inl rfl⟩
  · rw [Region.ofRead_io_ram hw (.inr h4), Region.ofWrite_ram (by omega)]
    exact ⟨rfl, .inl rfl⟩
  · rw [Region.ofRead_io hw h5, Region.ofWrite_io hw (by omega), Region.ofIo_io hw hc]
    exact ⟨rfl, .inr rfl⟩

omit hc in
/-- An address of the I/O window is not the processor port. -/
theorem ne_one_of_io : a ≠ 1 := by
  rintro rfl
  exact absurd hw.1 (by decide)

variable (hm : b.memory.bankMode = 0 ∨ 4 ≤ b.memory.bankMode)
include hm

/-- There a write is read back. -/
theorem peek_write_self (v : UInt8) : (b.write a v).peek a = v := by
  obtain ⟨hs, hr⟩ := resolve_alike hw hc hm
  unfold peek
  rw [resolve_write v (ne_one_of_io hw) a]
  rcases hr with hr | hr
  · rw [hr, write_of_resolveStore_ram v (hs.trans hr)]
    simp [Memory.readRegion, Ram.get_set]
  · rw [hr, write_of_resolveStore_io _ v (hs.trans hr)]
    simp [Memory.readRegion, Memory.pokeIo]

/-- And every other such address reads as before. -/
theorem peek_write_of_ne (v : UInt8) {a' : UInt16} (hw' : 0xD000 ≤ a'.toNat ∧ a'.toNat ≤ 0xDFFF)
    (hc' : ¬(0xDC00 ≤ a'.toNat ∧ a'.toNat ≤ 0xDCFF)) (ha : a' ≠ a) :
    (b.write a v).peek a' = b.peek a' := by
  obtain ⟨hs, hr⟩ := resolve_alike hw hc hm
  obtain ⟨-, hr'⟩ := resolve_alike hw' hc' hm
  have hne : a'.toNat ≠ a.toNat := fun e => ha (UInt16.toNat_inj.mp e)
  unfold peek
  rw [resolve_write v (ne_one_of_io hw) a']
  rcases hr with hr | hr <;> rcases hr' with hr' | hr'
  · rw [hr', write_of_resolveStore_ram v (hs.trans hr)]
    simp [Memory.readRegion, Ram.get_set, Ne.symm ha]
  · rw [hr', write_of_resolveStore_ram v (hs.trans hr)]
    rfl
  · rw [hr', write_of_resolveStore_io _ v (hs.trans hr)]
    rfl
  · rw [hr', write_of_resolveStore_io _ v (hs.trans hr)]
    have hi : a.toNat - 0xD000 ≠ a'.toNat - 0xD000 := by omega
    simp [Memory.readRegion, Memory.pokeIo, hi]

end Alike

/-- Power-on RAM is zero away from the processor port, and setting the port keeps it so. -/
theorem new_write_one_ram_get (roms : RomSet) (cia : Cia) (v : UInt8) (h : a ≠ 1) :
    ((Board.mk (Memory.new roms) cia).write 1 v).memory.ram.get a = 0 := by
  rw [write_ram_get _ h]
  simp only [Memory.new, Ram.get_set, Ne.symm h, ↓reduceIte, Ram.get_zero]

end Board

namespace Vic

/-- A refresh to a new line writes `$D012` and `$D011`, then draws the cursor's line. -/
theorem refresh_board_of_ne {v : Vic} {cycles : Nat} (b : Board)
    (h : rasterLine cycles ≠ v.lastLine.val) :
    let line := rasterLine cycles
    let b1 := b.write VicReg.raster (UInt8.ofNat line)
    (v.refresh cycles b).2.2 = (v.renderLine v.lastLine (b1.write VicReg.scrollY
      ((b1.peek VicReg.scrollY &&& 0x7F) ||| if line > 255 then 0x80 else 0))).2 := by
  intro line b1
  unfold refresh
  rw [if_neg (fun e => h (congrArg Fin.val e))]
  dsimp only
  rw [Board.read_eq_peek (by decide)]
  split <;> rfl

/-- What drawing and refreshing do to the board: drawing keeps memory, changes the CIA only as
register reads do, and nothing in bank modes 0 to 4; a refresh to a new line writes the line to
`$D012` and `$D011` as read with bit 7 from bit 8 of the line, then draws. -/
theorem refresh_board_effect (v : Vic) (cycles : Nat) (b : Board) (L : Fin rasterLines) :
    let line := rasterLine cycles
    let b1 := b.write VicReg.raster (UInt8.ofNat line)
    let published := b1.write VicReg.scrollY
      ((b1.peek VicReg.scrollY &&& 0x7F) ||| if line > 255 then 0x80 else 0)
    let b' := (v.refresh cycles b).2.2
    Board.ReadsOnly b (v.renderLine L b).2 ∧
      (b.memory.bankMode < 5 → (v.renderLine L b).2 = b) ∧
      (line = v.lastLine.val → b' = b) ∧
      (line ≠ v.lastLine.val →
        b'.memory = published.memory ∧ Cia.ReadsOnly b.cia b'.cia ∧
          (b.memory.bankMode < 5 → b'.cia = b.cia)) := by
  intro line b1 published b'
  have hcia : published.cia = b.cia := by
    rw [Board.write_cia _ (by decide), Board.write_cia _ (by decide)]
  have hmode : published.memory.bankMode = b.memory.bankMode := by
    rw [Board.write_bankMode _ (by decide), Board.write_bankMode _ (by decide)]
  refine ⟨renderLine_readsOnly v L b,
    fun hm => renderLine_quiet v L (Board.hidesCia_of_bankMode hm),
    fun h => congrArg (fun r => r.2.2) (refresh_of_eq h), fun h => ?_⟩
  have hb' : b' = (v.renderLine v.lastLine published).2 := refresh_board_of_ne b h
  have hr := renderLine_readsOnly v v.lastLine published
  rw [hb']
  refine ⟨hr.memory, hcia ▸ hr.cia, fun hm => ?_⟩
  rw [renderLine_quiet v _ (Board.hidesCia_of_bankMode (hmode ▸ hm)), hcia]

/-- In bank modes 0 and 4 to 7 a refresh to a new line keeps the other bits of `$D011`. -/
theorem refresh_keeps_other_bits {v : Vic} {cycles : Nat} {b : Board}
    (hm : b.memory.bankMode = 0 ∨ 4 ≤ b.memory.bankMode) (h : rasterLine cycles ≠ v.lastLine.val) :
    let b' := (v.refresh cycles b).2.2
    b'.peek VicReg.raster = UInt8.ofNat (rasterLine cycles) ∧
      b'.peek VicReg.scrollY =
        (b.peek VicReg.scrollY &&& 0x7F) ||| if rasterLine cycles > 255 then 0x80 else 0 := by
  intro b'
  obtain ⟨-, -, -, hne⟩ := refresh_board_effect v cycles b v.lastLine
  have hmem := (hne h).1
  have hw11 : 0xD000 ≤ VicReg.scrollY.toNat ∧ VicReg.scrollY.toNat ≤ 0xDFFF := by decide
  have hc11 : ¬(0xDC00 ≤ VicReg.scrollY.toNat ∧ VicReg.scrollY.toNat ≤ 0xDCFF) := by decide
  have hw12 : 0xD000 ≤ VicReg.raster.toNat ∧ VicReg.raster.toNat ≤ 0xDFFF := by decide
  have hc12 : ¬(0xDC00 ≤ VicReg.raster.toNat ∧ VicReg.raster.toNat ≤ 0xDCFF) := by decide
  obtain ⟨b1, hb1⟩ : ∃ b1, b1 = b.write VicReg.raster (UInt8.ofNat (rasterLine cycles)) :=
    ⟨_, rfl⟩
  rw [← hb1] at hmem
  have hm1 : b1.memory.bankMode = 0 ∨ 4 ≤ b1.memory.bankMode := by
    rwa [hb1, Board.write_bankMode _ (by decide)]
  refine ⟨?_, ?_⟩
  · rw [Board.peek_of_memory hmem hc12, Board.peek_write_of_ne hw11 hc11 hm1 _ hw12 hc12 (by decide),
      hb1, Board.peek_write_self hw12 hc12 hm]
  · rw [Board.peek_of_memory hmem hc11, Board.peek_write_self hw11 hc11 hm1, hb1,
      Board.peek_write_of_ne hw12 hc12 hm _ hw11 hc11 (by decide)]

/-- In bank mode 0 the refresh at line 1 publishes the line in RAM and keeps the other bits. -/
theorem refresh_publishes_in_ram :
    let roms : RomSet := ⟨Vector.replicate 8192 0xBA, Vector.replicate 8192 0xEE,
      Vector.replicate 4096 0xC4⟩
    let b := (Board.mk (Memory.new roms) (Cia.new Cia.palCps)).write 1 0x30
    let b' := (({} : Vic).refresh 63 b).2.2
    b'.cia = b.cia ∧ b'.memory.ram.get VicReg.raster = 1 ∧
      b'.memory.ram.get VicReg.scrollY = 0 := by
  intro roms b b'
  have hmode : b.memory.bankMode = 0 := by
    rw [Board.write_one_bankMode]
    rfl
  have hram : b.memory.ram.get VicReg.scrollY = 0 :=
    Board.new_write_one_ram_get _ _ _ (by decide)
  have hline : rasterLine 63 = 1 := by decide
  obtain ⟨-, -, -, h⟩ := refresh_board_effect {} 63 b ⟨0, by decide⟩
  obtain ⟨hm, -, hc⟩ := h (by decide)
  simp only [hline] at hm
  obtain ⟨b1, hb1⟩ : ∃ b1, b1 = b.write VicReg.raster (UInt8.ofNat 1) := ⟨_, rfl⟩
  rw [← hb1] at hm
  have hb1mode : b1.memory.bankMode = 0 := by
    rw [hb1, Board.write_bankMode _ (by decide), hmode]
  have hpeek : b1.peek VicReg.scrollY = 0 := by
    have hr : b1.memory.resolve VicReg.scrollY = .ram VicReg.scrollY := by
      simp only [Memory.resolve, hb1mode]
      exact Region.ofRead_io_ram (by decide) (.inl rfl)
    rw [(Board.shows_of_resolve hr (by simp)).1]
    simp only [Memory.readRegion]
    rw [hb1, Board.write_ram_get _ (by decide), hram]
  refine ⟨hc (by omega), ?_, ?_⟩
  · show (({} : Vic).refresh 63 b).2.2.memory.ram.get _ = _
    rw [hm, Board.write_ram_get _ (by decide), hb1, Board.write_of_bankMode _ (by omega)]
    simp [Ram.get_set]
  · show (({} : Vic).refresh 63 b).2.2.memory.ram.get _ = _
    rw [hm, hpeek, Board.write_of_bankMode _ (by omega)]
    simp [Ram.get_set]

/-- In bank mode 1 the refresh copies the character ROM's other bits into RAM's `$D011`. -/
theorem raster_publish_copies_character_rom :
    let roms : RomSet := ⟨Vector.replicate 8192 0xBA, Vector.replicate 8192 0xEE,
      Vector.replicate 4096 0xC4⟩
    let b := (Board.mk (Memory.new roms) (Cia.new Cia.palCps)).write 1 0x31
    b.memory.ram.get VicReg.scrollY = 0 ∧
      (({} : Vic).refresh 63 b).2.2.memory.ram.get VicReg.scrollY = 0x44 := by
  intro roms b
  have hmode : b.memory.bankMode = 1 := by
    rw [Board.write_one_bankMode]
    rfl
  have hram : b.memory.ram.get VicReg.scrollY = 0 :=
    Board.new_write_one_ram_get _ _ _ (by decide)
  have hline : rasterLine 63 = 1 := by decide
  refine ⟨hram, ?_⟩
  rw [refresh_board_of_ne b (by decide), renderLine_memory]
  simp only [hline]
  obtain ⟨b1, hb1⟩ : ∃ b1, b1 = b.write VicReg.raster (UInt8.ofNat 1) := ⟨_, rfl⟩
  rw [← hb1]
  have hb1mode : b1.memory.bankMode = 1 := by
    rw [hb1, Board.write_bankMode _ (by decide), hmode]
  have hpeek : b1.peek VicReg.scrollY = 0xC4 := by
    have hr : b1.memory.resolve VicReg.scrollY = .chargen ⟨0x011, by decide⟩ := by
      simp only [Memory.resolve, hb1mode]
      exact Region.ofRead_chargen (by decide) (by decide)
    rw [(Board.shows_of_resolve hr (by simp)).1]
    simp only [Memory.readRegion]
    rw [hb1, Board.write_roms]
    simp only [b, Board.write_roms]
    simp [Memory.new, roms]
  rw [hpeek, Board.write_of_bankMode _ (by omega)]
  simp only [Ram.get_set, ↓reduceIte]
  decide

end Vic

end Breadbox
