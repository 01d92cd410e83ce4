import Breadbox.Proofs.LineScan

/-!
# Rendering a raster line into the frame

`Vic.renderLine` writes row `L` of the frame and no other; on a steady board the row is the
pixel law (`Vic.renderLine_pixel_law`). On a board that is not steady a glyph read of the ICR
changes later pixels (`Vic.icr_read_darkens_later_pixel`).
-/

namespace Breadbox

/-- A frame pixel after writing `r` into row `L` from column `c`. -/
theorem getElem_writeRow (px : Vector UInt32 framePixels) (L : Fin rasterLines) (c : Nat)
    (r : List UInt32) {i : Nat} (hi : i < framePixels) :
    (writeRow px L c r)[i] =
      if L.val * rasterColumns + c ≤ i ∧ i < L.val * rasterColumns + rasterColumns ∧
          i < L.val * rasterColumns + c + r.length
      then r.getD (i - (L.val * rasterColumns + c)) 0 else px[i] := by
  induction r generalizing px c with
  | nil =>
    rw [if_neg (by simp only [List.length_nil]; omega)]
    rfl
  | cons p rest ih =>
    by_cases hc : c < rasterColumns
    · -- the head lands at column `c`, the rest from `c + 1` on
      simp only [writeRow, dif_pos hc]
      rw [ih, Vector.getElem_set]
      simp only [List.length_cons]
      by_cases he : L.val * rasterColumns + c = i
      · rw [if_neg (by omega), if_pos he, if_pos (by omega), ← he, Nat.sub_self]
        rfl
      · rw [if_neg he]
        by_cases hin : L.val * rasterColumns + c ≤ i ∧ i < L.val * rasterColumns + rasterColumns ∧
            i < L.val * rasterColumns + c + (rest.length + 1)
        · obtain ⟨k, hk⟩ : ∃ k, i - (L.val * rasterColumns + c) = k + 1 :=
            ⟨_, (Nat.succ_pred_eq_of_pos (by omega)).symm⟩
          rw [if_pos (by omega), if_pos hin, hk, List.getD_cons_succ]
          congr 1
          omega
        · rw [if_neg (by omega), if_neg hin]
    · simp only [writeRow, dif_neg hc]
      rw [if_neg (by omega)]

namespace Vic

/-- Writing a full row at column 0 replaces row `L` and no other. -/
theorem row_writeRow (v : Vic) (L L' : Fin rasterLines) (r : List UInt32)
    (hr : r.length = rasterColumns) (n : Nat) :
    ({ v with pixels := writeRow v.pixels L 0 r, linesRendered := n } : Vic).row L' =
      if L' = L then r else v.row L' := by
  have hL' := L'.isLt
  have hL := L.isLt
  unfold Vic.row
  split_ifs with he
  · subst he
    apply List.ext_getElem (by simp [hr])
    intro c h1 h2
    simp only [List.length_map, List.length_range] at h1
    have hb : L'.val * rasterColumns + c < framePixels := by
      unfold framePixels rasterLines rasterColumns at *
      omega
    simp only [List.getElem_map, List.getElem_range]
    rw [dif_pos hb, getElem_writeRow _ _ _ _ hb, if_pos (by omega)]
    simp [List.getD_eq_getElem?_getD, h2]
  · apply List.map_congr_left
    intro c hc
    have hc' : c < rasterColumns := List.mem_range.mp hc
    by_cases hb : L'.val * rasterColumns + c < framePixels
    · rw [dif_pos hb, dif_pos hb, getElem_writeRow _ _ _ _ hb, if_neg]
      rintro ⟨h1, h2, -⟩
      apply he
      apply Fin.ext
      unfold rasterColumns at *
      omega
    · rw [dif_neg hb, dif_neg hb]

/-- Rendering line `L` replaces row `L` with the drawn line and keeps every other row. -/
theorem renderLine_row (v : Vic) (L L' : Fin rasterLines) (b : Board) :
    (v.renderLine L b).1.row L' = if L' = L then ((Scan.line L.val).run b).1 else v.row L' :=
  row_writeRow v L L' _ (Scan.line_length L.val b) _

/-- The pixel law of a rendered line: every other row is kept, the border shows `$D020` as it
was, and on a steady board row `L` is the pixel law at every column. -/
theorem renderLine_pixel_law (v : Vic) (L : Fin rasterLines) (b : Board) :
    (∀ L' : Fin rasterLines, L' ≠ L → (v.renderLine L b).1.row L' = v.row L') ∧
    (∀ x < rasterColumns, ¬(51 ≤ L.val ∧ L.val ≤ 250 ∧ 24 ≤ x ∧ x ≤ 343) →
      ((v.renderLine L b).1.row L)[x]? = some (Picture.shade (Picture.byte b.peek 0xD020))) ∧
    (b.Steady → (v.renderLine L b).1.row L =
      (List.range rasterColumns).map (Picture.pixel b.peek b.memory.roms.chargen L.val)) := by
  refine ⟨fun L' h => by rw [renderLine_row, if_neg h], fun x hx hw => ?_, fun h => ?_⟩
  · -- the border: the framing of the drawn line, read at column `x`
    have hf := Scan.line_framed L.val b
    have hx' : x < ((Scan.line L.val).run b).1.length := (Scan.line_length L.val b).symm ▸ hx
    rw [renderLine_row, if_pos rfl, List.getElem?_eq_getElem hx']
    have hget := (List.forall₂_iff_get.mp hf).2 x (by simpa using hx) hx'
    simp only [List.get_eq_getElem, List.getElem_range] at hget
    rw [hget hw]
  · -- a steady board stays alike itself through every read of the line
    rw [renderLine_row, if_pos rfl]
    exact (Scan.line_spec (Board.readsAs_alike b) (fun b' h' => by rw [h'.memory]) L.val b
      (Board.Alike.refl h)).1

theorem fifty_six_lt_rasterLines : 56 < rasterLines := by decide

/-- Line 56 from a power-on board is drawn by the law. -/
theorem renderLine_pixel_law_at_power_on :
    let b : Board := ⟨Memory.new ⟨Vector.replicate 8192 0, Vector.replicate 8192 0,
      Vector.replicate 4096 0⟩, Cia.new Cia.palCps⟩
    let L : Fin rasterLines := ⟨56, fifty_six_lt_rasterLines⟩
    let top : Fin rasterLines := ⟨0, Nat.zero_lt_of_lt fifty_six_lt_rasterLines⟩
    (({} : Vic).renderLine L b).1.row top = ({} : Vic).row top ∧
      ((({} : Vic).renderLine L b).1.row L)[10]? =
        some (Picture.shade (Picture.byte b.peek 0xD020)) ∧
      (({} : Vic).renderLine L b).1.row L =
        (List.range rasterColumns).map (Picture.pixel b.peek b.memory.roms.chargen 56) := by
  intro b L top
  obtain ⟨hrows, hborder, hlaw⟩ := renderLine_pixel_law {} L b
  exact ⟨hrows top (by simp [top, L]), hborder 10 (by decide) (by decide),
    hlaw (.inr ⟨rfl, rfl⟩)⟩

end Vic

namespace Board

variable {b : Board} {a : UInt16}

/-- With I/O shown, a peek in `$D000-$DFFF` outside the CIA's page reads the I/O shadow. -/
theorem peek_io (hb : 5 ≤ b.memory.bankMode) (h : 0xD000 ≤ a.toNat ∧ a.toNat ≤ 0xDFFF)
    (hc : ¬(0xDC00 ≤ a.toNat ∧ a.toNat ≤ 0xDCFF)) :
    b.peek a = b.memory.io.get ⟨a.toNat - 0xD000, Region.offset_io_lt h⟩ := by
  have hr : b.memory.resolve a = .io ⟨a.toNat - 0xD000, Region.offset_io_lt h⟩ := by
    rw [← Region.ofIo_io h hc]
    exact Region.ofRead_io h hb
  rw [(shows_of_resolve hr (by simp)).1]
  rfl

/-- With I/O shown, `$DC0D` is the ICR. -/
theorem resolve_icr (hb : 5 ≤ b.memory.bankMode) : b.memory.resolve 0xDC0D = .cia CiaReg.icr := by
  have hw : 0xD000 ≤ (0xDC0D : UInt16).toNat ∧ (0xDC0D : UInt16).toNat ≤ 0xDFFF := by decide
  rw [Memory.resolve, Region.ofRead_io hw hb, Region.ofIo_cia hw (by decide)]
  rfl

end Board

namespace Vic

/-- A glyph byte at the ICR, flags `$81`: the law gives column 31 white, but the read at column
24 has cleared the flags and column 31 is drawn black. -/
theorem icr_read_darkens_later_pixel :
    let memory : Memory :=
      { ram := (Ram.zero.set 1 0x37).set 0xC000 0x81,
        io := ((Vector.replicate 4096 0).setIfInBounds 0x018 6).setIfInBounds 0x800 1,
        roms := ⟨Vector.replicate 8192 0, Vector.replicate 8192 0, Vector.replicate 4096 0⟩ }
    let b : Board := ⟨memory, { Cia.new Cia.palCps with status := 0x81 }⟩
    let L : Fin rasterLines := ⟨56, fifty_six_lt_rasterLines⟩
    ((({} : Vic).renderLine L b).1.row L)[31]? = some 0 ∧
      Picture.pixel b.peek b.memory.roms.chargen 56 31 = 0xFFFFFF := by
  intro memory b L
  have hmode : 5 ≤ b.memory.bankMode := by simp [b, memory, Memory.bankMode, Ram.get_set]
  have hram : b.memory.ram.get 0xC000 = 0x81 := by simp [b, memory, Ram.get_set]
  have hio : ∀ i : Fin 4096, b.memory.io.get i =
      if 0x800 = i.val then 1 else if 0x018 = i.val then 6 else 0 := by
    intro i
    simp only [b, memory, Vector.get_eq_getElem, Vector.getElem_setIfInBounds,
      Vector.getElem_replicate]
  have hcia : b.cia.status = 0x81 ∧ b.cia.irq = false ∧ b.cia.clock.latched = none :=
    ⟨rfl, rfl, rfl⟩
  clear_value b memory
  have hD011 : Picture.byte b.peek 0xD011 = 0 := by
    rw [Picture.byte, Board.peek_io hmode (by decide) (by decide), hio]
    rfl
  have hD018 : Picture.byte b.peek 0xD018 = 6 := by
    rw [Picture.byte, Board.peek_io hmode (by decide) (by decide), hio]
    rfl
  have hD021 : Picture.byte b.peek 0xD021 = 0 := by
    rw [Picture.byte, Board.peek_io hmode (by decide) (by decide), hio]
    rfl
  have hD800 : Picture.byte b.peek 0xD800 = 1 := by
    rw [Picture.byte, Board.peek_io hmode (by decide) (by decide), hio]
    rfl
  have hDD00 : Picture.byte b.peek 0xDD00 = 0 := by
    rw [Picture.byte, Board.peek_io hmode (by decide) (by decide), hio]
    rfl
  have hC000 : Picture.byte b.peek 0xC000 = 0x81 := by
    have hr : b.memory.resolve (UInt16.ofNat 0xC000) = .ram (UInt16.ofNat 0xC000) :=
      Region.ofRead_ram (by simp) (by simp) (by simp)
    rw [Picture.byte, (Board.shows_of_resolve hr (by simp)).1]
    show (b.memory.ram.get 0xC000).toNat = _
    rw [hram]
    rfl
  obtain ⟨b1, hb1⟩ : ∃ b1 : Board,
      b1 = { b with cia := { b.cia with status := 0, irq := false } } := ⟨_, rfl⟩
  have hicr := Board.read_of_resolve_cia (Board.resolve_icr hmode)
  have hfetch := Cia.fetch_of_icr b.cia (show CiaReg.icr &&& 0x0F = CiaReg.icr by decide)
  have hpeek : b.peek 0xDC0D = 0x81 := by
    rw [hicr.1, ← Cia.fetch_fst, hfetch, hcia.1]
  have hDC0D : Picture.byte b.peek 0xDC0D = 0x81 := by
    show (b.peek 0xDC0D).toNat = _
    rw [hpeek]
    rfl
  have hread : b.read 0xDC0D = (0x81, b1) := by
    rw [hicr.2, hfetch, hcia.1, hb1]
  have hsteady : b1.Steady := .inr ⟨by rw [hb1], by rw [hb1]; simp [Clock.visible, hcia.2.2]⟩
  have hsame : ∀ a : UInt16, ¬(0xDC00 ≤ a.toNat ∧ a.toNat ≤ 0xDCFF) → b1.peek a = b.peek a :=
    fun a h => Board.peek_of_memory (by rw [hb1]) h
  have hbyte : ∀ n, ¬(0xDC00 ≤ (UInt16.ofNat n).toNat ∧ (UInt16.ofNat n).toNat ≤ 0xDCFF) →
      Picture.byte b1.peek n = Picture.byte b.peek n := fun n h => congrArg UInt8.toNat (hsame _ h)
  have hDC0D' : Picture.byte b1.peek 0xDC0D = 0 := by
    have hmode1 : 5 ≤ b1.memory.bankMode := by rw [hb1]; exact hmode
    show (b1.peek 0xDC0D).toNat = _
    rw [(Board.read_of_resolve_cia (Board.resolve_icr hmode1)).1, ← Cia.fetch_fst,
      Cia.fetch_of_icr _ (by decide), hb1]
    rfl
  have hsetup : Scan.setupAt b1.peek 56 = Scan.setupAt b.peek 56 := by
    simp only [Scan.setupAt, Picture.bank, Picture.byte]
    rw [hsame _ (by decide), hsame _ (by decide), hsame _ (by decide), hsame _ (by decide)]
  have hsource : Scan.glyphSourceAt b1.peek = Scan.glyphSourceAt b.peek := by
    simp only [Scan.glyphSourceAt, Picture.pointer, Picture.bank, Picture.byte,
      hsame (UInt16.ofNat 0xD018) (by decide), hsame (UInt16.ofNat 0xDD00) (by decide)]
    rfl
  have hbus : Scan.glyphSourceAt b.peek = .bus (UInt16.ofNat 0xD800) := by
    simp [Scan.glyphSourceAt, Picture.pointer, Picture.bank, hD018, hDD00]
  have hcode : Picture.screenByte b.peek ((56 - 51) / 8) (0 / 8) = 0x81 := by
    simp [Picture.screenByte, Picture.bank, hD018, hDD00, hC000]
  have hline : Scan.Spec (· = b) (Scan.line 56)
      ((List.range rasterColumns).map fun k =>
        if k ≤ 24 then Picture.pixel b.peek b.memory.roms.chargen 56 k
        else Picture.pixel b1.peek b.memory.roms.chargen 56 k) b1.Alike := by
    refine Scan.line_of_text (Scan.quiet_outside_cia b) (by decide) (by rw [hD011]; rfl) ?_
    unfold Scan.columns
    rw [List.range_eq_range']
    refine Scan.Spec.mapM_range' (I := fun k => if k ≤ 24 then (· = b) else b1.Alike) 0
      rasterColumns fun k _ hk => ?_
    have hk' : k < 367 := hk
    rcases (show k < 24 ∨ k = 24 ∨ (25 ≤ k ∧ k ≤ 343) ∨ 343 < k by omega) with
      hlt | rfl | hmid | hgt
    · -- border before the window: nothing is read
      simp only [show k ≤ 24 by omega, show k + 1 ≤ 24 by omega, ↓reduceIte]
      exact (Scan.column_border _ _ (by omega)).of_eq (Scan.border_eq_pixel 56 (by omega))
    · -- column 24: its glyph read is the ICR, which the read clears
      simp only [show 24 ≤ 24 by decide, show ¬24 + 1 ≤ 24 by decide, ↓reduceIte]
      refine Scan.column_display _ _ (by decide) (Scan.Spec.mono (Scan.Spec.of_eq
        (v := Picture.text b.peek b.memory.roms.chargen 0 (56 - 51))
        (Scan.textPixel_reads (Q := (· = b1)) 56 0 (by decide)
        (Scan.quiet_outside_cia b _ ?_) (Scan.quiet_outside_cia b _ (by decide)) ?_) ?_) ?_)
      · simp only [Picture.bank, hDD00, hD018]
        decide
      · rw [hbus, hcode]
        show Scan.Spec (· = b) (Scan.read 0xDC0D) (b.peek 0xDC0D) (· = b1)
        exact Scan.Spec.read (Board.readsAs_of_read rfl (by rw [hread, hpeek]))
      · simp [Picture.pixel, hD011]
      · rintro _ rfl
        exact Board.Alike.refl hsteady
    · -- the rest of the display: the law at `b1`
      simp only [show ¬k ≤ 24 by omega, show ¬k + 1 ≤ 24 by omega, ↓reduceIte]
      refine Scan.column_display _ _ ⟨by omega, hmid.2⟩ ?_
      rw [← hsetup, ← hsource]
      refine (Scan.textPixel_spec (Board.readsAs_alike b1) (fun b' h => by rw [h.memory, hb1]) 56
        (k - 24) (by omega)).of_eq ?_
      simp [Picture.pixel, hbyte 0xD011 (by decide), hD011, hmid.2, show 24 ≤ k by omega]
    · -- border after the window
      simp only [show ¬k ≤ 24 by omega, show ¬k + 1 ≤ 24 by omega, ↓reduceIte]
      rw [← hsetup]
      exact (Scan.column_border _ _ (by omega)).of_eq (Scan.border_eq_pixel 56 (by omega))
  -- column 31 reads its glyph after the ICR read, from `b1`, where the flags are clear
  refine ⟨?_, ?_⟩
  · rw [Vic.renderLine_row, if_pos rfl, (hline b rfl).1, List.getElem?_map,
      List.getElem?_range (show 31 < rasterColumns by decide), Option.map_some, if_neg (by decide)]
    congr 1
    simp [Picture.pixel, Picture.text, Picture.screenByte, Picture.pointer,
      Picture.bank, hbyte 0xD011 (by decide), hbyte 0xD018 (by decide), hbyte 0xDD00 (by decide),
      hbyte 0xC000 (by decide), hbyte 0xD021 (by decide), hD011, hD018, hDD00, hC000, hD021,
      hDC0D']
    rfl
  · simp [Picture.pixel, Picture.text, Picture.screenByte, Picture.colorByte,
      Picture.pointer, Picture.bank, hD011, hD018, hDC0D, hDD00, hC000, hD800]
    rfl


end Vic

end Breadbox
