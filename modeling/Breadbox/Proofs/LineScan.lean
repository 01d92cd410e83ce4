import Breadbox.Proofs.PixelLaw

/-!
# Drawing a raster line, read by read

`Scan.Spec P s v Q`: from every board in `P` the scan returns `v` and leaves a board in `Q`;
it composes over `bind`, `ite` and the column loop. On boards whose reads change nothing shown,
the line is the pixel law (`Scan.line_spec`); on any board the border is (`Scan.line_framed`).
-/

namespace Breadbox

namespace Board

variable {b : Board} {a : UInt16}

/-- Boards that are steady and show what `b` shows, from the same memory. -/
structure Alike (b b' : Board) : Prop where
  steady : b'.Steady
  memory : b'.memory = b.memory
  peek : b'.peek = b.peek

/-- A read of `a` from any board in `P` returns `v` and leaves a board in `Q`. -/
def ReadsAs (P : Board → Prop) (a : UInt16) (v : UInt8) (Q : Board → Prop) : Prop :=
  ∀ b, P b → b.peek a = v ∧ Q (b.read a).2

theorem Alike.refl (h : b.Steady) : b.Alike b := ⟨h, rfl, rfl⟩

/-- Reads of a steady board return what it shows and keep it steady and alike. -/
theorem readsAs_alike (b : Board) (a : UInt16) : ReadsAs b.Alike a (b.peek a) b.Alike := by
  intro b' h
  obtain ⟨hs, hm, hp⟩ := h.steady.read a
  exact ⟨congrFun h.peek a, hs, hm.trans h.memory, hp.trans h.peek⟩

/-- A read of a fixed board. -/
theorem readsAs_of_read {x : UInt8} {b' : Board} (hp : b.peek a = x) (hr : b.read a = (x, b')) :
    ReadsAs (· = b) a x (· = b') := by
  rintro _ rfl
  exact ⟨hp, by rw [hr]⟩

end Board

namespace Scan

/-- From every board in `P`, `s` returns `v` and leaves a board in `Q`. -/
def Spec (P : Board → Prop) {α : Type} (s : Scan α) (v : α) (Q : Board → Prop) : Prop :=
  ∀ b, P b → (s.run b).1 = v ∧ Q (s.run b).2

variable {P Q R : Board → Prop} {α γ : Type}

theorem Spec.pure (v : α) : Spec P (Pure.pure v : Scan α) v P := fun _ h => ⟨rfl, h⟩

theorem Spec.of_eq {s : Scan α} {v w : α} (h : Spec P s v Q) (e : v = w) : Spec P s w Q :=
  e ▸ h

theorem Spec.bind {x : Scan α} {f : α → Scan γ} {v : α} {w : γ} (hx : Spec P x v Q)
    (hf : Spec Q (f v) w R) : Spec P (x >>= f) w R := by
  intro b h
  obtain ⟨e, hq⟩ := hx b h
  have hrun : (x >>= f).run b = (f (x.run b).1).run (x.run b).2 := rfl
  rw [hrun, e]
  exact hf _ hq

theorem Spec.mono {s : Scan α} {v : α} {Q' : Board → Prop} (h : Spec P s v Q)
    (hq : ∀ b, Q b → Q' b) : Spec P s v Q' :=
  fun b hb => ⟨(h b hb).1, hq _ (h b hb).2⟩

theorem Spec.read {a : UInt16} {v : UInt8} (h : Board.ReadsAs P a v Q) : Spec P (read a) v Q :=
  fun b hb => ⟨(Board.read_fst b a).trans (h b hb).1, (h b hb).2⟩

theorem Spec.ite {p : Prop} [Decidable p] {x y : Scan α} {v w : α} (hx : p → Spec P x v Q)
    (hy : ¬p → Spec P y w Q) : Spec P (if p then x else y) (if p then v else w) Q := by
  split
  · next h => exact hx h
  · next h => exact hy h

/-- A loop over consecutive numbers, each step from the board its predecessor left. -/
theorem Spec.mapM_range' {f : Nat → Scan γ} {g : Nat → γ} {I : Nat → Board → Prop} :
    ∀ n m : Nat, (∀ k, n ≤ k → k < n + m → Spec (I k) (f k) (g k) (I (k + 1))) →
      Spec (I n) ((List.range' n m).mapM f) ((List.range' n m).map g) (I (n + m))
  | n, 0, _ => .pure _
  | n, m + 1, h => by
    rw [List.range'_succ, List.mapM_cons, List.map_cons]
    refine (h n (Nat.le_refl n) (by omega)).bind ((Spec.mapM_range' (n + 1) m fun k h1 h2 =>
      h k (by omega) (by omega)).bind ?_)
    rw [show n + 1 + m = n + (m + 1) by omega]
    exact .pure _

/-- The setup line `L` reads from the bytes `view` shows. -/
def setupAt (view : UInt16 → UInt8) (L : Nat) : LineSetup :=
  ⟨Picture.shade (Picture.byte view 0xD020), Picture.shade (Picture.byte view 0xD021),
    UInt16.ofNat (Picture.bank view), UInt16.ofNat (0x400 * (Picture.byte view 0xD018 / 16)),
    UInt16.ofNat ((L - 51) / 8), UInt16.ofNat ((L - 51) % 8)⟩

/-- The glyph source the bytes `view` shows select. -/
def glyphSourceAt (view : UInt16 → UInt8) : GlyphSource :=
  if (Picture.pointer view = 2 ∨ Picture.pointer view = 3) ∧
      (Picture.byte view 0xDD00 % 4 = 1 ∨ Picture.byte view 0xDD00 % 4 = 3)
  then .charRom (UInt16.ofNat (Picture.pointer view * 0x800))
  else .bus (UInt16.ofNat (Picture.bank view + Picture.pointer view * 0x800))

/-- The glyph byte a source gives at an offset. -/
def glyphAt (view : UInt16 → UInt8) (chargen : Vector UInt8 4096) : GlyphSource → UInt16 → UInt8
  | .charRom base, offset => Picture.romByte chargen (base + offset).toNat
  | .bus base, offset => view (base + offset)

/-- One display pixel of a text line, as `textLine` scans it at each display column. -/
def textPixel (s : LineSetup) (source : GlyphSource) (x : UInt16) : Scan UInt32 := do
  let cell := x / 8
  let code ← read (s.bank + s.screen + s.row * 40 + cell)
  let fg := color (← read (VicReg.colorRam + s.row * 40 + cell))
  let bits ← glyph source (code.toUInt16 * 8 + s.charY)
  return if bits &&& ((0x80 : UInt8) >>> (x &&& 7).toUInt8) != 0 then fg else s.background

theorem textLine_eq (s : LineSetup) :
    textLine s = glyphSource >>= fun source => columns s (textPixel s source) :=
  rfl

theorem glyphAt_source (view : UInt16 → UInt8) (chargen : Vector UInt8 4096) {code y : Nat}
    (hc : code < 256) (hy : y < 8) :
    (glyphAt view chargen (glyphSourceAt view) (UInt16.ofNat (8 * code + y))).toNat =
      if (Picture.pointer view = 2 ∨ Picture.pointer view = 3) ∧
          (Picture.byte view 0xDD00 % 4 = 1 ∨ Picture.byte view 0xDD00 % 4 = 3)
      then (Picture.romByte chargen (Picture.pointer view * 0x800 + 8 * code + y)).toNat
      else Picture.byte view (Picture.bank view + (Picture.pointer view * 0x800 + 8 * code + y)) := by
  have hp : Picture.pointer view < 8 := Nat.mod_lt _ (by decide)
  unfold glyphSourceAt
  split_ifs
  · simp only [glyphAt, ← UInt16.ofNat_add]
    rw [UInt16.toNat_ofNat_of_lt' (by simp only [UInt16.size]; omega), Nat.add_assoc]
  · simp only [glyphAt, ← UInt16.ofNat_add, Nat.add_assoc]
    rfl

section Pieces

variable {P : Board → Prop} {view : UInt16 → UInt8} {chargen : Vector UInt8 4096}

/-- One step of the column loop inside the window: the pixel's own scan. -/
theorem column_display (s : LineSetup) (pixel : UInt16 → Scan UInt32) {c : Nat} {v : UInt32}
    (hc : 24 ≤ c ∧ c ≤ 343) (h : Spec P (pixel (UInt16.ofNat (c - 24))) v Q) :
    Spec P (if inDisplay c then pixel (UInt16.ofNat (c - 24)) else pure s.border) v Q := by
  have hd : inDisplay c = true := by simp [inDisplay, hc]
  rw [if_pos hd]
  exact h

/-- One step of the column loop outside the window: the border, and no read. -/
theorem column_border (s : LineSetup) (pixel : UInt16 → Scan UInt32) {c : Nat}
    (hc : ¬(24 ≤ c ∧ c ≤ 343)) :
    Spec P (if inDisplay c then pixel (UInt16.ofNat (c - 24)) else pure s.border) s.border P := by
  have hd : ¬inDisplay c = true := by simpa [inDisplay] using hc
  rw [if_neg hd]
  exact Spec.pure _

/-- The column loop: border outside the window, each column's pixel in it. -/
theorem columns_spec (s : LineSetup) {pixel : UInt16 → Scan UInt32} {g : Nat → UInt32}
    (hin : ∀ c, 24 ≤ c → c ≤ 343 → Spec P (pixel (UInt16.ofNat (c - 24))) (g c) P)
    (hout : ∀ c, ¬(24 ≤ c ∧ c ≤ 343) → s.border = g c) :
    Spec P (columns s pixel) ((List.range rasterColumns).map g) P := by
  unfold columns
  rw [List.range_eq_range']
  refine Spec.mapM_range' (I := fun _ => P) 0 rasterColumns fun c _ _ => ?_
  by_cases hc : 24 ≤ c ∧ c ≤ 343
  · exact column_display s pixel hc (hin c hc.1 hc.2)
  · exact (column_border s pixel hc).of_eq (hout c hc)

/-- Outside the window's columns, the law gives the border colour the setup reads. -/
theorem border_eq_pixel (L : Nat) {c : Nat} (hc : ¬(24 ≤ c ∧ c ≤ 343)) :
    (setupAt view L).border = Picture.pixel view chargen L c := by
  rw [Picture.pixel, if_neg (fun h => hc h.2.2)]
  rfl

section Registers

-- The setup and the mode reads touch only video registers and the bank bits, outside the CIA's
-- page.
variable (hq : ∀ a : UInt16, ¬(0xDC00 ≤ a.toNat ∧ a.toNat ≤ 0xDCFF) →
  Board.ReadsAs P a (view a) P)
include hq

theorem bankAddress_spec : Spec P bankAddress (UInt16.ofNat (Picture.bank view)) P := by
  unfold bankAddress
  exact (Spec.read (hq _ (by decide))).bind ((Spec.pure _).of_eq (Picture.bank_eq _))

/-- The setup reads the border, background, bank and screen registers. -/
theorem setup_spec (L : Nat) : Spec P (setup L) (setupAt view L) P := by
  unfold setup
  refine (Spec.read (hq _ (by decide))).bind ((Spec.read (hq _ (by decide))).bind
    ((bankAddress_spec hq).bind ((Spec.read (hq _ (by decide))).bind ((Spec.pure _).of_eq ?_))))
  simp only [setupAt, Picture.color_eq_shade, Picture.screen_eq]
  rfl

theorem glyphSource_spec : Spec P glyphSource (glyphSourceAt view) P := by
  unfold glyphSource
  refine (Spec.read (hq _ (by decide))).bind ((Spec.read (hq _ (by decide))).bind ?_)
  refine Spec.of_eq (Spec.ite (fun _ => .pure _) (fun _ => (bankAddress_spec hq).bind (.pure _))) ?_
  generalize hi : (view VicReg.memSetup &&& 14) >>> 1 = i
  have hp : Picture.pointer view = i.toNat := by
    rw [← hi, Picture.pointer_toNat]
    rfl
  have hd : Picture.byte view 0xDD00 % 4 = (view VicReg.bankSelect &&& 3).toNat := by
    rw [Picture.bankBits_toNat]
    rfl
  have ho : i.toUInt16 * 2048 = UInt16.ofNat (i.toNat * 2048) := by
    apply UInt16.toNat_inj.mp
    simp only [UInt16.toNat_mul, UInt8.toNat_toUInt16, UInt16.toNat_ofNat', UInt16.reduceToNat]
  simp only [glyphSourceAt, hp, hd, ho, ← UInt16.ofNat_add, ← UInt8.toNat_inj, UInt8.reduceToNat,
    or_comm]

theorem bitmapRows_spec (L : Nat) :
    Spec P (bitmapRows (setupAt view L))
      (UInt16.ofNat (Picture.bank view + 0x400 * (Picture.byte view 0xD018 / 16) +
          40 * ((L - 51) / 8)),
        UInt16.ofNat (Picture.bank view +
          (if (Picture.byte view 0xD018).testBit 3 then 0x2000 else 0) + 320 * ((L - 51) / 8) +
          (L - 51) % 8)) P := by
  unfold bitmapRows
  refine (Spec.read (hq _ (by decide))).bind ((Spec.pure _).of_eq ?_)
  have hb : (view VicReg.memSetup &&& 0x08 != 0) = (Picture.byte view 0xD018).testBit 3 :=
    Picture.bit_ne_zero _ (show 3 < 8 by decide)
  have hbase : ∀ t : Bool,
      (if t = true then (0x2000 : UInt16) else 0) = UInt16.ofNat (if t = true then 0x2000 else 0) := by
    intro t
    cases t <;> rfl
  rw [hb, hbase]
  simp only [setupAt, ← UInt16.ofNat_add, Picture.row_eq, Picture.bitmapRow_eq]

/-- A display line in text mode reads its setup and glyph source, then scans its columns. -/
theorem line_of_text {L : Nat} (hL : 51 ≤ L ∧ L ≤ 250)
    (hm : (Picture.byte view 0xD011).testBit 5 = false) {r : List UInt32} {Q : Board → Prop}
    (hc : Spec P (columns (setupAt view L)
      (textPixel (setupAt view L) (glyphSourceAt view))) r Q) :
    Spec P (line L) r Q := by
  unfold line
  refine (setup_spec hq L).bind ?_
  rw [if_pos hL]
  refine (Spec.read (hq _ (by decide))).bind ?_
  have ht : view VicReg.scrollY &&& 0x20 = 0 :=
    (Picture.bit_eq_zero _ (show 5 < 8 by decide)).mpr hm
  rw [if_pos ht, textLine_eq]
  exact (glyphSource_spec hq).bind hc

end Registers

/-- One text pixel, read from boards that show `view`, is the pixel the law gives. -/
theorem textPixel_reads {Q : Board → Prop} (L X : Nat) (hX : X < 65536)
    (hcode : Board.ReadsAs P (UInt16.ofNat (Picture.bank view + 0x400 * (Picture.byte view 0xD018 / 16) +
      40 * ((L - 51) / 8) + X / 8)) (view (UInt16.ofNat (Picture.bank view +
      0x400 * (Picture.byte view 0xD018 / 16) + 40 * ((L - 51) / 8) + X / 8))) P)
    (hcolor : Board.ReadsAs P (UInt16.ofNat (0xD800 + 40 * ((L - 51) / 8) + X / 8))
      (view (UInt16.ofNat (0xD800 + 40 * ((L - 51) / 8) + X / 8))) P)
    (hglyph : Spec P (glyph (glyphSourceAt view)
        (UInt16.ofNat (8 * Picture.screenByte view ((L - 51) / 8) (X / 8) + (L - 51) % 8)))
      (glyphAt view chargen (glyphSourceAt view)
        (UInt16.ofNat (8 * Picture.screenByte view ((L - 51) / 8) (X / 8) + (L - 51) % 8))) Q) :
    Spec P (textPixel (setupAt view L) (glyphSourceAt view) (UInt16.ofNat X))
      (Picture.text view chargen X (L - 51)) Q := by
  have hk : X % 8 < 8 := Nat.mod_lt _ (by decide)
  have hy : (L - 51) % 8 < 8 := Nat.mod_lt _ (by decide)
  have hc : (setupAt view L).bank + (setupAt view L).screen +
      (setupAt view L).row * 40 + UInt16.ofNat X / 8 = UInt16.ofNat (Picture.bank view +
      0x400 * (Picture.byte view 0xD018 / 16) + 40 * ((L - 51) / 8) + X / 8) := by
    simp only [setupAt, ← UInt16.ofNat_add, Picture.row_eq, Picture.cell_eq _ _ hX]
  have hr : VicReg.colorRam + (setupAt view L).row * 40 + UInt16.ofNat X / 8 =
      UInt16.ofNat (0xD800 + 40 * ((L - 51) / 8) + X / 8) := by
    rw [show VicReg.colorRam = UInt16.ofNat 0xD800 from rfl]
    simp only [setupAt, Picture.row_eq, Picture.cell_eq _ _ hX]
  simp only [textPixel, hc, hr]
  refine (Spec.read hcode).bind ((Spec.read hcolor).bind ?_)
  rw [show (setupAt view L).charY = UInt16.ofNat ((L - 51) % 8) from rfl, Picture.offset_eq]
  refine hglyph.bind ((Spec.pure _).of_eq ?_)
  have hcode : Picture.screenByte view ((L - 51) / 8) (X / 8) < 256 := UInt8.toNat_lt _
  simp only [Picture.low_bits, Picture.mask_ne_zero _ hk, Picture.color_eq_shade,
    glyphAt_source _ _ hcode hy]
  simp only [Picture.text, Picture.colorByte, Picture.screenByte, Picture.byte_fold]
  rfl

section Display

-- A pixel may read any address, and glyphs come from the character ROM of the memory.
variable (hall : ∀ a, Board.ReadsAs P a (view a) P)
  (hmem : ∀ b, P b → b.memory.roms.chargen = chargen)
include hall hmem

theorem glyph_spec (source : GlyphSource) (offset : UInt16) :
    Spec P (glyph source offset) (glyphAt view chargen source offset) P := by
  cases source with
  | charRom base =>
    intro b h
    refine ⟨?_, h⟩
    show b.memory.charRom _ = _
    unfold Memory.charRom
    rw [hmem b h]
    rfl
  | bus base => exact Spec.read (hall _)

theorem textPixel_spec (L X : Nat) (hX : X < 65536) :
    Spec P (textPixel (setupAt view L) (glyphSourceAt view) (UInt16.ofNat X))
      (Picture.text view chargen X (L - 51)) P :=
  textPixel_reads L X hX (hall _) (hall _) (glyph_spec hall hmem _ _)

theorem textColumns_spec {L : Nat} (hL : 51 ≤ L ∧ L ≤ 250)
    (hm : (Picture.byte view 0xD011).testBit 5 = false) :
    Spec P (columns (setupAt view L)
        (textPixel (setupAt view L) (glyphSourceAt view)))
      ((List.range rasterColumns).map (Picture.pixel view chargen L)) P := by
  refine columns_spec _ (fun c h1 h2 => ?_) (fun c hc => ?_)
  · refine (textPixel_spec hall hmem L (c - 24) (by omega)).of_eq ?_
    simp only [Picture.pixel, hL, h1, h2, hm, and_self, if_true]
  · exact border_eq_pixel L hc

omit hmem in
theorem hiresLine_spec {L : Nat} (hL : 51 ≤ L ∧ L ≤ 250)
    (hm : (Picture.byte view 0xD011).testBit 5 = true)
    (hh : (Picture.byte view 0xD016).testBit 4 = false) :
    Spec P (hiresLine (setupAt view L))
      ((List.range rasterColumns).map (Picture.pixel view chargen L)) P := by
  unfold hiresLine
  refine (bitmapRows_spec (fun a _ => hall a) L).bind
    (columns_spec _ (fun c h1 h2 => ?_) (fun c hc => ?_))
  · refine (Spec.read (hall _)).bind ((Spec.read (hall _)).bind ((Spec.pure _).of_eq ?_))
    have hX : c - 24 < 65536 := by omega
    have hk : (c - 24) % 8 < 8 := Nat.mod_lt _ (by decide)
    simp only [Picture.cell_eq _ _ hX, Picture.bitmapCell_eq _ _ _ hX, Picture.low_bits,
      Picture.mask_ne_zero _ hk, Picture.color_eq_shade, Picture.shr_four_toNat]
    simp only [Picture.byte_fold, Picture.pixel, hL, h1, h2, hm, hh, and_self, if_true,
      Bool.true_eq_false, if_false, Picture.hires, Picture.bitmapByte, Picture.screenByte]
    rfl
  · exact border_eq_pixel L hc

omit hmem in
theorem multicolorLine_spec {L : Nat} (hL : 51 ≤ L ∧ L ≤ 250)
    (hm : (Picture.byte view 0xD011).testBit 5 = true)
    (hh : (Picture.byte view 0xD016).testBit 4 = true) :
    Spec P (multicolorLine (setupAt view L))
      ((List.range rasterColumns).map (Picture.pixel view chargen L)) P := by
  unfold multicolorLine
  refine (bitmapRows_spec (fun a _ => hall a) L).bind
    (columns_spec _ (fun c h1 h2 => ?_) (fun c hc => ?_))
  · -- the bit pair decides which of up to one more byte is read
    have hcolor : ∀ a, Spec P (do let v ← read a; return color v) (color (view a)) P := fun a =>
      (Spec.read (hall a)).bind (.pure _)
    refine (Spec.read (hall _)).bind (Spec.of_eq (Spec.ite (fun _ => .pure _) fun _ => Spec.ite
      (fun _ => (Spec.read (hall _)).bind (.pure _))
      fun _ => Spec.ite (fun _ => hcolor _) fun _ => hcolor _) ?_)
    have hX : c - 24 < 65536 := by omega
    have hs : 6 - (c - 24) % 8 / 2 * 2 < 8 := by omega
    rw [show VicReg.colorRam = UInt16.ofNat 0xD800 from rfl]
    simp only [setupAt, Picture.shift_eq, Picture.cell_eq _ _ hX,
      Picture.bitmapCell_eq _ _ _ hX, Picture.row_eq, Picture.color_eq_shade,
      Picture.shr_four_toNat, ← UInt8.toNat_inj, Picture.pair_toNat _ hs, UInt8.reduceToNat]
    simp only [Picture.byte_fold, Picture.pixel, hL, h1, h2, hm, hh, and_self, if_true,
      Bool.true_eq_false, if_false, Picture.multicolor, Picture.bitmapByte, Picture.screenByte,
      Picture.colorByte]
    rfl
  · exact border_eq_pixel L hc

/-- From boards whose reads return `view`, line `L` is the pixel law at every column. -/
theorem line_spec (L : Nat) :
    Spec P (line L) ((List.range rasterColumns).map (Picture.pixel view chargen L)) P := by
  have hq : ∀ a : UInt16, ¬(0xDC00 ≤ a.toNat ∧ a.toNat ≤ 0xDCFF) → Board.ReadsAs P a (view a) P :=
    fun a _ => hall a
  by_cases hL : 51 ≤ L ∧ L ≤ 250
  · by_cases hm : (Picture.byte view 0xD011).testBit 5 = false
    · exact line_of_text hq hL hm (textColumns_spec hall hmem hL hm)
    unfold line
    refine (setup_spec hq L).bind ?_
    rw [if_pos hL]
    refine (Spec.read (hall _)).bind ?_
    have ht : ¬(view VicReg.scrollY &&& 0x20 = 0) := fun h =>
      hm ((Picture.bit_eq_zero _ (show 5 < 8 by decide)).mp h)
    rw [if_neg ht]
    refine (Spec.read (hall _)).bind ?_
    have hx : view VicReg.scrollX &&& 0x10 = 0 ↔ (Picture.byte view 0xD016).testBit 4 = false :=
      Picture.bit_eq_zero _ (show 4 < 8 by decide)
    have hm' : (Picture.byte view 0xD011).testBit 5 = true := by simpa using hm
    by_cases hh : (Picture.byte view 0xD016).testBit 4 = false
    · rw [if_pos (hx.mpr hh)]
      exact hiresLine_spec hall hL hm' hh
    · rw [if_neg (fun h => hh (hx.mp h))]
      exact multicolorLine_spec hall hL hm' (by simpa using hh)
  · unfold line
    refine (setup_spec hq L).bind ?_
    rw [if_neg hL]
    refine (Spec.pure _).of_eq ?_
    have hp : Picture.pixel view chargen L = fun _ => Picture.shade (Picture.byte view 0xD020) := by
      funext c
      simp only [Picture.pixel]
      rw [if_neg (fun h => hL ⟨h.1, h.2.1⟩)]
    rw [hp, List.map_const', List.length_range]
    rfl

end Display

end Pieces

/-- A loop whose every step satisfies `p` returns a row related to its indices by `p`. -/
theorem forall₂_mapM_range' {f : Nat → Scan γ} {p : Nat → γ → Prop}
    (h : ∀ k b, p k ((f k).run b).1) :
    ∀ (n m : Nat) (b : Board), List.Forall₂ p (List.range' n m) (((List.range' n m).mapM f).run b).1
  | n, 0, _ => .nil
  | n, m + 1, b => by
    rw [List.range'_succ, List.mapM_cons]
    exact .cons (h n b) (forall₂_mapM_range' h (n + 1) m _)

/-- The pixels of raster line `L` outside the display window are `c`, and there are 367. -/
def Framed (L : Nat) (c : UInt32) (row : List UInt32) : Prop :=
  List.Forall₂ (fun x v => ¬(51 ≤ L ∧ L ≤ 250 ∧ 24 ≤ x ∧ x ≤ 343) → v = c)
    (List.range rasterColumns) row

/-- Whatever a pixel's scan does, the columns outside the window are the border colour. -/
theorem columns_framed {L : Nat} (hL : 51 ≤ L ∧ L ≤ 250) (s : LineSetup)
    (pixel : UInt16 → Scan UInt32) (b : Board) : Framed L s.border ((columns s pixel).run b).1 := by
  unfold Framed columns
  rw [List.range_eq_range']
  refine forall₂_mapM_range' (fun c b' hc => ?_) 0 rasterColumns b
  have hd : ¬inDisplay c = true := by
    simp only [inDisplay, decide_eq_true_eq]
    omega
  rw [if_neg hd]
  rfl

theorem run_bind_fst {x : Scan α} {f : α → Scan γ} (b : Board) :
    ((x >>= f).run b).1 = ((f (x.run b).1).run (x.run b).2).1 :=
  rfl

section Framing

variable {L : Nat} (hL : 51 ≤ L ∧ L ≤ 250) (s : LineSetup) (b : Board)
include hL

theorem textLine_framed : Framed L s.border ((textLine s).run b).1 := by
  rw [textLine_eq, run_bind_fst]
  exact columns_framed hL s _ _

theorem hiresLine_framed : Framed L s.border ((hiresLine s).run b).1 := by
  unfold hiresLine
  rw [run_bind_fst]
  exact columns_framed hL s _ _

theorem multicolorLine_framed : Framed L s.border ((multicolorLine s).run b).1 := by
  unfold multicolorLine
  rw [run_bind_fst]
  exact columns_framed hL s _ _

end Framing

/-- Reads outside the CIA's page leave every board as it was. -/
theorem quiet_outside_cia (b : Board) :
    ∀ a : UInt16, ¬(0xDC00 ≤ a.toNat ∧ a.toNat ≤ 0xDCFF) →
      Board.ReadsAs (· = b) a (b.peek a) (· = b) :=
  fun _ h => Board.readsAs_of_read rfl (Board.read_eq_peek h)

/-- From any board, line `L` outside the window is the border colour `$D020` showed. -/
theorem line_framed (L : Nat) (b : Board) :
    Framed L (Picture.shade (Picture.byte b.peek 0xD020)) ((line L).run b).1 := by
  obtain ⟨hv, hb⟩ := setup_spec (quiet_outside_cia b) L b rfl
  unfold line
  rw [run_bind_fst, hv, hb]
  by_cases hL : 51 ≤ L ∧ L ≤ 250
  · rw [if_pos hL, run_bind_fst]
    split_ifs
    · exact textLine_framed hL (setupAt b.peek L) _
    · rw [run_bind_fst]
      split_ifs
      · exact hiresLine_framed hL (setupAt b.peek L) _
      · exact multicolorLine_framed hL (setupAt b.peek L) _
  · rw [if_neg hL]
    show List.Forall₂ _ (List.range rasterColumns) (List.replicate rasterColumns _)
    rw [List.forall₂_iff_get]
    exact ⟨by simp, fun _ _ _ _ => by simp [setupAt]⟩

/-- A line has one pixel per column. -/
theorem line_length (L : Nat) (b : Board) : ((line L).run b).1.length = rasterColumns := by
  rw [← (line_framed L b).length_eq, List.length_range]

end Scan

end Breadbox
