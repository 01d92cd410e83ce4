import Breadbox.Proofs.Banking
import Breadbox.Video.Chip

/-!
# What the video chip does to the board

Drawing a line only reads the bus, so a preorder that holds across one read holds across a
line (`Scan.line_keeps`), among them `Board.ReadsOnly` and `Board.QuietReads`. A refresh writes
only `$D012` and `$D011` besides (`Vic.refresh_ram_get`).
-/

namespace Breadbox

namespace Cia

/-- The chip without the state register reads change. -/
def readFree (c : Cia) : Cia :=
  { c with status := 0, irq := false, clock := { c.clock with latched := none } }

/-- What register reads can do: clear the ICR flags and line, latch or release the time. -/
structure ReadsOnly (c c' : Cia) : Prop where
  readFree : c'.readFree = c.readFree
  icr : (c'.status = c.status ∧ c'.irq = c.irq) ∨ (c'.status = 0 ∧ c'.irq = false)
  latch : c'.clock.latched = c.clock.latched ∨ c'.clock.latched = none ∨
    c'.clock.latched = some c.clock.time

variable {c c' c'' : Cia}

theorem ReadsOnly.refl (c : Cia) : ReadsOnly c c :=
  ⟨rfl, .inl ⟨rfl, rfl⟩, .inl rfl⟩

theorem ReadsOnly.time (h : ReadsOnly c c') : c'.clock.time = c.clock.time :=
  congrArg (fun c => c.clock.time) h.readFree

theorem ReadsOnly.trans (h1 : ReadsOnly c c') (h2 : ReadsOnly c' c'') : ReadsOnly c c'' where
  readFree := h2.readFree.trans h1.readFree
  icr := by
    rcases h2.icr with ⟨hs, hi⟩ | h
    · rw [hs, hi]
      exact h1.icr
    · exact .inr h
  latch := by
    rcases h2.latch with h | h | h
    · rw [h]
      exact h1.latch
    · exact .inr (.inl h)
    · rw [h, h1.time]
      exact .inr (.inr rfl)

theorem readsOnly_fetch (c : Cia) (reg : UInt8) : ReadsOnly c (c.fetch reg).2 := by
  unfold fetch
  dsimp only
  split_ifs
  · exact ⟨rfl, .inl ⟨rfl, rfl⟩, .inr (.inl rfl)⟩
  · exact ⟨rfl, .inl ⟨rfl, rfl⟩, .inr (.inr rfl)⟩
  · exact ⟨rfl, .inr ⟨rfl, rfl⟩, .inl rfl⟩
  · exact .refl c

end Cia

namespace Board

/-- `b'` differs from `b` only as bus reads make boards differ. -/
structure ReadsOnly (b b' : Board) : Prop where
  memory : b'.memory = b.memory
  cia : Cia.ReadsOnly b.cia b'.cia

instance : IsPreorder Board ReadsOnly where
  refl b := ⟨rfl, .refl b.cia⟩
  trans _ _ _ h1 h2 := ⟨h2.memory.trans h1.memory, h1.cia.trans h2.cia⟩

theorem readsOnly_read (b : Board) (a : UInt16) : ReadsOnly b (b.read a).2 := by
  unfold read
  split
  · exact ⟨rfl, Cia.readsOnly_fetch _ _⟩
  · exact refl_of ReadsOnly b

/-- No address shows a CIA register: the I/O window is hidden by the bank mode. -/
def HidesCia (b : Board) : Prop := ∀ a r, b.memory.resolve a ≠ .cia r

/-- A board that shows no CIA register is left as it was. -/
def QuietReads (b b' : Board) : Prop := b.HidesCia → b' = b

instance : IsPreorder Board QuietReads where
  refl _ _ := rfl
  trans _ _ _ h1 h2 hb := by
    rw [h1 hb] at h2
    exact h2 hb

theorem quietReads_read (b : Board) (a : UInt16) : QuietReads b (b.read a).2 := by
  intro hb
  unfold read
  split
  · next r hr => exact absurd hr (hb a r)
  · rfl

end Board

namespace Scan

/-- A scan relates every board it starts from to the board it leaves by `R`. -/
def Keeps (R : Board → Board → Prop) {α : Type} (s : Scan α) : Prop :=
  ∀ b, R b (s.run b).2

/-- A scan that leaves memory as it was; the CIA may change. -/
def KeepsMemory {α : Type} (s : Scan α) : Prop :=
  ∀ b, (s.run b).2.memory = b.memory

section Closure

/-! Scans keep every preorder on boards that a single bus read keeps; the drawing routines are
built from reads by `bind`, `if` and `mapM`. -/

variable {R : Board → Board → Prop} [IsPreorder Board R] {α γ : Type}

theorem Keeps.pure (a : α) : Keeps R (Pure.pure a : Scan α) :=
  fun b => refl_of R b

theorem Keeps.bind {x : Scan α} {f : α → Scan γ} (hx : Keeps R x) (hf : ∀ a, Keeps R (f a)) :
    Keeps R (x >>= f) :=
  fun b => trans_of R (hx b) (hf (x.run b).1 (x.run b).2)

omit [IsPreorder Board R] in
theorem Keeps.ite {p : Prop} [Decidable p] {x y : Scan α} (hx : Keeps R x) (hy : Keeps R y) :
    Keeps R (if p then x else y) := by
  split
  · exact hx
  · exact hy

theorem Keeps.mapM {f : α → Scan γ} (hf : ∀ a, Keeps R (f a)) :
    ∀ l : List α, Keeps R (l.mapM f)
  | [] => .pure _
  | a :: l => by
    rw [List.mapM_cons]
    exact (hf a).bind fun _ => (Keeps.mapM hf l).bind fun _ => .pure _

theorem get_keeps : Keeps R (get : Scan Board) :=
  fun b => refl_of R b

theorem columns_keeps (s : LineSetup) {pixel : UInt16 → Scan UInt32} (h : ∀ x, Keeps R (pixel x)) :
    Keeps R (columns s pixel) :=
  Keeps.mapM (fun _ => .ite (h _) (.pure _)) _

variable (hread : ∀ b a, R b (b.read a).2)
include hread

omit [IsPreorder Board R] in
theorem read_keeps (a : UInt16) : Keeps R (read a) :=
  fun b => hread b a

theorem bankAddress_keeps : Keeps R bankAddress :=
  (read_keeps hread _).bind fun _ => .pure _

theorem setup_keeps (line : Nat) : Keeps R (setup line) := by
  unfold setup
  exact (read_keeps hread _).bind fun _ => (read_keeps hread _).bind fun _ =>
    (bankAddress_keeps hread).bind fun _ => (read_keeps hread _).bind fun _ => .pure _

theorem glyphSource_keeps : Keeps R glyphSource := by
  unfold glyphSource
  refine (read_keeps hread _).bind fun _ => (read_keeps hread _).bind fun _ => .ite (.pure _) ?_
  exact (bankAddress_keeps hread).bind fun _ => .pure _

theorem glyph_keeps (source : GlyphSource) (offset : UInt16) : Keeps R (glyph source offset) := by
  cases source with
  | charRom base => exact get_keeps.bind fun _ => .pure _
  | bus base => exact read_keeps hread _

theorem textLine_keeps (s : LineSetup) : Keeps R (textLine s) := by
  unfold textLine
  refine (glyphSource_keeps hread).bind fun source => columns_keeps s fun x => ?_
  exact (read_keeps hread _).bind fun _ => (read_keeps hread _).bind fun _ =>
    (glyph_keeps hread _ _).bind fun _ => .pure _

theorem bitmapRows_keeps (s : LineSetup) : Keeps R (bitmapRows s) :=
  (read_keeps hread _).bind fun _ => .pure _

theorem hiresLine_keeps (s : LineSetup) : Keeps R (hiresLine s) := by
  unfold hiresLine
  refine (bitmapRows_keeps hread s).bind fun rows => ?_
  exact columns_keeps s fun x =>
    (read_keeps hread _).bind fun _ => (read_keeps hread _).bind fun _ => .pure _

theorem multicolorLine_keeps (s : LineSetup) : Keeps R (multicolorLine s) := by
  unfold multicolorLine
  refine (bitmapRows_keeps hread s).bind fun rows => columns_keeps s fun x => ?_
  refine (read_keeps hread _).bind fun _ => .ite (.pure _) (.ite ?_ (.ite ?_ ?_)) <;>
    exact (read_keeps hread _).bind fun _ => .pure _

theorem line_keeps (n : Nat) : Keeps R (line n) := by
  unfold line
  refine (setup_keeps hread n).bind fun s => .ite ?_ (.pure _)
  exact (read_keeps hread _).bind fun _ => .ite (textLine_keeps hread s)
    ((read_keeps hread _).bind fun _ =>
      .ite (hiresLine_keeps hread s) (multicolorLine_keeps hread s))

end Closure

theorem line_keepsMemory (n : Nat) : KeepsMemory (line n) :=
  fun b => (line_keeps Board.readsOnly_read n b).memory

end Scan

namespace Vic

theorem renderLine_memory (v : Vic) (line : Fin rasterLines) (b : Board) :
    (v.renderLine line b).2.memory = b.memory :=
  Scan.line_keepsMemory line.val b

theorem renderLine_readsOnly (v : Vic) (line : Fin rasterLines) (b : Board) :
    Board.ReadsOnly b (v.renderLine line b).2 :=
  Scan.line_keeps Board.readsOnly_read line.val b

theorem renderLine_quiet (v : Vic) (line : Fin rasterLines) {b : Board} (hb : b.HidesCia) :
    (v.renderLine line b).2 = b :=
  Scan.line_keeps Board.quietReads_read line.val b hb

/-- A refresh writes RAM at most at the two raster registers. -/
theorem refresh_ram_get (v : Vic) (cycles : Nat) (b : Board) {x : UInt16}
    (hr : x ≠ VicReg.raster) (hs : x ≠ VicReg.scrollY) :
    (v.refresh cycles b).2.2.memory.ram.get x = b.memory.ram.get x := by
  unfold refresh
  dsimp only
  split_ifs
  · rfl
  all_goals
    rw [renderLine_memory, Board.write_ram_get _ hs, Board.read_memory, Board.write_ram_get _ hr]

end Vic

end Breadbox
