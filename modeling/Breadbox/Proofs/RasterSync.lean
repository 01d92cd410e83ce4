import Breadbox.Proofs.StepCost

/-!
# The video chip keeps pace with the processor

When the count moves on by at most one raster line between refreshes, the video chip stays in
step with it (`Vic.Shows.refresh`). Along runs with at most seven resets between successful
steps (`Machine.PacedRun`) this always holds, and a run to the end of a frame is a run to the
next frame boundary (`Machine.runFrame_eq`); more resets skip a line
(`Machine.resets_skip_a_line`).
-/

namespace Breadbox

theorem rasterLine_eq (c : Nat) : rasterLine c = c / cyclesPerLine % rasterLines := by
  unfold rasterLine cyclesPerFrame
  rw [Nat.mul_comm, Nat.mod_mul_right_div_self]

theorem div_cyclesPerFrame (c : Nat) : c / cyclesPerFrame = c / cyclesPerLine / rasterLines := by
  unfold cyclesPerFrame
  rw [Nat.mul_comm, Nat.div_div_eq_div_mul]

/-- In bank modes that show the KERNAL, a peek above `$E000` reads it. -/
theorem Board.peek_kernal {b : Board} {a : UInt16} (hb : b.memory.bankMode = 7)
    (h : 0xE000 ≤ a.toNat) :
    b.peek a = b.memory.roms.kernal.get ⟨a.toNat - 0xE000, Region.offset_kernal_lt a⟩ := by
  have hr : b.memory.resolve a = .kernal ⟨a.toNat - 0xE000, Region.offset_kernal_lt a⟩ := by
    unfold Memory.resolve
    rw [hb]
    exact Region.ofRead_kernal h (by simp)
  rw [(Board.shows_of_resolve hr nofun).1]
  rfl

/-- Below `$A000` a byte loaded into RAM is read back as it is, and the read changes nothing. -/
theorem Board.read_load_low {b : Board} {a : UInt16} (v : UInt8) (h : a.toNat < 0xA000) :
    let b' : Board := { b with memory := { b.memory with ram := b.memory.ram.load a [v] } }
    Bus.read a b' = (v, b') := by
  intro b'
  rw [Board.bus_read_eq, Board.read_low h]
  simp [b', Ram.load]

namespace Vic

variable {v : Vic} {c c' : Nat} {b : Board}

theorem refresh_of_eq (h : rasterLine c = v.lastLine.val) : v.refresh c b = (false, v, b) := by
  unfold refresh
  rw [if_pos (Fin.ext h)]

/-- When the beam has moved, a refresh draws the cursor's line and moves the cursor on. -/
theorem refresh_of_ne (h : rasterLine c ≠ v.lastLine.val) :
    ∃ row, (v.refresh c b).2.1 = { v with
      pixels := writeRow v.pixels v.lastLine 0 row, linesRendered := v.linesRendered + 1,
      lastLine := ⟨rasterLine c, rasterLine_lt c⟩,
      frames := if v.lastLine.val = rasterLines - 1 then v.frames + 1 else v.frames } := by
  unfold refresh
  rw [if_neg (fun e => h (congrArg Fin.val e))]
  dsimp only
  split <;> exact ⟨_, rfl⟩

/-- A refresh draws nothing, or one line: the one the cursor was on. -/
theorem refresh_draws (v : Vic) (c : Nat) (b : Board) :
    (v.refresh c b).2.1.linesRendered = v.linesRendered ∧
        (v.refresh c b).2.1.pixels = v.pixels ∨
      (v.refresh c b).2.1.linesRendered = v.linesRendered + 1 ∧
        ∃ row, (v.refresh c b).2.1.pixels = writeRow v.pixels v.lastLine 0 row := by
  by_cases h : rasterLine c = v.lastLine.val
  · rw [refresh_of_eq h]
    exact .inl ⟨rfl, rfl⟩
  · obtain ⟨row, hr⟩ := refresh_of_ne (b := b) h
    rw [hr]
    exact .inr ⟨rfl, row, rfl⟩

/-- The video chip is in step with cycle count `c`: cursor on its line, a line drawn for every 63
cycles and a frame for every 19656. -/
structure Shows (v : Vic) (c : Nat) : Prop where
  lastLine : v.lastLine.val = rasterLine c
  linesRendered : v.linesRendered = c / cyclesPerLine
  frames : v.frames = c / cyclesPerFrame

/-- In step, the cursor is on the line after the last one drawn. -/
theorem Shows.lastLine_eq (h : v.Shows c) : v.lastLine.val = v.linesRendered % rasterLines := by
  rw [h.lastLine, h.linesRendered, rasterLine_eq]

theorem shows_default : ({} : Vic).Shows 7 :=
  ⟨rfl, rfl, rfl⟩

/-- A refresh at most a line later brings the chip in step with the new count. -/
theorem Shows.refresh (h : v.Shows c) (hle : c ≤ c') (hlt : c' ≤ c + cyclesPerLine) :
    (v.refresh c' b).2.1.Shows c' := by
  have hq : c' / cyclesPerLine = c / cyclesPerLine ∨
      c' / cyclesPerLine = c / cyclesPerLine + 1 := by
    unfold cyclesPerLine at *
    omega
  rcases hq with hq | hq
  · -- the beam stayed on its line: nothing is drawn
    have hl : rasterLine c' = rasterLine c := by rw [rasterLine_eq, rasterLine_eq, hq]
    rw [refresh_of_eq (by rw [hl, h.lastLine])]
    exact ⟨by rw [h.lastLine, hl], by rw [h.linesRendered, hq],
      by rw [h.frames, div_cyclesPerFrame, div_cyclesPerFrame, hq]⟩
  · -- the beam moved on by one line: the line it left is drawn
    have hne : rasterLine c' ≠ v.lastLine.val := by
      rw [h.lastLine, rasterLine_eq, rasterLine_eq, hq]
      unfold rasterLines
      omega
    obtain ⟨row, hr⟩ := refresh_of_ne (b := b) hne
    rw [hr]
    refine ⟨rfl, by rw [h.linesRendered, hq], ?_⟩
    dsimp only
    rw [h.lastLine, h.frames, rasterLine_eq, div_cyclesPerFrame, div_cyclesPerFrame, hq]
    unfold rasterLines
    split <;> omega

end Vic

namespace Machine

variable {m m' : Machine}

/-- A successful step refreshes the video chip once, with the cycle count it ends with. -/
theorem vic_of_step_ok {r : Nat} (h : m.step.1 = .ok r) :
    ∃ b, m.step.2.vic = (m.vic.refresh m.step.2.cpu.regs.cycles b).2.1 := by
  obtain ⟨c, b, -, -, heq⟩ := step_ok_eq h
  rw [heq]
  exact ⟨_, rfl⟩

theorem reset_vic : m.reset.vic = m.vic :=
  rfl

theorem loadPrg_vic (data : List UInt8) : (m.loadPrg data).2.vic = m.vic := by
  unfold loadPrg
  split <;> rfl

/-- The video chip is in step with a cycle count at most `lag` cycles behind the processor's. -/
def VicTrails (lag : Nat) (m : Machine) : Prop :=
  ∃ c, m.vic.Shows c ∧ c ≤ m.cpu.regs.cycles ∧ m.cpu.regs.cycles ≤ c + lag

theorem vicTrails_new (roms : RomSet) (cps : Nat) : VicTrails 0 (Machine.new roms cps) := by
  rw [new_eq]
  exact ⟨7, Vic.shows_default, le_refl _, le_refl _⟩

/-- What leaves the video chip alone lets it fall behind by the cycles it adds. -/
theorem VicTrails.of_vic {lag d : Nat} (h : VicTrails lag m) (hv : m'.vic = m.vic)
    (hc : m'.cpu.regs.cycles = m.cpu.regs.cycles + d) : VicTrails (lag + d) m' := by
  obtain ⟨c, hs, hlo, hhi⟩ := h
  refine ⟨c, hv ▸ hs, ?_, ?_⟩ <;> omega

theorem VicTrails.of_same {lag : Nat} (h : VicTrails lag m) (hv : m'.vic = m.vic)
    (hc : m'.cpu.regs.cycles = m.cpu.regs.cycles) : VicTrails lag m' :=
  h.of_vic (d := 0) hv hc

/-- A successful step less than a line behind brings the video chip in step. -/
theorem VicTrails.step_ok {lag r : Nat} (h : VicTrails lag m) (hlag : lag + 14 ≤ cyclesPerLine)
    (hs : m.step.1 = .ok r) : m.step.2.vic.Shows m.step.2.cpu.regs.cycles := by
  obtain ⟨c, hsh, hlo, hhi⟩ := h
  obtain ⟨-, h14, hc⟩ := step_cost hs
  obtain ⟨b, hv⟩ := vic_of_step_ok hs
  rw [hv]
  exact hsh.refresh (by omega) (by omega)

theorem VicTrails.fail {lag : Nat} {f : Fault} (h : VicTrails lag m) (hs : m.step.1 = .error f) :
    VicTrails lag m.step.2 := by
  have hm := (step_of_error_eq hs).1
  exact h.of_same (by rw [hm]) (by rw [hm, sampled_regs])

/-- Runs from power-on with at most `most` resets between two successful steps; the index counts
the resets since the last one. -/
inductive PacedRun (most : Nat) : Nat → Machine → Prop
  | new (roms : RomSet) (cps : Nat) : PacedRun most 0 (Machine.new roms cps)
  | step {k r : Nat} {m : Machine} (h : m.step.1 = .ok r) :
      PacedRun most k m → PacedRun most 0 m.step.2
  | fail {k : Nat} {m : Machine} {f : Fault} (h : m.step.1 = .error f) :
      PacedRun most k m → PacedRun most k m.step.2
  | nmi {k : Nat} {m : Machine} : PacedRun most k m → PacedRun most k m.nmi
  | loadPrg {k : Nat} {m : Machine} (data : List UInt8) :
      PacedRun most k m → PacedRun most k (m.loadPrg data).2
  | reset {k : Nat} {m : Machine} (hk : k < most) :
      PacedRun most k m → PacedRun most (k + 1) m.reset

namespace PacedRun

variable {most k : Nat}

/-- The video chip trails the count by at most 7 cycles per reset since the last step. -/
theorem vicTrails (hmost : most ≤ 7) (h : PacedRun most k m) :
    k ≤ most ∧ VicTrails (7 * k) m := by
  induction h with
  | new roms cps => exact ⟨Nat.zero_le _, vicTrails_new roms cps⟩
  | step hs _ ih =>
    obtain ⟨hk, ht⟩ := ih
    have hsh := ht.step_ok (by unfold cyclesPerLine; omega) hs
    exact ⟨Nat.zero_le _, _, hsh, le_refl _, le_refl _⟩
  | fail hs _ ih => exact ⟨ih.1, ih.2.fail hs⟩
  | nmi _ ih => exact ⟨ih.1, ih.2.of_same rfl (by rw [nmi_cpu, Cpu.signalNmi, Cpu.latch_regs])⟩
  | loadPrg data _ ih =>
    exact ⟨ih.1, ih.2.of_same (loadPrg_vic data) (by rw [loadPrg_cpu])⟩
  | reset hk _ ih =>
    refine ⟨hk, ?_⟩
    have ht := ih.2.of_vic reset_vic (cycles_reset _)
    rwa [Nat.mul_succ]

theorem of_step (h : PacedRun most k m) : ∃ k', PacedRun most k' m.step.2 := by
  rcases hs : m.step.1 with f | r
  · exact ⟨k, .fail hs h⟩
  · exact ⟨0, .step hs h⟩

theorem runCycles (h : PacedRun most k m) (budget : Nat) :
    ∃ k', PacedRun most k' (m.runCycles budget).2 :=
  runUntil_induction (P := fun m => ∃ k, PacedRun most k m) (fun _ ⟨_, h⟩ => h.of_step)
    ⟨k, h⟩ _ _ _

theorem runFrame (h : PacedRun most k m) : ∃ k', PacedRun most k' m.runFrame.2 :=
  runFrameFrom_induction (P := fun m => ∃ k, PacedRun most k m) (fun _ ⟨_, h⟩ => h.of_step)
    ⟨k, h⟩ _ _

theorem runRealtime (h : PacedRun most k m) {budget speed fuel : Nat} {r : Except Fault Unit}
    {m' : Machine} (hr : m.runRealtime budget speed fuel = some (r, m')) :
    ∃ k', PacedRun most k' m' :=
  runRealtime_induction (P := fun m => ∃ k, PacedRun most k m) (fun _ ⟨_, h⟩ => h.of_step)
    ⟨k, h⟩ hr

end PacedRun

/-! ## Runs to the end of a frame -/

/-- In step, the frame has not moved on exactly while the count is below the next boundary. -/
theorem frames_eq_iff {frame : Nat} (h : m.vic.Shows m.cpu.regs.cycles)
    (hf : frame ≤ m.vic.frames) :
    m.vic.frames = frame ↔ m.cpu.regs.cycles - 0 < cyclesPerFrame * (frame + 1) := by
  rw [h.frames] at hf ⊢
  unfold cyclesPerFrame rasterLines cyclesPerLine at *
  omega

/-- In step, running until the frame moves on is running to the next frame boundary. -/
theorem runFrameFrom_eq_runUntil {frame : Nat} (h : m.vic.Shows m.cpu.regs.cycles)
    (hf : frame ≤ m.vic.frames) (fuel : Nat) :
    m.runFrameFrom frame fuel = m.runUntil 0 (cyclesPerFrame * (frame + 1)) fuel := by
  induction fuel generalizing m with
  | zero => rfl
  | succ fuel ih =>
    unfold runFrameFrom runUntil
    by_cases hc : m.vic.frames = frame
    · rw [if_pos hc, if_pos ((frames_eq_iff h hf).1 hc)]
      rcases hs : m.step with ⟨_ | r, m'⟩
      · rfl
      · -- the step brings the chip in step with the new count, and frames never go back
        have hr : m.step.1 = .ok r := by rw [hs]
        have hsh : m'.vic.Shows m'.cpu.regs.cycles := by
          have := (show VicTrails 0 m from ⟨_, h, le_refl _, le_refl _⟩).step_ok (by decide) hr
          rwa [hs] at this
        have hle : m.cpu.regs.cycles ≤ m'.cpu.regs.cycles := by
          have := (step_cost hr).2.2
          rw [hs] at this
          dsimp only at this
          omega
        have hf' : frame ≤ m'.vic.frames := by
          rw [hsh.frames]
          rw [h.frames] at hf
          exact hf.trans (Nat.div_le_div_right hle)
        exact ih hsh hf'
    · rw [if_neg hc, if_neg (fun hlt => hc ((frames_eq_iff h hf).2 hlt))]

/-- In step, a run to the end of the frame is a run to the next multiple of 19656. -/
theorem runFrame_eq (h : m.vic.Shows m.cpu.regs.cycles) :
    m.runFrame = m.runUntil 0 (cyclesPerFrame * (m.cpu.regs.cycles / cyclesPerFrame + 1))
      (cyclesPerFrame + cyclesPerLine) := by
  unfold runFrame
  rw [runFrameFrom_eq_runUntil h (le_refl _), h.frames]

/-- Such a run has fuel enough: unless a step fails, it reaches the frame boundary. -/
theorem runFrame_reaches (h : m.vic.Shows m.cpu.regs.cycles) (hok : m.runFrame.1 = .ok ()) :
    cyclesPerFrame * (m.cpu.regs.cycles / cyclesPerFrame + 1) ≤ m.runFrame.2.cpu.regs.cycles := by
  rw [runFrame_eq h] at hok ⊢
  have hb : m.cpu.regs.cycles < cyclesPerFrame * (m.cpu.regs.cycles / cyclesPerFrame + 1) := by
    unfold cyclesPerFrame rasterLines cyclesPerLine
    omega
  rcases runUntil_spec m 0 (cyclesPerFrame * (m.cpu.regs.cycles / cyclesPerFrame + 1))
    (cyclesPerFrame + cyclesPerLine) (Nat.zero_le _) (by omega)
    (by unfold cyclesPerFrame rasterLines cyclesPerLine at *; omega) with
    ⟨-, hge, -⟩ | ⟨op, he, -⟩
  · omega
  · rw [he] at hok
    cases hok

/-! ## Steps at fixed bytes -/

/-- A KERNAL filled with $10 sends the reset to $1010, where a program is loaded. -/
theorem loadPrg_new_at_vector (basic : Vector UInt8 8192) (chargen : Vector UInt8 4096)
    (cps : Nat) (body : List UInt8) :
    let roms : RomSet := ⟨basic, Vector.replicate 8192 0x10, chargen⟩
    let b : Board := ⟨Memory.new roms, Cia.new cps⟩
    ((Machine.new roms cps).loadPrg (0x10 :: 0x10 :: body)).2 =
      ⟨{ regs := { pc := 0x1010, cycles := 7 } },
        { b with memory := { b.memory with ram := b.memory.ram.load 0x1010 body } }, {}, cps⟩ := by
  intro roms b
  have hpc : word (roms.kernal.get 0x1FFC) (roms.kernal.get 0x1FFD) = 0x1010 := by
    simp only [roms, Vector.get, Vector.toArray_replicate, Array.getElem_replicate]
    decide
  rw [new_eq, hpc, loadPrg_of_ne _ 0x10 0x10 body (by decide),
    show word 0x10 0x10 = 0x1010 by decide]

/-- NOP with nothing waiting and the CIA's line down: a step of 2 cycles. -/
theorem step_of_nop (hirq : m.board.cia.irq = false) (hp : m.cpu.pending = none)
    (hr : Bus.read m.cpu.regs.pc m.board = (0xEA, m.board)) : m.step.1 = .ok 2 := by
  have hsm : m.sampled = m.cpu := by simp [sampled, hirq]
  have dnop : Opcode.decode 0xEA = some ⟨.control .nop, .implied, 2⟩ := by
    rw [Opcode.decode_eq_find?]
    rfl
  have hs := Exec.step_of_registers (by rw [hr]; exact dnop) id (fun _ _ => rfl)
  rw [← hsm] at hs
  rw [step_fst_of_ok hs, Cpu.service_of_none _ _ (by rw [hsm]; exact hp)]
  rfl

/-! ## Pace after every successful step -/

/-- Along a run with at most seven resets between successful steps, every successful step leaves
the video chip in step with the cycle count, having drawn no line or the next one, and a run to
the end of the frame stops right after the next multiple of 19656 unless a step fails. -/
theorem raster_frame_sync {most k r : Nat} (hmost : most ≤ 7) (hrun : PacedRun most k m)
    (hs : m.step.1 = .ok r) :
    let m' := m.step.2
    let c := m'.cpu.regs.cycles
    m'.vic.lastLine.val = rasterLine c ∧ m'.vic.linesRendered = c / cyclesPerLine ∧
      m'.vic.frames = c / cyclesPerFrame ∧
      (m'.vic.linesRendered = m.vic.linesRendered ∧ m'.vic.pixels = m.vic.pixels ∨
        m'.vic.linesRendered = m.vic.linesRendered + 1 ∧
          m.vic.lastLine.val = m.vic.linesRendered % rasterLines ∧
          ∃ row, m'.vic.pixels = writeRow m.vic.pixels m.vic.lastLine 0 row) ∧
      m'.runFrame = m'.runUntil 0 (cyclesPerFrame * (c / cyclesPerFrame + 1))
        (cyclesPerFrame + cyclesPerLine) ∧
      (m'.runFrame.1 = .ok () →
        cyclesPerFrame * (c / cyclesPerFrame + 1) ≤ m'.runFrame.2.cpu.regs.cycles) := by
  intro m' c
  obtain ⟨hk, ht⟩ := hrun.vicTrails hmost
  have hsh : m'.vic.Shows c := ht.step_ok (by unfold cyclesPerLine; omega) hs
  have hdraw : m'.vic.linesRendered = m.vic.linesRendered ∧ m'.vic.pixels = m.vic.pixels ∨
      m'.vic.linesRendered = m.vic.linesRendered + 1 ∧
        m.vic.lastLine.val = m.vic.linesRendered % rasterLines ∧
        ∃ row, m'.vic.pixels = writeRow m.vic.pixels m.vic.lastLine 0 row := by
    obtain ⟨b, hv⟩ := vic_of_step_ok hs
    obtain ⟨c0, hs0, -, -⟩ := ht
    rcases Vic.refresh_draws m.vic c b with ⟨hl, hp⟩ | ⟨hl, row, hp⟩
    · exact .inl ⟨hv ▸ hl, hv ▸ hp⟩
    · exact .inr ⟨hv ▸ hl, hs0.lastLine_eq, row, hv ▸ hp⟩
  exact ⟨hsh.lastLine, hsh.linesRendered, hsh.frames, hdraw, runFrame_eq hsh,
    runFrame_reaches hsh⟩

theorem raster_sync_after_nop :
    let roms : RomSet := ⟨Vector.replicate 8192 0xBA, Vector.replicate 8192 0x10,
      Vector.replicate 4096 0xC4⟩
    let m := ((Machine.new roms Cia.palCps).loadPrg [0x10, 0x10, 0xEA]).2
    let m' := m.step.2
    let c := m'.cpu.regs.cycles
    1 ≤ 7 ∧ PacedRun 1 0 m ∧ m.step.1 = .ok 2 ∧
      m'.vic.lastLine.val = rasterLine c ∧ m'.vic.linesRendered = c / cyclesPerLine ∧
      m'.vic.frames = c / cyclesPerFrame ∧
      (m'.vic.linesRendered = m.vic.linesRendered ∧ m'.vic.pixels = m.vic.pixels ∨
        m'.vic.linesRendered = m.vic.linesRendered + 1 ∧
          m.vic.lastLine.val = m.vic.linesRendered % rasterLines ∧
          ∃ row, m'.vic.pixels = writeRow m.vic.pixels m.vic.lastLine 0 row) ∧
      m'.runFrame = m'.runUntil 0 (cyclesPerFrame * (c / cyclesPerFrame + 1))
        (cyclesPerFrame + cyclesPerLine) ∧
      (m'.runFrame.1 = .ok () →
        cyclesPerFrame * (c / cyclesPerFrame + 1) ≤ m'.runFrame.2.cpu.regs.cycles) := by
  intro roms m m' c
  have hrun : PacedRun 1 0 m := .loadPrg _ (.new _ _)
  have e : m = _ := loadPrg_new_at_vector _ _ Cia.palCps [0xEA]
  clear_value m
  have hs : m.step.1 = .ok 2 := by
    refine step_of_nop (by rw [e]; rfl) (by rw [e]) ?_
    rw [e]
    exact Board.read_load_low 0xEA (by decide)
  exact ⟨by decide, hrun, hs, raster_frame_sync (by decide) hrun hs⟩

/-! ## Resets between failed steps -/

/-- A reset to an unknown opcode and the failed step after it add 7 cycles and nothing else. -/
theorem reset_step_of_stuck {p : UInt16} {op : UInt8} {x : Nat} {b : Board} {v : Vic}
    {cps : Nat} (hv : Cpu.readVector 0xFFFC b = (p, b)) (hr : Bus.read p b = (op, b))
    (hd : Opcode.decode op = none) (hirq : b.cia.irq = false) :
    (Machine.mk { regs := { pc := p, cycles := x } } b v cps).reset.step =
      (.error (.unknownOpcode op p),
        ⟨{ regs := { pc := p, cycles := x + 7 } }, b, v, cps⟩) := by
  have hsig : ({ regs := { pc := p, cycles := x } } : Cpu).signalReset =
      { regs := { pc := p, cycles := x }, pending := some .reset } := rfl
  have hres : (Machine.mk { regs := { pc := p, cycles := x } } b v cps).reset =
      ⟨{ regs := { pc := p, cycles := x + 7 } }, b, v, cps⟩ := by
    simp only [Machine.reset, Exec.reset, Exec.perform_bind, Exec.perform_modifyThe,
      Exec.perform_discard, Cpu.service_perform, hsig, Cpu.serviceEffect, hv]
    rfl
  have hsm : (Machine.mk { regs := { pc := p, cycles := x + 7 } } b v cps).sampled =
      { regs := { pc := p, cycles := x + 7 } } := by simp [sampled, hirq]
  rw [hres, step_of_decode_none (by rw [hsm, hr]; exact hd), hsm, hr]

/-- Resets to an unknown opcode, each followed by a failed step, only add 7 cycles apiece. -/
theorem resets_at_stuck {p : UInt16} {op : UInt8} {b : Board} {v : Vic} {cps : Nat}
    (hv : Cpu.readVector 0xFFFC b = (p, b)) (hr : Bus.read p b = (op, b))
    (hd : Opcode.decode op = none) (hirq : b.cia.irq = false) (x j : Nat) :
    (fun m : Machine => m.reset.step.2)^[j] ⟨{ regs := { pc := p, cycles := x } }, b, v, cps⟩ =
      ⟨{ regs := { pc := p, cycles := x + 7 * j } }, b, v, cps⟩ := by
  induction j with
  | zero => rfl
  | succ j ih =>
    rw [Function.iterate_succ_apply', ih, reset_step_of_stuck hv hr hd hirq, Nat.mul_succ,
      Nat.add_assoc]

/-- Seventeen resets kept apart only by failed steps, then a NOP: the one refresh moves the
cursor from line 0 to line 2, and line 1 is never drawn. -/
theorem resets_skip_a_line :
    let roms : RomSet := ⟨Vector.replicate 8192 0xBA, Vector.replicate 8192 0x10,
      Vector.replicate 4096 0xC4⟩
    let m0 := ((Machine.new roms Cia.palCps).loadPrg [0x10, 0x10, 0x02]).2
    let m := (((fun m : Machine => m.reset.step.2)^[17] m0).loadPrg [0x10, 0x10, 0xEA]).2
    m.cpu.regs.cycles = 126 ∧ m.step.1 = .ok 2 ∧ m.step.2.cpu.regs.cycles = 128 ∧
      m.step.2.vic.lastLine.val = 2 ∧ m.step.2.vic.linesRendered = 1 := by
  intro roms m0 m
  have hw : word 0x10 0x10 = 0x1010 := by decide
  have e0 : m0 = _ := loadPrg_new_at_vector _ _ Cia.palCps [0x02]
  have em : m = (((fun m : Machine => m.reset.step.2)^[17] m0).loadPrg [0x10, 0x10, 0xEA]).2 := rfl
  clear_value m m0
  -- power-on left PC on the unknown $02 at $1010, where the reset vector points; the board is
  -- kept opaque so that no step unfolds its 64K of RAM
  obtain ⟨b0, hb0⟩ : ∃ b0 : Board, b0 = ⟨Memory.new roms, Cia.new Cia.palCps⟩ :=
    ⟨_, rfl⟩
  obtain ⟨b1, hb1⟩ : ∃ b1 : Board,
      b1 = { b0 with memory := { b0.memory with ram := b0.memory.ram.load 0x1010 [0x02] } } :=
    ⟨_, rfl⟩
  have e1 : m0 = ⟨{ regs := { pc := 0x1010, cycles := 7 } }, b1, {}, Cia.palCps⟩ := by
    subst hb1 hb0
    exact e0
  have hbank : b1.memory.bankMode = 7 := by
    have h1 : b1.memory.ram.get 1 = Memory.powerOnBanks := by
      subst hb1 hb0
      show ((Ram.zero.set 1 Memory.powerOnBanks).load 0x1010 [0x02]).get 1 = _
      simp only [Ram.load, Ram.get_set]
      decide
    unfold Memory.bankMode
    rw [h1]
    rfl
  have hv : Cpu.readVector 0xFFFC b1 = (0x1010, b1) := by
    have hk : b1.memory.roms = roms := by subst hb1 hb0; rfl
    rw [Board.readVector_eq b1 0xFFFC (by decide) (by decide),
      Board.peek_kernal hbank (by decide), Board.peek_kernal hbank (by decide), hk]
    refine Prod.ext ?_ rfl
    simp only [roms, Vector.get, Vector.toArray_replicate, Array.getElem_replicate]
    decide
  have hr : Bus.read 0x1010 b1 = (0x02, b1) := by
    subst hb1
    exact Board.read_load_low 0x02 (by decide)
  have hirq : b1.cia.irq = false := by subst hb1 hb0; rfl
  have hd : Opcode.decode 0x02 = none := by
    rw [Opcode.decode_eq_find?]
    rfl
  rw [e1, resets_at_stuck hv hr hd hirq, loadPrg_of_ne _ 0x10 0x10 [0xEA] (by decide), hw] at em
  have hc : m.cpu.regs.cycles = 126 := by rw [em]
  have hs : m.step.1 = .ok 2 :=
    step_of_nop (by rw [em]; exact hirq) (by rw [em])
      (by
        rw [em]
        exact Board.read_load_low 0xEA (by show (0x1010 : UInt16).toNat < 0xA000; decide))
  have hc' : m.step.2.cpu.regs.cycles = 128 := by rw [(step_cost hs).2.2, hc]
  -- the one refresh jumps from line 0 to line 2: line 1 is never drawn
  obtain ⟨b, hvic⟩ := vic_of_step_ok hs
  rw [hc', show m.vic = {} by rw [em]] at hvic
  obtain ⟨row, hrow⟩ := Vic.refresh_of_ne (v := {}) (c := 128) (b := b) (by decide)
  rw [hrow] at hvic
  exact ⟨hc, hs, hc', by rw [hvic]; rfl, by rw [hvic]⟩

end Machine

end Breadbox
