import Breadbox.Proofs.TodLatch

/-!
# What a bus read changes

A bus read returns what a peek shows beforehand and changes the board only at three CIA
registers (`Board.read_agrees_with_peek`). A steady board, whose CIA has no event flag set and
shows the live time, shows the same bytes after any reads (`Board.Steady.read`).
-/

namespace Breadbox

namespace Cia

variable {c c' : Cia}

/-- Reads of the registers other than the tenths, the hours and the ICR are peeks. -/
theorem fetch_of_ne {reg : UInt8} (h8 : reg &&& 0x0F ≠ CiaReg.todTen)
    (h11 : reg &&& 0x0F ≠ CiaReg.todHrs) (h13 : reg &&& 0x0F ≠ CiaReg.icr) :
    c.fetch reg = (c.peek reg, c) := by
  simp only [fetch, h8, h11, h13, ↓reduceIte]

/-- A register read returns what a peek of the same register shows. -/
theorem fetch_fst (c : Cia) (reg : UInt8) : (c.fetch reg).1 = c.peek reg := by
  by_cases h8 : reg &&& 0x0F = CiaReg.todTen
  · rw [fetch_of_todTen c h8]
    simp only [peek, h8]
    rfl
  by_cases h11 : reg &&& 0x0F = CiaReg.todHrs
  · rw [fetch_of_todHrs c h11]
    simp only [peek, h11]
    rfl
  by_cases h13 : reg &&& 0x0F = CiaReg.icr
  · rw [fetch_of_icr c h13]
    simp only [peek, h13]
    rfl
  · rw [fetch_of_ne h8 h11 h13]

/-- The registers show only what reads leave, the ICR flags and the visible time. -/
theorem peek_eq_of_readFree (hf : c'.readFree = c.readFree) (hs : c'.status = c.status)
    (hv : c'.clock.visible = c.clock.visible) : c'.peek = c.peek := by
  have hpra : c'.pra = c.pra := congrArg (fun c => c.pra) hf
  have hprb : c'.prb = c.prb := congrArg (fun c => c.prb) hf
  have hddra : c'.ddra = c.ddra := congrArg (fun c => c.ddra) hf
  have hddrb : c'.ddrb = c.ddrb := congrArg (fun c => c.ddrb) hf
  have hsdr : c'.sdr = c.sdr := congrArg (fun c => c.sdr) hf
  have hta : c'.timerA = c.timerA := congrArg (fun c => c.timerA) hf
  have htb : c'.timerB = c.timerB := congrArg (fun c => c.timerB) hf
  have hkeys : c'.keys = c.keys := congrArg (fun c => c.keys) hf
  have htime : c'.clock.time = c.clock.time := congrArg (fun c => c.clock.time) hf
  funext r
  simp only [peek, linesB, keyRows, linesA, hpra, hprb, hddra, hddrb, hsdr, hta, htb, hkeys, htime,
    hs, hv]
  rfl

/-- No event flag is set and the time-of-day registers show the live time. -/
def Steady (c : Cia) : Prop := c.status = 0 ∧ c.clock.visible = c.clock.time

/-- Reads keep a steady chip steady and showing what it showed. -/
theorem Steady.readsOnly (h : c.Steady) (hr : ReadsOnly c c') : c'.Steady ∧ c'.peek = c.peek := by
  obtain ⟨hs, hv⟩ := h
  have hs' : c'.status = 0 := by
    rcases hr.icr with ⟨e, -⟩ | ⟨e, -⟩ <;> rw [e]
    exact hs
  have hv' : c'.clock.visible = c.clock.time := by
    rcases hr.latch with e | e | e <;> simp only [Clock.visible, e, Option.getD_none,
      Option.getD_some, hr.time]
    exact hv
  refine ⟨⟨hs', hv'.trans hr.time.symm⟩, peek_eq_of_readFree hr.readFree (hs'.trans hs.symm) ?_⟩
  rw [hv', hv]

theorem Steady.fetch (h : c.Steady) (reg : UInt8) :
    (c.fetch reg).2.Steady ∧ (c.fetch reg).2.peek = c.peek :=
  h.readsOnly (readsOnly_fetch c reg)

end Cia

namespace Region

variable {p : Nat} {a : UInt16} {r : UInt8}

/-- The CIA register an address reaches is its low four bits. -/
theorem eq_cia_of_ofRead (h : ofRead p a = .cia r) : r = a.toUInt8 &&& 0x0F := by
  have hw := cia_window_of_ofRead h
  have hio : 0xD000 ≤ a.toNat ∧ a.toNat ≤ 0xDFFF := by omega
  have hp : 5 ≤ p := by
    by_contra hp
    rcases (show (1 ≤ p ∧ p ≤ 3) ∨ p = 0 ∨ p = 4 by omega) with hc | hr
    · rw [ofRead_chargen hio hc] at h
      cases h
    · rw [ofRead_io_ram hio hr] at h
      cases h
  rw [ofRead_io hio hp, ofIo_cia hio hw, cia_register hw.1] at h
  exact (Region.cia.inj h).symm

/-- The register number an address reaches keeps its four bits under the chip's mask. -/
theorem mask_of_ofRead (h : ofRead p a = .cia r) : r &&& 0x0F = r := by
  rw [eq_cia_of_ofRead h, UInt8.and_assoc, UInt8.and_self]

end Region

namespace Board

variable {b : Board} {a : UInt16}

/-- A bus read returns what a peek shows. -/
theorem read_fst (b : Board) (a : UInt16) : (b.read a).1 = b.peek a := by
  cases h : b.memory.resolve a <;> simp [read, peek, h, Cia.fetch_fst]

/-- A bus read of a CIA register changes the chip as its own read does. -/
theorem read_snd_of_cia {r : UInt8} (h : b.memory.resolve a = .cia r) :
    (b.read a).2 = { b with cia := (b.cia.fetch r).2 } :=
  congrArg Prod.snd (read_of_resolve_cia h).2

/-- A bus read returns what a peek shows beforehand, and changes the board only at the CIA's
tenths ($08), hours ($0B) and ICR ($0D). -/
theorem read_agrees_with_peek (b : Board) (a : UInt16) :
    (b.read a).1 = b.peek a ∧
      (b.memory.resolve a = .cia CiaReg.todTen → (b.read a).2 =
        { b with cia := { b.cia with clock := { b.cia.clock with latched := none } } }) ∧
      (b.memory.resolve a = .cia CiaReg.todHrs → (b.read a).2 =
        { b with cia := { b.cia with clock := { b.cia.clock with latched := some b.cia.clock.time } } }) ∧
      (b.memory.resolve a = .cia CiaReg.icr → (b.read a).2 =
        { b with cia := { b.cia with status := 0, irq := false } }) ∧
      (b.memory.resolve a ≠ .cia CiaReg.todTen → b.memory.resolve a ≠ .cia CiaReg.todHrs →
        b.memory.resolve a ≠ .cia CiaReg.icr → (b.read a).2 = b) := by
  refine ⟨read_fst b a, fun h => ?_, fun h => ?_, fun h => ?_, fun h8 h11 h13 => ?_⟩
  · rw [read_snd_of_cia h, Cia.fetch_of_todTen b.cia (by decide)]
  · rw [read_snd_of_cia h, Cia.fetch_of_todHrs b.cia (by decide)]
  · rw [read_snd_of_cia h, Cia.fetch_of_icr b.cia (by decide)]
  · cases hr : b.memory.resolve a with
    | cia r =>
      have hm := Region.mask_of_ofRead hr
      rw [hr] at h8 h11 h13
      rw [read_snd_of_cia hr, Cia.fetch_of_ne (by rw [hm]; exact fun e => h8 (e ▸ rfl))
        (by rw [hm]; exact fun e => h11 (e ▸ rfl)) (by rw [hm]; exact fun e => h13 (e ▸ rfl))]
    | _ => simp [read, hr]

/-- Reads change nothing the board shows. -/
def Steady (b : Board) : Prop := b.HidesCia ∨ b.cia.Steady

/-- A read of a steady board leaves it steady, with the same memory, showing the same bytes. -/
theorem Steady.read (h : b.Steady) (a : UInt16) :
    (b.read a).2.Steady ∧ (b.read a).2.memory = b.memory ∧ (b.read a).2.peek = b.peek := by
  cases hr : b.memory.resolve a with
  | cia r =>
    have hc : b.cia.Steady := h.resolve_left fun hh => hh a r hr
    obtain ⟨hs, hp⟩ := hc.fetch r
    rw [read_snd_of_cia hr]
    refine ⟨.inr hs, rfl, ?_⟩
    funext x
    simp only [peek, hp]
  | _ =>
    have e : (b.read a).2 = b := by simp [Board.read, hr]
    rw [e]
    exact ⟨h, rfl, rfl⟩

end Board

end Breadbox
