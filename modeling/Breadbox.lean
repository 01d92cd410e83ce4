import Breadbox.Text.Space
import Breadbox.Text.Hidden
import Breadbox.Text.Quote
import Breadbox.Text.Radix
import Breadbox.Cpu.Registers
import Breadbox.Cpu.Opcode
import Breadbox.Cpu.Alu
import Breadbox.Cpu.Core
import Breadbox.Cpu.Step
import Breadbox.Bus
import Breadbox.Fault
import Breadbox.Memory.Slot
import Breadbox.Memory.Ram
import Breadbox.Memory.Flat
import Breadbox.Memory.Rom
import Breadbox.Memory.Banks
import Breadbox.Memory.Board
import Breadbox.Cia.Timer
import Breadbox.Cia.Clock
import Breadbox.Cia.Chip
import Breadbox.Video.Raster
import Breadbox.Video.Palette
import Breadbox.Video.Chip
import Breadbox.Video.Png
import Breadbox.Machine
import Breadbox.Json.Scalar
import Breadbox.Json.Value
import Breadbox.Json.Parse
import Breadbox.Settings.Path
import Breadbox.Settings.Basic
import Breadbox.Settings.Boot
import Breadbox.Main
import Breadbox.Proofs.Exec
import Breadbox.Proofs.Interrupts
import Breadbox.Proofs.InterruptReturn
import Breadbox.Proofs.Banking
import Breadbox.Proofs.Refresh
import Breadbox.Proofs.MachineStep
import Breadbox.Proofs.IrqDelivery
import Breadbox.Proofs.IcrInvariant
import Breadbox.Proofs.StepCost
import Breadbox.Proofs.RasterSync
import Breadbox.Proofs.TimeKeeping
import Breadbox.Proofs.TodLatch
import Breadbox.Proofs.Decoding
import Breadbox.Proofs.Arithmetic
import Breadbox.Proofs.VideoEffects
import Breadbox.Proofs.CycleCount
import Breadbox.Proofs.RegisterFrame
import Breadbox.Proofs.BusAccesses
import Breadbox.Proofs.TimerLaws
import Breadbox.Proofs.BusReads
import Breadbox.Proofs.ProgramLoad
import Breadbox.Proofs.Subroutines
import Breadbox.Proofs.PixelLaw
import Breadbox.Proofs.LineScan
import Breadbox.Proofs.LineRender
import Breadbox.Proofs.Keyboard
