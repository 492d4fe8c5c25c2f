import RpcEmu.Copro.LogTail
import RpcEmu.Copro.RefusedMap
import RpcEmu.Copro.CardReset
import RpcEmu.Copro.FlatMemory
import RpcEmu.Copro.Transparent6502
import RpcEmu.Cpu.Z80Prefixes
import RpcEmu.Copro.AbandonZ80
import RpcEmu.Cpu.Rv32iFaults
import RpcEmu.Copro.Runfor
import RpcEmu.Copro.StallFlag
import RpcEmu.Debug.Printed
import RpcEmu.Debug.Check
import RpcEmu.Ps2.Keystrokes
import RpcEmu.Ps2.Packets
import RpcEmu.Snapshot.CpuState
import RpcEmu.Snapshot.Load
import RpcEmu.Mmu.SubPages
import RpcEmu.Mmu.Fetch
import RpcEmu.Jit.Dispatch
import RpcEmu.Arm.Dynarec
import RpcEmu.Arm.Restart
import RpcEmu.Mmu.DebugReads
import RpcEmu.Gui.HeldKeys
import RpcEmu.Net.CaptureReader
import RpcEmu.Net.JsonLink
import RpcEmu.Net.Flights
import RpcEmu.Net.LearnedIp
import RpcEmu.Debug.Arrivals
import RpcEmu.Iomd.Timers
import RpcEmu.Ide.DataPort
import RpcEmu.Ide.Transfer
import RpcEmu.Hostfs.Requests
import RpcEmu.Usb.DoneQueue
import RpcEmu.Usb.Control
import RpcEmu.Gfx.Redraw
import RpcEmu.Gfx.Edid
import RpcEmu.Hostcmd.Attribution
import RpcEmu.Iomd.Cmos
import RpcEmu.Cpu.Rv32iArchitecture
import RpcEmu.Serial.Incoming
import RpcEmu.Snapshot.Rle
import RpcEmu.Net.InboundFragments
import RpcEmu.Arm.DataProcessing
import RpcEmu.Arm.Interrupted
import RpcEmu.Hostfs.InflateBounds
import RpcEmu.Hostfs.Enumeration
import RpcEmu.Hostfs.Transfers
import RpcEmu.Superio.Fdc
import RpcEmu.Gui.ClipboardText
import RpcEmu.Superio.ModemStatus
import RpcEmu.Ps2.I8042
