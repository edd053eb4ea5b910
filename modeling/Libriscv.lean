import Libriscv.Callbacks.Lifetimes
import Libriscv.Callbacks.Trampolines
import Libriscv.Lengths.Passing
import Libriscv.Machines.Disposal
import Libriscv.Machines.FrozenParents
import Libriscv.Machines.Registers
import Libriscv.Machines.Stepping
import Libriscv.Machines.StableStorage
import Libriscv.Macros.Installing
import Libriscv.Macros.Configured
import Libriscv.Macros.Serving
import Libriscv.Macros.Building
import Libriscv.Options.RoundTrip
import Libriscv.Syscalls.Dispatch
import Libriscv.Syscalls.MemoryContract
import Libriscv.Machines.RegisterStore
import Libriscv.Syscalls.SharedContract
import Libriscv.Machines.Panics
import Libriscv.Syscalls.TypedAccess
import Libriscv.Callbacks.Deliveries
