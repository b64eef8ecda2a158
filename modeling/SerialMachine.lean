import SerialMachine.Main
import SerialMachine.Proofs.Accesses
import SerialMachine.Proofs.AddressSpace
import SerialMachine.Proofs.BinaryImages
import SerialMachine.Proofs.Boundaries
import SerialMachine.Proofs.Checks
import SerialMachine.Proofs.Comments
import SerialMachine.Proofs.Decoding
import SerialMachine.Proofs.EmptyLine
import SerialMachine.Proofs.Emulation
import SerialMachine.Proofs.Encoding
import SerialMachine.Proofs.Exchanges
import SerialMachine.Proofs.ExitCodes
import SerialMachine.Proofs.Faults
import SerialMachine.Proofs.Fetching
import SerialMachine.Proofs.Framing
import SerialMachine.Proofs.Halting
import SerialMachine.Proofs.ImageFiles
import SerialMachine.Proofs.Instructions
import SerialMachine.Proofs.Loading
import SerialMachine.Proofs.Numbering
import SerialMachine.Proofs.Operations
import SerialMachine.Proofs.Overwriting
import SerialMachine.Proofs.Requests
import SerialMachine.Proofs.Respelling
import SerialMachine.Proofs.Restarts
import SerialMachine.Proofs.Resumption
import SerialMachine.Proofs.Runs
import SerialMachine.Proofs.SerialLine
import SerialMachine.Proofs.ShiftRegister
import SerialMachine.Proofs.Standing
import SerialMachine.Proofs.Stops
import SerialMachine.Proofs.Timer
import SerialMachine.Proofs.Tracing
import SerialMachine.Proofs.UntilHalt
import SerialMachine.Proofs.UntilPc
import SerialMachine.Proofs.Violations
import SerialMachine.Proofs.Watchpoints
import SerialMachine.Proofs.WholeWrites
import SerialMachine.ScriptedBus
import SerialMachine.Station
import SerialMachine.WatchedBus
import SerialMachine.Waveform
import SerialMachine.Proofs.Conditions
