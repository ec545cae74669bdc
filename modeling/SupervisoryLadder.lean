import SupervisoryLadder.Files.Machine
import SupervisoryLadder.Ladder.Scan
import SupervisoryLadder.Main
import SupervisoryLadder.Proofs.RungEffect
import SupervisoryLadder.Proofs.Passage
import SupervisoryLadder.Proofs.ByteOrder
import SupervisoryLadder.Proofs.RungOrder
import SupervisoryLadder.Proofs.PlantStep
import SupervisoryLadder.Proofs.Component
import SupervisoryLadder.Proofs.BitNames
import SupervisoryLadder.Proofs.SignalKinds
import SupervisoryLadder.Proofs.DisablementMap
import SupervisoryLadder.Proofs.DisablementFlags
import SupervisoryLadder.Proofs.SupervisorStep
import SupervisoryLadder.Proofs.Safety
import SupervisoryLadder.Proofs.SignalNames
import SupervisoryLadder.Proofs.Execution
import SupervisoryLadder.Proofs.Cascade
import SupervisoryLadder.Proofs.Wiring
import SupervisoryLadder.Proofs.ProgramGraph
import SupervisoryLadder.Proofs.DocumentReading
import SupervisoryLadder.Proofs.Staging
import SupervisoryLadder.Proofs.Publishing
import SupervisoryLadder.Proofs.SupervisorSweep
import SupervisoryLadder.Proofs.Unmarked
import SupervisoryLadder.Proofs.Resolution
import SupervisoryLadder.Proofs.References
import SupervisoryLadder.Proofs.Latches
import SupervisoryLadder.Proofs.FirstAppearance
import SupervisoryLadder.Proofs.SectionBlocks
import SupervisoryLadder.Proofs.SupervisorRungs
import SupervisoryLadder.Proofs.Assembly
import SupervisoryLadder.Proofs.DisablementContent
import SupervisoryLadder.Proofs.DisablementUnion
import SupervisoryLadder.Proofs.FlagRungs
import SupervisoryLadder.Proofs.TransitionOrder
import SupervisoryLadder.Proofs.SensedPriority
import SupervisoryLadder.Proofs.Declarations
