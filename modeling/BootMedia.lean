import BootMedia.Command.Shell
import BootMedia.Main
import BootMedia.Proofs.Command.Extraction
import BootMedia.Proofs.Command.Inspection
import BootMedia.Proofs.Disk.Capacity
import BootMedia.Proofs.Disk.Derivation
import BootMedia.Proofs.Disk.LayoutChoice
import BootMedia.Proofs.Image.Appended
import BootMedia.Proofs.Image.Classification
import BootMedia.Proofs.Image.FailClosed
import BootMedia.Proofs.Image.Spelling
import BootMedia.Proofs.Image.Stacked
import BootMedia.Proofs.Transfer.Offers
import BootMedia.Proofs.Transfer.ReadCalls
import BootMedia.Proofs.Vhd.AppendProtocol
import BootMedia.Proofs.Vhd.Corruption
import BootMedia.Proofs.Vhd.FailedAppend
import BootMedia.Proofs.Vhd.FixedRecords
import BootMedia.Proofs.Vhd.SumCheck
import BootMedia.Proofs.Vhd.TailWindow
import BootMedia.Proofs.Vhd.TornAppend
import BootMedia.Proofs.Wim.CommandLine
import BootMedia.Proofs.Wim.Confinement
import BootMedia.Proofs.Wim.DestinationDirectory
import BootMedia.Proofs.Wim.FailedExtraction
import BootMedia.Proofs.Wim.Fallback
import BootMedia.Proofs.Wim.FirstFailure
import BootMedia.Proofs.Wim.FreshOutput
import BootMedia.Proofs.Wim.HandleDiscipline
import BootMedia.Proofs.Wim.LocatedProgram
import BootMedia.Proofs.Wim.Operations
import BootMedia.Proofs.Wim.ProbingRounds
import BootMedia.Proofs.Wim.RememberedSearch
import BootMedia.Proofs.Wim.SearchOrder
import BootMedia.Proofs.Wim.TreeFrame
