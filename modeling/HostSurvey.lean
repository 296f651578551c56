import HostSurvey.Text.Blank
import HostSurvey.Text.Ascii
import HostSurvey.Text.Find
import HostSurvey.Text.Digit
import HostSurvey.Text.Hex
import HostSurvey.Text.Decimal
import HostSurvey.Sorted.Map
import HostSurvey.Json.Reader
import HostSurvey.Json.Printer
import HostSurvey.Json.Shape
import HostSurvey.Text.Letter
import HostSurvey.Text.CaseFold
import HostSurvey.Pattern.Reader
import HostSurvey.Pattern.Search
import HostSurvey.Packet.Cursor
import HostSurvey.Packet.Header
import HostSurvey.Filter.Index
import HostSurvey.Profile.Host
import HostSurvey.Payload.Content
import HostSurvey.Address.Mac
import HostSurvey.Filter.Engine
import HostSurvey.Payload.Program
import HostSurvey.Rule.Reader
import HostSurvey.Rule.Writer
import HostSurvey.Classifier
import HostSurvey.Tree.Edit
import HostSurvey.Tree.InPlace
import HostSurvey.Tree.Check
import HostSurvey.Tree.Outline
import HostSurvey.Interface.Numbering
import HostSurvey.Device.Document
import HostSurvey.Device.Export
import HostSurvey.Show.RunningConfig
import HostSurvey.Show.Interfaces
import HostSurvey.Show.Version
import HostSurvey.Show.AddressTable
import HostSurvey.Show.Import
import HostSurvey.Main
import HostSurvey.Proofs.LateBinding
import HostSurvey.Proofs.Matching
import HostSurvey.Proofs.Execution
import HostSurvey.Proofs.Classification
import HostSurvey.Proofs.FrameRecords
import HostSurvey.Proofs.SpellingOrder
import HostSurvey.Proofs.FlagNames
import HostSurvey.Proofs.NetworkOrder
import HostSurvey.Proofs.FrameEncoding
import HostSurvey.Proofs.SectionFiles
import HostSurvey.Proofs.TruncatedFrames
import HostSurvey.Proofs.Splitting
import HostSurvey.Proofs.ImportedSections
import HostSurvey.Proofs.DeviceOperations
import HostSurvey.Proofs.PortRecall
import HostSurvey.Proofs.TypedTrees
import HostSurvey.Proofs.ExportedTree
import HostSurvey.Proofs.PrintedTrees
import HostSurvey.Proofs.RuleDocuments
import HostSurvey.Proofs.MergedProfiles
import HostSurvey.Proofs.ReportedDetails
import HostSurvey.Proofs.UntoldOutput
import HostSurvey.Proofs.InterfaceBlocks
import HostSurvey.Proofs.AddressLayouts
import HostSurvey.Proofs.LiteralSearch
import HostSurvey.Proofs.MachineWords
import HostSurvey.Proofs.OperationBounds
import HostSurvey.Proofs.ExtractedBytes
import HostSurvey.Proofs.ByteOrder
import HostSurvey.Proofs.RenderedBytes
import HostSurvey.Proofs.RenderedExtracts
import HostSurvey.Proofs.CompiledGroups
import HostSurvey.Proofs.CharacterBytes
import HostSurvey.Proofs.HexText
import HostSurvey.Proofs.RangeChecks
import HostSurvey.Proofs.EmptySearches
import HostSurvey.Proofs.ClosestCommand
import HostSurvey.Proofs.FlagConditions
import HostSurvey.Proofs.NameRanges
import HostSurvey.Proofs.SectionSpans
import HostSurvey.Proofs.TerminalEditing
import HostSurvey.Proofs.HardwareAddresses
import HostSurvey.Proofs.LocatedGaps
import HostSurvey.Proofs.ExportedGaps
import HostSurvey.Proofs.SlotNumbers
import HostSurvey.Proofs.VersionValues
import HostSurvey.Proofs.CommonStretches
import HostSurvey.Proofs.WordNumbers
