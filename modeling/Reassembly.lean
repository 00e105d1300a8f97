import Reassembly.Diagnostics.Template.Cursor
import Reassembly.Fragment
import Reassembly.Main
import Reassembly.Proofs.Alignment
import Reassembly.Proofs.Calendar
import Reassembly.Proofs.CauseIndents
import Reassembly.Proofs.CauseReading
import Reassembly.Proofs.ChannelProtocol
import Reassembly.Proofs.CommandRun
import Reassembly.Proofs.CondensedNames
import Reassembly.Proofs.Counters
import Reassembly.Proofs.CutStream
import Reassembly.Proofs.DigitGroups
import Reassembly.Proofs.ErrorChains
import Reassembly.Proofs.EscapedTexts
import Reassembly.Proofs.ExactCounting
import Reassembly.Proofs.ExactFragments
import Reassembly.Proofs.FixedWidth
import Reassembly.Proofs.HeldBytes
import Reassembly.Proofs.Isolation
import Reassembly.Proofs.LegacyFilling
import Reassembly.Proofs.LimitAtDelivery
import Reassembly.Proofs.LoggedLines
import Reassembly.Proofs.PumpSequence
import Reassembly.Proofs.RoundTrip
import Reassembly.Proofs.SharedSession
import Reassembly.Proofs.StoredChunks
import Reassembly.Proofs.StrictFilling
import Reassembly.Proofs.TemplatePieces
import Reassembly.Proofs.Truncation
import Reassembly.Proofs.WrittenTimes
import Reassembly.Recorder
import Reassembly.Sink.Describe
import Reassembly.Sink.Group
import Reassembly.Sink.History
