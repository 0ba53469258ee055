import Locus.Format.Options
import Locus.Main
import Locus.Record.Basic
import Locus.Record.Declaration
import Locus.Scripted
import Locus.Trail
import Locus.Proofs.Cursor
import Locus.Proofs.Calls
import Locus.Proofs.Located
import Locus.Proofs.Lexer
import Locus.Proofs.Handlers
import Locus.Proofs.ByKind
import Locus.Proofs.RuleOrder
import Locus.Proofs.Tiles
import Locus.Proofs.Captures
import Locus.Proofs.LexFile
import Locus.Proofs.Events
import Locus.Proofs.Lockstep
import Locus.Proofs.StandardRules
import Locus.Proofs.LineBreaks
import Locus.Proofs.Runs
import Locus.Proofs.TokenText
import Locus.Proofs.Record
import Locus.Proofs.AllTokens
import Locus.Proofs.Restart
import Locus.Proofs.TokenValue
import Locus.Proofs.Writing
import Locus.Proofs.WrittenKeys
import Locus.Proofs.Idle
import Locus.Proofs.Unmatched
import Locus.Proofs.Registrations
import Locus.Proofs.PatternText
import Locus.Proofs.BracketText
import Locus.Proofs.PatternElements
import Locus.Proofs.Anchoring
import Locus.Proofs.AnchoredRules
import Locus.Proofs.ByteRange
import Locus.Proofs.Ending
import Locus.Proofs.Attachments
import Locus.Proofs.ObjectAttachments
import Locus.Proofs.RuleText
import Locus.Proofs.Faults
import Locus.Proofs.Lines
import Locus.Proofs.Nested
import Locus.Proofs.TokenMembers
import Locus.Proofs.ByteMoves
import Locus.Proofs.PositionOrder
