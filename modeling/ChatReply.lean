import ChatReply.Draft
import ChatReply.Json.Read
import ChatReply.Main
import ChatReply.Proofs.Concatenation
import ChatReply.Proofs.FencedCode
import ChatReply.Proofs.TokenKind
import ChatReply.Proofs.WordToken
import ChatReply.Proofs.DelimitedRun
import ChatReply.Proofs.WellFormed
import ChatReply.Proofs.CodeFrame
import ChatReply.Proofs.DocumentJson
import ChatReply.Proofs.TerminalCode
import ChatReply.Proofs.ReplySource
import ChatReply.Proofs.ItemNumber
import ChatReply.Proofs.ListStretch
import ChatReply.Proofs.OpeningMark
import ChatReply.Proofs.Prose
import ChatReply.Proofs.Breakdown
import ChatReply.Proofs.CopiedList
import ChatReply.Proofs.TabStop
import ChatReply.Proofs.NearestSettings
import ChatReply.Proofs.RemovedFile
import ChatReply.Proofs.LanguageTag
import ChatReply.Proofs.ScanSteps
import ChatReply.Proofs.MeasuredFile
import ChatReply.Proofs.LayeredSettings
import ChatReply.Proofs.BlockGap
import ChatReply.Proofs.LineDivision
import ChatReply.Proofs.UnknownOption
