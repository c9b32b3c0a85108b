import CommandProtocol.Main
import CommandProtocol.Proofs.InlinePlan
import CommandProtocol.Proofs.MarshalPath
import CommandProtocol.Proofs.Reservation
import CommandProtocol.Proofs.Machine
import CommandProtocol.Proofs.Delivery
import CommandProtocol.Proofs.ParsedTable
import CommandProtocol.Proofs.TextLines
import CommandProtocol.Proofs.Numbering
import CommandProtocol.Proofs.PlaybackReader
import CommandProtocol.Proofs.HeaderReader
import CommandProtocol.Proofs.Agreement
import CommandProtocol.Proofs.TokenStream
import CommandProtocol.Proofs.Grammar
import CommandProtocol.Proofs.GrammarReading
import CommandProtocol.Proofs.FirstFault
import CommandProtocol.Proofs.Concatenation
import CommandProtocol.Proofs.Companions
import CommandProtocol.Proofs.SpecText
import CommandProtocol.Proofs.SignatureReader
import CommandProtocol.Proofs.Fingerprint
import CommandProtocol.Proofs.RecordFields
import CommandProtocol.Proofs.ClientCode
import CommandProtocol.Proofs.ClientReader
import CommandProtocol.Proofs.ClientScope
import CommandProtocol.Proofs.NameClash
import CommandProtocol.Proofs.AllOrNothing
import CommandProtocol.Proofs.CallSites
import CommandProtocol.Proofs.DirectCalls
import CommandProtocol.Proofs.TableLookup
import CommandProtocol.Proofs.AppendedCalls
import CommandProtocol.Proofs.EmittableTable
import CommandProtocol.Proofs.TypeSpelling
import CommandProtocol.Proofs.LineScan
import CommandProtocol.Proofs.Brackets
import CommandProtocol.Proofs.Layout
import CommandProtocol.Proofs.TypeNormalForm
import CommandProtocol.Proofs.Descent
import CommandProtocol.Proofs.DescentReading
