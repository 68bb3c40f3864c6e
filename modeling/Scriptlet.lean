import Scriptlet.Host.Bridge
import Scriptlet.Host.CommandLine
import Scriptlet.Host.Events
import Scriptlet.Host.Files
import Scriptlet.Host.Inspector
import Scriptlet.Host.Plain
import Scriptlet.Host.Producer
import Scriptlet.Host.Script
import Scriptlet.Json.Encode
import Scriptlet.Json.Strings
import Scriptlet.Main
import Scriptlet.Number.Binary64
import Scriptlet.Number.Display
import Scriptlet.Number.Integer
import Scriptlet.Number.Shortest
import Scriptlet.Proofs.Alphabet
import Scriptlet.Proofs.AnswerSource
import Scriptlet.Proofs.Approximation
import Scriptlet.Proofs.CallIsolation
import Scriptlet.Proofs.CallRank
import Scriptlet.Proofs.Cancellation
import Scriptlet.Proofs.Comparison
import Scriptlet.Proofs.Concatenation
import Scriptlet.Proofs.Course
import Scriptlet.Proofs.DeadCode
import Scriptlet.Proofs.EagerReturn
import Scriptlet.Proofs.Echo
import Scriptlet.Proofs.EncodedRuns
import Scriptlet.Proofs.Encoding
import Scriptlet.Proofs.EventAgreement
import Scriptlet.Proofs.FailureModes
import Scriptlet.Proofs.FirstMismatch
import Scriptlet.Proofs.ForLoop
import Scriptlet.Proofs.Grammar
import Scriptlet.Proofs.History
import Scriptlet.Proofs.HostAgreement
import Scriptlet.Proofs.IntegerReading
import Scriptlet.Proofs.Interleaving
import Scriptlet.Proofs.JsonTexts
import Scriptlet.Proofs.JsonValues
import Scriptlet.Proofs.KeyPresses
import Scriptlet.Proofs.Lexemes
import Scriptlet.Proofs.Lexicon
import Scriptlet.Proofs.Moments
import Scriptlet.Proofs.MoreInput
import Scriptlet.Proofs.NearestDouble
import Scriptlet.Proofs.Numerals
import Scriptlet.Proofs.ParserExact
import Scriptlet.Proofs.PrintedIntegers
import Scriptlet.Proofs.Provenance
import Scriptlet.Proofs.Readers
import Scriptlet.Proofs.Reply
import Scriptlet.Proofs.ReturnPlacement
import Scriptlet.Proofs.ScreenCourse
import Scriptlet.Proofs.SideBySide
import Scriptlet.Proofs.SingleRun
import Scriptlet.Proofs.SourceText
import Scriptlet.Proofs.Staging
import Scriptlet.Proofs.Tables
import Scriptlet.Proofs.Termination
import Scriptlet.Proofs.TokenAgreement
import Scriptlet.Proofs.TokenClass
import Scriptlet.Proofs.Transcript
import Scriptlet.Proofs.Utf8
import Scriptlet.Run.Action
import Scriptlet.Run.Console
import Scriptlet.Run.Dialogue
import Scriptlet.Run.Error
import Scriptlet.Run.Frame
import Scriptlet.Run.Interpreter
import Scriptlet.Run.Prompt
import Scriptlet.Run.ReturnMode
import Scriptlet.Run.Session
import Scriptlet.Run.Table
import Scriptlet.Screen.Basic
import Scriptlet.Screen.Block
import Scriptlet.Screen.Key
import Scriptlet.Screen.Pen
import Scriptlet.Screen.Sequence
import Scriptlet.Screen.Stage
import Scriptlet.Screen.Terminal
import Scriptlet.Screen.TextField
import Scriptlet.Screen.Viewport
import Scriptlet.Screen.Wrap
import Scriptlet.Settings.Basic
import Scriptlet.Settings.Decode
import Scriptlet.Syntax.Basic
import Scriptlet.Syntax.Error
import Scriptlet.Syntax.Outline
import Scriptlet.Syntax.Parser
import Scriptlet.Text.Base64
import Scriptlet.Text.Basic
import Scriptlet.Text.Blank
import Scriptlet.Text.BreakClass
import Scriptlet.Text.Columns
import Scriptlet.Text.Hex
import Scriptlet.Text.Printable
import Scriptlet.Text.Quote
import Scriptlet.Text.Rune
import Scriptlet.Token.Class
import Scriptlet.Token.Lexer
import Scriptlet.Value.Basic
import Scriptlet.Value.Operation
import Scriptlet.Yaml.Cursor
import Scriptlet.Yaml.Lexeme
import Scriptlet.Yaml.Node
import Scriptlet.Yaml.Number
import Scriptlet.Yaml.Property
import Scriptlet.Yaml.Scalar
import Scriptlet.Yaml.Source
import Scriptlet.Yaml.Tag
import Scriptlet.Yaml.Timestamp
