import Lexical.Main
import Lexical.Session
import Lexical.Proofs.Scan
import Lexical.Proofs.Segmentation
import Lexical.Proofs.Agreement
import Lexical.Proofs.Anomalies
import Lexical.Proofs.Execution
import Lexical.Proofs.Strict
import Lexical.Text.Classes
import Lexical.Proofs.Choice
import Lexical.Proofs.Grammar
import Lexical.Proofs.Spelling
import Lexical.Proofs.Places
import Lexical.Proofs.Lines
import Lexical.Proofs.Munch
import Lexical.Proofs.Comments
import Lexical.Proofs.Legacy
import Lexical.Proofs.Expansion
import Lexical.Proofs.Growth
import Lexical.Proofs.History
import Lexical.Proofs.Printing
import Lexical.Proofs.Outcome
import Lexical.Proofs.Cursor
import Lexical.Proofs.Decoding
import Lexical.Proofs.Report
import Lexical.Proofs.Quoting
import Lexical.Proofs.Json
import Lexical.Proofs.Numeral
import Lexical.Proofs.Settings
import Lexical.Proofs.Delimited
