import Descent.Text.Cursor
import Descent.Text.Span
import Descent.Text.Quoted
import Descent.Text.Primitive
import Descent.Error
import Descent.Value.Basic
import Descent.Value.Double
import Descent.Value.Numeral
import Descent.Value.Write
import Descent.Value.Read
import Descent.Unicode.CharSet
import Descent.Unicode.Category
import Descent.Unicode.Property
import Descent.Unicode.Case
import Descent.Unicode.Char
import Descent.Parser.Basic
import Descent.Parser.Choice
import Descent.Parser.Repeat
import Descent.Parser.Separated
import Descent.Parser.Until
import Descent.Parser.State
import Descent.Regex.Ucd.Category
import Descent.Regex.Ucd.Script
import Descent.Regex.Ucd.Binary
import Descent.Regex.Ucd.Age
import Descent.Regex.Ucd.Break
import Descent.Regex.Ucd.Fold
import Descent.Regex.Ucd.Names
import Descent.Regex.Syntax
import Descent.Regex.Error
import Descent.Regex.Parse
import Descent.Regex.Property
import Descent.Regex.Hir
import Descent.Regex.Program
import Descent.Regex.Search
import Descent.Regex.Size
import Descent.Regex.Matcher
import Descent.Grammar.Basic
import Descent.Grammar.Helpers
import Descent.Grammar.Decode
import Descent.Request.Fault
import Descent.Request.Text
import Descent.Request.Parse
import Descent.Request.Answer
import Descent.Proofs.Alternation
import Descent.Proofs.Boundary
import Descent.Proofs.Sequencing
import Descent.Proofs.Sequences
import Descent.Proofs.Forward
import Descent.Proofs.WellFormed
import Descent.Proofs.Halting
import Descent.Proofs.Backtracking
import Descent.Proofs.Repetition
import Descent.Proofs.Lists
import Descent.Proofs.Until
import Descent.Proofs.Reading
import Descent.Proofs.Joined
import Descent.Proofs.Location
