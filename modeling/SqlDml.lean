import SqlDml.Binary64.Basic
import SqlDml.Binary64.Rounding
import SqlDml.Binary64.Text
import SqlDml.Decimal
import SqlDml.Dialect
import SqlDml.Fault
import SqlDml.Layout
import SqlDml.Lexeme.Numeral
import SqlDml.Lexeme.Quoted
import SqlDml.Lexeme.Read
import SqlDml.Literal
import SqlDml.Position
import SqlDml.Proofs.Binary64.Exact
import SqlDml.Proofs.Layout.Grammar
import SqlDml.Proofs.Lexeme.Dispatch
import SqlDml.Proofs.Lexeme.Following
import SqlDml.Proofs.Lexeme.Numeral
import SqlDml.Proofs.Lexeme.Quoted
import SqlDml.Proofs.Spelling.Basic
import SqlDml.Proofs.Spelling.Clause
import SqlDml.Proofs.Spelling.Literal
import SqlDml.Proofs.Spelling.Number
import SqlDml.Proofs.Spelling.Word
import SqlDml.Proofs.Statement.Conditions
import SqlDml.Proofs.Statement.Flatten
import SqlDml.Proofs.Statement.Nesting
import SqlDml.Proofs.Statement.Precedence
import SqlDml.Proofs.Statement.Relex
import SqlDml.Proofs.Statement.Unambiguous
import SqlDml.Proofs.Text.Case
import SqlDml.Proofs.TokenReader.Buffer
import SqlDml.Proofs.TokenReader.Tape
import SqlDml.Proofs.TokenStream.Joint
import SqlDml.Proofs.TokenStream.LineBreak
import SqlDml.Proofs.TokenStream.Partition
import SqlDml.Proofs.TokenStream.Pieces
import SqlDml.Proofs.TokenStream.Relaid
import SqlDml.ReaderConfig
import SqlDml.Statement.Basic
import SqlDml.Statement.Edit
import SqlDml.Statement.Equality
import SqlDml.Statement.Render
import SqlDml.Text.Case
import SqlDml.Text.CaseTable
import SqlDml.Token
import SqlDml.TokenReader
import SqlDml.TokenStream
import SqlDml.Proofs.Lexeme.Form
import SqlDml.Proofs.TokenStream.Progress
import SqlDml.Proofs.TokenStream.Lines
import SqlDml.Proofs.TokenStream.Horizon
import SqlDml.Proofs.TokenReader.Drain
import SqlDml.Proofs.TokenStream.Kinds
import SqlDml.Proofs.Statement.Building
import SqlDml.Proofs.Lexeme.Atoms
import SqlDml.Proofs.Binary64.Nearest
import SqlDml.Proofs.Lexeme.Number
import SqlDml.Proofs.TokenStream.Lexemes
import SqlDml.Proofs.TokenStream.Faults
import SqlDml.Proofs.TokenStream.Literals
import SqlDml.Proofs.TokenReader.MoreLookahead
import SqlDml.Proofs.TokenStream.Broken
import SqlDml.Proofs.Statement.Limit
import SqlDml.Proofs.Statement.Outline
import SqlDml.Proofs.Statement.Proper
import SqlDml.Proofs.Statement.Having
import SqlDml.Proofs.TokenStream.Alone
import SqlDml.Proofs.TokenStream.Comparisons
import SqlDml.Proofs.Lexeme.LetterCase
import SqlDml.Proofs.TokenStream.LetterCase
import SqlDml.Proofs.Binary64.Equality
import SqlDml.Proofs.Statement.Equality
import SqlDml.Proofs.TokenStream.Names
import SqlDml.Proofs.Statement.LetterCase
import SqlDml.Proofs.Statement.Spacing
