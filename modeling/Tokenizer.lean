import Tokenizer.Host.FileTree
import Tokenizer.Main
import Tokenizer.Proofs.Cursor.Seek
import Tokenizer.Proofs.Cursor.Moves
import Tokenizer.Proofs.Lexer.Characters
import Tokenizer.Proofs.Lexer.Reading
import Tokenizer.Proofs.Lexer.Grammar
import Tokenizer.Proofs.Lexer.Concatenation
import Tokenizer.Proofs.Lexer.Interleaving
import Tokenizer.Proofs.Lexer.Boundary
import Tokenizer.Proofs.Lexer.Progress
import Tokenizer.Proofs.Lexer.Legal
import Tokenizer.Proofs.Word.Language
import Tokenizer.Proofs.Word.Precedence
import Tokenizer.Proofs.Token.Listing
import Tokenizer.Proofs.Token.Attribution
import Tokenizer.Proofs.Token.Message
import Tokenizer.Proofs.Command.Failing
import Tokenizer.Proofs.Command.Input
import Tokenizer.Proofs.Command.Presentation
import Tokenizer.Proofs.Command.Settings
import Tokenizer.Proofs.Settings.Chain
import Tokenizer.Proofs.Settings.Climbing
import Tokenizer.Proofs.Settings.RootDirectory
import Tokenizer.Proofs.Word.Exponent
import Tokenizer.Proofs.Token.Suggestion
import Tokenizer.Proofs.Scan.Yields
import Tokenizer.Proofs.Toml.Distinct
import Tokenizer.Proofs.Settings.Fields
import Tokenizer.Proofs.Settings.Sections
import Tokenizer.Proofs.Settings.Overlay
