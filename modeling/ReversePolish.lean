import ReversePolish.Main
import ReversePolish.Proofs.Conversion.Precedence
import ReversePolish.Proofs.Conversion.Brackets
import ReversePolish.Proofs.Conversion.Told
import ReversePolish.Proofs.Language
import ReversePolish.Proofs.Parsing
import ReversePolish.Proofs.Texts
import ReversePolish.Proofs.Readback
import ReversePolish.Proofs.Respelling
import ReversePolish.Proofs.Console.Pieces
import ReversePolish.Proofs.Console.Rendering
import ReversePolish.Proofs.Conversion.Held
import ReversePolish.Proofs.Display
import ReversePolish.Proofs.File.Aliases
import ReversePolish.Proofs.File.Cache
import ReversePolish.Proofs.File.Lines
import ReversePolish.Proofs.Inputs
import ReversePolish.Proofs.Conversion.Unit
import ReversePolish.Proofs.Console.Bare
import ReversePolish.Proofs.Console.Echo
import ReversePolish.Proofs.Printing
import ReversePolish.Proofs.Answers
import ReversePolish.Proofs.Console.Inert
import ReversePolish.Proofs.FailedFile
import ReversePolish.Proofs.Decoding
import ReversePolish.Proofs.AsTyped
import ReversePolish.Proofs.File.Contents
import ReversePolish.Proofs.File.Reloading
import ReversePolish.Proofs.Conversion.Relabelling
import ReversePolish.Proofs.Conversion.Waiting
