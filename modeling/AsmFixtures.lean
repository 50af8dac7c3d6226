import AsmFixtures.Batch
import AsmFixtures.CommandLine.Arguments
import AsmFixtures.CommandLine.Help
import AsmFixtures.CommandLine.Run
import AsmFixtures.ConfigError
import AsmFixtures.Cpuid
import AsmFixtures.Database
import AsmFixtures.Database.Delimited
import AsmFixtures.Database.OperandSlots
import AsmFixtures.Database.Record
import AsmFixtures.Datum
import AsmFixtures.Decimal.Shortest
import AsmFixtures.Digest.Sha1
import AsmFixtures.EncodeError
import AsmFixtures.Encoder.Engine
import AsmFixtures.Encoder.Library
import AsmFixtures.Encoder.Shared
import AsmFixtures.Environment
import AsmFixtures.Files.Exchange
import AsmFixtures.Files.Path
import AsmFixtures.Files.Tree
import AsmFixtures.Instruction
import AsmFixtures.Listing
import AsmFixtures.Main
import AsmFixtures.Operand
import AsmFixtures.OperandClass.Domain
import AsmFixtures.OperandClass.GoSyntax
import AsmFixtures.OperandClass.Normal
import AsmFixtures.OperandClass.Sampler
import AsmFixtures.Pattern.CharacterName
import AsmFixtures.Pattern.Fault
import AsmFixtures.Pattern.LetterCase
import AsmFixtures.Pattern.Parser
import AsmFixtures.Pattern.Reading
import AsmFixtures.Pattern.Search
import AsmFixtures.Pattern.Syntax
import AsmFixtures.Product
import AsmFixtures.Proofs.OperandClass.Sampler
import AsmFixtures.Proofs.Product
import AsmFixtures.Proofs.Text.Blank
import AsmFixtures.Proofs.Text.Lines
import AsmFixtures.Proofs.Text.Pieces
import AsmFixtures.Proofs.Database.Delimited
import AsmFixtures.Proofs.Database.OperandSlots
import AsmFixtures.Proofs.Database.Forms
import AsmFixtures.Silence
import AsmFixtures.Silence.Memory
import AsmFixtures.Text.Blank
import AsmFixtures.Text.CharacterSet
import AsmFixtures.Text.Digit
import AsmFixtures.Text.Identifier
import AsmFixtures.Text.LetterCase
import AsmFixtures.Text.Lines
import AsmFixtures.Text.Pieces
import AsmFixtures.Text.Printable
import AsmFixtures.Text.Quoted
import AsmFixtures.Variant
import AsmFixtures.Wildcard
import AsmFixtures.Proofs.Batch.Plan
import AsmFixtures.Proofs.Batch.Step
import AsmFixtures.Proofs.Batch.Accounting
import AsmFixtures.Proofs.Batch.Interruption
import AsmFixtures.Proofs.Batch.Rotation
import AsmFixtures.Proofs.Encoder.Cascade
import AsmFixtures.Proofs.OperandClass.Domain
import AsmFixtures.Proofs.Batch.Verdict
import AsmFixtures.Proofs.Encoder.Calls
import AsmFixtures.Proofs.Encoder.Memory
import AsmFixtures.Proofs.Encoder.Decision
import AsmFixtures.Proofs.Encoder.Faithfulness
import AsmFixtures.Proofs.Files.Tree
import AsmFixtures.Proofs.Listing
import AsmFixtures.Proofs.CommandLine.Emission
import AsmFixtures.Proofs.Database.Reading
import AsmFixtures.Proofs.Listing.Division
import AsmFixtures.Proofs.Batch.Log
import AsmFixtures.Proofs.CommandLine.Log
import AsmFixtures.Proofs.OperandClass.Streams
import AsmFixtures.Proofs.Product.Counting
import AsmFixtures.Proofs.OperandClass.GoSyntax
import AsmFixtures.Proofs.OperandClass.Windows
import AsmFixtures.Proofs.Batch.Repetition
import AsmFixtures.Proofs.Files.Directory
import AsmFixtures.Proofs.Encoder.LifeCycle
import AsmFixtures.Proofs.Text.Decimal
import AsmFixtures.Proofs.OperandClass.Normal
import AsmFixtures.Proofs.Batch.Assembly
import AsmFixtures.Proofs.Operand.Address
import AsmFixtures.Proofs.Cpuid
import AsmFixtures.Proofs.Database.Printing
import AsmFixtures.Proofs.Text.Hexadecimal
import AsmFixtures.Proofs.OperandClass.Words
import AsmFixtures.Proofs.Listing.Reading
import AsmFixtures.Proofs.Silence
import AsmFixtures.Proofs.Encoder.ParameterOrder
import AsmFixtures.Proofs.Batch.ParameterOrder
import AsmFixtures.Proofs.Batch.Recording
import AsmFixtures.Proofs.Batch.WriteMask
