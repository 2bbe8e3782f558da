import CodecGen.Main
import CodecGen.Proofs.Emit.Members
import CodecGen.Proofs.Emit.Struct
import CodecGen.Proofs.Emit.Render
import CodecGen.Proofs.Emit.StructText
import CodecGen.Proofs.Emit.KeyCount
import CodecGen.Proofs.Emit.Container
import CodecGen.Proofs.Emit.Agreement
import CodecGen.Proofs.Emit.Pass
import CodecGen.Proofs.Token.Layout
import CodecGen.Proofs.Package.Grammar
import CodecGen.Proofs.Package.Types
import CodecGen.Proofs.Package.Statements
import CodecGen.Proofs.Package.Printer
import CodecGen.Proofs.Emit.KeyLiteral
import CodecGen.Proofs.Emit.Verbatim
import CodecGen.Proofs.Text.Mention
import CodecGen.Proofs.Text.ByteOrder
import CodecGen.Proofs.FileTree.Path
import CodecGen.Proofs.Load.Parts
import CodecGen.Proofs.Load.Output
import CodecGen.Proofs.Cli.Outcome
import CodecGen.Proofs.Cli.Again
import CodecGen.Proofs.Cursor.Declarations
import CodecGen.Proofs.Template.Qualifier
import CodecGen.Proofs.Emit.Imports
import CodecGen.Proofs.Emit.Kinds
import CodecGen.Proofs.Emit.Silent
import CodecGen.Proofs.Package.JsonDocument
import CodecGen.Proofs.Package.LikeReaders
import CodecGen.Proofs.Emit.ReadBack
import CodecGen.Proofs.Emit.TagContent
import CodecGen.Proofs.Emit.Refusal
import CodecGen.Proofs.Emit.OmitEmpty
import CodecGen.Proofs.Emit.TimeLayout
import CodecGen.Proofs.Package.Depth
import CodecGen.Proofs.Package.Lengths
import CodecGen.Proofs.Tag.Escape
import CodecGen.Proofs.Tag.Faults
import CodecGen.Proofs.Tag.Decision
import CodecGen.Proofs.Emit.MemberType
import CodecGen.Proofs.Token.Comment
import CodecGen.Proofs.Package.FaultPlace
import CodecGen.Proofs.Package.Generics
import CodecGen.Proofs.Package.Erasure
import CodecGen.Proofs.Emit.KeyReport
import CodecGen.Proofs.Load.Marker
import CodecGen.Proofs.Package.CarriageReturn
import CodecGen.Proofs.Package.LineBreaks
