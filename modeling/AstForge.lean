import AstForge.Files.Stream
import AstForge.Generate
import AstForge.Main
import AstForge.Proofs.Document.Dispatch
import AstForge.Proofs.Document.Recovery
import AstForge.Proofs.Document.Assembly
import AstForge.Proofs.Document.TemplateNames
import AstForge.Proofs.TypeExpr.Readers
import AstForge.Proofs.TypeExpr.Pieces
import AstForge.Proofs.TypeExpr.Continuation
import AstForge.Proofs.TypeExpr.Reference
import AstForge.Proofs.TypeExpr.Applied
import AstForge.Proofs.Document.FieldTypes
import AstForge.Proofs.Document.LegalNames
import AstForge.Proofs.Files.Draft
import AstForge.Proofs.Files.Place
import AstForge.Proofs.Job.Requests
import AstForge.Proofs.Document.Builtin
import AstForge.Proofs.CommandLine.Run
import AstForge.Proofs.Job.OutputName
import AstForge.Proofs.Document.Containment
import AstForge.Proofs.Document.Reordering
import AstForge.Proofs.Declaration.Arrows
import AstForge.Proofs.Document.Braces
import AstForge.Proofs.Declaration.FieldText
import AstForge.Proofs.Declaration.Segments
import AstForge.Proofs.Document.Interleaving
import AstForge.Proofs.Table.Layout
import AstForge.Proofs.Table.Spacing
import AstForge.Proofs.Document.Imports
import AstForge.Proofs.Document.Header
import AstForge.Proofs.Document.VisitMethods
import AstForge.Proofs.CommandLine.Arguments
import AstForge.Proofs.Document.Indentation
import AstForge.Proofs.Job.Settings
import AstForge.Proofs.Table.Lookup
import AstForge.Proofs.Text.Underscore
import AstForge.Proofs.Declaration.Matching
import AstForge.Proofs.Document.Comment
