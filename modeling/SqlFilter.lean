import SqlFilter.Clause.Plain
import SqlFilter.Clause.Shape
import SqlFilter.CommandLine.FileTree
import SqlFilter.Document.Meaning
import SqlFilter.Expression.Nesting
import SqlFilter.Expression.Spelling
import SqlFilter.Main
import SqlFilter.Select.History
import SqlFilter.Sql.Like
import SqlFilter.Text.Removal
import SqlFilter.Proofs.Clause.Loop
import SqlFilter.Proofs.Sanitize.Stripped
import SqlFilter.Proofs.Sanitize.Residue
import SqlFilter.Proofs.Clause.Pieces
import SqlFilter.Proofs.Clause.Literals
import SqlFilter.Proofs.Clause.Parts
import SqlFilter.Proofs.Clause.Unique
import SqlFilter.Proofs.Clause.Success
import SqlFilter.Proofs.Select.Clean
import SqlFilter.Proofs.Document.RoundTrip
import SqlFilter.Proofs.Document.Groups
import SqlFilter.Proofs.Expression.Decoding
import SqlFilter.Proofs.Document.Depth
import SqlFilter.Proofs.Select.History
import SqlFilter.Proofs.Select.Unique
import SqlFilter.Proofs.Clause.Group
import SqlFilter.Proofs.Expression.Depth
import SqlFilter.Proofs.Clause.Need
import SqlFilter.Proofs.Clause.Limit
import SqlFilter.Proofs.Clause.Chain
import SqlFilter.Proofs.Sql.Like
import SqlFilter.Proofs.Clause.Contains
import SqlFilter.Proofs.Sanitize.Conservation
import SqlFilter.Proofs.Calendar.Fields
import SqlFilter.Proofs.Clause.Prepend
import SqlFilter.Proofs.Text.Hidden
import SqlFilter.Proofs.Text.Removal
import SqlFilter.Proofs.Expression.Levels
import SqlFilter.Proofs.Expression.Format
import SqlFilter.Proofs.Settings
import SqlFilter.Proofs.CommandLine.Arguments
import SqlFilter.Proofs.CommandLine.Run
