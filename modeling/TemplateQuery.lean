import TemplateQuery.Main
import TemplateQuery.Text.Case
import TemplateQuery.Proofs.Application
import TemplateQuery.Proofs.Dict
import TemplateQuery.Proofs.Template.Failing
import TemplateQuery.Proofs.Template.Frame
import TemplateQuery.Proofs.Template.Lockstep
import TemplateQuery.Proofs.Template.Pausing
import TemplateQuery.Proofs.Template.Policies
import TemplateQuery.Proofs.Template.Reading
import TemplateQuery.Proofs.Template.Replacement
import TemplateQuery.Proofs.Template.Strictness
import TemplateQuery.Proofs.Query.Everywhere
import TemplateQuery.Proofs.Query.Failure
import TemplateQuery.Proofs.Query.Reading
import TemplateQuery.Proofs.Query.Stages
import TemplateQuery.Proofs.Query.Spelling
import TemplateQuery.Proofs.Text.Letters
import TemplateQuery.Proofs.Query.Binding
import TemplateQuery.Proofs.Query.RoundTrip
import TemplateQuery.Proofs.Query.Composition
import TemplateQuery.Proofs.Template.Nesting
import TemplateQuery.Proofs.Template.Balanced
import TemplateQuery.Proofs.Template.Pieces
import TemplateQuery.Proofs.Template.Concatenation
import TemplateQuery.Proofs.Template.LenientFailures
import TemplateQuery.Proofs.Classification
import TemplateQuery.Proofs.Json.Alike
import TemplateQuery.Proofs.Query.Places
import TemplateQuery.Proofs.Query.Alike
import TemplateQuery.Proofs.Template.Faults
import TemplateQuery.Proofs.Template.Scanning
import TemplateQuery.Proofs.Template.Stages
import TemplateQuery.Proofs.Query.LargerTables
import TemplateQuery.Proofs.Template.Variables
import TemplateQuery.Proofs.Pattern.Matching
import TemplateQuery.Proofs.Query.PathArguments
import TemplateQuery.Proofs.Pattern.Escapes
import TemplateQuery.Proofs.Pattern.Sets
import TemplateQuery.Proofs.Pattern.Items
import TemplateQuery.Proofs.Pattern.Anchoring
import TemplateQuery.Proofs.Query.PatternTests
import TemplateQuery.Proofs.Json.Equality
import TemplateQuery.Proofs.Query.Comparisons
import TemplateQuery.Proofs.Query.DocumentOrder
import TemplateQuery.Proofs.Query.Membership
import TemplateQuery.Proofs.Query.Descent
import TemplateQuery.Proofs.Query.Unions
import TemplateQuery.Proofs.Template.Division
import TemplateQuery.Proofs.Template.Items
import TemplateQuery.Proofs.Template.Iterations
import TemplateQuery.Proofs.Template.Pipelines
import TemplateQuery.Proofs.Template.Headers
import TemplateQuery.Proofs.Template.Layers
import TemplateQuery.Proofs.Template.Scopes
import TemplateQuery.Proofs.Numerals
import TemplateQuery.Proofs.Query.Unfinished
import TemplateQuery.Proofs.Query.Cursor.Basic
import TemplateQuery.Proofs.Query.Cursor.Following
import TemplateQuery.Proofs.Query.QuotedNames
import TemplateQuery.Proofs.Query.Cursor.Words
import TemplateQuery.Proofs.Query.Cursor.Segments
import TemplateQuery.Proofs.Query.Cursor.Expressions
import TemplateQuery.Proofs.Query.Cursor.Positions
