import ValidatorGen.Main
import ValidatorGen.Proofs.Check.Condition
import ValidatorGen.Proofs.Check.Enumeration
import ValidatorGen.Proofs.Check.Exclusive
import ValidatorGen.Proofs.Check.QuotedColumn
import ValidatorGen.Proofs.Check.Union
import ValidatorGen.Proofs.Check.Verbatim
import ValidatorGen.Proofs.Normalize.Schema
import ValidatorGen.Proofs.Generate.Calls
import ValidatorGen.Proofs.Validator.Typing
import ValidatorGen.Proofs.Generate.Hookless
import ValidatorGen.Proofs.Normalize.Row
import ValidatorGen.Proofs.Json.Strings
import ValidatorGen.Proofs.Validator.Tokens
import ValidatorGen.Proofs.Validator.Reading
import ValidatorGen.Proofs.Validator.Readers
import ValidatorGen.Proofs.Validator.Refined
import ValidatorGen.Proofs.Decimal.Plain
import ValidatorGen.Proofs.Validator.Dialects
import ValidatorGen.Proofs.Validator.Layers
import ValidatorGen.Proofs.Generate.Columns
import ValidatorGen.Proofs.Generate.Extensions
import ValidatorGen.Proofs.Generate.Writable
import ValidatorGen.Proofs.Identifier.Words
import ValidatorGen.Proofs.Model.Definitions
import ValidatorGen.Proofs.Identifier.Casing
import ValidatorGen.Proofs.Model.Names
import ValidatorGen.Proofs.Generate.Independence
import ValidatorGen.Proofs.Generate.Options
import ValidatorGen.Proofs.Generate.Summary
import ValidatorGen.Proofs.Json.Record
import ValidatorGen.Proofs.Settings.Layers
import ValidatorGen.Proofs.Settings.Spelling
import ValidatorGen.Proofs.Program.Artifacts
import ValidatorGen.Proofs.Stored.Inputs
import ValidatorGen.Proofs.Annotation.Layout
import ValidatorGen.Proofs.Annotation.Malformed
import ValidatorGen.Proofs.Normalize.Bounds
import ValidatorGen.Proofs.Normalize.Finite
import ValidatorGen.Proofs.Identifier.Idempotence
import ValidatorGen.Proofs.ColumnType.Decoration
import ValidatorGen.Proofs.Identifier.Singular
import ValidatorGen.Proofs.Naming.Distinct
import ValidatorGen.Proofs.Naming.Validity
import ValidatorGen.Proofs.Generate.Reports
import ValidatorGen.Proofs.Check.Prepared
import ValidatorGen.Proofs.Check.Bytes
