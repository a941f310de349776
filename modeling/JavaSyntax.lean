import JavaSyntax.ClassDefinition.Draft
import JavaSyntax.Expr.AnonymousClass
import JavaSyntax.JavaType.Draft
import JavaSyntax.Message.Sample
import JavaSyntax.Method.Draft
import JavaSyntax.Proofs.Construction.Nesting
import JavaSyntax.Proofs.Construction.Overloads
import JavaSyntax.Proofs.Construction.Rebuilding
import JavaSyntax.Proofs.Construction.Rules
import JavaSyntax.Proofs.Construction.Slots
import JavaSyntax.Proofs.Construction.Values
import JavaSyntax.Proofs.Imports.Declared
import JavaSyntax.Proofs.Imports.Meaning
import JavaSyntax.Proofs.Imports.VisitOrder
import JavaSyntax.Proofs.Indentation.Depth
import JavaSyntax.Proofs.Indentation.Width
import JavaSyntax.Proofs.Messages.Hashes
import JavaSyntax.Proofs.Messages.SetterNames
import JavaSyntax.Proofs.References.ClassNames
import JavaSyntax.Proofs.Source.Balance
import JavaSyntax.Proofs.Source.Characters
import JavaSyntax.Proofs.Source.LineComments
import JavaSyntax.Proofs.Source.Signs
import JavaSyntax.Proofs.Source.Unambiguity
import JavaSyntax.Proofs.Types.Acceptance
import JavaSyntax.Proofs.Types.Arrays
import JavaSyntax.Proofs.Types.Comparison
import JavaSyntax.Proofs.Types.Order
import JavaSyntax.Proofs.Writing.Agreement
import JavaSyntax.Proofs.Writing.Emission
import JavaSyntax.Proofs.Writing.History
import JavaSyntax.Proofs.Writing.Locality
import JavaSyntax.Proofs.Writing.TypeArguments
import JavaSyntax.Statement.Draft
import JavaSyntax.Writer
import JavaSyntax.Proofs.References.Identifiers
