import Disclosure.Settings
import Disclosure.Fact.Binding
import Disclosure.Rule.Compile
import Disclosure.Taxonomy.AxisReplacement
import Disclosure.Taxonomy.Compatibility
import Disclosure.Taxonomy.Deprecation
import Disclosure.Taxonomy.Family
import Disclosure.Taxonomy.Members
import Disclosure.Taxonomy.QualityRule
import Disclosure.Taxonomy.SignExpectation
import Disclosure.Proofs.Fact.Named
import Disclosure.Proofs.Fact.Offers
import Disclosure.Proofs.Fact.Accounting
import Disclosure.Proofs.Fact.Representative
import Disclosure.Proofs.Token.Memo
import Disclosure.Proofs.Token.Query
import Disclosure.Proofs.Token.Failure
import Disclosure.Proofs.Token.Sequence
import Disclosure.Proofs.Token.Unfolding
import Disclosure.Proofs.Token.Nesting
import Disclosure.Proofs.Rule.Steady
import Disclosure.Proofs.Rule.Composition
import Disclosure.Proofs.Rule.Kept
import Disclosure.Proofs.Rule.Resolved
import Disclosure.Proofs.Rule.Declared
import Disclosure.Proofs.Rule.Applicability
import Disclosure.Proofs.Rule.Mode
import Disclosure.Proofs.Fact.Context
import Disclosure.Proofs.Fact.Coarsening
import Disclosure.Proofs.Taxonomy.Descent
import Disclosure.Proofs.Taxonomy.Members
import Disclosure.Proofs.Json.Canonical
import Disclosure.Proofs.File.Cache
import Disclosure.Proofs.Rule.Assembly
import Disclosure.Proofs.Rule.Eligible
import Disclosure.Proofs.Rule.Locality
import Disclosure.Proofs.Rule.Exhibit
import Disclosure.Proofs.Rule.Remark
import Disclosure.Proofs.Fact.Admission
import Disclosure.Proofs.Fact.Rearranged
import Disclosure.Proofs.Rule.References
import Disclosure.Proofs.Rule.Naming
import Disclosure.Proofs.Rule.Options
import Disclosure.Proofs.Taxonomy.SignExpectation
import Disclosure.Proofs.Taxonomy.AxisReplacement
import Disclosure.Proofs.Taxonomy.Compatibility
import Disclosure.Proofs.Fact.Precision
import Disclosure.Proofs.Rule.NumberRange
import Disclosure.Proofs.Rule.DateRange
import Disclosure.Proofs.Taxonomy.NamespacePattern
import Disclosure.Proofs.Taxonomy.Deprecation
import Disclosure.Proofs.Taxonomy.QualityRule
import Disclosure.Proofs.Taxonomy.Version
import Disclosure.Proofs.Taxonomy.Family
import Disclosure.Proofs.Fact.LeastPrecision
import Disclosure.Proofs.Taxonomy.FamilyNamespace
import Disclosure.Proofs.Rule.Spec
