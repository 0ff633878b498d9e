import Criteria.Proofs.Rule.Account
import Criteria.Engine
import Criteria.Options.Reading
import Criteria.Rule.Catalog
import Criteria.Rule.Report
import Criteria.Rule.Session
import Criteria.Yaml.Loading
import Criteria.Proofs.Value.Range
import Criteria.Proofs.Rule.FaultSource
import Criteria.Proofs.Rule.Congruence
import Criteria.Proofs.Rule.DepthLimit
import Criteria.Proofs.Rule.Reordering
import Criteria.Proofs.Rule.Observation
import Criteria.Proofs.Rule.Displacement
import Criteria.Proofs.Rule.Malformed
import Criteria.Proofs.Engine.Selection
import Criteria.Proofs.Rule.Conjunction
import Criteria.Proofs.Value.Answering
import Criteria.Proofs.RuleSet.Loading
import Criteria.Proofs.Rule.Interruption
import Criteria.Proofs.Rule.Reuse
import Criteria.Proofs.Rule.Erasure
import Criteria.Proofs.Rule.Polarity
import Criteria.Proofs.Rule.Horizon
import Criteria.Proofs.Rule.Expectation
import Criteria.Proofs.Value.Correspondence
import Criteria.Proofs.Rule.Singleton
import Criteria.Proofs.Path.Addressing
import Criteria.Proofs.Rule.Nesting
import Criteria.Proofs.Rule.Location
import Criteria.Proofs.Rule.Concatenation
import Criteria.Proofs.Rule.Fallback
import Criteria.Proofs.RuleSet.Export
import Criteria.Proofs.Value.Types
import Criteria.Proofs.Options.NormalForm
import Criteria.Proofs.Yaml.GraphValue
