import ObservedConfig.Authentication.Definition
import ObservedConfig.Authentication.Document
import ObservedConfig.Authentication.Resource
import ObservedConfig.Authentication.Spec
import ObservedConfig.Authentication.Validation
import ObservedConfig.Base64
import ObservedConfig.Binary64
import ObservedConfig.Binary64.Layout
import ObservedConfig.Binary64.Shortest
import ObservedConfig.Cluster.Lookup
import ObservedConfig.Cluster.Stream
import ObservedConfig.CommandLine
import ObservedConfig.CommandLine.Arguments
import ObservedConfig.ConfigMap
import ObservedConfig.Datum
import ObservedConfig.Datum.Mismatch
import ObservedConfig.Datum.Shape
import ObservedConfig.Entries
import ObservedConfig.Error
import ObservedConfig.Event
import ObservedConfig.FeatureGates
import ObservedConfig.Json.Number
import ObservedConfig.Json.Printer
import ObservedConfig.Json.Reader
import ObservedConfig.Location
import ObservedConfig.Main
import ObservedConfig.ObjectMeta
import ObservedConfig.Observer
import ObservedConfig.Observer.ExternalOidc
import ObservedConfig.Observer.RoleBinding
import ObservedConfig.Registry
import ObservedConfig.Replica.Plan
import ObservedConfig.Replica.Rules
import ObservedConfig.Replica.Server
import ObservedConfig.Report
import ObservedConfig.Settings
import ObservedConfig.Slice
import ObservedConfig.Text.Digit
import ObservedConfig.Text.Escaped
import ObservedConfig.Text.Mark
import ObservedConfig.Text.Part
import ObservedConfig.Text.Range
import ObservedConfig.Text.Space
import ObservedConfig.Text.Visible
import ObservedConfig.Timestamp
import ObservedConfig.Tree
import ObservedConfig.Tree.Document
import ObservedConfig.Url
import ObservedConfig.Url.Address
import ObservedConfig.Url.Character
import ObservedConfig.Url.Direction
import ObservedConfig.Url.Domain
import ObservedConfig.Url.Fault
import ObservedConfig.Url.Host
import ObservedConfig.Url.Joining
import ObservedConfig.Url.Punycode
import ObservedConfig.Violation
import ObservedConfig.Yaml.Character
import ObservedConfig.Yaml.Cursor
import ObservedConfig.Yaml.Document
import ObservedConfig.Yaml.Fault
import ObservedConfig.Yaml.Form
import ObservedConfig.Yaml.Form.Composition
import ObservedConfig.Yaml.Form.Reading
import ObservedConfig.Yaml.Plain
import ObservedConfig.Yaml.Printer
import ObservedConfig.Yaml.Quoting
import ObservedConfig.Yaml.Scalar
import ObservedConfig.Yaml.Token
import ObservedConfig.Yaml.Token.Lexer
import ObservedConfig.Yaml.Token.Sign
import ObservedConfig.Proofs.Entries
import ObservedConfig.Proofs.Observer
import ObservedConfig.Proofs.Observer.Arguments
import ObservedConfig.Proofs.Observer.ExternalOidc
import ObservedConfig.Proofs.Observer.RoleBinding
import ObservedConfig.Proofs.Registry.Arguments
import ObservedConfig.Proofs.Registry.History
import ObservedConfig.Proofs.Registry.Idempotence
import ObservedConfig.Proofs.Registry.Pass
import ObservedConfig.Proofs.Replica.Plan
import ObservedConfig.Proofs.Replica.Rules
import ObservedConfig.Proofs.Slice.Difference
import ObservedConfig.Proofs.Slice.Leaves
import ObservedConfig.Proofs.Slice.Merging
import ObservedConfig.Proofs.Tree.Equality
import ObservedConfig.Proofs.Tree.Merging
import ObservedConfig.Proofs.Tree.Pruning
import ObservedConfig.Proofs.Tree.Reading
import ObservedConfig.Proofs.Tree.Restricting
import ObservedConfig.Proofs.Tree.Sequence
import ObservedConfig.Proofs.Tree.Updating
import ObservedConfig.Proofs.Tree.View
import ObservedConfig.Proofs.Registry.Failure
import ObservedConfig.Proofs.Location
import ObservedConfig.Proofs.Replica.Requests
import ObservedConfig.Proofs.Observer.Mode
import ObservedConfig.Proofs.Replica.InPlace
import ObservedConfig.Proofs.Replica.Content
import ObservedConfig.Proofs.Replica.Missing
import ObservedConfig.Proofs.Replica.Application
import ObservedConfig.Proofs.Replica.Settlement
import ObservedConfig.Proofs.Replica.Convergence
import ObservedConfig.Proofs.Observer.Replicas
import ObservedConfig.Proofs.Registry.Repetition
import ObservedConfig.Proofs.Registry.Announcements
import ObservedConfig.Proofs.Registry.Change
import ObservedConfig.Proofs.Registry.Convergence
import ObservedConfig.Proofs.Registry.Ownership
import ObservedConfig.Proofs.Registry.Isolation
import ObservedConfig.Proofs.Registry.Permutation
import ObservedConfig.Proofs.Observer.Plugins
import ObservedConfig.Proofs.Registry.Plugins
import ObservedConfig.Proofs.Observer.Inputs
import ObservedConfig.Proofs.Slice.Verdict
import ObservedConfig.Proofs.Slice.Vestiges
import ObservedConfig.Proofs.Registry.Unchanged
import ObservedConfig.Proofs.Registry.Targets
import ObservedConfig.Proofs.Registry.Comparison
import ObservedConfig.Proofs.Registry.Inputs
import ObservedConfig.Proofs.Registry.Vestiges
import ObservedConfig.Proofs.Replica.Server
import ObservedConfig.Proofs.Authentication.Admission
import ObservedConfig.Proofs.Authentication.Name
import ObservedConfig.Proofs.Authentication.Validation
import ObservedConfig.Proofs.Observer.Login
import ObservedConfig.Proofs.Observer.FieldErrors
import ObservedConfig.Proofs.Observer.Translation
import ObservedConfig.Proofs.Observer.Distinction
import ObservedConfig.Proofs.Registry.Crash
import ObservedConfig.Proofs.Tree.Assignment
import ObservedConfig.Proofs.Authentication.Document
import ObservedConfig.Proofs.Json.Reading
import ObservedConfig.Proofs.Tree.Document
import ObservedConfig.Proofs.Tree.Extraction
import ObservedConfig.Proofs.Tree.Canonical
import ObservedConfig.Proofs.Tree.Overlay
import ObservedConfig.Proofs.Tree.Lookup
