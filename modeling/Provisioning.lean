import Provisioning.Action
import Provisioning.Backoff
import Provisioning.Batches
import Provisioning.Calendar
import Provisioning.Chain
import Provisioning.Clients
import Provisioning.Configuration
import Provisioning.Context
import Provisioning.DateTime
import Provisioning.Encoded
import Provisioning.Entries
import Provisioning.ErrorCode
import Provisioning.ErrorRules
import Provisioning.Event
import Provisioning.Executor
import Provisioning.Fault
import Provisioning.Handler
import Provisioning.Integration.Model
import Provisioning.Integration.Provider
import Provisioning.Integration.Rules
import Provisioning.Json.Basic
import Provisioning.Json.Document
import Provisioning.Json.Reader
import Provisioning.Logging.Levels
import Provisioning.Logging.Line
import Provisioning.Logging.LoggerName
import Provisioning.Logging.Message
import Provisioning.Logging.Place
import Provisioning.Logging.Timestamp
import Provisioning.Number
import Provisioning.Number.Binary64
import Provisioning.Number.Decimal
import Provisioning.Number.Reading
import Provisioning.Number.Shortest
import Provisioning.ParameterGroup.Model
import Provisioning.ParameterGroup.Provider
import Provisioning.ParameterGroup.Rules
import Provisioning.Program
import Provisioning.Proofs.Asking
import Provisioning.Proofs.Attempts
import Provisioning.Proofs.Catalog
import Provisioning.Proofs.Chain
import Provisioning.Proofs.Classification
import Provisioning.Proofs.Confinement
import Provisioning.Proofs.Context
import Provisioning.Proofs.Deployment
import Provisioning.Proofs.Echo
import Provisioning.Proofs.Entries
import Provisioning.Proofs.ErrorRules
import Provisioning.Proofs.Event
import Provisioning.Proofs.Footprint
import Provisioning.Proofs.Handler
import Provisioning.Proofs.History
import Provisioning.Proofs.Immutability
import Provisioning.Proofs.Integration.Creation
import Provisioning.Proofs.Integration.Deployment
import Provisioning.Proofs.Integration.Footprint
import Provisioning.Proofs.Integration.Identity
import Provisioning.Proofs.Integration.Invocation
import Provisioning.Proofs.Integration.Model
import Provisioning.Proofs.Integration.Remote
import Provisioning.Proofs.Integration.RequestedTags
import Provisioning.Proofs.Integration.Retry
import Provisioning.Proofs.Integration.Steps
import Provisioning.Proofs.Integration.Success
import Provisioning.Proofs.Integration.TagStore
import Provisioning.Proofs.Integration.Update
import Provisioning.Proofs.Keeping
import Provisioning.Proofs.KeyOrder
import Provisioning.Proofs.LoggerName
import Provisioning.Proofs.NameGroups
import Provisioning.Proofs.Naming
import Provisioning.Proofs.Number
import Provisioning.Proofs.Once
import Provisioning.Proofs.ParameterGroup.Batching
import Provisioning.Proofs.ParameterGroup.BestEffort
import Provisioning.Proofs.ParameterGroup.Ending
import Provisioning.Proofs.ParameterGroup.Footprint
import Provisioning.Proofs.ParameterGroup.Invocation
import Provisioning.Proofs.ParameterGroup.Parameters
import Provisioning.Proofs.ParameterGroup.Reported
import Provisioning.Proofs.ParameterGroup.Rollback
import Provisioning.Proofs.ParameterGroup.Steps
import Provisioning.Proofs.ParameterGroup.Store
import Provisioning.Proofs.Polling
import Provisioning.Proofs.Raising
import Provisioning.Proofs.Reading
import Provisioning.Proofs.Reinvocation
import Provisioning.Proofs.Remote
import Provisioning.Proofs.ResourceName
import Provisioning.Proofs.Resumption
import Provisioning.Proofs.Rounding
import Provisioning.Proofs.RuleSets
import Provisioning.Proofs.Run
import Provisioning.Proofs.Splitting
import Provisioning.Proofs.Stabilization
import Provisioning.Proofs.TagChange
import Provisioning.Proofs.TagDiff
import Provisioning.Proofs.TagList
import Provisioning.Proofs.TagSet
import Provisioning.Proofs.Tagging
import Provisioning.Proofs.Trace
import Provisioning.Proofs.Uniqueness
import Provisioning.Proofs.WellFormed
import Provisioning.Proofs.Wording
import Provisioning.Request
import Provisioning.ResourceName
import Provisioning.Script
import Provisioning.ServiceResponse
import Provisioning.ServiceRules
import Provisioning.Settings
import Provisioning.Stabilization
import Provisioning.TagSet
import Provisioning.Tagging
import Provisioning.Text.Blank
import Provisioning.Text.Casing
import Provisioning.Text.CharacterName
import Provisioning.Text.CharacterName.Coding
import Provisioning.Text.CharacterName.Names00020
import Provisioning.Text.CharacterName.Names00D54
import Provisioning.Text.CharacterName.Names01E00
import Provisioning.Text.CharacterName.Names02660
import Provisioning.Text.CharacterName.Names02F00
import Provisioning.Text.CharacterName.Names0FBD3
import Provisioning.Text.CharacterName.Names11200
import Provisioning.Text.CharacterName.Names16900
import Provisioning.Text.CharacterName.Names1E100
import Provisioning.Text.CharacterName.Names1FA60
import Provisioning.Text.CodePage
import Provisioning.Text.DecimalDigit
import Provisioning.Text.DomainName.Ascii
import Provisioning.Text.DomainName.Composition
import Provisioning.Text.DomainName.FoldedTable
import Provisioning.Text.DomainName.MarkTable
import Provisioning.Text.DomainName.Preparation
import Provisioning.Text.DomainName.Ranges
import Provisioning.Text.EastAsian.Big5
import Provisioning.Text.EastAsian.Chinese
import Provisioning.Text.EastAsian.Cp932
import Provisioning.Text.EastAsian.Gb2312
import Provisioning.Text.EastAsian.Gbk
import Provisioning.Text.EastAsian.Grid
import Provisioning.Text.EastAsian.Hkscs
import Provisioning.Text.EastAsian.Japanese
import Provisioning.Text.EastAsian.JisX0208
import Provisioning.Text.EastAsian.JisX0212
import Provisioning.Text.EastAsian.JisX0213
import Provisioning.Text.EastAsian.Korean
import Provisioning.Text.EastAsian.KsX1001
import Provisioning.Text.EastAsian.MultiByte
import Provisioning.Text.EastAsian.Switching
import Provisioning.Text.Encoding
import Provisioning.Text.EncodingName
import Provisioning.Text.Printable
import Provisioning.Text.Punycode
import Provisioning.Text.Quoted
import Provisioning.Text.Search
import Provisioning.Text.Sha1
import Provisioning.Text.UniqueId
import Provisioning.Text.Units
import Provisioning.Text.UpperTable
import Provisioning.Value.Access
import Provisioning.Value.Basic
import Provisioning.Value.Display
import Provisioning.Version
