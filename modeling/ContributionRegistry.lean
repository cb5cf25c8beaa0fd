import ContributionRegistry.Action
import ContributionRegistry.Amount
import ContributionRegistry.Cache.Basic
import ContributionRegistry.Cache.ContributionLists
import ContributionRegistry.Cache.Entries
import ContributionRegistry.Cache.Server
import ContributionRegistry.Cache.Switched
import ContributionRegistry.Calendar.Date
import ContributionRegistry.Calendar.Reading
import ContributionRegistry.Calendar.Timestamp
import ContributionRegistry.Database.Schema
import ContributionRegistry.Database.Statement
import ContributionRegistry.Database.Stores
import ContributionRegistry.Database.Tables
import ContributionRegistry.Decimal.Binary64
import ContributionRegistry.Decimal.Shortest
import ContributionRegistry.Deployment.Branch
import ContributionRegistry.Deployment.Pair
import ContributionRegistry.Deployment.Registry
import ContributionRegistry.Failure
import ContributionRegistry.Http.MediaType
import ContributionRegistry.Http.Message
import ContributionRegistry.Http.Origins
import ContributionRegistry.Http.Target
import ContributionRegistry.Json.Decoding
import ContributionRegistry.Json.Reader
import ContributionRegistry.Json.Value
import ContributionRegistry.Json.Writer
import ContributionRegistry.MasterData.Basic
import ContributionRegistry.MasterData.Client
import ContributionRegistry.MasterData.Endpoint
import ContributionRegistry.MasterData.Network
import ContributionRegistry.MasterData.Supply
import ContributionRegistry.Period
import ContributionRegistry.Records.Basic
import ContributionRegistry.Records.Filter
import ContributionRegistry.Records.Intake
import ContributionRegistry.Records.Order
import ContributionRegistry.Records.Wire
import ContributionRegistry.Replica.Resolution
import ContributionRegistry.Service.Basic
import ContributionRegistry.Service.Branch.Fault
import ContributionRegistry.Service.Branch.Resource
import ContributionRegistry.Service.Branch.Serve
import ContributionRegistry.Service.Registry.Fault
import ContributionRegistry.Service.Registry.Resource
import ContributionRegistry.Service.Registry.Serve
import ContributionRegistry.Settings.Basic
import ContributionRegistry.Settings.Branch
import ContributionRegistry.Settings.Registry
import ContributionRegistry.Store.Basic
import ContributionRegistry.Store.Error
import ContributionRegistry.Store.Memory
import ContributionRegistry.Store.Shelf
import ContributionRegistry.Store.Switched
import ContributionRegistry.Text.Blank
import ContributionRegistry.Text.Composition
import ContributionRegistry.Text.Digits
import ContributionRegistry.Text.Marks
import ContributionRegistry.Text.Printing
import ContributionRegistry.Text.Spans
import ContributionRegistry.Text.Utf8
import ContributionRegistry.Web.Address
import ContributionRegistry.Web.Domain
import ContributionRegistry.Web.Domain.Direction
import ContributionRegistry.Web.Domain.Joining
import ContributionRegistry.Web.Domain.Mapping
import ContributionRegistry.Web.Form
import ContributionRegistry.Web.Host
import ContributionRegistry.Web.Percent
import ContributionRegistry.Web.Punycode
import ContributionRegistry.Web.SocketAddress
import ContributionRegistry.Web.Url
import ContributionRegistry.Proofs.Amount.Rereading
import ContributionRegistry.Proofs.Json.Rereading
import ContributionRegistry.Proofs.Calendar.Rereading
import ContributionRegistry.Proofs.Json.Layouts
import ContributionRegistry.Proofs.Records.ContributionTexts
import ContributionRegistry.Proofs.Records.DecodedLists
import ContributionRegistry.Proofs.Replica.Courses
import ContributionRegistry.Proofs.Replica.Outcomes
import ContributionRegistry.Proofs.Replica.Crowd
import ContributionRegistry.Proofs.Cache.Courses
import ContributionRegistry.Proofs.Cache.Staleness
import ContributionRegistry.Proofs.Cache.Retention
import ContributionRegistry.Proofs.Cache.Crowd
import ContributionRegistry.Proofs.Cache.Succession
import ContributionRegistry.Proofs.Calendar.DayNumbers
import ContributionRegistry.Proofs.Records.Listings
import ContributionRegistry.Proofs.Registry.Histories
import ContributionRegistry.Proofs.Registry.Answers
import ContributionRegistry.Proofs.Database.Rows
import ContributionRegistry.Proofs.Records.Intake
import ContributionRegistry.Proofs.Registry.Validity
import ContributionRegistry.Proofs.Text.Bytes
import ContributionRegistry.Proofs.Web.Escapes
import ContributionRegistry.Proofs.Web.Appending
import ContributionRegistry.Proofs.Http.Targets
import ContributionRegistry.Proofs.MasterData.Exchanges
import ContributionRegistry.Proofs.MasterData.EmployeeUrls
import ContributionRegistry.Proofs.MasterData.ContributionQueries
import ContributionRegistry.Proofs.Records.EmployeeTexts
import ContributionRegistry.Proofs.MasterData.EmployeeAnswers
import ContributionRegistry.Proofs.Deployment.Offices
import ContributionRegistry.Proofs.Deployment.Fidelity
import ContributionRegistry.Proofs.Database.Engine
import ContributionRegistry.Proofs.Database.ContributionTables
import ContributionRegistry.Proofs.Database.ContributionListings
import ContributionRegistry.Proofs.Database.RecordTables
import ContributionRegistry.Proofs.Database.KeyedReplies
import ContributionRegistry.Proofs.Cache.ExpiringMap
import ContributionRegistry.Proofs.Cache.KeyValueServer
import ContributionRegistry.Proofs.Cache.Backends
import ContributionRegistry.Proofs.Cache.Degradation
import ContributionRegistry.Proofs.Records.Rereading
import ContributionRegistry.Proofs.Cache.Upshots
import ContributionRegistry.Proofs.Cache.Accounts
import ContributionRegistry.Proofs.Cache.Interchange
import ContributionRegistry.Proofs.Replica.Interchange
import ContributionRegistry.Proofs.Deployment.Interchange
import ContributionRegistry.Proofs.Replica.Failures
import ContributionRegistry.Proofs.Branch.Requests
import ContributionRegistry.Proofs.Branch.Answers
import ContributionRegistry.Proofs.Text.Fractions
import ContributionRegistry.Proofs.Amount.Numerals
import ContributionRegistry.Proofs.Decimal.Rounding
import ContributionRegistry.Proofs.Decimal.Scaling
import ContributionRegistry.Proofs.Decimal.Shortest
import ContributionRegistry.Proofs.Amount.Numbers
import ContributionRegistry.Proofs.Json.Literals
import ContributionRegistry.Proofs.Amount.Literals
import ContributionRegistry.Proofs.Amount.Spellings
import ContributionRegistry.Proofs.Json.Frames
import ContributionRegistry.Proofs.Amount.Abandonment
import ContributionRegistry.Proofs.Records.Priced
import ContributionRegistry.Proofs.Registry.PostedAmounts
import ContributionRegistry.Proofs.Deployment.TornAmounts
import ContributionRegistry.Proofs.Period.Texts
import ContributionRegistry.Proofs.Store.RequestedListings
import ContributionRegistry.Proofs.Calendar.Succession
import ContributionRegistry.Proofs.Calendar.UniversalDays
import ContributionRegistry.Proofs.Cache.TimesToLive
import ContributionRegistry.Proofs.Cache.CursorChains
import ContributionRegistry.Proofs.Settings.Lists
import ContributionRegistry.Proofs.Http.Grants
import ContributionRegistry.Proofs.Settings.Culprits
