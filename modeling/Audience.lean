import Audience.Calendar.Date
import Audience.Calendar.DayMonth
import Audience.Catalog.Column
import Audience.Catalog.SchemaCache
import Audience.Catalog.TableRef
import Audience.Data.ColumnType
import Audience.Data.NameMap
import Audience.Data.Value
import Audience.Digest.Sha256
import Audience.Filter.Campaign
import Audience.Filter.Condition
import Audience.Filter.Spec
import Audience.Filter.Template
import Audience.Http.Address
import Audience.Http.ApiError
import Audience.Http.MediaType
import Audience.Http.Message
import Audience.Http.Route
import Audience.Http.Server
import Audience.Http.Target
import Audience.Http.Url
import Audience.Json.Basic
import Audience.Json.Numeral
import Audience.Json.Parser
import Audience.Json.Printer
import Audience.Json.Record
import Audience.Main
import Audience.Number.Binary64
import Audience.Number.Decimal
import Audience.Number.Layout
import Audience.Number.Reading
import Audience.Results.Cache
import Audience.Results.Key
import Audience.Results.Policy
import Audience.Results.Sweeper
import Audience.Service.FilterService
import Audience.Service.LogFilter
import Audience.Service.Request
import Audience.Service.Settings
import Audience.Service.Startup
import Audience.Text.Blank
import Audience.Text.CaseTable
import Audience.Text.Hex
import Audience.Text.HiddenTable
import Audience.Text.Lowercase
import Audience.Text.Shown
import Audience.Text.Split
import Audience.Text.Utf8
import Audience.Warehouse.Memory
import Audience.Warehouse.Page
import Audience.Warehouse.Parameter
import Audience.Warehouse.Remote
import Audience.Warehouse.Statement
import Audience.Proofs.Results.Sweeping
import Audience.Proofs.Service.Coherence
import Audience.Proofs.Filter.Reordering
import Audience.Proofs.Results.Retention
import Audience.Proofs.Filter.Noninterference
import Audience.Proofs.Number.ReadBack
import Audience.Proofs.Warehouse.Paging
import Audience.Proofs.Number.Text
import Audience.Proofs.Json.Writing
import Audience.Proofs.Results.KeyMaterial
import Audience.Proofs.Catalog.Lookup
import Audience.Proofs.Service.Effects
import Audience.Proofs.Filter.Placeholders
import Audience.Proofs.Calendar.DayMonth
import Audience.Proofs.Filter.Typing
import Audience.Proofs.Http.Serving
import Audience.Proofs.Http.Vetting
import Audience.Proofs.Catalog.Holding
import Audience.Proofs.Catalog.Sharing
import Audience.Proofs.Results.KeyOrder
import Audience.Proofs.Service.Repetition
import Audience.Proofs.Http.Refusal
import Audience.Proofs.Filter.FirstError
import Audience.Proofs.Filter.DateRule
import Audience.Proofs.Calendar.LongForm
import Audience.Proofs.Filter.IntegerRule
import Audience.Proofs.Filter.ScalarRule
import Audience.Proofs.Service.Encoding
import Audience.Proofs.Warehouse.Binding
import Audience.Proofs.Http.Attribution
import Audience.Proofs.Catalog.TypeNames
import Audience.Proofs.Warehouse.BaseTable
import Audience.Proofs.Warehouse.PageText
import Audience.Proofs.Warehouse.Gathering
import Audience.Proofs.Http.Administration
import Audience.Proofs.Catalog.FullNames
