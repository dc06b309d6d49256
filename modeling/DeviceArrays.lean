import DeviceArrays.Arithmetic
import DeviceArrays.Bytes
import DeviceArrays.Client
import DeviceArrays.Command
import DeviceArrays.ComplexBits
import DeviceArrays.Decimal.Shortest
import DeviceArrays.Decimal.Text
import DeviceArrays.DeviceArray.Basic
import DeviceArrays.DeviceArray.Build
import DeviceArrays.DeviceArray.Fill
import DeviceArrays.DeviceArray.Operand
import DeviceArrays.DeviceArray.Operators
import DeviceArrays.DeviceArray.Transfer
import DeviceArrays.DeviceArray.View
import DeviceArrays.DeviceError
import DeviceArrays.Element
import DeviceArrays.ElementType
import DeviceArrays.Environment
import DeviceArrays.Error
import DeviceArrays.Fault
import DeviceArrays.FloatBits
import DeviceArrays.Grid
import DeviceArrays.Grid.Text
import DeviceArrays.Identifier
import DeviceArrays.IntegerPower
import DeviceArrays.Json.Codec
import DeviceArrays.Json.Token
import DeviceArrays.Json.Value
import DeviceArrays.Kernel.Argument
import DeviceArrays.Kernel.BinaryLaunch
import DeviceArrays.Kernel.Contract
import DeviceArrays.Kernel.Elementwise
import DeviceArrays.Kernel.Library
import DeviceArrays.Logging.Directive
import DeviceArrays.Logging.Field
import DeviceArrays.Logging.Filter
import DeviceArrays.Logging.Settings
import DeviceArrays.Logging.Timing
import DeviceArrays.Memory
import DeviceArrays.Platform
import DeviceArrays.Queue
import DeviceArrays.Scalar
import DeviceArrays.Schedule
import DeviceArrays.Settings
import DeviceArrays.Settings.Environment
import DeviceArrays.Shape
import DeviceArrays.Stream
import DeviceArrays.Text.Alphabetic
import DeviceArrays.Text.Alphanumeric
import DeviceArrays.Text.Blank
import DeviceArrays.Text.Cursor
import DeviceArrays.Text.Natural
import DeviceArrays.Text.Numeric
import DeviceArrays.Text.Pattern
import DeviceArrays.Text.Pattern.Bracket
import DeviceArrays.Text.Pattern.Escape
import DeviceArrays.Text.Pattern.Group
import DeviceArrays.Text.Quoted
import DeviceArrays.Text.Unprintable
import DeviceArrays.Word
import DeviceArrays.World
import DeviceArrays.Proofs.Queue.Drain
import DeviceArrays.Proofs.Queue.Ran
import DeviceArrays.Proofs.Memory.Sizes
import DeviceArrays.Proofs.Kernel.Footprint
import DeviceArrays.Proofs.Kernel.Success
import DeviceArrays.Proofs.Kernel.Target
import DeviceArrays.Proofs.Client.Ledger
import DeviceArrays.Proofs.Client.Discipline
import DeviceArrays.Proofs.Client.Streams
import DeviceArrays.Proofs.Client.Building
import DeviceArrays.Proofs.Client.Operators
import DeviceArrays.Proofs.Client.Confined
import DeviceArrays.Proofs.Program.Request
import DeviceArrays.Proofs.Program.Careful
import DeviceArrays.Proofs.Program.Confined
import DeviceArrays.Proofs.Solo.Commands
import DeviceArrays.Proofs.Solo.World
import DeviceArrays.Proofs.Solo.Keeps
import DeviceArrays.Proofs.Solo.Tracks
import DeviceArrays.Proofs.Solo.Eager
import DeviceArrays.Proofs.Solo.Success
import DeviceArrays.Proofs.Solo.Settled
import DeviceArrays.Proofs.Solo.Frame
import DeviceArrays.Proofs.Several.Queues
import DeviceArrays.Proofs.Several.Custody
import DeviceArrays.Proofs.Several.Accounts
import DeviceArrays.Proofs.Several.Storage
import DeviceArrays.Proofs.Several.Rejections
import DeviceArrays.Proofs.Several.Blocking
import DeviceArrays.Proofs.Grid.Indices
import DeviceArrays.Proofs.Views
import DeviceArrays.Proofs.Solo.Calls
import DeviceArrays.Proofs.Solo.Arrays
import DeviceArrays.Proofs.Solo.Binary
import DeviceArrays.Proofs.Solo.Endings
import DeviceArrays.Proofs.Solo.Results
import DeviceArrays.Proofs.Solo.Slices
import DeviceArrays.Proofs.Solo.RoundTrip
import DeviceArrays.Proofs.Kernel.Lookups
import DeviceArrays.Proofs.Memory.Lifetimes
import DeviceArrays.Proofs.Queue.History
import DeviceArrays.Proofs.Queue.Failures
import DeviceArrays.Proofs.Client.Orderly
import DeviceArrays.Proofs.Program.Orderly
import DeviceArrays.Proofs.Several.Traces
import DeviceArrays.Proofs.Several.Order
import DeviceArrays.Proofs.Several.Asking
import DeviceArrays.Proofs.Several.Failures
import DeviceArrays.Proofs.Several.Devices
import DeviceArrays.Proofs.Kernel.Elements
import DeviceArrays.Proofs.Kernel.Results
import DeviceArrays.Proofs.Kernel.Strides
import DeviceArrays.Proofs.Kernel.Crashes
import DeviceArrays.Proofs.Memory.InPlace
import DeviceArrays.Proofs.Kernel.InPlace
import DeviceArrays.Proofs.Kernel.Locality
import DeviceArrays.Proofs.Change
import DeviceArrays.Proofs.Several.Independent
import DeviceArrays.Proofs.Client.Licences
import DeviceArrays.Proofs.Program.Licences
import DeviceArrays.Proofs.Several.Ensures
import DeviceArrays.Proofs.Several.Lanes
import DeviceArrays.Proofs.Several.Supplies
import DeviceArrays.Proofs.Several.Assigning
import DeviceArrays.Proofs.Several.Slicing
import DeviceArrays.Proofs.Several.Binding
import DeviceArrays.Proofs.Several.Launches
import DeviceArrays.Proofs.Several.Progress
import DeviceArrays.Proofs.Several.Releases
import DeviceArrays.Proofs.Several.Slices
import DeviceArrays.Proofs.Kernel.Arguments
import DeviceArrays.Proofs.Powers
import DeviceArrays.Proofs.Grid.Numbering
import DeviceArrays.Proofs.Memory.Windows
import DeviceArrays.Proofs.Text.Numerals
import DeviceArrays.Proofs.Settings.Environment
import DeviceArrays.Proofs.Json.Grammar
import DeviceArrays.Proofs.Json.Numbers
import DeviceArrays.Proofs.Json.Scanning
import DeviceArrays.Proofs.Json.Reading
import DeviceArrays.Proofs.Json.Writing
import DeviceArrays.Proofs.Json.Forms
import DeviceArrays.Proofs.Logging.Phrases
import DeviceArrays.Proofs.Logging.Deciding
import DeviceArrays.Proofs.Logging.Timings
