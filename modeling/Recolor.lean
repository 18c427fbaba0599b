import Recolor.Cms.Arithmetic
import Recolor.Cms.Engine
import Recolor.CommandLine.Inspection
import Recolor.CommandLine.Invocation
import Recolor.CommandLine.Options
import Recolor.CommandLine.Printout
import Recolor.CommandLine.Run
import Recolor.Config.Coercion
import Recolor.Config.Load
import Recolor.Config.Override
import Recolor.Config.Request
import Recolor.Config.Scatter
import Recolor.Config.Sections
import Recolor.Config.Settings
import Recolor.Config.Validation
import Recolor.Config.Value
import Recolor.Conversion
import Recolor.Failure
import Recolor.Files.Bytes
import Recolor.Files.Pages
import Recolor.Files.Path
import Recolor.Files.Tree
import Recolor.Jpeg.Encoding
import Recolor.Jpeg.Picture
import Recolor.Jpeg.Reader
import Recolor.Jpeg.Scanline
import Recolor.Jpeg.Writer
import Recolor.Lab.Color
import Recolor.Lab.Connection
import Recolor.Lab.Envelope
import Recolor.Lab.Fax
import Recolor.Logging
import Recolor.Main
import Recolor.Marker.Density
import Recolor.Marker.Photoshop
import Recolor.Marker.Segment
import Recolor.Marker.Selection
import Recolor.Numeric.Binary64
import Recolor.Numeric.Calendar
import Recolor.Numeric.Decimal
import Recolor.Numeric.Scalar
import Recolor.Pipeline.Request
import Recolor.Pipeline.Resolve
import Recolor.Pixel.Format
import Recolor.Pixel.Space
import Recolor.Profile.Basic
import Recolor.Profile.Header
import Recolor.Profile.Icc
import Recolor.Profile.Link
import Recolor.Profile.Sampled
import Recolor.Profile.Search
import Recolor.Profile.Virtual
import Recolor.Proofs.Config.Layers
import Recolor.Proofs.Config.Loading
import Recolor.Proofs.Config.RoundTrip
import Recolor.Proofs.Config.Settings
import Recolor.Proofs.Config.Validity
import Recolor.Proofs.Conversion.FaxLabel
import Recolor.Proofs.Conversion.Outcome
import Recolor.Proofs.Conversion.Pixels
import Recolor.Proofs.Conversion.Steps
import Recolor.Proofs.Files.Bytes
import Recolor.Proofs.Files.Elsewhere
import Recolor.Proofs.Files.Path
import Recolor.Proofs.Files.Tree
import Recolor.Proofs.Jpeg.Reading
import Recolor.Proofs.Jpeg.Writing
import Recolor.Proofs.Lab.Arrays
import Recolor.Proofs.Lab.Desaturation
import Recolor.Proofs.Lab.Envelope
import Recolor.Proofs.Lab.FaxCodes
import Recolor.Proofs.Lab.FaxReturn
import Recolor.Proofs.Lab.FaxScale
import Recolor.Proofs.Lab.Rounding
import Recolor.Proofs.Logging.Configuring
import Recolor.Proofs.Logging.Handlers
import Recolor.Proofs.Marker.BlockHead
import Recolor.Proofs.Marker.Recovery
import Recolor.Proofs.Marker.Resources
import Recolor.Proofs.Marker.Segments
import Recolor.Proofs.Marker.Walk
import Recolor.Proofs.Numeric.Bits
import Recolor.Proofs.Numeric.Rational
import Recolor.Proofs.Pipeline.Channels
import Recolor.Proofs.Pipeline.Decisions
import Recolor.Proofs.Pipeline.DeviceLink
import Recolor.Proofs.Pipeline.Frame
import Recolor.Proofs.Pipeline.InstalledDefault
import Recolor.Proofs.Pipeline.LinkRows
import Recolor.Proofs.Pipeline.Mismatch
import Recolor.Proofs.Pipeline.Origin
import Recolor.Proofs.Pipeline.SavedProfile
import Recolor.Proofs.Pixel.Words
import Recolor.Proofs.Profile.FaxTables
import Recolor.Proofs.Profile.FirstInstalled
import Recolor.Proofs.Profile.Installed
import Recolor.Proofs.Profile.LinkLayout
import Recolor.Proofs.Profile.LinkOutcome
import Recolor.Proofs.Profile.Loading
import Recolor.Proofs.Profile.Rising
import Recolor.Proofs.Profile.StraightLink
import Recolor.Proofs.Profile.TagTable
import Recolor.Proofs.Rows.Layout
import Recolor.Proofs.Rows.Nested
import Recolor.Proofs.Rows.Widths
import Recolor.Proofs.Scanline.Calls
import Recolor.Proofs.Scanline.Delivery
import Recolor.Proofs.Scanline.Destination
import Recolor.Proofs.Scanline.Ending
import Recolor.Proofs.Scanline.Handover
import Recolor.Proofs.Scanline.Markers
import Recolor.Proofs.Scanline.WholeRun
import Recolor.Proofs.Table.Curves
import Recolor.Proofs.Table.Depth
import Recolor.Proofs.Table.Enumeration
import Recolor.Proofs.Table.Filling
import Recolor.Proofs.Table.Identity
import Recolor.Proofs.Table.Interpolation
import Recolor.Proofs.Table.Multilinear
import Recolor.Proofs.Table.Nodes
import Recolor.Proofs.Table.RisingCurves
import Recolor.Proofs.Table.Sampling
import Recolor.Proofs.Table.Steps
import Recolor.Proofs.Table.Straight
import Recolor.Proofs.Table.Weights
import Recolor.Proofs.Transform.Pixelwise
import Recolor.Proofs.Transform.Shapes
import Recolor.Proofs.Work.Runs
import Recolor.Proofs.Yaml.Documents
import Recolor.Rows.Layout
import Recolor.Rows.RowOp
import Recolor.Table.Curve
import Recolor.Table.Depth
import Recolor.Table.Grid
import Recolor.Table.Sampler
import Recolor.Text.Alphanumeric
import Recolor.Text.Digits
import Recolor.Text.Hex
import Recolor.Text.Printable
import Recolor.Text.Quoted
import Recolor.Text.Surrogate
import Recolor.Transform.Basic
import Recolor.Transform.Plan
import Recolor.Transform.Settings
import Recolor.World
import Recolor.Yaml.Binary
import Recolor.Yaml.Cursor
import Recolor.Yaml.Document
import Recolor.Yaml.Lexing
import Recolor.Yaml.Merge
import Recolor.Yaml.Node
import Recolor.Yaml.Number
import Recolor.Yaml.Object
import Recolor.Yaml.Plain
import Recolor.Yaml.Scalar
import Recolor.Yaml.Token
import Recolor.Yaml.Tree
import Recolor.Yaml.Unfolding
