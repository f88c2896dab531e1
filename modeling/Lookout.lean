import Lookout.Capture.Camera
import Lookout.Capture.Catalog
import Lookout.Capture.Constraints
import Lookout.Capture.Error
import Lookout.Capture.Frame
import Lookout.Capture.Pacer
import Lookout.Capture.Session
import Lookout.Capture.Source
import Lookout.Capture.Source.Http
import Lookout.Capture.Source.Mjpeg
import Lookout.Capture.Source.Synthetic
import Lookout.CommandLine.Dashboard
import Lookout.CommandLine.Grammar
import Lookout.CommandLine.Help
import Lookout.CommandLine.LiveDetection
import Lookout.Config.Basic
import Lookout.Config.Error
import Lookout.Config.File
import Lookout.Decimal.Binary
import Lookout.Decimal.Digits
import Lookout.Detection.Result
import Lookout.Detection.Service
import Lookout.Dialogue
import Lookout.Display.Canvas
import Lookout.Display.Font
import Lookout.Display.Recorder
import Lookout.Display.Region
import Lookout.Display.Renderer
import Lookout.Display.Surface
import Lookout.Fault
import Lookout.Json.Error
import Lookout.Json.Number
import Lookout.Json.Shape
import Lookout.Json.Skip
import Lookout.Json.Token
import Lookout.Json.Writer
import Lookout.Main
import Lookout.Net.Client
import Lookout.Net.Message
import Lookout.Net.Wire
import Lookout.Octets.BigEndian
import Lookout.Picture.Codec
import Lookout.Picture.Jpeg.Reader
import Lookout.Picture.Jpeg.Tables
import Lookout.Picture.Jpeg.Writer
import Lookout.Picture.Pixel
import Lookout.Picture.Png.Checksum
import Lookout.Picture.Png.Deflate
import Lookout.Picture.Png.Reader
import Lookout.Picture.Png.Writer
import Lookout.Picture.PrefixCode
import Lookout.Picture.Raster
import Lookout.Picture.Resample
import Lookout.Pipeline
import Lookout.Poll.Channel
import Lookout.Poll.Fetcher
import Lookout.Poll.Health
import Lookout.Poll.Policy
import Lookout.Poll.Poller
import Lookout.Poll.Turn
import Lookout.Poll.Worker
import Lookout.Proofs.Capture.Calls
import Lookout.Proofs.Capture.Cameras
import Lookout.Proofs.Capture.FirstDevice
import Lookout.Proofs.Capture.Health
import Lookout.Proofs.Capture.MadeUp
import Lookout.Proofs.Capture.Numbering
import Lookout.Proofs.Capture.Pace
import Lookout.Proofs.Capture.PictureScan
import Lookout.Proofs.Capture.Resolution
import Lookout.Proofs.Capture.Scenes
import Lookout.Proofs.Capture.Schedule
import Lookout.Proofs.Capture.Selection
import Lookout.Proofs.Capture.WholeImages
import Lookout.Proofs.CommandLine.Facing
import Lookout.Proofs.CommandLine.Options
import Lookout.Proofs.Config.Layers
import Lookout.Proofs.Decimal.Rounding
import Lookout.Proofs.Decimal.Shortest
import Lookout.Proofs.Detection.MoreThanAsked
import Lookout.Proofs.Detection.WholeAnswer
import Lookout.Proofs.Display.Outlines
import Lookout.Proofs.Display.PictureFit
import Lookout.Proofs.Display.Record
import Lookout.Proofs.Display.Repainting
import Lookout.Proofs.Display.Sizes
import Lookout.Proofs.Display.Strokes
import Lookout.Proofs.Json.Documents
import Lookout.Proofs.Json.Editing
import Lookout.Proofs.Json.Grammar
import Lookout.Proofs.Json.Meaning
import Lookout.Proofs.Json.Numbers
import Lookout.Proofs.Json.Passing
import Lookout.Proofs.Json.Spacing
import Lookout.Proofs.Json.Steps
import Lookout.Proofs.Json.Strings
import Lookout.Proofs.Json.Values
import Lookout.Proofs.Json.Wholes
import Lookout.Proofs.Json.Writing
import Lookout.Proofs.Json.WrittenNumbers
import Lookout.Proofs.Octets.Standing
import Lookout.Proofs.Picture.Painting
import Lookout.Proofs.Picture.PngFile
import Lookout.Proofs.Picture.Resize
import Lookout.Proofs.Picture.StoredBlocks
import Lookout.Proofs.Pipeline.Blocks
import Lookout.Proofs.Pipeline.Chronicle
import Lookout.Proofs.Pipeline.Conduct
import Lookout.Proofs.Pipeline.Course
import Lookout.Proofs.Pipeline.Failure
import Lookout.Proofs.Pipeline.History
import Lookout.Proofs.Pipeline.Independence
import Lookout.Proofs.Pipeline.Journal
import Lookout.Proofs.Pipeline.Lifecycle
import Lookout.Proofs.Pipeline.Likeness
import Lookout.Proofs.Pipeline.Limit
import Lookout.Proofs.Pipeline.Outcomes
import Lookout.Proofs.Pipeline.Oversight
import Lookout.Proofs.Pipeline.Requests
import Lookout.Proofs.Pipeline.SessionClock
import Lookout.Proofs.Pipeline.StandIn
import Lookout.Proofs.Pipeline.SurfaceSize
import Lookout.Proofs.Poll.Announcements
import Lookout.Proofs.Poll.Coherence
import Lookout.Proofs.Poll.Interleaving
import Lookout.Proofs.Poll.Pauses
import Lookout.Proofs.Poll.Selection
import Lookout.Proofs.Poll.Showing
import Lookout.Proofs.Poll.Timetable
import Lookout.Proofs.Poll.Wakeups
import Lookout.Proofs.Results
import Lookout.Proofs.Snapshot.Payload
import Lookout.Proofs.Text.Reading
import Lookout.Proofs.Time.Exact
import Lookout.Proofs.Url.Scheme
import Lookout.Simulation.Replay
import Lookout.Simulation.World
import Lookout.Snapshot.Basic
import Lookout.Snapshot.Format
import Lookout.Text.CharTable
import Lookout.Text.Lowercase
import Lookout.Text.Lowercase.Context
import Lookout.Text.Lowercase.Table
import Lookout.Text.Normal
import Lookout.Text.Normal.Table
import Lookout.Text.Printable
import Lookout.Text.Quoted
import Lookout.Text.Reading
import Lookout.Time.Clock
import Lookout.Time.Moment
import Lookout.Time.Span
import Lookout.Time.StreamClock
import Lookout.Time.SystemClock
import Lookout.Time.Timeline
import Lookout.Url.Basic
import Lookout.Url.Domain
import Lookout.Url.Domain.ClassTable
import Lookout.Url.Domain.Direction
import Lookout.Url.Domain.Joiner
import Lookout.Url.Domain.MappingTable
import Lookout.Url.Domain.Punycode
import Lookout.Url.Error
import Lookout.Url.Ip
import Lookout.Url.Percent
import Lookout.Url.Render
