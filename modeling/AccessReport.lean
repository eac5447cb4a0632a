import AccessReport.Attachment.Info
import AccessReport.Attachment.Renderer
import AccessReport.Attachment.Rendering
import AccessReport.Bundle.Disk
import AccessReport.Bundle.LazyFile
import AccessReport.Bundle.Manifest
import AccessReport.Bundle.Path
import AccessReport.Bundle.Store
import AccessReport.Bytes
import AccessReport.Calendar.Date
import AccessReport.Calendar.Pattern
import AccessReport.Command.Arguments
import AccessReport.Command.Session
import AccessReport.Compression.Ascii85
import AccessReport.Compression.Bits
import AccessReport.Compression.Deflate
import AccessReport.Compression.Huffman
import AccessReport.Compression.Inflate
import AccessReport.Compression.Lzw
import AccessReport.Compression.RowFilter
import AccessReport.Compression.Zlib
import AccessReport.Content.DateText
import AccessReport.Content.Label
import AccessReport.Content.Listing
import AccessReport.Content.Normal
import AccessReport.Content.Tree
import AccessReport.Document.Embed
import AccessReport.Document.Layout
import AccessReport.Document.Merge
import AccessReport.Document.Page
import AccessReport.Failure
import AccessReport.Geometry.Dimensions
import AccessReport.Geometry.Placement
import AccessReport.Json.Fault
import AccessReport.Json.Position
import AccessReport.Json.Printer
import AccessReport.Json.Reader
import AccessReport.Json.Record
import AccessReport.Json.Value
import AccessReport.Main
import AccessReport.Number.Binary
import AccessReport.Number.Coordinate
import AccessReport.Number.Decimal
import AccessReport.Number.Double
import AccessReport.Number.Single
import AccessReport.Pdf.Copier
import AccessReport.Pdf.CrossReference
import AccessReport.Pdf.Fault
import AccessReport.Pdf.Filter
import AccessReport.Pdf.Loader
import AccessReport.Pdf.Mark
import AccessReport.Pdf.Object
import AccessReport.Pdf.PageBox
import AccessReport.Pdf.PageTree
import AccessReport.Pdf.Saver
import AccessReport.Pdf.Store
import AccessReport.Pdf.Stream
import AccessReport.Pdf.Syntax
import AccessReport.Pdf.Version
import AccessReport.Pdf.Writer
import AccessReport.Picture.Bmp
import AccessReport.Picture.Decode
import AccessReport.Picture.Farbfeld
import AccessReport.Picture.Fault
import AccessReport.Picture.Gif
import AccessReport.Picture.Icon
import AccessReport.Picture.Jpeg
import AccessReport.Picture.Jpeg.Block
import AccessReport.Picture.Jpeg.Color
import AccessReport.Picture.Jpeg.Frame
import AccessReport.Picture.Jpeg.Wave
import AccessReport.Picture.Netpbm
import AccessReport.Picture.Png
import AccessReport.Picture.Qoi
import AccessReport.Picture.Raster
import AccessReport.Picture.Source
import AccessReport.Picture.Tiff
import AccessReport.Picture.Webp
import AccessReport.Picture.Webp.Lossless
import AccessReport.Picture.Webp.Pixel
import AccessReport.Registry
import AccessReport.Report.Assembly
import AccessReport.Report.FrontMatter
import AccessReport.Report.Options
import AccessReport.Report.PageSize
import AccessReport.Report.Request
import AccessReport.Report.Stage
import AccessReport.Report.Subject
import AccessReport.Report.Template
import AccessReport.Text.Blank
import AccessReport.Text.Case
import AccessReport.Text.Case.Table
import AccessReport.Text.Composition
import AccessReport.Text.Composition.Table
import AccessReport.Text.Measure
import AccessReport.Text.Quoted
import AccessReport.Text.Quoted.Table
import AccessReport.Text.Replace
import AccessReport.Text.Utf8
import AccessReport.Text.WinAnsi
import AccessReport.Text.Wrap
import AccessReport.Proofs.Dictionary
import AccessReport.Proofs.Store
import AccessReport.Proofs.Reach
import AccessReport.Proofs.Copier
import AccessReport.Proofs.Assembly
import AccessReport.Proofs.ColumnWidth
import AccessReport.Proofs.ContentsNumbers
import AccessReport.Proofs.ContentsPasses
import AccessReport.Proofs.SectionFiles
import AccessReport.Proofs.CaseMapping
import AccessReport.Proofs.KeyWords
import AccessReport.Proofs.Labels
import AccessReport.Proofs.DateDisplay
import AccessReport.Proofs.NormalForm
import AccessReport.Proofs.Quiet
import AccessReport.Proofs.FilePaths
import AccessReport.Proofs.FileWriting
import AccessReport.Proofs.Batch
import AccessReport.Proofs.Copies
import AccessReport.Proofs.DepthFirst
import AccessReport.Proofs.Export
import AccessReport.Proofs.Leaves
import AccessReport.Proofs.Editing
import AccessReport.Proofs.Splicing
import AccessReport.Proofs.Building
import AccessReport.Proofs.Inheritance
import AccessReport.Proofs.Embedding
import AccessReport.Proofs.Steps
import AccessReport.Proofs.Drawings
import AccessReport.Proofs.Atomicity
import AccessReport.Proofs.Items
import AccessReport.Proofs.FirstFailure
import AccessReport.Proofs.Exact
import AccessReport.Proofs.Filling
import AccessReport.Proofs.Spacing
import AccessReport.Proofs.Baselines
import AccessReport.Proofs.Headings
import AccessReport.Proofs.LineLength
import AccessReport.Proofs.Outline
import AccessReport.Proofs.Printing
import AccessReport.Proofs.Flowing
import AccessReport.Proofs.RightMargin
import AccessReport.Proofs.Comparing
import AccessReport.Proofs.Validation
import AccessReport.Proofs.Fitting
import AccessReport.Proofs.Reading
import AccessReport.Proofs.DisplayedYear
import AccessReport.Proofs.Spelling
import AccessReport.Proofs.PageBoxes
import AccessReport.Proofs.LazyReading
import AccessReport.Proofs.FileHeader
import AccessReport.Proofs.Registering
import AccessReport.Proofs.ScalarTexts
import AccessReport.Proofs.RecordTexts
import AccessReport.Proofs.RoundTrips
