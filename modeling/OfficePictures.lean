import OfficePictures.Archive.Directory
import OfficePictures.Archive.DosTime
import OfficePictures.Archive.EndRecord
import OfficePictures.Archive.Entry
import OfficePictures.Archive.ExtraField
import OfficePictures.Art.Blip
import OfficePictures.Art.BlipStore
import OfficePictures.Art.Record
import OfficePictures.Bytes
import OfficePictures.Case
import OfficePictures.Checksum
import OfficePictures.Compound.Directory
import OfficePictures.Compound.File
import OfficePictures.Compound.Header
import OfficePictures.Compound.Sector
import OfficePictures.Config
import OfficePictures.Container
import OfficePictures.Deflate.BitSource
import OfficePictures.Deflate.Inflate
import OfficePictures.Deflate.PrefixCode
import OfficePictures.Deflate.Zlib
import OfficePictures.Descriptor
import OfficePictures.Digest
import OfficePictures.Digest.Blocks
import OfficePictures.Digest.Md5
import OfficePictures.Digest.Sha256
import OfficePictures.Disk
import OfficePictures.Document
import OfficePictures.DocumentFormat
import OfficePictures.Encoded
import OfficePictures.Extraction
import OfficePictures.Fault
import OfficePictures.FileName
import OfficePictures.Json.Reader
import OfficePictures.Json.Value
import OfficePictures.Limits
import OfficePictures.Package.ContentTypes
import OfficePictures.Package.Contents
import OfficePictures.Package.Document
import OfficePictures.Package.PartName
import OfficePictures.Package.Relationship
import OfficePictures.Package.Target
import OfficePictures.Picture
import OfficePictures.PictureKind
import OfficePictures.Script
import OfficePictures.Signature
import OfficePictures.Sink
import OfficePictures.Slideshow
import OfficePictures.Text.Blank
import OfficePictures.Text.CodePage437
import OfficePictures.Text.Digits
import OfficePictures.Text.LetterCase
import OfficePictures.Text.Lowercase
import OfficePictures.Text.Path
import OfficePictures.Text.Reading
import OfficePictures.Text.Segments
import OfficePictures.Text.Utf16
import OfficePictures.Text.Utf8
import OfficePictures.Toolkit
import OfficePictures.Toolkit.BuiltIn
import OfficePictures.Walk
import OfficePictures.Word.Document
import OfficePictures.Word.Fib
import OfficePictures.Word.FormattedPage
import OfficePictures.Word.InlinePicture
import OfficePictures.Word.PropertyList
import OfficePictures.Workbook
import OfficePictures.Xml.Character
import OfficePictures.Xml.Element
import OfficePictures.Xml.Event
import OfficePictures.Xml.Name
import OfficePictures.Xml.Tree
import OfficePictures.Xml.Value
import OfficePictures.Proofs.Bytes
import OfficePictures.Proofs.Art.BlipStoreLayout
import OfficePictures.Proofs.Script.Log
import OfficePictures.Proofs.Extraction.Course
import OfficePictures.Proofs.Extraction.Session
import OfficePictures.Proofs.FileName.Claim
import OfficePictures.Proofs.FileName.Safe
import OfficePictures.Proofs.FileName.Search
import OfficePictures.Proofs.Config
import OfficePictures.Proofs.Extraction.Files
import OfficePictures.Proofs.Extraction.Effect
import OfficePictures.Proofs.Document
import OfficePictures.Proofs.Descriptor
import OfficePictures.Proofs.Extraction.Once
import OfficePictures.Proofs.Compound.File
import OfficePictures.Proofs.Container
import OfficePictures.Proofs.Result
import OfficePictures.Proofs.Walk
import OfficePictures.Proofs.Limits
import OfficePictures.Proofs.Deflate.Inflated
import OfficePictures.Proofs.Archive.Entry
import OfficePictures.Proofs.Art.Blip
import OfficePictures.Proofs.Art.BlipStore
import OfficePictures.Proofs.Word.InlinePicture
import OfficePictures.Proofs.Word.Document
import OfficePictures.Proofs.Word.Fib
import OfficePictures.Proofs.Slideshow
import OfficePictures.Proofs.Workbook.Document
import OfficePictures.Proofs.Package.Document
import OfficePictures.Proofs.Container.Limits
import OfficePictures.Proofs.Container.PictureLength
import OfficePictures.Proofs.Art.Location
import OfficePictures.Proofs.Word.Location
import OfficePictures.Proofs.Container.Miniature
import OfficePictures.Proofs.Workbook.RecordLayout
import OfficePictures.Proofs.Workbook.DrawingGroup
import OfficePictures.Proofs.Workbook.Cutting
import OfficePictures.Proofs.Art.Stream
import OfficePictures.Proofs.Slideshow.Listing
import OfficePictures.Proofs.Container.Truncation
import OfficePictures.Proofs.Package.PictureParts
import OfficePictures.Proofs.Archive.Miniature
import OfficePictures.Proofs.Package.Miniature
import OfficePictures.Proofs.Package.Spelling
import OfficePictures.Proofs.Encoded
import OfficePictures.Proofs.Sink
import OfficePictures.Proofs.Text.Utf8
import OfficePictures.Proofs.Text.Path
import OfficePictures.Proofs.Extraction.Trace
import OfficePictures.Proofs.Script.Interleaving
import OfficePictures.Proofs.Extraction.Siblings
import OfficePictures.Proofs.Extraction.Apart
import OfficePictures.Proofs.Container.Crash
import OfficePictures.Proofs.Container.Streams
import OfficePictures.Proofs.Machine.Guarded
import OfficePictures.Proofs.Machine.Record
import OfficePictures.Proofs.Machine.Blip
import OfficePictures.Proofs.Machine.BlipStore
import OfficePictures.Proofs.Machine.Fib
import OfficePictures.Proofs.Machine.FormattedPage
import OfficePictures.Proofs.Machine.InlinePicture
import OfficePictures.Proofs.Machine.Slideshow
import OfficePictures.Proofs.Machine.Workbook
import OfficePictures.Proofs.Machine.Document
import OfficePictures.Proofs.Package.Target
import OfficePictures.Proofs.Package.Escapes
import OfficePictures.Proofs.Package.RelationshipParts
import OfficePictures.Proofs.Package.ContentTypes
import OfficePictures.Proofs.Word.PropertyList
import OfficePictures.Proofs.Word.FormattedPage
import OfficePictures.Proofs.Word.OwnBlock
import OfficePictures.Proofs.Art.Tiling
import OfficePictures.Proofs.FileName.Sequential
import OfficePictures.Proofs.Extraction.Numbered
import OfficePictures.Proofs.Sink.FileSystem
import OfficePictures.Proofs.Sink.History
