import Mathlib.Algebra.Group.Nat.Defs
import OfficePictures.Proofs.Container
import OfficePictures.Proofs.Container.Crash

/-!
# Streams — binary documents as streams

A binary document is a compound file, and a library gives access to its streams.  Nothing but these
streams is looked at, so that what is said of the readers is said for whatever streams the library
comes up with, whether there is a file that holds them or not.

* `Streams` — what the library gives access to;
* `BinaryFormat.pictures_eq` — the pictures of a document are those in the streams of its file;
* `BinaryFormat.avoids_picturesIn` — and a crash is none of the faults that are found in them.
-/

namespace OfficePictures

open Compound Result

/-! ## Streams -/

/-- What a library for compound files gives access to. -/
structure Streams where
  has : String → Bool
  read : String → Except Fault Bytes

namespace Streams

def ofFile (file : File) (limits : Limits) : Streams :=
  ⟨file.hasStream, file.readStream limits⟩

def readIfPresent (streams : Streams) (name : String) : Except Fault (Option Bytes) :=
  if streams.has name then (streams.read name).map some else .ok none

/-- Whatever is read is shorter than a quarter of the greatest word. -/
def AreSmall (streams : Streams) : Prop :=
  ∀ name bytes, streams.read name = .ok bytes → bytes.length < 2 ^ 62

/-- The library itself does not crash. -/
def AreCalm (streams : Streams) : Prop :=
  ∀ name, Avoids .crashed (streams.read name)

variable {streams : Streams}

theorem AreSmall.length_lt (h : streams.AreSmall) {name : String} {bytes : Bytes}
    (hread : streams.readIfPresent name = .ok (some bytes)) : bytes.length < 2 ^ 62 := by
  unfold readIfPresent at hread
  split at hread
  · rcases exists_of_map hread with ⟨found, hfound, heq⟩
    cases heq
    exact h name bytes hfound
  · cases hread

theorem AreCalm.readIfPresent (h : streams.AreCalm) (name : String) :
    Avoids .crashed (streams.readIfPresent name) := by
  unfold Streams.readIfPresent
  exact .ite ((h name).map some) (.ok none)

/-- Limits that are small keep streams small. -/
theorem AreSmall.ofFile (file : File) {limits : Limits} (h : limits.maxStreamBytes < 2 ^ 62) :
    (Streams.ofFile file limits).AreSmall := by
  intro name bytes hread
  exact Nat.lt_of_le_of_lt (File.length_readStream_le hread) h

theorem AreCalm.ofFile (file : File) (limits : Limits) : (Streams.ofFile file limits).AreCalm := by
  intro name
  change Avoids .crashed (file.readStream limits name)
  unfold File.readStream
  split
  · exact .error (by simp)
  · refine .ite (.error (by simp)) ?_
    split
    · exact .error (by simp)
    · exact .ok _

end Streams

/-! ## Pictures in streams -/

namespace Word

/-- The pictures of the data stream at the given locations; without a location the stream is not
asked for. -/
def dataPicturesIn (limits : Limits) (streams : Streams) (locations : List UInt32) :
    Except Fault (List Art.Blip) :=
  if locations = [] then
    .ok []
  else do
    match ← streams.readIfPresent "Data" with
    | none => .ok []
    | some data => inlinePictures data locations limits

/-- The pictures of a Word document with the given streams. -/
def picturesIn [Toolkit] (streams : Streams) (limits : Limits) : Except Fault (List Picture) := do
  let stream ← streams.read "WordDocument"
  let fib ← Fib.read stream
  let table ← streams.read fib.tableStream.name
  let stored ← drawingGroupPictures limits fib stream table
  let locations ← inlineLocations fib stream table
  let inlined ← dataPicturesIn limits streams locations
  return (stored ++ inlined).map toPicture

theorem avoids_dataPicturesIn {streams : Streams} (h : streams.AreCalm) (limits : Limits)
    (locations : List UInt32) : Avoids .crashed (dataPicturesIn limits streams locations) := by
  unfold dataPicturesIn
  refine .ite (.ok []) ((h.readIfPresent "Data").bind fun found => ?_)
  cases found with
  | none => exact .ok []
  | some data => exact avoids_inlinePictures data locations limits

theorem avoids_picturesIn [Toolkit] {streams : Streams} (h : streams.AreCalm) (limits : Limits) :
    Avoids .crashed (picturesIn streams limits) := by
  unfold picturesIn
  refine (h "WordDocument").bind fun stream => ?_
  refine (Fib.avoids_read stream).bind fun fib => ?_
  refine (h fib.tableStream.name).bind fun table => ?_
  refine (avoids_drawingGroupPictures limits fib stream table).bind fun stored => ?_
  refine (avoids_inlineLocations fib stream table).bind fun locations => ?_
  exact (avoids_dataPicturesIn h limits locations).bind fun inlined => .ok _

end Word

namespace Slideshow

def requireDocumentIn (streams : Streams) : Except Fault Unit :=
  if streams.has "PowerPoint Document" then .ok ()
  else if streams.has "Header" then .error (.oldFormat .powerPoint95)
  else .error (.notOpened (.streamMissing "PowerPoint Document"))

/-- The pictures of a presentation with the given streams. -/
def picturesIn (streams : Streams) (limits : Limits) : Except Fault (List Picture) := do
  requireDocumentIn streams
  let user ← streams.readIfPresent "Current User"
  requirePlain user
  let stream ← streams.readIfPresent "Pictures"
  storedPictures limits stream

theorem avoids_picturesIn {streams : Streams} (h : streams.AreCalm) (limits : Limits) :
    Avoids .crashed (picturesIn streams limits) := by
  unfold picturesIn requireDocumentIn
  refine Avoids.bind (.ite (.ok ()) (.ite (.error (by simp)) (.error (by simp)))) fun _ => ?_
  refine (h.readIfPresent "Current User").bind fun user => Avoids.bind ?_ fun _ => ?_
  · cases user with
    | none => exact .ok ()
    | some user => exact .ite (.error (by simp)) (.ok ())
  · refine (h.readIfPresent "Pictures").bind fun stream => ?_
    cases stream with
    | none => exact .ok []
    | some stream => exact avoids_streamPictures stream limits

end Slideshow

namespace Workbook

def requireWorkbookIn (streams : Streams) : Except Fault Unit :=
  if !streams.has "Workbook" && streams.has "Book" then .error (.oldFormat .excel5) else .ok ()

/-- The pictures of a workbook with the given streams. -/
def picturesIn [Toolkit] (streams : Streams) (limits : Limits) : Except Fault (List Picture) := do
  requireWorkbookIn streams
  let stream ← streams.read "Workbook"
  streamPictures limits stream

theorem avoids_picturesIn [Toolkit] {streams : Streams} (h : streams.AreCalm) (limits : Limits) :
    Avoids .crashed (picturesIn streams limits) := by
  unfold picturesIn requireWorkbookIn
  refine Avoids.bind (.ite (.error (by simp)) (.ok ())) fun _ => ?_
  exact (h "Workbook").bind fun stream => avoids_streamPictures limits stream

end Workbook

/-- A format whose documents are compound files. -/
inductive BinaryFormat
  | word
  | slideshow
  | workbook
  deriving DecidableEq, Repr

namespace BinaryFormat

def format : BinaryFormat → DocumentFormat
  | word => .doc
  | slideshow => .ppt
  | workbook => .xls

def picturesIn [Toolkit] : BinaryFormat → Streams → Limits → Except Fault (List Picture)
  | word => Word.picturesIn
  | slideshow => Slideshow.picturesIn
  | workbook => Workbook.picturesIn

/-- The pictures of a document are those in the streams of its file. -/
theorem pictures_eq [Toolkit] (binary : BinaryFormat) (content : Bytes) (limits : Limits) :
    Container.pictures binary.format content limits = (do
      let file ← File.ofBytes content
      binary.picturesIn (.ofFile file limits) limits) := by
  cases binary with
  | word => exact Word.pictures_eq content limits
  | slideshow => exact Slideshow.pictures_eq_steps content limits
  | workbook => exact Workbook.pictures_eq content limits

theorem avoids_picturesIn [Toolkit] (binary : BinaryFormat) {streams : Streams}
    (h : streams.AreCalm) (limits : Limits) :
    Avoids .crashed (binary.picturesIn streams limits) := by
  cases binary with
  | word => exact Word.avoids_picturesIn h limits
  | slideshow => exact Slideshow.avoids_picturesIn h limits
  | workbook => exact Workbook.avoids_picturesIn h limits

/-- Whatever is wrong with a binary document, it is not that its reader crashed. -/
theorem avoids_pictures [Toolkit] (binary : BinaryFormat) (content : Bytes) (limits : Limits) :
    Avoids .crashed (Container.pictures binary.format content limits) := by
  have hfile : Avoids .crashed (File.ofBytes content) := by
    unfold File.ofBytes
    split
    · exact .ok _
    · exact .error (by simp)
  rw [binary.pictures_eq]
  exact hfile.bind fun file => binary.avoids_picturesIn (.ofFile file limits) limits

end BinaryFormat

end OfficePictures
