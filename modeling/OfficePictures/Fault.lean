import OfficePictures.Text.Digits

/-!
# Fault — why a document gives no pictures

A document is refused as a whole for one cause.  Causes are data; `Fault.message` is the only place
where they are worded.  Where the wording of a cause would go on with the text of a system or a
library, it ends at the colon in front of that text.
-/

namespace OfficePictures

/-- A version that is older than the formats read here. -/
inductive OldVersion
  | word (version : UInt16)
  | excel5
  | workbook (version : UInt16)
  | powerPoint95
  deriving DecidableEq, Repr

/-- Why a record cannot be read. -/
inductive RecordFault
  /-- The header of an art record is cut off. -/
  | headerTruncated
  /-- An art record declares more bytes than are left. -/
  | overrun (recType : UInt16) (declared remaining : Nat)
  | bitmapWithoutData
  | metafileHeaderTruncated
  | storeEntryTruncated
  | delayedOutside
  /-- The compressed data of a metafile cannot be decompressed. -/
  | undecodable
  | workbookRecordTruncated (kind : UInt16)
  /-- The content of an archive entry cannot be read. -/
  | entryDamaged
  deriving DecidableEq, Repr

/-- Why an entry of an archive cannot be read. -/
inductive EntryFault
  /-- The archive does not give access to the entry. -/
  | archive
  | tooLarge (limit : Nat)
  /-- The content of the entry whose header is at `offset` is damaged. -/
  | damaged (offset : Nat)
  /-- The entry declares more bytes than any memory holds. -/
  | unallocatable
  deriving DecidableEq, Repr

/-- The part of a table stream that a Word document points to. -/
inductive TablePart
  | drawingGroup
  | formattedPages
  deriving DecidableEq, Repr

/-- Why a document is not the container that it should be. -/
inductive OpenFault
  | notCompound
  | notArchive
  | streamUnreadable (name : String)
  | streamMissing (name : String)
  | notWord
  | fibTruncated
  | outsideTable (part : TablePart) (stream : String)
  | noBof
  | partMissing (part : String)
  | partUnreadable (part : String) (cause : EntryFault)
  | noMainPart
  | otherMainPart (part type expected : String)
  deriving DecidableEq, Repr

/-- Why a document gives no pictures. -/
inductive Fault
  /-- The document is not the container that it should be. -/
  | notOpened (cause : OpenFault)
  /-- The record at `offset` cannot be read. -/
  | record (offset : Nat) (cause : RecordFault)
  /-- A picture or a stream is larger than `limit` bytes. -/
  | tooLarge (limit : Nat)
  | encrypted
  | oldFormat (version : OldVersion)
  /-- The document itself cannot be read. -/
  | io
  | archive
  | markup
  /-- The reader cannot go on; nothing but this document is affected. -/
  | crashed
  deriving DecidableEq, Repr

/-! ## Wording -/

def OldVersion.message : OldVersion → String
  | word version => "Word nFib " ++ Text.decimal version.toNat
  | excel5 => "Excel 5/95"
  | workbook version => "BIFF versión 0x" ++ Text.hexUpper 4 version.toNat
  | powerPoint95 => "PowerPoint 95"

/-- The wording of a fault while reading compressed or stored data. -/
def readMessage : String := "Error de E/S:"

def tooLargeMessage (limit : Nat) : String :=
  "La imagen supera el límite de " ++ Text.decimal limit ++ " bytes"

def archiveMessage : String := "Error leyendo el paquete ZIP:"

def crashMessage : String := "Fallo interno del analizador:"

/-- The wording of the record that cannot be read, up to the reason. -/
def recordMessage (offset : Nat) : String :=
  "Registro ilegible en el desplazamiento " ++ Text.decimal offset ++ ":"

/-- The wording of a record fault, with a space in front; nothing where a library words it. -/
def RecordFault.message : RecordFault → String
  | headerTruncated => " cabecera OfficeArt truncada"
  | overrun recType declared remaining =>
      " el registro 0x" ++ Text.hexUpper 4 recType.toNat ++ " declara " ++ Text.decimal declared ++
        " bytes y solo quedan " ++ Text.decimal remaining
  | bitmapWithoutData => " BLIP de mapa de bits sin datos"
  | metafileHeaderTruncated => " BLIP de metarchivo con cabecera truncada"
  | storeEntryTruncated => " entrada FBSE truncada"
  | delayedOutside => " BLIP diferido fuera del flujo"
  | undecodable => " " ++ readMessage
  | workbookRecordTruncated kind =>
      " el registro BIFF 0x" ++ Text.hexUpper 4 kind.toNat ++ " está truncado"
  | entryDamaged => ""

def EntryFault.message : EntryFault → String
  | archive => archiveMessage
  | tooLarge limit => tooLargeMessage limit
  | damaged offset => recordMessage offset
  | unallocatable => crashMessage

def TablePart.message : TablePart → String
  | drawingGroup => "el grupo de dibujos"
  | formattedPages => "la tabla PlcBteChpx"

/-- The wording of a container that is not what it should be. -/
def OpenFault.message : OpenFault → String
  | notCompound => "no es un archivo compuesto OLE2:"
  | notArchive => "no es un paquete ZIP válido:"
  | streamUnreadable name => "flujo " ++ name ++ ":"
  | streamMissing name => "falta el flujo " ++ name
  | notWord => "el flujo WordDocument no tiene la firma de Word"
  | fibTruncated => "FIB truncado"
  | outsideTable part stream => part.message ++ " excede el flujo " ++ stream
  | noBof => "el flujo Workbook no empieza con BOF"
  | partMissing part => "falta " ++ part
  | partUnreadable part cause => "no se pudo leer " ++ part ++ ": " ++ cause.message
  | noMainPart => "el paquete no declara un documento principal"
  | otherMainPart part type expected => part ++ " (" ++ type ++ ") no es un " ++ expected

def Fault.message : Fault → String
  | notOpened cause => "No se pudo abrir el contenedor: " ++ cause.message
  | record offset cause => recordMessage offset ++ cause.message
  | tooLarge limit => tooLargeMessage limit
  | encrypted => "El documento está cifrado"
  | oldFormat version => "Formato de documento antiguo no soportado: " ++ version.message
  | io => readMessage
  | archive => archiveMessage
  | markup => "Error leyendo XML del paquete:"
  | crashed => crashMessage

/-! ## Classes of faults -/

/-- Whether the fault concerns one picture that was already found. -/
def Fault.isRecordRead : Fault → Bool
  | record .. | tooLarge .. => true
  | _ => false

/-- The fault of a document one of whose entries cannot be read. -/
def EntryFault.toFault : EntryFault → Fault
  | archive => .archive
  | tooLarge limit => .tooLarge limit
  | damaged offset => .record offset .entryDamaged
  | unallocatable => .crashed

end OfficePictures
