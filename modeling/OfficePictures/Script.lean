import OfficePictures.Descriptor

/-!
# Script — programs that ask their surroundings

An extraction needs its surroundings: a detector of types, a case, a disk and a job.  A script is a
program that asks them one request after the other and goes on with the answer, whatever it is.
`Script.run` lets a state answer, so a script can be run against any surroundings and be reasoned
about for all of them.
-/

namespace OfficePictures

/-- A picture that the case has taken in. -/
structure DerivedFile where
  id : Nat
  name : String
  casePath : String
  parentId : Nat
  deriving DecidableEq, Repr

/-- Why a case does not answer. -/
structure LookupFault where
  reason : String
  deriving DecidableEq, Repr

def LookupFault.message (fault : LookupFault) : String :=
  "Error consultando el caso: " ++ fault.reason

/-! ## Requests -/

/-- What a script asks for. -/
inductive Request
  /-- The type of a document. -/
  | mimeType (document : Document)
  /-- Whether the case holds files that come from a document. -/
  | hasDerivedFiles (document : Document)
  /-- Whether there is anything at a path. -/
  | pathExists (path : String)
  /-- The content of a document. -/
  | content (document : Document)
  /-- To make a directory and those on its way. -/
  | makeDirectory (path : String)
  /-- To write a file. -/
  | writeFile (path : String) (content : Bytes)
  /-- To take a picture into the case. -/
  | register (descriptor : Descriptor)
  /-- To tell that a document has new files. -/
  | notify (document : Document)
  /-- To have files worked on. -/
  | addToJob (files : List DerivedFile)
  deriving DecidableEq, Repr

/-- What a request is answered with; an answer that may be missing is so if the request fails. -/
@[reducible] def Request.Answer : Request → Type
  | mimeType _ => Option String
  | hasDerivedFiles _ => Except LookupFault Bool
  | pathExists _ => Bool
  | content _ => Option Bytes
  | makeDirectory _ => Bool
  | writeFile _ _ => Bool
  | register _ => Option DerivedFile
  | notify _ => Unit
  | addToJob _ => Unit

/-! ## Scripts -/

/-- A program that asks requests and ends with a value. -/
inductive Script (α : Type) : Type
  | done (value : α)
  | ask (request : Request) (next : request.Answer → Script α)

namespace Script

variable {α β σ : Type}

/-- The script that asks one request and ends with the answer. -/
def request (request : Request) : Script request.Answer :=
  ask request done

def andThen : Script α → (α → Script β) → Script β
  | done value, next => next value
  | ask request answered, next => ask request fun answer => (answered answer).andThen next

instance : Monad Script where
  pure := done
  bind := andThen

/-- Runs a script on a state that answers its requests. -/
def run (answer : σ → (request : Request) → request.Answer × σ) : Script α → σ → α × σ
  | done value, state => (value, state)
  | ask request next, state =>
      let (reply, state) := answer state request
      (next reply).run answer state

end Script
end OfficePictures
