/-
  What is found under the name of a file.

  A file counts as readable if its bytes are text in UTF-8.
-/

namespace CallAudio

/-- What is found under the name of a file. -/
inductive FileContent where
  /-- Nothing. -/
  | missing
  /-- Something that is not a text. -/
  | unreadable
  /-- A text. -/
  | text (value : String)
deriving DecidableEq, Inhabited

/-- The content of a file of the given bytes. -/
def FileContent.ofBytes (bytes : ByteArray) : FileContent :=
  match String.fromUTF8? bytes with
  | some value => text value
  | none => unreadable

end CallAudio
