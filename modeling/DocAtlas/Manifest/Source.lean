import DocAtlas.Event
import DocAtlas.Json.Reader
import DocAtlas.Manifest
import DocAtlas.Text.Cursor

/-!
# Sources of manifests

This module reads a manifest from the text or the bytes of a file. Bytes have to
be UTF-8 and the text has to be JSON; line ends are made alike before reading.
-/

namespace DocAtlas.Manifest

/-- The manifest that a text holds. -/
def ofText (path : Path) (text : String) : Checked Value :=
  let unified := Text.unifyLineEnds text
  match Json.read unified with
  | .ok value => .ok value
  | .error ⟨.tooManyDigits count, _⟩ => reject (.tooManyDigits (some count))
  | .error refusal => refuse (.manifestUnreadable path (refusal.message unified))

/-- The text that bytes spell. -/
def decode (bytes : ByteArray) : Checked String :=
  match String.fromUTF8? bytes with
  | some text => .ok text
  | none => reject .undecodable

/-- The collection of a manifest, with the steps of loading it noted. -/
def loadNoted (value : Value) : Noted Collection := do
  let draft ← draftOf value
  draft.collection.validate
  Noted.note (.validated draft.collection.size)
  let collection ← draft.link
  Noted.note (.linked collection.classes.length collection.files.length)
  pure collection

/-- The collection of the manifest in a text, with the steps of loading it noted. -/
def loadText (path : Path) (text : String) : Noted Collection := do
  let value ← ofText path text
  Noted.note (.loadedManifest path)
  loadNoted value

end DocAtlas.Manifest
