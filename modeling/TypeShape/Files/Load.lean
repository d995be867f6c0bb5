/-
Reading source files. A file has to be there, not too large, no directory, and free of
syntax errors, in this order.

Its bytes are read as text first. Bytes that are no character become U+FFFD, one for each
longest start of a character that could not be completed.
-/
import TypeShape.Fault
import TypeShape.Files.Tree
import TypeShape.Source.Program

namespace TypeShape

-- ================================================================= bytes

namespace Utf8

/-- The character that stands for what could not be read. -/
def replacement : Char := '\ufffd'

/-- A reader between two bytes: the text so far, reversed, and the character begun: how
many bytes it still needs, its bits so far, and the range of the next byte. -/
structure Reader where
  text : Text
  needed : Nat
  bits : Nat
  least : Nat
  most : Nat

namespace Reader

/-- No character is begun. -/
def between (text : Text) : Reader :=
  { text, needed := 0, bits := 0, least := 0x80, most := 0xBF }

/-- Read the first byte of a character. Some first bytes narrow the range of the second
one: no character is longer than it has to be, lies beyond U+10FFFF or is half a pair. -/
def begin (text : Text) (byte : Nat) : Reader :=
  if byte < 0x80 then between (Char.ofNat byte :: text)
  else if 0xC2 ≤ byte ∧ byte ≤ 0xDF then { between text with needed := 1, bits := byte - 0xC0 }
  else if 0xE0 ≤ byte ∧ byte ≤ 0xEF then
    { text, needed := 2, bits := byte - 0xE0
      least := if byte = 0xE0 then 0xA0 else 0x80
      most := if byte = 0xED then 0x9F else 0xBF }
  else if 0xF0 ≤ byte ∧ byte ≤ 0xF4 then
    { text, needed := 3, bits := byte - 0xF0
      least := if byte = 0xF0 then 0x90 else 0x80
      most := if byte = 0xF4 then 0x8F else 0xBF }
  else between (replacement :: text)

/-- Read a byte. -/
def next (r : Reader) (byte : UInt8) : Reader :=
  let byte := byte.toNat
  match r.needed with
  | 0 => begin r.text byte
  | needed + 1 =>
    if r.least ≤ byte ∧ byte ≤ r.most then
      let bits := r.bits * 64 + (byte - 0x80)
      if needed = 0 then between (Char.ofNat bits :: r.text)
      else { between r.text with needed, bits }
    else begin (replacement :: r.text) byte

/-- The text, at the end of the bytes. -/
def finish (r : Reader) : Text :=
  (if r.needed = 0 then r.text else replacement :: r.text).reverse

end Reader

/-- The text of some bytes. -/
def decode (bytes : List UInt8) : Text :=
  (bytes.foldl Reader.next (.between [])).finish

end Utf8

-- ================================================================= files

namespace FileTree

/-- The declarations of the file at a path, or why there are none. -/
def parse (t : FileTree) (limit : SizeLimit) (path : Text) : Except FileFault ParsedFile :=
  match t.find? path with
  | none => .error .missing
  | some (.directory _) => .error .directory
  | some (.file bytes) =>
    if limit.isExceededBy bytes.length then .error (.tooLarge limit)
    else (Source.parseText (Utf8.decode bytes) path).mapError .unparsable

/-- The declarations of files in order; the first file without any ends it. -/
def load (t : FileTree) (limit : SizeLimit) (paths : List Text) : Except Fault (List ParsedFile) :=
  paths.mapM fun path => (t.parse limit path).mapError (.unreadable path)

end FileTree

end TypeShape
