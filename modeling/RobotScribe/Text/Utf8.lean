/-
# Text as bytes

Byte sequences that are meant to be UTF-8: cutting them into lines, reading a line as text,
and showing a sequence whose end may be missing.
-/
namespace RobotScribe.Text

/-- The byte that ends a line. -/
def newline : UInt8 := 10

/-- Cuts a byte sequence after each newline.  A last line without a newline counts unless it
is empty. -/
def cutLines : List UInt8 → List (List UInt8)
  | [] => []
  | b :: rest =>
    if b = newline then [b] :: cutLines rest
    else match cutLines rest with
      | [] => [[b]]
      | line :: others => (b :: line) :: others

/-- The text that a byte sequence encodes, if it is valid UTF-8. -/
def decode? (bytes : List UInt8) : Option String := String.fromUTF8? ⟨bytes.toArray⟩

/-- The text of a byte sequence that is UTF-8 up to a cut in its last character.  The bytes of
a cut character are shown as one replacement character. -/
def decodeCut (bytes : ByteArray) : String :=
  let upTo (k : Nat) := String.fromUTF8? (bytes.extract 0 (bytes.size - k))
  match upTo 0 with
  | some text => text
  | none => match ([1, 2, 3].filterMap upTo).head? with
    | some text => text ++ "\uFFFD"
    | none => "\uFFFD"

end RobotScribe.Text
