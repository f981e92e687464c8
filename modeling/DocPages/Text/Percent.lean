import DocPages.Text.Lines

/-!
# Percent-encoding

A text is taken as its UTF-8 bytes. Bytes of the characters to keep stand for themselves, and every other
byte is written as a percent sign and two hexadecimal digits.
-/

namespace DocPages.Text

def hexDigit (n : Nat) : Char :=
  if n < 10 then Char.ofNat (48 + n) else Char.ofNat (55 + n)

/-- A byte as a percent sign and two digits. -/
def percentByte (b : UInt8) : List Char :=
  ['%', hexDigit (b.toNat / 16), hexDigit (b.toNat % 16)]

/-- Encodes all characters but those to keep. -/
def percentEncode (keep : Char → Bool) (cs : List Char) : List Char :=
  cs.flatMap fun c => if keep c then [c] else (String.utf8EncodeChar c).flatMap percentByte

end DocPages.Text
