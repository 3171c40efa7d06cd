/-
Texts in quotation marks, as diagnostics show them.

A quoted text is one line of characters that can be seen.  Quotation marks and
backslashes get a backslash, four characters have short names, all others that cannot
be seen on their own are shown by their code points, and bytes that are no text by
their values.
-/
import LineGlob.Text.Utf8
import LineGlob.Text.Visible

namespace LineGlob.Text

/-- How a character stands between quotation marks. -/
def escape (c : Char) : List Char :=
  match c with
  | '\x00' => ['\\', '0']
  | '\t' => ['\\', 't']
  | '\n' => ['\\', 'n']
  | '\r' => ['\\', 'r']
  | '"' => ['\\', '"']
  | '\\' => ['\\', '\\']
  | c => if isVisible c then [c] else ['\\', 'u', '\x7b'] ++ Nat.toDigits 16 c.toNat ++ ['\x7d']

/-- How a byte that is part of no character stands between quotation marks. -/
def escapeByte (b : UInt8) : List Char :=
  let digit (n : Nat) : Char := (Nat.digitChar n).toUpper
  ['\\', 'x', digit (b.toNat / 16), digit (b.toNat % 16)]

/-- A text in quotation marks. -/
def quoted (cs : List Char) : List Char :=
  '"' :: cs.flatMap escape ++ ['"']

/-- Bytes in quotation marks, read as a text as far as they are one. -/
def quotedBytes (bytes : Bytes) : List Char :=
  '"' :: (pieces bytes).flatMap showPiece ++ ['"']
where
  showPiece : Piece → List Char
    | .char c => escape c
    | .broken bs => bs.flatMap escapeByte

end LineGlob.Text
