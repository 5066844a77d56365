import NodeIdGen.Text.Unprintable

/-!
# Quoted text

How messages show a piece of text between double quotes: quotes, backslashes and the usual control
characters get a short escape, every other character without a printed form is written by its code
point, and all else stands for itself.
-/

namespace NodeIdGen.Text

/-- The lower-case hexadecimal digits of a number. -/
def hexDigits (n : Nat) : List Char :=
  Nat.toDigits 16 n

/-- The character has no printed form of its own, or would join the character before it. -/
def isUnprintable (c : Char) : Bool :=
  let n := c.toNat
  n < 0x20 || n == 0x7f ||
    (0x80 ≤ n && (unprintableRanges.holds n || graphemeExtendRanges.holds n))

/-- One character between double quotes. -/
def quotedChar (c : Char) : List Char :=
  match c with
  | '"' => ['\\', '"']
  | '\\' => ['\\', '\\']
  | '\t' => ['\\', 't']
  | '\n' => ['\\', 'n']
  | '\r' => ['\\', 'r']
  | '\x00' => ['\\', '0']
  | c => if isUnprintable c then ['\\', 'u', '{'] ++ hexDigits c.toNat ++ ['}'] else [c]

/-- The text between double quotes. -/
def quoted (s : String) : String :=
  String.ofList ('"' :: (s.toList.flatMap quotedChar ++ ['"']))

end NodeIdGen.Text
