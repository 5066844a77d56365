import NodeIdGen.Syntax.Identifier
import NodeIdGen.Syntax.Token

/-!
# Literals

Cutting a literal off the front of a text. A quoted literal is described by what may stand in it
(`Quoting`), so that the five quoted forms share one scanner; numbers are cut by a few spans.
Every scanner returns the rest of the text behind the literal and its suffix.
-/

namespace NodeIdGen.Syntax

/-- What a scanner leaves of the text behind the part it recognised. -/
abbrev Scanner := List Char → Option (List Char)

/-! ## Escapes -/

def hexValue? (c : Char) : Option Nat :=
  if '0' ≤ c ∧ c ≤ '9' then some (c.toNat - '0'.toNat)
  else if 'a' ≤ c ∧ c ≤ 'f' then some (c.toNat - 'a'.toNat + 10)
  else if 'A' ≤ c ∧ c ≤ 'F' then some (c.toNat - 'A'.toNat + 10)
  else none

/-- The number is the code point of a character. -/
def isCodePoint (n : Nat) : Bool :=
  n < 0xd800 || (0xdfff < n && n < 0x110000)

/-- Up to six hexadecimal digits, with underscores behind the first, and the closing brace; the
digits read so far number `len` and have the value `value`. -/
def bracedDigits? (len value : Nat) : List Char → Option (Nat × List Char)
  | [] => none
  | c :: cs =>
    match hexValue? c with
    | some d => if len = 6 then none else bracedDigits? (len + 1) (16 * value + d) cs
    | none =>
      if len = 0 then none
      else if c = '_' then bracedDigits? len value cs
      else if c = '}' ∧ isCodePoint value then some (value, cs)
      else none

/-- A code point in braces, as it follows `\u`. -/
def codePoint? : List Char → Option (Nat × List Char)
  | '{' :: cs => bracedDigits? 0 0 cs
  | _ => none

/-- Two hexadecimal digits, as they follow `\x`. -/
def hexPair? : List Char → Option (Nat × List Char)
  | a :: b :: cs =>
    match hexValue? a, hexValue? b with
    | some x, some y => some (16 * x + y, cs)
    | _, _ => none
  | _ => none

/-- The white space that a backslash at the end of a line swallows; something has to follow it. -/
def lineGap? : Scanner
  | ' ' :: cs => lineGap? cs
  | '\t' :: cs => lineGap? cs
  | '\n' :: cs => lineGap? cs
  | '\r' :: '\n' :: cs => lineGap? cs
  | '\r' :: _ => none
  | [] => none
  | cs => some cs

/-- What may stand in a quoted literal: which plain characters, and which escapes. -/
structure Quoting where
  /-- The character stands for itself. -/
  plain : Char → Bool
  /-- One letter that follows a backslash and needs nothing more. -/
  short : Char → Bool
  /-- A value given by `\x`. -/
  pair : Nat → Bool
  /-- A value given by `\u`. -/
  point : Nat → Bool

namespace Quoting

/-- The letters of the short escapes. -/
def letters : List Char := ['n', 'r', 't', '\\', '\'', '"']

/-- Text: any character, and `\x` up to 7f. -/
def text : Quoting where
  plain := fun _ => true
  short := fun c => c = '0' || letters.contains c
  pair := fun n => n < 0x80
  point := fun _ => true

/-- Bytes: plain characters are ASCII, and there is no `\u`. -/
def bytes : Quoting where
  plain := fun c => c.toNat < 0x80
  short := fun c => c = '0' || letters.contains c
  pair := fun _ => true
  point := fun _ => false

/-- Text ended by a zero byte, which therefore cannot stand inside. -/
def zeroEnded : Quoting where
  plain := fun c => c ≠ '\x00'
  short := letters.contains
  pair := fun n => n ≠ 0
  point := fun n => n ≠ 0

/-- An escape without its backslash, line breaks apart. -/
def escape? (q : Quoting) : Scanner
  | [] => none
  | c :: cs =>
    if c = 'x' then
      match hexPair? cs with
      | some (n, rest) => if q.pair n then some rest else none
      | none => none
    else if c = 'u' then
      match codePoint? cs with
      | some (n, rest) => if q.point n then some rest else none
      | none => none
    else if q.short c then some cs
    else none

/-- The inside of a quoted literal and its closing quote. The first argument bounds the steps. -/
def inside? (q : Quoting) : Nat → Scanner
  | 0, _ => none
  | _ + 1, [] => none
  | n + 1, c :: cs =>
    if c = '"' then some cs
    else if c = '\\' then
      let rest :=
        match cs with
        | '\n' :: _ => lineGap? cs
        | '\r' :: _ => lineGap? cs
        | _ => q.escape? cs
      match rest with
      | some rest => q.inside? n rest
      | none => none
    else if c = '\r' then
      match cs with
      | '\n' :: rest => q.inside? n rest
      | _ => none
    else if q.plain c then q.inside? n cs
    else none

/-- The inside of a raw literal, whose closing quote is followed by so many `#`. -/
def rawInside? (q : Quoting) (hashes : Nat) : Scanner
  | [] => none
  | '\r' :: '\n' :: cs => q.rawInside? hashes cs
  | '\r' :: _ => none
  | '"' :: cs =>
    if (cs.take hashes).all (· = '#') ∧ hashes ≤ cs.length then some (cs.drop hashes)
    else q.rawInside? hashes cs
  | c :: cs => if q.plain c then q.rawInside? hashes cs else none

/-- A raw literal from its `#` marks on, of which there are at most 255. -/
def raw? (q : Quoting) : Scanner := fun cs =>
  let hashes := (cs.takeWhile (· = '#')).length
  match cs.dropWhile (· = '#') with
  | '"' :: rest => if hashes ≤ 255 then q.rawInside? hashes rest else none
  | _ => none

end Quoting

/-- Skips the suffix that may be glued to a quoted literal. -/
def afterSuffix (cs : List Char) : List Char :=
  match leadingWord? cs with
  | some (_, rest) => rest
  | none => cs

/-- A quoted or raw literal from its quote, or its `r` mark, on. -/
def quotedLiteral? (q : Quoting) : Scanner
  | '"' :: cs => (q.inside? (cs.length + 1) cs).map afterSuffix
  | 'r' :: cs => (q.raw? cs).map afterSuffix
  | _ => none

/-- One character or escape and the closing quote of a character or byte. -/
def closeQuote? : Scanner
  | '\'' :: cs => some (afterSuffix cs)
  | _ => none

/-- A character literal behind its opening quote. -/
def character? : Scanner
  | '\\' :: cs => (Quoting.text.escape? cs).bind closeQuote?
  | _ :: cs => closeQuote? cs
  | [] => none

/-- A byte literal behind its opening quote. -/
def byte? : Scanner
  | '\\' :: cs => (Quoting.bytes.escape? cs).bind closeQuote?
  | c :: cs => if c.toNat < 0x80 then closeQuote? cs else none
  | [] => none

/-! ## Numbers -/

/-- A decimal digit or an underscore. -/
def isDecimalPart (c : Char) : Bool :=
  c.isDigit || c == '_'

/-- The suffix of a number and the rest behind it; no word may go on there. -/
def numberSuffix? (cs : List Char) : Option (String × List Char) :=
  match leadingWord? cs with
  | some (w, rest) => some (String.ofList w, rest)
  | none =>
    match cs with
    | c :: _ => if isIdentContinue c then none else some ("", cs)
    | [] => some ("", [])

/-- The digits of an exponent, with a sign and underscores, behind its `e`. -/
def exponent? : Scanner := fun cs =>
  let cs := cs.dropWhile (· = '_')
  let cs := match cs with
    | '+' :: rest => rest
    | '-' :: rest => rest
    | _ => cs
  if (cs.takeWhile isDecimalPart).any Char.isDigit then some (cs.dropWhile isDecimalPart) else none

/-- The point of a float and the digits behind it; it is no point if another point or a word
follows. -/
def fraction? : Scanner
  | '.' :: cs =>
    match cs with
    | c :: _ => if c = '.' ∨ isIdentStart c then none else some (cs.dropWhile isDecimalPart)
    | [] => some []
  | _ => none

/-- What may follow the whole part of a float: a fraction, an exponent or both. -/
def floatTail? (cs : List Char) : Option (List Char) :=
  let exponent (cs : List Char) : Option (List Char) :=
    match cs with
    | c :: rest => if c = 'e' ∨ c = 'E' then exponent? rest else none
    | [] => none
  match cs with
  | '.' :: _ =>
    match fraction? cs with
    | some rest => some ((exponent rest).getD rest)
    | none => none
  | _ => exponent cs

/-- A float: digits, then a fraction or an exponent, then a suffix. -/
def float? (cs : List Char) : Option (Literal × List Char) :=
  match cs with
  | [] => none
  | c :: _ =>
    if c.isDigit then
      match (floatTail? (cs.dropWhile isDecimalPart)).bind numberSuffix? with
      | some (_, rest) => some (.float (String.ofList (cs.take (cs.length - rest.length))), rest)
      | none => none
    else none

/-- The base that a number's first two characters announce, and its digits. -/
def numberBase : List Char → Nat × List Char
  | '0' :: 'x' :: cs => (16, cs)
  | '0' :: 'o' :: cs => (8, cs)
  | '0' :: 'b' :: cs => (2, cs)
  | cs => (10, cs)

/-- The character belongs to the digits of a number of the base, right or wrong. -/
def isNumberPart (base : Nat) (c : Char) : Bool :=
  isDecimalPart c || (base == 16 && (hexValue? c).isSome)

/-- The value of digits in a base; underscores do not count. -/
def digitsValue (base : Nat) (cs : List Char) : Nat :=
  cs.foldl (fun v c => match hexValue? c with
    | some d => base * v + d
    | none => v) 0

/-- A whole number: digits of its base, at least one, then a suffix. A decimal number starts with a
digit. -/
def integer? (cs : List Char) : Option (Literal × List Char) :=
  let (base, cs) := numberBase cs
  let digits := cs.takeWhile (isNumberPart base)
  let tooLarge := digits.any fun c => match hexValue? c with
    | some d => base ≤ d
    | none => false
  let leading := base ≠ 10 || digits.head?.any Char.isDigit
  if leading && digits.any (· ≠ '_') && !tooLarge then
    match numberSuffix? (cs.dropWhile (isNumberPart base)) with
    | some (suffix, rest) => some (.integer (digitsValue base digits) suffix, rest)
    | none => none
  else none

/-! ## All literals -/

/-- A literal at the front, and the rest. -/
def literal? (cs : List Char) : Option (Literal × List Char) :=
  let quotedForm : Option (Literal × List Char) :=
    match cs with
    | 'b' :: '\'' :: rest => (byte? rest).map (Literal.byte, ·)
    | 'b' :: rest => (quotedLiteral? .bytes rest).map (Literal.byteString, ·)
    | 'c' :: rest => (quotedLiteral? .zeroEnded rest).map (Literal.cString, ·)
    | '\'' :: rest => (character? rest).map (Literal.character, ·)
    | cs => (quotedLiteral? .text cs).map (Literal.string, ·)
  quotedForm <|> float? cs <|> integer? cs

end NodeIdGen.Syntax
