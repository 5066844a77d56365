import NodeIdGen.Json.Basic
import NodeIdGen.Text.Quoted

/-!
# Writing JSON

The compact form: no blanks, members in the order they have. A string escapes its quotes,
backslashes and control characters and nothing else.
-/

namespace NodeIdGen.Json

/-- A character inside a string. -/
def escapedChar (c : Char) : List Char :=
  match c with
  | '"' => ['\\', '"']
  | '\\' => ['\\', '\\']
  | '\x08' => ['\\', 'b']
  | '\t' => ['\\', 't']
  | '\n' => ['\\', 'n']
  | '\x0c' => ['\\', 'f']
  | '\r' => ['\\', 'r']
  | c =>
    if c.toNat < 0x20 then
      let digits := Text.hexDigits c.toNat
      ['\\', 'u'] ++ List.replicate (4 - digits.length) '0' ++ digits
    else [c]

def printString (s : String) : List Char :=
  '"' :: (s.toList.flatMap escapedChar ++ ['"'])

def printNumber : Number → List Char
  | .natural n => Nat.toDigits 10 n
  | .negative n => '-' :: Nat.toDigits 10 n
  | .double bits => (doubleLayout.render bits).toList

mutual

/-- A value in compact form. -/
def print : Json → List Char
  | .null => ['n', 'u', 'l', 'l']
  | .bool true => ['t', 'r', 'u', 'e']
  | .bool false => ['f', 'a', 'l', 's', 'e']
  | .number n => printNumber n
  | .string s => printString s
  | .array [] => ['[', ']']
  | .array (v :: vs) => '[' :: (print v ++ printItems vs)
  | .object [] => ['{', '}']
  | .object ((n, v) :: ms) => '{' :: (printString n ++ ':' :: (print v ++ printMembers ms))

/-- The items behind the first one, and the closing bracket. -/
def printItems : List Json → List Char
  | [] => [']']
  | v :: vs => ',' :: (print v ++ printItems vs)

/-- The members behind the first one, and the closing brace. -/
def printMembers : List (String × Json) → List Char
  | [] => ['}']
  | (n, v) :: ms => ',' :: (printString n ++ ':' :: (print v ++ printMembers ms))

end

/-- A value in compact form, as a text. -/
def render (v : Json) : String :=
  String.ofList v.print

end NodeIdGen.Json
