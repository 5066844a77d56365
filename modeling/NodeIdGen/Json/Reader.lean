import NodeIdGen.Json.Fault

/-!
# Reading JSON

Texts are read from left to right, so that the first thing wrong is the one reported. A text is a
list of characters with `none` for a byte that belongs to no character. Arrays and objects are
walked by `elements` and `members`, which take what to do with each part; reading into a value and
reading straight into a structure both use them. A value is read to a bounded depth, and `skip`
passes over a value of any depth.
-/

namespace NodeIdGen.Json

/-- The characters of a text; `none` is a byte that belongs to no character. -/
abbrev Symbols := List (Option Char)

/-- A reader of a text from left to right. -/
abbrev Reader := StateT Symbols (Except Fault)

/-- How deep arrays and objects may be nested. -/
def depthLimit : Nat := 128

namespace Reader

variable {α σ : Type}

/-- Stops because of the text. -/
def bad (f : SyntaxFault) : Reader α :=
  throw (.text f)

/-- Stops because of a value. -/
def refuse (f : DataFault) : Reader α :=
  throw (.data f)

/-- White space between tokens. -/
def isSpace : Option Char → Bool
  | some c => c == ' ' || c == '\n' || c == '\t' || c == '\r'
  | none => false

/-- What follows the white space, without moving behind it. -/
def peek : Reader Symbols := do
  modify (·.dropWhile isSpace)
  get

/-- Moves behind the next symbol. -/
def skipOne : Reader Unit :=
  modify (·.drop 1)

/-- The rest of a word whose first letter was read. -/
def wordRest : List Char → Reader Unit
  | [] => return
  | c :: cs => do
    match ← get with
    | [] => bad .endInValue
    | s :: rest =>
      if s = some c then
        set rest
        wordRest cs
      else
        bad .noWord

/-! ## Strings -/

def hexValue? (c : Char) : Option Nat :=
  if '0' ≤ c ∧ c ≤ '9' then some (c.toNat - '0'.toNat)
  else if 'a' ≤ c ∧ c ≤ 'f' then some (c.toNat - 'a'.toNat + 10)
  else if 'A' ≤ c ∧ c ≤ 'F' then some (c.toNat - 'A'.toNat + 10)
  else none

/-- The bytes that a symbol takes. -/
def byteSize : Option Char → Nat
  | some c => c.utf8Size
  | none => 1

def byteLength (cs : Symbols) : Nat :=
  cs.foldl (fun n s => n + byteSize s) 0

/-- The four digits of an escape. -/
def fourDigits : Reader Nat := do
  let cs ← get
  let digits := (cs.take 4).filterMap fun s => s.bind hexValue?
  if digits.length = 4 then
    set (cs.drop 4)
    return digits.foldl (fun n d => 16 * n + d) 0
  else if 4 ≤ byteLength (cs.take 4) then
    bad .badEscape
  else
    bad .endInString

/-- The character that an escape of one letter stands for. -/
def shortEscape? : Char → Option Char
  | '"' => some '"'
  | '\\' => some '\\'
  | '/' => some '/'
  | 'b' => some '\x08'
  | 'f' => some '\x0c'
  | 'n' => some '\n'
  | 'r' => some '\r'
  | 't' => some '\t'
  | _ => none

/-- A symbol that has to follow the first half of a surrogate pair. -/
def pairMark (c : Char) : Reader Unit := do
  match ← get with
  | [] => bad .endInString
  | s :: rest => if s = some c then set rest else bad .endInEscape

/-- The character that a numeric escape stands for; one beyond 16 bits is written by two. -/
def numericEscape : Reader Char := do
  let high ← fourDigits
  if 0xdc00 ≤ high ∧ high ≤ 0xdfff then
    bad .loneSurrogate
  else if 0xd800 ≤ high ∧ high ≤ 0xdbff then
    pairMark '\\'
    pairMark 'u'
    let low ← fourDigits
    if 0xdc00 ≤ low ∧ low ≤ 0xdfff then
      return Char.ofNat ((high - 0xd800) * 0x400 + (low - 0xdc00) + 0x10000)
    else
      bad .loneSurrogate
  else
    return Char.ofNat high

/-- An escape behind its backslash. -/
def escape : Reader Char := do
  match ← get with
  | [] => bad .endInString
  | s :: rest =>
    match s.bind shortEscape? with
    | some c =>
      set rest
      return c
    | none =>
      if s = some 'u' then
        set rest
        numericEscape
      else
        bad .badEscape

/-- An escape behind its backslash, passed over without asking what it stands for. -/
def skipEscape : Reader Unit := do
  match ← get with
  | [] => bad .endInString
  | s :: rest =>
    set rest
    if (s.bind shortEscape?).isNone then
      if s = some 'u' then
        discard fourDigits
      else
        bad .badEscape

/-- The characters of a string up to its closing quote; the last argument holds those read already,
last first. -/
def stringRest : Nat → Symbols → Reader Symbols
  | 0, _ => bad .endInString
  | n + 1, before => do
    match ← get with
    | [] => bad .endInString
    | s :: rest =>
      set rest
      if s = some '"' then
        return before.reverse
      else if s = some '\\' then
        let c ← escape
        stringRest n (some c :: before)
      else if s.any (·.toNat < 0x20) then
        bad .controlCharacter
      else
        stringRest n (s :: before)

/-- A string behind its opening quote. -/
def string : Reader String := do
  let cs ← stringRest ((← get).length + 1) []
  if cs.all Option.isSome then
    return String.ofList (cs.filterMap id)
  else
    bad .notUnicode

/-- Passes over a string behind its opening quote. -/
def skipString : Nat → Reader Unit
  | 0 => bad .endInString
  | n + 1 => do
    match ← get with
    | [] => bad .endInString
    | s :: rest =>
      set rest
      if s = some '"' then
        return
      else if s = some '\\' then
        skipEscape
        skipString n
      else if s.any (·.toNat < 0x20) then
        bad .controlCharacter
      else
        skipString n

/-! ## Numbers

A number is read into a 64-bit significand and a power of ten. Digits that no longer fit are counted
for the power alone, and the double is made by one multiplication or a few divisions.
-/

/-- The greatest whole number of 64 bits. -/
def maxWhole : Nat := UInt64.size - 1

/-- How far whole numbers of 64 bits go below zero. -/
def maxBelow : Nat := UInt64.size / 2

/-- The greatest exponent that is taken as it is. -/
def maxExponent : Nat := UInt32.size / 2 - 1

/-- The value of a decimal digit. -/
def digit? (s : Option Char) : Option Nat :=
  s.bind fun c => if c.isDigit then some (c.toNat - '0'.toNat) else none

/-- The digits in front, passed over; the result tells how many. -/
def skipDigits : Reader Nat := do
  let cs ← get
  let digits := cs.takeWhile fun s => (digit? s).isSome
  set (cs.drop digits.length)
  return digits.length

/-- The digits in front that still fit behind a significand: the longer significand and how many
there were. -/
def takeDigits (significand count : Nat) : Symbols → Nat × Nat × Symbols
  | [] => (significand, count, [])
  | s :: rest =>
    match digit? s with
    | none => (significand, count, s :: rest)
    | some d =>
      if maxWhole < 10 * significand + d then (significand, count, s :: rest)
      else takeDigits (10 * significand + d) (count + 1) rest

def atDigit : Symbols → Bool
  | s :: _ => (digit? s).isSome
  | [] => false

def atChar (c : Char) : Symbols → Bool
  | s :: _ => s = some c
  | [] => false

/-- Divides by powers of ten, of which 308 is the greatest. -/
def scaleDown : Nat → Float → Nat → Float
  | 0, f, _ => f
  | n + 1, f, power =>
    if power ≤ 308 then f / Float.ofScientific 1 false power
    else if f == 0 then f
    else scaleDown n (f / Float.ofScientific 1 false 308) (power - 308)

/-- The double for a significand and a power of ten. -/
def double (negative : Bool) (significand : Nat) (power : Int) : Reader Number := do
  let f := significand.toUInt64.toFloat
  let f ←
    if power < 0 then
      pure (scaleDown (power.natAbs / 308 + 1) f power.natAbs)
    else if power ≤ 308 then
      let f := f * Float.ofScientific 1 false power.toNat
      if f.isInf then bad .numberTooLarge else pure f
    else if f == 0 then
      pure f
    else
      bad .numberTooLarge
  return .double (if negative then -f else f).toBits

/-- The digits in front as a number. -/
def digitsValue : Reader Nat := do
  let cs ← get
  let digits := (cs.takeWhile fun s => (digit? s).isSome).filterMap digit?
  set (cs.drop digits.length)
  return digits.foldl (fun n d => 10 * n + d) 0

/-- The exponent of a number from its `e` on. -/
def exponentRest (negative : Bool) (significand : Nat) (power : Int) : Reader Number := do
  skipOne
  let cs ← get
  let down := atChar '-' cs
  if down || atChar '+' cs then
    skipOne
  let cs ← get
  if cs.isEmpty then
    bad .endInValue
  else if !atDigit cs then
    bad .badNumber
  else
    let e ← digitsValue
    if maxExponent < e then
      if significand ≠ 0 && !down then
        bad .numberTooLarge
      else
        return .double (if negative then (-0.0 : Float) else 0.0).toBits
    else
      double negative significand (if down then power - e else power + e)

/-- What may follow the digits of a number: an exponent. -/
def exponent? (negative : Bool) (significand : Nat) (power : Int) : Reader Number := do
  let cs ← get
  if atChar 'e' cs || atChar 'E' cs then
    exponentRest negative significand power
  else
    double negative significand power

/-- The fraction of a number from its point on. -/
def fractionRest (negative : Bool) (significand : Nat) (power : Int) : Reader Number := do
  skipOne
  let (significand, count, rest) := takeDigits significand 0 (← get)
  set rest
  if atDigit rest then
    discard skipDigits
    exponent? negative significand (power - count)
  else if count = 0 then
    bad (if rest.isEmpty then .endInValue else .badNumber)
  else
    exponent? negative significand (power - count)

/-- A number behind its minus sign, if it has one. -/
def number (negative : Bool) : Reader Number := do
  let cs ← get
  if cs.isEmpty then
    bad .endInValue
  else if !atDigit cs then
    bad .badNumber
  else if atChar '0' cs && atDigit (cs.drop 1) then
    bad .badNumber
  else
    let (significand, _, rest) := takeDigits 0 0 cs
    set rest
    let further ← skipDigits
    let cs ← get
    if atChar '.' cs then
      fractionRest negative significand further
    else if atChar 'e' cs || atChar 'E' cs then
      exponentRest negative significand further
    else if 0 < further then
      double negative significand further
    else if !negative then
      return .natural significand
    else if significand = 0 || maxBelow < significand then
      return .double (-(significand.toUInt64.toFloat)).toBits
    else
      return .negative significand

/-- Passes over an exponent from its `e` on. -/
def skipExponent : Reader Unit := do
  skipOne
  let cs ← get
  if atChar '+' cs || atChar '-' cs then
    skipOne
  if (← skipDigits) = 0 then
    bad .badNumber

/-- Passes over a number behind its minus sign, if it has one. -/
def skipNumber : Reader Unit := do
  let cs ← get
  if !atDigit cs then
    bad .badNumber
  else if atChar '0' cs && atDigit (cs.drop 1) then
    bad .badNumber
  else
    discard skipDigits
    if atChar '.' (← get) then
      skipOne
      if (← skipDigits) = 0 then
        bad .badNumber
    let cs ← get
    if atChar 'e' cs || atChar 'E' cs then
      skipExponent

/-! ## Arrays and objects -/

/-- Whether another item follows; `first` if none was read yet. -/
def nextItem (first : Bool) : Reader Bool := do
  match ← peek with
  | [] => bad .endInArray
  | s :: rest =>
    if s = some ']' then
      return false
    else if first then
      return true
    else if s = some ',' then
      set rest
      match ← peek with
      | [] => bad .endInValue
      | s :: _ => if s = some ']' then bad .commaAtEnd else return true
    else
      bad .noCommaOrBracket

/-- Moves behind the opening quote of a name. -/
def openName (atEnd : SyntaxFault) : Reader Unit := do
  match ← peek with
  | [] => bad atEnd
  | s :: rest => if s = some '"' then set rest else bad .keyNoString

/-- Whether another member follows, and then its name; `first` if none was read yet. -/
def nextName (first : Bool) : Reader (Option String) := do
  match ← peek with
  | [] => bad .endInObject
  | s :: rest =>
    if s = some '}' then
      return none
    else if first then
      openName .endInObject
      some <$> string
    else if s = some ',' then
      set rest
      if atChar '}' (← peek) then
        bad .commaAtEnd
      openName .endInValue
      some <$> string
    else
      bad .noCommaOrBrace

def colon : Reader Unit := do
  match ← peek with
  | [] => bad .endInObject
  | s :: rest => if s = some ':' then set rest else bad .noColon

/-- The closing bracket behind the items that are wanted. -/
def endItems : Reader Unit := do
  match ← peek with
  | [] => bad .endInArray
  | s :: rest =>
    if s = some ']' then
      set rest
    else if s = some ',' then
      set rest
      bad (if atChar ']' (← peek) then .commaAtEnd else .surplus)
    else
      bad .surplus

/-- All items up to the closing bracket, each read by `item`. -/
def itemRounds (item : Reader α) : Nat → Bool → Reader (List α)
  | 0, _ => bad .endInArray
  | n + 1, first => do
    if ← nextItem first then
      let a ← item
      return a :: (← itemRounds item n false)
    else
      return []

/-- The items of an array behind its opening bracket, and the closing one. -/
def items (item : Reader α) : Reader (List α) := do
  let all ← itemRounds item ((← get).length + 1) true
  endItems
  return all

/-- All members up to the closing brace; `member` is told the name, and reads the colon and the
value. -/
def memberRounds (member : σ → String → Reader σ) : Nat → Bool → σ → Reader σ
  | 0, _, _ => bad .endInObject
  | n + 1, first, s => do
    match ← nextName first with
    | some name => memberRounds member n false (← member s name)
    | none => return s

/-- The members of an object behind its opening brace, and the closing one. -/
def members (member : σ → String → Reader σ) (s : σ) : Reader σ := do
  let s ← memberRounds member ((← get).length + 1) true s
  skipOne
  return s

/-! ## Values -/

/-- A value that is neither an array nor an object. -/
def scalar (s : Option Char) : Reader Json := do
  if s = some 'n' then
    skipOne
    wordRest ['u', 'l', 'l']
    return .null
  else if s = some 't' then
    skipOne
    wordRest ['r', 'u', 'e']
    return .bool true
  else if s = some 'f' then
    skipOne
    wordRest ['a', 'l', 's', 'e']
    return .bool false
  else if s = some '-' then
    skipOne
    .number <$> number true
  else if (digit? s).isSome then
    .number <$> number false
  else if s = some '"' then
    skipOne
    .string <$> string
  else
    bad .noValue

/-- Any value, nested less than so deep. -/
def value : Nat → Reader Json
  | 0 => bad .tooDeep
  | depth + 1 => do
    match ← peek with
    | [] => bad .endInValue
    | s :: rest =>
      if s = some '[' then
        if depth = 0 then
          bad .tooDeep
        else
          set rest
          .array <$> items (value depth)
      else if s = some '{' then
        if depth = 0 then
          bad .tooDeep
        else
          set rest
          let ms ← members (fun (ms : List (String × Json)) name => do
            colon
            return (name, ← value depth) :: ms) []
          return .object ms.reverse
      else
        scalar s

/-! ## Passing over a value -/

/-- Passes over the name and the colon of a member. -/
def skipName : Reader Unit := do
  openName .endInObject
  skipString ((← get).length + 1)
  colon

/-- Closes as many of the open brackets as end here; then the next value of the innermost one that
is still open follows, unless none is. `fresh` if nothing was read in the innermost one yet. -/
def closeOpen : List Char → Bool → Reader (List Char)
  | [], _ => return []
  | o :: outer, fresh => do
    match ← peek with
    | [] => bad (if o = '[' then .endInArray else .endInObject)
    | s :: rest =>
      if s = some ',' && !fresh then
        set rest
        return o :: outer
      else if s = some (if o = '[' then ']' else '}') then
        set rest
        closeOpen outer false
      else if fresh then
        return o :: outer
      else
        bad (if o = '[' then .noCommaOrBracket else .noCommaOrBrace)

/-- Passes over values until no bracket is open. -/
def skipRounds : Nat → List Char → Reader Unit
  | 0, _ => bad .endInValue
  | n + 1, stack => do
    match ← peek with
    | [] => bad .endInValue
    | s :: rest =>
      let remaining ←
        if s = some '[' then do
          set rest
          closeOpen ('[' :: stack) true
        else if s = some '{' then do
          set rest
          closeOpen ('{' :: stack) true
        else do
          if s = some '-' then
            set rest
            skipNumber
          else if (digit? s).isSome then
            skipNumber
          else if s = some '"' then
            set rest
            skipString (rest.length + 1)
          else
            discard (scalar s)
          closeOpen stack false
      match remaining with
      | [] => return
      | o :: _ =>
        if o = '{' then
          skipName
        skipRounds n remaining

/-- Passes over a value, however deep it is nested. -/
def skip : Reader Unit := do
  skipRounds ((← get).length + 1) []

/-! ## Parts of structures -/

/-- Stops because another value stands where `expected` is wanted. -/
def wrongType (expected : String) : Reader α := do
  match ← peek with
  | [] => bad .endInValue
  | s :: _ =>
    if s = some '[' then
      refuse (.invalidType .array expected)
    else if s = some '{' then
      refuse (.invalidType .object expected)
    else
      refuse (.invalidType (← scalar s).found expected)

/-- A string, or what `expected` says. -/
def stringFor (expected : String) : Reader String := do
  match ← peek with
  | [] => bad .endInValue
  | s :: rest =>
    if s = some '"' then
      set rest
      string
    else
      wrongType expected

def text : Reader String :=
  stringFor "a string"

def optionalText : Reader (Option String) := do
  match ← peek with
  | [] => bad .endInValue
  | s :: _ =>
    if s = some 'n' then
      discard (scalar s)
      return none
    else
      some <$> text

/-- An array, each item read by `item`; it may be nested less than so deep. -/
def sequence (depth : Nat) (item : Nat → Reader α) : Reader (List α) := do
  match ← peek with
  | [] => bad .endInValue
  | s :: rest =>
    if s = some '[' then
      if depth ≤ 1 then
        bad .tooDeep
      else
        set rest
        items (item (depth - 1))
    else
      wrongType "a sequence"

/-- A structure, read by `fromItems` if it is an array and by `fromMembers` if it is an object, both
behind the opening bracket and up to the closing one. -/
def structured (depth : Nat) (expected : String) (fromItems fromMembers : Nat → Reader α) :
    Reader α := do
  match ← peek with
  | [] => bad .endInValue
  | s :: rest =>
    if s = some '[' then
      if depth ≤ 1 then
        bad .tooDeep
      else
        set rest
        let a ← fromItems (depth - 1)
        endItems
        return a
    else if s = some '{' then
      if depth ≤ 1 then
        bad .tooDeep
      else
        set rest
        fromMembers (depth - 1)
    else
      wrongType expected

/-- The next item of a structure given as an array, if there is one. -/
def item? (first : Bool) (item : Reader α) : Reader (Option α) := do
  if ← nextItem first then
    some <$> item
  else
    return none

/-- A whole text, on which nothing may follow. -/
def run (r : Reader α) (text : Symbols) : Except Fault α := do
  let (a, rest) ← StateT.run r text
  if (rest.dropWhile isSpace).isEmpty then
    return a
  else
    throw (.text .surplus)

end Reader

def parse (text : Symbols) : Except Fault Json :=
  Reader.run (Reader.value depthLimit) text

/-- The symbols of a text that is all characters. -/
def symbols (text : String) : Symbols :=
  text.toList.map some

end NodeIdGen.Json
