import EventBroker.Toml.Instant
import EventBroker.Toml.Numeral

/-!
The words of a TOML document: blanks, comments, line ends, strings, keys and plain
values. Every function takes the text that is left and gives what it read with the
text after that, or `none` where the text breaks the grammar.
-/
namespace EventBroker.Toml

abbrev Text := List Char

def isBlank (c : Char) : Bool := c == ' ' || c == '\t'

def skipBlanks (s : Text) : Text := s.dropWhile isBlank

def isControl (c : Char) : Bool := c.toNat < 32 && c != '\t' || c.toNat == 127

def lineEnd? : Text → Option Text
  | '\n' :: rest => some rest
  | '\r' :: '\n' :: rest => some rest
  | _ => none

def comment? : Text → Option Text
  | '#' :: rest =>
    let after := rest.dropWhile fun c => !isControl c
    match after with
    | [] => some []
    | _ => if (lineEnd? after).isSome then some after else none
  | s => some s

def closeLine? (s : Text) : Option Text :=
  match comment? (skipBlanks s) with
  | none => none
  | some [] => some []
  | some after => lineEnd? after

def skipLines : Nat → Text → Option Text
  | 0, s => some s
  | fuel + 1, s =>
    match comment? (skipBlanks s) with
    | none => none
    | some after =>
      match lineEnd? after with
      | some rest => skipLines fuel rest
      | none => some after

def skipAll (s : Text) : Option Text := skipLines s.length s

def codePoint? (n : Nat) (s : Text) : Option (Char × Text) :=
  let digits := s.take n
  if digits.length < n then none
  else
    match digits.mapM hexValue? with
    | none => none
    | some values =>
      let code := values.foldl (fun n v => 16 * n + v) 0
      if code < 0xd800 ∨ 0xe000 ≤ code ∧ code ≤ 0x10ffff then some (Char.ofNat code, s.drop n)
      else none

def escape? : Text → Option (Char × Text)
  | 'b' :: rest => some ('\x08', rest)
  | 't' :: rest => some ('\t', rest)
  | 'n' :: rest => some ('\n', rest)
  | 'f' :: rest => some ('\x0c', rest)
  | 'r' :: rest => some ('\r', rest)
  | '"' :: rest => some ('"', rest)
  | '\\' :: rest => some ('\\', rest)
  | 'u' :: rest => codePoint? 4 rest
  | 'U' :: rest => codePoint? 8 rest
  | _ => none

/-- The rest of a string on one line, closed by `quote`; only double quotes allow escapes. -/
def lineString : Nat → Char → List Char → Text → Option (String × Text)
  | 0, _, _, _ => none
  | _, _, _, [] => none
  | fuel + 1, quote, done, c :: rest =>
    if c = quote then some (String.ofList done.reverse, rest)
    else if c = '\\' ∧ quote = '"' then
      match escape? rest with
      | none => none
      | some (e, rest) => lineString fuel quote (e :: done) rest
    else if isControl c then none
    else lineString fuel quote (c :: done) rest

def skipBreaks : Text → Text
  | [] => []
  | '\r' :: '\n' :: rest => skipBreaks rest
  | c :: rest => if isBlank c || c == '\n' then skipBreaks rest else c :: rest

def foldedLine? (s : Text) : Option Text := (lineEnd? (skipBlanks s)).map skipBreaks

/-- The rest of a string over several lines, closed by three quotes; up to two more quotes
before them belong to the string. -/
def blockString : Nat → Char → List Char → Text → Option (String × Text)
  | 0, _, _, _ => none
  | _, _, _, [] => none
  | fuel + 1, quote, done, c :: rest =>
    if c = quote then
      let quotes := (c :: rest).takeWhile (· == quote)
      if quotes.length < 3 then blockString fuel quote (c :: done) rest
      else if 5 < quotes.length then none
      else
        some (String.ofList ((quotes.drop 3) ++ done).reverse, (c :: rest).drop quotes.length)
    else if c = '\\' ∧ quote = '"' then
      match foldedLine? rest with
      | some rest => blockString fuel quote done rest
      | none =>
        match escape? rest with
        | none => none
        | some (e, rest) => blockString fuel quote (e :: done) rest
    else
      match lineEnd? (c :: rest) with
      | some rest => blockString fuel quote ('\n' :: done) rest
      | none => if isControl c then none else blockString fuel quote (c :: done) rest

def dropFirstBreak (s : Text) : Text := (lineEnd? s).getD s

def quoted? (quote : Char) (s : Text) : Option (String × Text) :=
  match s with
  | a :: b :: rest =>
    if a = quote ∧ b = quote then blockString (rest.length + 1) quote [] (dropFirstBreak rest)
    else lineString (s.length + 1) quote [] s
  | _ => lineString (s.length + 1) quote [] s

def string? : Text → Option (String × Text)
  | '"' :: rest => quoted? '"' rest
  | '\'' :: rest => quoted? '\'' rest
  | _ => none

def isBareKey (c : Char) : Bool := c.isAlphanum || c == '_' || c == '-'

def keyPart? : Text → Option (String × Text)
  | '"' :: rest => lineString (rest.length + 1) '"' [] rest
  | '\'' :: rest => lineString (rest.length + 1) '\'' [] rest
  | s =>
    let name := s.takeWhile isBareKey
    if name.isEmpty then none else some (String.ofList name, s.dropWhile isBareKey)

/-- Keys of as many parts and values nested as deep are refused. -/
def depthLimit : Nat := 80

def keyParts : Nat → List String → Text → Option (List String × Text)
  | 0, _, _ => none
  | fuel + 1, done, s =>
    match keyPart? (skipBlanks s) with
    | none => none
    | some (name, rest) =>
      match skipBlanks rest with
      | '.' :: rest => keyParts fuel (name :: done) rest
      | rest => some ((name :: done).reverse, rest)

def key? (s : Text) : Option (List String × Text) :=
  (keyParts (s.length + 1) [] s).filter fun (parts, _) => parts.length < depthLimit

def isPlainChar (c : Char) : Bool :=
  c.isAlphanum || c == '_' || c == '-' || c == '+' || c == '.' || c == ':'

/-- The end of a plain value; a blank belongs to it between a date and a time. -/
def splitPlain (s : Text) : Text × Text :=
  let word := s.takeWhile isPlainChar
  match s.dropWhile isPlainChar with
  | ' ' :: c :: rest =>
    if (date? word).any (·.2.isEmpty) ∧ c.isDigit then
      let time := (c :: rest).takeWhile isPlainChar
      (word ++ ' ' :: time, (c :: rest).dropWhile isPlainChar)
    else (word, ' ' :: c :: rest)
  | rest => (word, rest)

def plain? (s : Text) : Option (Value × Text) :=
  let (word, rest) := splitPlain s
  let value :=
    if word = "true".toList then some (.boolean true)
    else if word = "false".toList then some (.boolean false)
    else ((integer? word).or (float? word)).or ((instant? word).map Instant.value)
  value.map (·, rest)

end EventBroker.Toml
