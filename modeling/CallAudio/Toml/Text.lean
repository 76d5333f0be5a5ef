/-
  Texts, blanks and comments of TOML.

  Every reader takes the characters that are left and returns what it read together with
  what is left then, or `none` if the text is not of its form.

  * `quoted`: the four kinds of text, from the opening quote on;
  * `skipBlanks`, `skipTrivia`: what separates tokens on a line, and in a list;
  * `endOfLine`: what may follow a statement.

  A line break is a line feed, with or without a carriage return in front of it; a text of
  several lines holds line feeds only.  No other control character than the tab may stand
  anywhere.
-/
import CallAudio.Text.Digits

namespace CallAudio.Toml

/-- Whether a character may stand unescaped in a text or a comment. -/
def isPlain (c : Char) : Bool := c = '\t' || (32 ≤ c.toNat && c.toNat != 127)

/-- Whether a character is a blank within a line. -/
def isBlank (c : Char) : Bool := c = ' ' || c = '\t'

/-- Whether a text begins with blanks and then a line break. -/
def endsLine (text : List Char) : Bool :=
  match text.dropWhile isBlank with
  | '\n' :: _ | '\r' :: '\n' :: _ => true
  | _ => false

/-- Skips blanks. -/
def skipBlanks (text : List Char) : List Char := text.dropWhile isBlank

/-- Skips blanks, line breaks and comments; `inComment` says whether the text begins in a
    comment. -/
def skipTriviaFrom : (inComment : Bool) → List Char → List Char
  | _, [] => []
  | _, '\r' :: '\n' :: rest => skipTriviaFrom false rest
  | _, '\n' :: rest => skipTriviaFrom false rest
  | true, c :: rest => if isPlain c then skipTriviaFrom true rest else c :: rest
  | false, c :: rest =>
    if c = '#' then skipTriviaFrom true rest
    else if isBlank c then skipTriviaFrom false rest
    else c :: rest

/-- Skips blanks, line breaks and comments. -/
def skipTrivia (text : List Char) : List Char := skipTriviaFrom false text

/-- Skips a comment, if there is one. -/
def skipComment : List Char → List Char
  | '#' :: rest => rest.dropWhile isPlain
  | text => text

/-- The end of a line, or of the text, after blanks and a comment. -/
def endOfLine (text : List Char) : Option (List Char) :=
  match skipComment (skipBlanks text) with
  | [] => some []
  | '\n' :: rest | '\r' :: '\n' :: rest => some rest
  | _ => none

/-! ## Escapes -/

/-- The character that `\` and a letter stand for. -/
def shortEscape? (c : Char) : Option Char :=
  match c with
  | '\"' => some '\"'
  | '\\' => some '\\'
  | 'b' => some '\x08'
  | 'f' => some '\x0c'
  | 'n' => some '\n'
  | 'r' => some '\r'
  | 't' => some '\t'
  | _ => none

/-- Puts a character in front of a text that was read. -/
def consChar (c : Option Char) (read : Option (List Char × List Char)) :
    Option (List Char × List Char) := do
  let c ← c
  let (text, rest) ← read
  return (c :: text, rest)

/-! ## Texts -/

/-- A text with escapes, up to its closing quote. -/
def basic : List Char → Option (List Char × List Char)
  | [] => none
  | '\"' :: rest => some ([], rest)
  | '\\' :: 'u' :: a :: b :: c :: d :: rest =>
    consChar (Text.codePoint? [a, b, c, d]) (basic rest)
  | '\\' :: 'U' :: a :: b :: c :: d :: e :: f :: g :: h :: rest =>
    consChar (Text.codePoint? [a, b, c, d, e, f, g, h]) (basic rest)
  | '\\' :: c :: rest => consChar (shortEscape? c) (basic rest)
  | c :: rest => if isPlain c then consChar (some c) (basic rest) else none

/-- A text without escapes, up to its closing quote. -/
def literal : List Char → Option (List Char × List Char)
  | [] => none
  | '\'' :: rest => some ([], rest)
  | c :: rest => if isPlain c then consChar (some c) (literal rest) else none

/-- What follows three closing quotes: up to two more quotes belong to the text. -/
def closing (quote : Char) : List Char → List Char × List Char
  | [] => ([], [])
  | [c] => if c = quote then ([c], []) else ([], [c])
  | c :: d :: rest =>
    if c = quote then if d = quote then ([c, d], rest) else ([c], d :: rest)
    else ([], c :: d :: rest)

/-- A text of several lines with escapes, up to its closing quotes.  A `\` at the end of a
    line takes the line break and all blanks and line breaks that follow out of the text;
    `skipping` says whether the text begins with such blanks. -/
def multiBasic : (skipping : Bool) → List Char → Option (List Char × List Char)
  | _, [] => none
  | _, '\"' :: '\"' :: '\"' :: rest => some (closing '\"' rest)
  | skipping, '\r' :: '\n' :: rest =>
    if skipping then multiBasic true rest else consChar (some '\n') (multiBasic false rest)
  | skipping, '\n' :: rest =>
    if skipping then multiBasic true rest else consChar (some '\n') (multiBasic false rest)
  | _, '\\' :: 'u' :: a :: b :: c :: d :: rest =>
    consChar (Text.codePoint? [a, b, c, d]) (multiBasic false rest)
  | _, '\\' :: 'U' :: a :: b :: c :: d :: e :: f :: g :: h :: rest =>
    consChar (Text.codePoint? [a, b, c, d, e, f, g, h]) (multiBasic false rest)
  | _, '\\' :: c :: rest =>
    if endsLine (c :: rest) then multiBasic true rest
    else consChar (shortEscape? c) (multiBasic false rest)
  | skipping, c :: rest =>
    if skipping && isBlank c then multiBasic true rest
    else if isPlain c then consChar (some c) (multiBasic false rest)
    else none

/-- A text of several lines without escapes, up to its closing quotes. -/
def multiLiteral : List Char → Option (List Char × List Char)
  | [] => none
  | '\'' :: '\'' :: '\'' :: rest => some (closing '\'' rest)
  | '\r' :: '\n' :: rest => consChar (some '\n') (multiLiteral rest)
  | '\n' :: rest => consChar (some '\n') (multiLiteral rest)
  | c :: rest => if isPlain c then consChar (some c) (multiLiteral rest) else none

/-- Skips the line break with which a text of several lines may begin. -/
def skipFirstBreak : List Char → List Char
  | '\n' :: rest => rest
  | '\r' :: '\n' :: rest => rest
  | text => text

/-- A text as a string. -/
def packed (read : Option (List Char × List Char)) : Option (String × List Char) :=
  read.map fun (chars, rest) => (String.ofList chars, rest)

/-- A text of one line, from its opening quote on. -/
def quotedLine : List Char → Option (String × List Char)
  | '\"' :: rest => packed (basic rest)
  | '\'' :: rest => packed (literal rest)
  | _ => none

/-- A text, from its opening quote on. -/
def quoted : List Char → Option (String × List Char)
  | '\"' :: '\"' :: '\"' :: rest => packed (multiBasic false (skipFirstBreak rest))
  | '\'' :: '\'' :: '\'' :: rest => packed (multiLiteral (skipFirstBreak rest))
  | text => quotedLine text

end CallAudio.Toml
