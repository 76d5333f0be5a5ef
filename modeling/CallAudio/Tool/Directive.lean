/-
  Directives of a log filter.

  A directive is a level, or a target with or without one, or says of which spans it holds:

      level        target        target=level
      target[span]               target[span]=level
      target[span{field}]        target[span{field=value}]=level

  Target and span may be missing in the last two lines.  Where no level is given everything
  is wanted.

  Blanks around a directive do not count when it is taken apart.  But its parts are then
  taken from the text as it stands, each as many bytes from the start as it has in front of
  it without the blanks.  So a part moves into the blanks in front of a directive, and the
  last part takes in those behind it.
-/
import CallAudio.Text.Alphanumeric
import CallAudio.Tool.FieldMatch
import CallAudio.Tool.LogLevel

namespace CallAudio

/-- Why a filter is refused. -/
inductive FilterError where
  /-- A directive is not of the form of directives. -/
  | invalidDirective
  /-- There is no such level. -/
  | unknownLevel
  /-- The value of a field is no pattern. -/
  | invalidPattern (cause : PatternError)
deriving DecidableEq, Inhabited

/-- The text of an error. -/
def FilterError.message : FilterError → String
  | invalidDirective => "invalid filter directive"
  | unknownLevel =>
    "error parsing level filter: expected one of \"off\", \"error\", \"warn\", \"info\", " ++
      "\"debug\", \"trace\", or a number 0-5"
  | invalidPattern cause => "invalid field filter: " ++ cause.message

/-- What is logged of the places that a directive holds for. -/
structure Directive where
  /-- The target, if it holds for one only. -/
  target : Option String := none
  /-- The name of the span, if it holds inside of one only. -/
  span : Option String := none
  /-- The fields that the span must have. -/
  fields : List FieldMatch := []
  level : LogLevel := .trace
deriving DecidableEq, Inhabited

namespace Directive

/-! ## Parts of a text -/

/-- A text without its first bytes. -/
def dropBytes : (count : Nat) → List Char → List Char
  | 0, text => text
  | _, [] => []
  | count + 1, c :: text => dropBytes (count + 1 - c.utf8Size) text

/-- The first bytes of a text. -/
def takeBytes : (count : Nat) → List Char → List Char
  | 0, _ => []
  | _, [] => []
  | count + 1, c :: text => c :: takeBytes (count + 1 - c.utf8Size) text

/-- The part of a text from one byte up to, but not including, another. -/
def part (text : List Char) (first last : Nat) : List Char :=
  takeBytes (last - first) (dropBytes first text)

/-- The part of a text from one byte up to another, as a string. -/
def partString (text : List Char) (first last : Nat) : String :=
  String.ofList (part text first last)

/-- A text without the blanks around it. -/
def trim (text : List Char) : List Char :=
  ((text.dropWhile Text.isBlank).reverse.dropWhile Text.isBlank).reverse

/-- The characters of a text, each with the number of bytes before it. -/
def placed (first : Nat) : List Char → List (Nat × Char)
  | [] => []
  | c :: text => (first, c) :: placed (first + c.utf8Size) text

/-! ## Reading -/

/-- Whether a directive may begin with a character, a bracket apart. -/
def mayBegin (c : Char) : Bool :=
  Text.isAlphanumeric c || c = '-' || c = ':' || c = '_'

/-- A level; everything is wanted if none is given. -/
def level? (text : String) : Except FilterError LogLevel :=
  if text.isEmpty then .ok .trace
  else
    match LogLevel.ofString? text with
    | some level => .ok level
    | none => .error .unknownLevel

/-- A text that is a level or a target. -/
def ofLevelOrTarget (text : String) : Directive :=
  match LogLevel.ofString? text with
  | some level => { level }
  | none => { target := some text }

/-- Nothing but blanks may follow a comma. -/
def nothing (directive : Directive) : List (Nat × Char) → Except FilterError Directive
  | [] => .ok directive
  | _ => .error .invalidDirective

/-- The level, which begins at byte `first`. -/
def withLevel (text : List Char) (directive : Directive) (first : Nat)
    (rest : List (Nat × Char)) : Except FilterError Directive :=
  match rest.dropWhile (·.2 != ',') with
  | [] =>
    (level? (String.ofList (dropBytes first text))).map fun level => { directive with level }
  | (last, _) :: rest => do
    let level ← level? (partString text first last)
    nothing { directive with level } rest

/-- What follows the closing bracket of a span. -/
def afterSpan (text : List Char) (directive : Directive) :
    List (Nat × Char) → Except FilterError Directive
  | [] => .ok directive
  | (place, '=') :: rest => withLevel text directive (place + 1) rest
  | _ => .error .invalidDirective

/-- A field that is not empty. -/
def field? (text : List Char) : Except FilterError FieldMatch :=
  if text.isEmpty then .error .invalidDirective
  else (FieldMatch.ofText text).mapError .invalidPattern

/-- Fields, the first of which begins at byte `first`, up to the closing brace, and the
    closing bracket behind it. -/
def withFields (text : List Char) (directive : Directive) (first : Nat) :
    List (Nat × Char) → Except FilterError Directive
  | [] => .error .invalidDirective
  | (place, c) :: rest =>
    if c = ',' ∨ c = '}' then do
      let field ← field? (part text first place)
      let directive := { directive with fields := directive.fields ++ [field] }
      if c = ',' then withFields text directive (place + 1) rest
      else
        match rest with
        | (_, ']') :: rest => afterSpan text directive rest
        | _ => .error .invalidDirective
    else withFields text directive first rest

/-- The name of a span, which begins at byte `first`, and what follows it. -/
def withSpan (text : List Char) (directive : Directive) (first : Nat)
    (rest : List (Nat × Char)) : Except FilterError Directive :=
  match rest.dropWhile fun (_, c) => c != ']' && c != '{' with
  | [] => .error .invalidDirective
  | (last, c) :: rest =>
    let name := partString text first last
    if c = ']' then afterSpan text { directive with span := some name } rest
    else
      withFields text { directive with span := if name.isEmpty then none else some name }
        (last + 1) rest

/-- A directive from its text. -/
def parse (text : String) : Except FilterError Directive :=
  let chars := text.toList
  match placed 0 (trim chars) with
  | [] => .error .invalidDirective
  | (_, '[') :: rest => withSpan chars {} 1 rest
  | (_, c) :: rest =>
    if !mayBegin c then .error .invalidDirective
    else
      match rest.dropWhile fun (_, c) => c != '=' && c != '[' && c != ',' with
      | [] => .ok (ofLevelOrTarget text)
      | (last, mark) :: rest =>
        let directive : Directive := { target := some (partString chars 0 last) }
        if mark = '=' then withLevel chars directive (last + 1) rest
        else if mark = '[' then withSpan chars directive (last + 1) rest
        else nothing (ofLevelOrTarget text) rest

/-! ## Writing -/

/-- The fields of a directive in braces. -/
def fieldsText (directive : Directive) : String :=
  if directive.fields.isEmpty then ""
  else "\x7b" ++ String.intercalate "," (directive.fields.map FieldMatch.text) ++ "\x7d"

/-- The text of a directive. -/
def text (directive : Directive) : String :=
  let span :=
    if directive.span.isSome || !directive.fields.isEmpty then
      "[" ++ directive.span.getD "" ++ directive.fieldsText ++ "]"
    else ""
  if directive.target.isNone && span.isEmpty then directive.level.name
  else directive.target.getD "" ++ span ++ "=" ++ directive.level.name

/-! ## Kinds of directives -/

/-- Whether a place in the program settles if a directive holds there: it does if no span has
    to be of a name and no field of a value. -/
def isStatic (directive : Directive) : Bool :=
  directive.span.isNone && directive.fields.all (·.value.isNone)

/-- Whether it depends on the spans that are open if a directive holds. -/
def isDynamic (directive : Directive) : Bool :=
  directive.span.isSome || !directive.fields.isEmpty

/-- Whether two directives hold at the same places. -/
def alike (a b : Directive) : Bool :=
  a.target = b.target && a.span = b.span && a.fields.length = b.fields.length &&
    (a.fields.zip b.fields).all fun (a, b) => a.alike b

end Directive

end CallAudio
