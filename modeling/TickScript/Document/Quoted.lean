import TickScript.Bytes
import TickScript.Document.Reader

/-! # Quoted texts of documents

    A text can be quoted in four ways: between double quotes, where a backslash starts an
    escape, or between single quotes, where nothing does; and either between one quote or
    between three, where line ends are allowed.  Writing takes the first way that needs no
    escapes, and falls back to escapes if there is none.
-/

namespace TickScript.Document

/-! ## Writing -/

/-- **Ways to quote a text.** -/
inductive Quoting where
  | basic
  | literal
  | longBasic
  | longLiteral
  deriving DecidableEq

/-- The length of the longest run of a character, given the length of the run so far. -/
def longestRun (c : Char) : (run : Nat) → List Char → Nat
  | run, [] => run
  | run, d :: rest => if d = c then longestRun c (run + 1) rest else max run (longestRun c 0 rest)

/-- Whether all characters but line ends may stand without an escape. -/
def isVisible (text : List Char) : Bool := text.all fun c => isPlain c || c == '\n'

/-- **Whether a text can be quoted in this way without escapes.** -/
def Quoting.fits (text : List Char) : Quoting → Bool
  | basic => text.all fun c => isPlain c && c ≠ '\\' && c ≠ '"'
  | literal => text.all fun c => isPlain c && c ≠ '\''
  | longBasic => isVisible text && !text.contains '\\' && longestRun '"' 0 text ≤ 2
  | longLiteral => isVisible text && longestRun '\'' 0 text ≤ 2

/-- **The way a text is quoted.** -/
def Quoting.ofText (text : List Char) : Quoting :=
  match [basic, literal, longBasic, longLiteral].find? (·.fits text) with
  | some q => q
  | none => if text.contains '\n' then longBasic else basic

/-- What stands on both sides of the text. -/
def Quoting.mark : Quoting → List Char
  | basic => ['"']
  | literal => ['\'']
  | longBasic => ['"', '"', '"']
  | longLiteral => ['\'', '\'', '\'']

/-- Whether line ends may stand in the text. -/
def Quoting.isLong : Quoting → Bool
  | basic | literal => false
  | longBasic | longLiteral => true

/-- A character other than a quote between double quotes. -/
def escapeChar (long : Bool) (c : Char) : List Char :=
  if c = '\x08' then ['\\', 'b']
  else if c = '\t' then ['\\', 't']
  else if c = '\n' then (if long then ['\n'] else ['\\', 'n'])
  else if c = '\x0c' then ['\\', 'f']
  else if c = '\r' then ['\\', 'r']
  else if c = '\\' then ['\\', '\\']
  else if isPlain c then [c]
  else ['\\', 'u', '0', '0', (Bytes.hexDigit (c.toNat / 16)).toUpper,
    (Bytes.hexDigit (c.toNat % 16)).toUpper]

/-- A text between double quotes.  A quote is escaped where it would follow as many others as
    the closing quotes allow. -/
def escape (long : Bool) : (quotes : Nat) → List Char → List Char
  | _, [] => []
  | quotes, '"' :: rest =>
    if long && quotes < 2 then '"' :: escape long (quotes + 1) rest
    else '\\' :: '"' :: escape long 0 rest
  | _, c :: rest => escapeChar long c ++ escape long 0 rest

/-- The text between the quotes. -/
def Quoting.body (q : Quoting) (text : List Char) : List Char :=
  match q with
  | basic => escape false 0 text
  | longBasic => escape true 0 text
  | literal | longLiteral => text

/-- **Quotes a text.**  Long quotes are followed by a line end if the text has one. -/
def quote (s : String) : String :=
  let text := s.toList
  let q := Quoting.ofText text
  let start := if q.isLong && text.contains '\n' then ['\n'] else []
  String.ofList (q.mark ++ start ++ q.body text ++ q.mark)

/-! ## Reading

    The readers start behind the opening quotes and answer what follows the closing ones. -/

/-- The character that a letter behind a backslash stands for.  A letter that stands for nothing
    is at fault: the fault is behind it if it is ASCII. -/
def escaped (letter : Char) (rest : List Char) : Except Nat Char :=
  match letter with
  | 'b' => .ok '\x08'
  | 't' => .ok '\t'
  | 'n' => .ok '\n'
  | 'f' => .ok '\x0c'
  | 'r' => .ok '\r'
  | '"' => .ok '"'
  | '\\' => .ok '\\'
  | c => .error (rest.length + if c.utf8Size = 1 then 0 else 1)

/-- The character whose number the digits spell; a fault is where they start. -/
def numbered (digits rest : List Char) : Except Nat Char :=
  let fault := .error (digits.length + rest.length)
  match digits.mapM Bytes.hexValue? with
  | none => fault
  | some values =>
    let n := values.foldl (fun n d => n * 16 + d) 0
    if n.isValidChar then .ok (Char.ofNat n) else fault

/-- A character and the text behind it, put in front of what a reader found. -/
def andThen (c : Char) (found : Except Nat (List Char × List Char)) :
    Except Nat (List Char × List Char) :=
  found.map fun r => (c :: r.1, r.2)

/-- Reads between double quotes. -/
def readBasic : List Char → Except Nat (List Char × List Char)
  | [] => .error 0
  | '"' :: rest => .ok ([], rest)
  | '\\' :: 'u' :: a :: b :: c :: d :: rest => do
    andThen (← numbered [a, b, c, d] rest) (readBasic rest)
  | '\\' :: 'U' :: a :: b :: c :: d :: e :: f :: g :: h :: rest => do
    andThen (← numbered [a, b, c, d, e, f, g, h] rest) (readBasic rest)
  | '\\' :: c :: rest => do andThen (← escaped c rest) (readBasic rest)
  | ['\\'] => .error 1
  | c :: rest => if isPlain c then andThen c (readBasic rest) else .error (rest.length + 1)

/-- Reads between single quotes. -/
def readLiteral : List Char → Except Nat (List Char × List Char)
  | [] => .error 0
  | '\'' :: rest => .ok ([], rest)
  | c :: rest => if isPlain c then andThen c (readLiteral rest) else .error (rest.length + 1)

/-- The end of a long text: of the quotes behind the closing ones, two belong to the text. -/
def closeLong (mark : Char) : List Char → List Char × List Char
  | a :: b :: rest =>
    if a ≠ mark then ([], a :: b :: rest)
    else if b ≠ mark then ([a], b :: rest)
    else ([a, b], rest)
  | [a] => if a = mark then ([a], []) else ([], [a])
  | [] => ([], [])

/-- Whether only blanks stand before the end of the line. -/
def endsLine (rest : List Char) : Bool :=
  match rest.dropWhile Reader.isSpace with
  | '\n' :: _ | '\r' :: '\n' :: _ => true
  | _ => false

/-- Reads between three double quotes.  A backslash at the end of a line removes the white space
    up to the next character; `skipping` says that this is going on. -/
def readLongBasic : (skipping : Bool) → List Char → Except Nat (List Char × List Char)
  | _, [] => .error 0
  | _, '"' :: '"' :: '"' :: rest => .ok (closeLong '"' rest)
  | skipping, '\r' :: '\n' :: rest =>
    if skipping then readLongBasic true rest else andThen '\n' (readLongBasic false rest)
  | _, '\\' :: 'u' :: a :: b :: c :: d :: rest => do
    andThen (← numbered [a, b, c, d] rest) (readLongBasic false rest)
  | _, '\\' :: 'U' :: a :: b :: c :: d :: e :: f :: g :: h :: rest => do
    andThen (← numbered [a, b, c, d, e, f, g, h] rest) (readLongBasic false rest)
  | _, '\\' :: c :: rest =>
    if endsLine (c :: rest) then readLongBasic true (c :: rest)
    else do andThen (← escaped c rest) (readLongBasic false rest)
  | _, ['\\'] => .error 1
  | skipping, c :: rest =>
    if skipping && (Reader.isSpace c || c == '\n') then readLongBasic true rest
    else if isPlain c || c == '\n' then andThen c (readLongBasic false rest)
    else .error (rest.length + 1)

/-- Reads between three single quotes. -/
def readLongLiteral : List Char → Except Nat (List Char × List Char)
  | [] => .error 0
  | '\'' :: '\'' :: '\'' :: rest => .ok (closeLong '\'' rest)
  | '\r' :: '\n' :: rest => andThen '\n' (readLongLiteral rest)
  | c :: rest =>
    if isPlain c || c == '\n' then andThen c (readLongLiteral rest) else .error (rest.length + 1)

/-- Without the line end that long quotes may be followed by. -/
def dropFirstLineEnd : List Char → List Char
  | '\n' :: rest | '\r' :: '\n' :: rest => rest
  | rest => rest

/-- The characters of a quoted text. -/
def quotedChars (long : Bool) : List Char → Except Nat (List Char × List Char)
  | '"' :: rest =>
    match long, rest with
    | true, '"' :: '"' :: rest => readLongBasic false (dropFirstLineEnd rest)
    | _, rest => readBasic rest
  | '\'' :: rest =>
    match long, rest with
    | true, '\'' :: '\'' :: rest => readLongLiteral (dropFirstLineEnd rest)
    | _, rest => readLiteral rest
  | rest => .error rest.length

/-- **Reads a quoted text.**  Only a value can have long quotes. -/
def Reader.quoted (long : Bool) : Reader String := String.ofList <$> quotedChars long

end TickScript.Document
