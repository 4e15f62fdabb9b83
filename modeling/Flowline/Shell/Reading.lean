import Flowline.Shell.Bytes
import Flowline.Shell.Syntax

/-!
# Scripts that are being read

The place in a script up to which it has been read, and the operations on characters and on the names of
tokens that a reader is made of.  The text of an alias takes the place of its name in the script.
-/

namespace Flowline.Shell

/-- Why a text is not a script. -/
inductive SyntaxFault
  /-- A token that cannot come where it does, and perhaps the one that has to. -/
  | unexpected (token : String) (expected : Option String)
  | badLoopVariable
  | badFunctionName
  | openQuote
  | openBackquote
  | openBrace
  | openArithmetic
  deriving DecidableEq

def SyntaxFault.message : SyntaxFault → String
  | unexpected token none => token ++ " unexpected"
  | unexpected token (some e) => token ++ " unexpected (expecting " ++ e ++ ")"
  | badLoopVariable => "Bad for loop variable"
  | badFunctionName => "Bad function name"
  | openQuote => "Unterminated quoted string"
  | openBackquote => "EOF in backquote substitution"
  | openBrace => "Missing '\x7d'"
  | openArithmetic => "Missing '))'"

/-! ## Tokens -/

inductive Token
  | eof
  | newline
  | semicolon
  | background
  | and
  | or
  | pipe
  | opening
  | closing
  | endCase
  /-- `dedent` says that tabs are cut off the lines of a text in the script. -/
  | redirect (fd : Nat) (kind : RedirectKind) (dedent : Bool)
  | word (parts : List Part)
  | keyword (name : String)

/-- A text in double quotes. -/
def named (s : String) : String := "\"" ++ s ++ "\""

namespace Token

def name : Token → String
  | eof => "end of file"
  | newline => "newline"
  | semicolon => named ";"
  | background => named "&"
  | and => named "&&"
  | or => named "||"
  | pipe => named "|"
  | opening => named "("
  | closing => named ")"
  | endCase => named ";;"
  | redirect _ _ _ => "redirection"
  | word _ => "word"
  | keyword k => named k

def isEof : Token → Bool
  | eof => true
  | _ => false

/-- Whether a list of commands ends before this token. -/
def endsList : Token → Bool
  | eof => true
  | closing => true
  | endCase => true
  | keyword k => ["do", "done", "elif", "else", "esac", "fi", "then", "\x7d"].contains k
  | _ => false

end Token

def keywords : List String := ["!", "case", "do", "done", "elif", "else", "esac", "fi", "for", "if", "in",
  "then", "until", "while", "\x7b", "\x7d"]

/-- Whether any character of a word is quoted. -/
def hasQuotes (word : List Part) : Bool :=
  word.any fun
    | .text _ quoted => quoted
    | _ => false

/-- The text of a word without quotes and expansions. -/
def plainText? : List Part → Option String
  | [.text s false] => some s
  | _ => none

def isNameStart (c : Char) : Bool := c.isAlpha || c = '_'

def isNameChar (c : Char) : Bool := c.isAlphanum || c = '_'

/-- Whether a text can name a variable. -/
def isName (s : String) : Bool := s.toList.head?.any isNameStart && s.toList.all isNameChar

def isSpecialParam (c : Char) : Bool := "?#@*$!-".toList.contains c || c.isDigit

def isOperatorChar (c : Char) : Bool := "\n;&|<>() \t".toList.contains c

/-! ## Readings -/

/-- A text in the script that has been announced and comes after the current line. -/
structure Announced where
  index : Nat
  /-- The line that ends it. -/
  stop : List Char
  dedent : Bool
  /-- Nothing in it is expanded. -/
  literal : Bool

/-- The name of an alias whose text is being read, whether the text ends with a blank, and how many of its
characters are left. -/
structure OpenAlias where
  name : String
  blank : Bool
  left : Nat

structure Reading where
  chars : List Char
  line : Nat
  /-- The token that was read last. -/
  token : Token
  /-- It is to be read once more. -/
  pushed : Bool
  aliases : List (String × String)
  opened : List OpenAlias
  /-- The next word may be an alias, because the text of another ended with a blank. -/
  expectAlias : Bool
  announced : List Announced
  /-- The number of texts in the script that have been announced. -/
  count : Nat
  /-- The texts in the script that have been read, by their number. -/
  found : List (Nat × List Part)
  /-- Those that are known from an earlier reading. -/
  known : List (Nat × List Part)

/-- A reading of a text from its start. -/
def Reading.ofText (text : String) (line : Nat) (aliases : List (String × String)) : Reading where
  chars := text.toList
  line := line
  token := .newline
  pushed := false
  aliases := aliases
  opened := []
  expectAlias := false
  announced := []
  count := 0
  found := []
  known := []

/-- Whether there is nothing left to read. -/
def Reading.isAtEnd (r : Reading) : Bool := r.pushed && r.token.isEof

/-- Fails at a syntax error, with its line. -/
abbrev Parser := StateT Reading (Except (SyntaxFault × Nat))

namespace Parser

/-! ## Characters -/

def peek : Parser (Option Char) := do return (← get).chars.head?

def rest : Parser (List Char) := do return (← get).chars

/-- The open aliases after one more character, and whether the text of one that ended with a blank is
over. -/
def stepAliases : List OpenAlias → List OpenAlias × Bool
  | [] => ([], false)
  | a :: rest =>
    if a.left = 0 then
      let (rest, blank) := stepAliases rest
      (rest, a.blank || blank)
    else ({ a with left := a.left - 1 } :: rest, false)

/-- Takes one character. -/
def next : Parser (Option Char) := do
  let r ← get
  match r.chars with
  | [] => return none
  | c :: cs =>
    let line := if c = '\n' then r.line + 1 else r.line
    match r.opened with
    | [] => set { r with chars := cs, line }
    | opened =>
      let (opened, blank) := stepAliases opened
      set { r with chars := cs, line, opened, expectAlias := r.expectAlias || blank }
    return some c

def skip : Nat → Parser Unit
  | 0 => return
  | n + 1 => do
    let _ ← next
    skip n

/-- Takes lines that end with a backslash together: skips what stands between them. -/
def joinLines : Nat → Parser Unit
  | 0 => return
  | fuel + 1 => do
    match ← rest with
    | '\\' :: '\n' :: _ => skip 2; joinLines fuel
    | _ => return

/-- The next character, after any joints of lines. -/
def peekJoined : Parser (Option Char) := do
  match ← rest with
  | '\\' :: '\n' :: cs =>
    joinLines (cs.length + 1)
    peek
  | cs => return cs.head?

/-- Takes a character if it comes next. -/
def accept (c : Char) : Parser Bool := do
  if (← peekJoined) = some c then
    skip 1
    return true
  else return false

/-- Takes characters as long as they satisfy `p`. -/
def takeWhile (p : Char → Bool) : Parser (List Char) := do
  let cs := (← rest).takeWhile p
  skip cs.length
  return cs

/-- Takes the characters of a name or a number, also from lines that are joined. -/
def takeJoined (p : Char → Bool) : Nat → Parser (List Char)
  | 0 => return []
  | fuel + 1 => do
    let cs ← takeWhile p
    match ← rest with
    | '\\' :: '\n' :: _ =>
      let _ ← peekJoined
      return cs ++ (← takeJoined p fuel)
    | _ => return cs

/-- Fails in the current line. -/
def fail (why : SyntaxFault) : Parser α := do throw (why, (← get).line)

/-- Fails at the end of the text. -/
def failAtEnd (why : SyntaxFault) : Parser α := do
  let r ← get
  throw (why, r.line + r.chars.count '\n')

/-- Takes the characters up to a single quote, and that one. -/
def singleQuoted : Parser (List Char) := do
  let cs ← takeWhile (· ≠ '\'')
  match ← next with
  | some _ => return cs
  | none => failAtEnd .openQuote

/-- Skips blanks, joints of lines and a comment. -/
def skipBlanks : Nat → Parser Unit
  | 0 => return
  | fuel + 1 => do
    match ← rest with
    | ' ' :: _ => skip 1; skipBlanks fuel
    | '\t' :: _ => skip 1; skipBlanks fuel
    | '\\' :: '\n' :: _ => skip 2; skipBlanks fuel
    | '#' :: _ => let _ ← takeWhile (· ≠ '\n')
    | _ => return

/-! ## Tokens -/

/-- The last token is to be read once more. -/
def pushBack : Parser Unit := modify fun r => { r with pushed := true }

def found (t : Token) : Parser Token := do
  modify fun r => { r with token := t }
  return t

/-- Fails because of the last token. -/
def unexpected (expected : Option String) : Parser α := do
  fail (.unexpected (← get).token.name expected)

/-- A reader that has run out of fuel. -/
def exhausted : Parser α := fail (.unexpected "end of file" none)

/-- The text of an alias that may stand for a word here. -/
def aliasText? (name : String) : Parser (Option String) := do
  let r ← get
  if r.opened.any (·.name = name) then return none else return r.aliases.lookup name

/-- Puts the text of an alias before what is to be read. -/
def openAlias (name text : String) : Parser Unit :=
  modify fun r => { r with
    chars := text.toList ++ r.chars
    opened := ⟨name, text.toList.getLast?.any fun c => c = ' ' || c = '\t', text.length⟩ :: r.opened }

/-- Takes the operator after a digit or nothing that redirects a descriptor. -/
def redirection (fd : Option Nat) : Parser Token := do
  match ← next with
  | some '>' =>
    let fd := fd.getD 1
    if ← accept '>' then found (.redirect fd .append false)
    else if ← accept '|' then found (.redirect fd .clobber false)
    else if ← accept '&' then found (.redirect fd .duplicate false)
    else found (.redirect fd .write false)
  | _ =>
    let fd := fd.getD 0
    if ← accept '<' then found (.redirect fd .here (← accept '-'))
    else if ← accept '&' then found (.redirect fd .duplicate false)
    else if ← accept '>' then found (.redirect fd .update false)
    else found (.redirect fd .read false)

/-- Takes an operator, a line end or a redirection, if one comes next; blanks have been skipped. -/
def operator? : Parser (Option Token) := do
  match ← rest with
  | [] => some <$> found .eof
  | '\n' :: _ => skip 1; some <$> found .newline
  | '&' :: _ => skip 1; if ← accept '&' then some <$> found .and else some <$> found .background
  | '|' :: _ => skip 1; if ← accept '|' then some <$> found .or else some <$> found .pipe
  | ';' :: _ => skip 1; if ← accept ';' then some <$> found .endCase else some <$> found .semicolon
  | '(' :: _ => skip 1; some <$> found .opening
  | ')' :: _ => skip 1; some <$> found .closing
  | '<' :: _ => some <$> redirection none
  | '>' :: _ => some <$> redirection none
  | _ => return none

end Parser

end Flowline.Shell
