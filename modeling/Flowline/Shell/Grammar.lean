import Flowline.Shell.Reading

/-!
# Reading shell scripts

From the text of a script to its commands, one line with all that belongs to it at a time, so that what a line
does can bear on how the next one is read.  The readers call each other with one unit of fuel less.
-/

namespace Flowline.Shell

namespace Parser

/-- Where a word stands, which decides where it ends. -/
inductive Place
  | word
  /-- The end of a text in the script, where nothing is expanded. -/
  | mark
  /-- Between double quotes. -/
  | quotes
  /-- A text in the script. -/
  | document (stop : List Char) (dedent : Bool)
  /-- In the braces of a parameter, perhaps between double quotes. -/
  | braces (quoted : Bool)
  /-- In an arithmetic expression, with so many parentheses open. -/
  | arithmetic (depth : Nat)

namespace Place

/-- Characters count as quoted. -/
def isQuoted : Place → Bool
  | quotes => true
  | document _ _ => true
  | braces quoted => quoted
  | arithmetic _ => true
  | _ => false

/-- A double quote stands for itself. -/
def keepsDoubleQuote : Place → Bool
  | document _ _ => true
  | arithmetic _ => true
  | _ => false

def isWord : Place → Bool
  | word => true
  | mark => true
  | _ => false

def isMark : Place → Bool
  | mark => true
  | _ => false

/-- The characters that a backslash protects. -/
def escapable (p : Place) (c : Char) : Bool :=
  if ! p.isQuoted then true
  else c = '\\' || c = '\x60' || c = '$' ||
    match p with
    | document _ _ => false
    | braces _ => c = '"' || c = '\x7d'
    | _ => c = '"'

end Place

/-- What is to be recognized in the next token. -/
structure Check where
  /-- Skips line ends. -/
  lines : Bool
  keywords : Bool
  aliases : Bool

namespace Check

def none : Check := ⟨false, false, false⟩

/-- The start of a command on the same line. -/
def command : Check := ⟨false, true, true⟩

/-- The start of a command, perhaps on a later line. -/
def newCommand : Check := ⟨true, true, true⟩

end Check

/-- Adds a character to a word that is built up last part first. -/
def addChar (c : Char) (quoted : Bool) : List Part → List Part
  | .text s q :: ps => if q = quoted then .text (s.push c) q :: ps
    else .text (String.ofList [c]) quoted :: .text s q :: ps
  | ps => .text (String.ofList [c]) quoted :: ps

/-- What comes after the name in the braces of a parameter, if it makes sense; what does not is left. -/
def modifier? : Parser (Option (Bool × Modifier)) := do
  let colon ← accept ':'
  match ← peekJoined with
  | some '-' => skip 1; return some (colon, .default)
  | some '=' => skip 1; return some (colon, .assign)
  | some '?' => skip 1; return some (colon, .require)
  | some '+' => skip 1; return some (colon, .replace)
  | some '%' =>
    if colon then return none
    skip 1
    return some (false, .cutSuffix (← accept '%'))
  | some '#' =>
    if colon then return none
    skip 1
    return some (false, .cutFront (← accept '#'))
  | _ => return none

/-- Passes over the end of a line where it makes no sense, so that the line goes on. -/
def passOver : Parser Unit := do
  if (← peek) = some '\n' then
    skip 1
    modify fun r => { r with line := r.line - 1 }

/-- The name of a variable or a number, if one comes next. -/
def plainName? : Parser (Option String) := do
  match ← peekJoined with
  | some c =>
    let size := (← rest).length + 1
    if isNameStart c then return some (String.ofList (← takeJoined isNameChar size))
    else if c.isDigit then return some (String.ofList (← takeJoined Char.isDigit size))
    else return none
  | none => return none

/-- The text of a command between backquotes. -/
def backquoted (quoted : Bool) : Nat → List Char → Parser (List Char)
  | 0, _ => failAtEnd .openBackquote
  | fuel + 1, acc => do
    match ← next with
    | none => failAtEnd .openBackquote
    | some '\x60' => return acc.reverse
    | some '\\' =>
      match ← next with
      | none => failAtEnd .openBackquote
      | some '\n' => backquoted quoted fuel acc
      | some c =>
        if c = '\x60' || c = '\\' || c = '$' || (quoted && c = '"') then backquoted quoted fuel (c :: acc)
        else backquoted quoted fuel (c :: '\\' :: acc)
    | some c => backquoted quoted fuel (c :: acc)

/-- Takes the line that ends a text in the script, if it comes next. -/
def acceptStop (stop : List Char) : Parser Bool := do
  let cs ← rest
  if ! stop.isPrefixOf cs then return false
  match cs.drop stop.length with
  | [] => if stop.isEmpty then return false
  | c :: _ => if c ≠ '\n' then return false
  skip (stop.length + 1)
  return true

/-- The lines of a text in the script in which nothing is expanded. -/
def literalLines (stop : List Char) (dedent : Bool) : Nat → List Char → Parser (List Char)
  | 0, acc => return acc
  | fuel + 1, acc => do
    if dedent then
      let _ ← takeWhile (· = '\t')
    if ← acceptStop stop then return acc
    if (← rest).isEmpty then return acc
    let line ← takeWhile (· ≠ '\n')
    match ← next with
    | some c => literalLines stop dedent fuel (c :: (line.reverse ++ acc))
    | none => return line.reverse ++ acc

/-- The name before `=` in a word that assigns a value, and the value. -/
def assignment? : List Part → Option (String × List Part)
  | .text s false :: rest =>
    let name := Text.before '=' s
    let value := String.ofList (s.toList.drop (name.length + 1))
    if name.length < s.length && isName name then
      some (name, if value = "" then rest else .text value false :: rest)
    else none
  | _ => none

/-- The builtin commands whose names are no names of functions. -/
def specialBuiltins : List String := [":", ".", "eval", "exec", "exit", "export", "local", "readonly", "return",
  "set", "shift", "trap", "unset", "break", "continue", "times"]

mutual

/-- The parts of a word, last part first. -/
def parts : Nat → Place → List Part → Parser (List Part)
  | 0, _, _ => exhausted
  | fuel + 1, place, acc => do
    let quoted := place.isQuoted
    match place, ← peekJoined with
    | .word, none => return acc
    | .mark, none => return acc
    | .document _ _, none => return acc
    | .quotes, none => failAtEnd .openQuote
    | .braces quoted, none => failAtEnd (if quoted then .openQuote else .openBrace)
    | .arithmetic _, none => failAtEnd .openArithmetic
    | .quotes, some '"' => skip 1; return acc
    | .braces _, some '\x7d' => skip 1; return acc
    | .arithmetic 0, some ')' =>
      skip 1
      if ← accept ')' then return acc else parts fuel place (addChar ')' true acc)
    | .arithmetic (n + 1), some ')' => skip 1; parts fuel (.arithmetic n) (addChar ')' true acc)
    | .arithmetic n, some '(' => skip 1; parts fuel (.arithmetic (n + 1)) (addChar '(' true acc)
    | .document stop dedent, some '\n' => skip 1; documentLine fuel stop dedent (addChar '\n' true acc)
    | place, some c =>
      if place.isWord && isOperatorChar c then return acc
      else if c = '\\' then
        skip 1
        match ← next with
        | none => parts fuel place (addChar '\\' true acc)
        | some d =>
          if place.escapable d then parts fuel place (addChar d true acc)
          else parts fuel place (addChar d true (addChar '\\' true acc))
      else if c = '\'' && ! quoted then
        skip 1
        let s ← singleQuoted
        parts fuel place (.text (String.ofList s) true :: acc)
      else if c = '"' && ! place.keepsDoubleQuote then
        skip 1
        let inner ← parts fuel .quotes []
        parts fuel place (inner ++ .text "" true :: acc)
      else if c = '$' then
        skip 1
        match ← dollar fuel place with
        | some p => parts fuel place (p :: acc)
        | none => parts fuel place (addChar '$' quoted acc)
      else if c = '\x60' && ! place.isMark then
        skip 1
        let inner ← backquoted quoted ((← rest).length + 1) []
        let outer ← get
        let r := Reading.ofText (String.ofList inner) 1 outer.aliases
        set { r with count := outer.count, found := outer.found, known := outer.known }
        let body ← commands fuel false true
        let r ← get
        set { outer with count := r.count, found := r.found }
        parts fuel place (.output body quoted :: acc)
      else
        skip 1
        parts fuel place (addChar c quoted acc)

/-- The rest of a text in the script from the start of a line on. -/
def documentLine : Nat → List Char → Bool → List Part → Parser (List Part)
  | 0, _, _, _ => exhausted
  | fuel + 1, stop, dedent, acc => do
    if dedent then
      let _ ← takeWhile (· = '\t')
    if ← acceptStop stop then return acc
    parts fuel (.document stop dedent) acc

/-- What a dollar sign introduces, if anything. -/
def dollar : Nat → Place → Parser (Option Part)
  | 0, _ => exhausted
  | fuel + 1, place => do
    let quoted := match place with
      | .arithmetic _ => true
      | place => place.isQuoted
    if place.isMark then return none
    match ← peekJoined with
    | some '(' =>
      skip 1
      if ← accept '(' then
        let expr ← parts fuel (.arithmetic 0) []
        return some (.arithmetic expr.reverse quoted)
      let announced := (← get).announced
      modify fun r => { r with announced := [] }
      let body ← commands fuel false true
      match ← readToken fuel .none with
      | .closing => pure ()
      | _ => unexpected (some (named ")"))
      documents fuel
      modify fun r => { r with announced }
      return some (.output body quoted)
    | some '\x7b' =>
      skip 1
      braced fuel quoted
    | some c =>
      if isNameStart c then
        return some (.param (String.ofList (← takeJoined isNameChar ((← rest).length + 1))) quoted)
      else if isSpecialParam c then
        skip 1
        return some (.param (String.ofList [c]) quoted)
      else return none
    | none => return none

/-- A parameter in braces. -/
def braced : Nat → Bool → Parser (Option Part)
  | 0, _ => exhausted
  | fuel + 1, quoted => do
    let bad : Parser (Option Part) := do
      passOver
      let _ ← parts fuel (.braces quoted) []
      return some .bad
    let modified (name : String) : Parser (Option Part) := do
      if ← accept '\x7d' then return some (.param name quoted)
      if [':', '\x7d'].isPrefixOf (← rest) then
        skip 2
        let _ ← parts fuel (.braces quoted) []
        return some (.param name quoted)
      let how? ← modifier?
      if how?.isNone then passOver
      let word ← parts fuel (.braces (quoted && ! how?.any fun how => how.2.cuts)) []
      return match how? with
        | none => some .bad
        | some (colon, how) => some (.modified name colon how word.reverse quoted)
    match ← plainName? with
    | some name => modified name
    | none =>
      match ← peekJoined with
      | some '#' =>
        skip 1
        match ← plainName? with
        | some name => if ← accept '\x7d' then return some (.length name quoted) else bad
        | none =>
          match ← rest with
          | c :: '\x7d' :: _ =>
            if c = '\x7d' then modified "#"
            else if isSpecialParam c then
              skip 2
              return some (.length (String.ofList [c]) quoted)
            else if c = ':' || c = '=' || c = '+' || c = '%' then modified "#"
            else
              skip 1
              bad
          | _ => modified "#"
      | some c =>
        if c = '\x7d' then bad
        else
          skip 1
          if isSpecialParam c then modified (String.ofList [c]) else bad
      | none => bad

/-- Reads the texts that have been announced. -/
def documents : Nat → Parser Unit
  | 0 => exhausted
  | fuel + 1 => do
    match (← get).announced with
    | [] => return
    | a :: announced =>
      modify fun r => { r with announced }
      let text ← if a.literal then do
          let cs ← literalLines a.stop a.dedent ((← rest).length + 1) []
          pure [Part.text (String.ofList cs.reverse) true]
        else List.reverse <$> documentLine fuel a.stop a.dedent []
      modify fun r => { r with found := (a.index, text) :: r.found }
      documents fuel

/-- The next token. -/
def readToken : Nat → Check → Parser Token
  | 0, _ => exhausted
  | fuel + 1, check => do
    let token ← freshToken fuel
    match token with
    | .newline =>
      if check.lines then
        documents fuel
        readToken fuel check
      else return token
    | .word word =>
      let r ← get
      set { r with expectAlias := false }
      match plainText? word with
      | none => return token
      | some name =>
        if check.keywords && keywords.contains name then found (.keyword name)
        else if check.aliases || r.expectAlias then
          match ← aliasText? name with
          | some text =>
            openAlias name text
            readToken fuel { check with aliases := true }
          | none => return token
        else return token
    | token => return token

/-- The next token, whatever it means here. -/
def freshToken : Nat → Parser Token
  | 0 => exhausted
  | fuel + 1 => do
    let r ← get
    if r.pushed then
      set { r with pushed := false }
      return r.token
    skipBlanks (r.chars.length + 1)
    match ← operator? with
    | some token => return token
    | none =>
      let word ← parts fuel .word []
      match plainText? word, ← peek with
      | some digit, some c =>
        match digit.toList with
        | [d] =>
          if d.isDigit && (c = '<' || c = '>') then redirection (some (d.toNat - '0'.toNat))
          else found (.word word.reverse)
        | _ => found (.word word.reverse)
      | _, _ => found (.word word.reverse)

/-- What follows the operator of a redirection. -/
def redirect : Nat → Nat → RedirectKind → Bool → Parser Redirect
  | 0, _, _, _ => exhausted
  | fuel + 1, fd, kind, dedent => do
    if kind = .here then
      skipBlanks ((← rest).length + 1)
      if (← operator?).isSome then unexpected none
      let stop ← parts fuel .mark []
      let name := String.join (stop.reverse.map fun
        | .text s _ => s
        | _ => "")
      let r ← get
      set { r with
        announced := r.announced ++ [Announced.mk r.count name.toList dedent (hasQuotes stop)]
        count := r.count + 1 }
      return .mk fd .here ((r.known.lookup r.count).getD [])
    match ← readToken fuel .none with
    | .word target => return .mk fd kind target
    | _ => unexpected none

/-- The redirections after a compound command. -/
def redirects : Nat → Check → Parser (List Redirect)
  | 0, _ => exhausted
  | fuel + 1, check => do
    match ← readToken fuel check with
    | .redirect fd kind dedent =>
      let r ← redirect fuel fd kind dedent
      return r :: (← redirects fuel .none)
    | _ => pushBack; return []

/-- Assignments, words and redirections up to the next operator, each last first. -/
def simple : Nat → Nat → List (String × List Part) → List (List Part) → List Redirect → Parser Command
  | 0, _, _, _, _ => exhausted
  | fuel + 1, line, assignments, words, found => do
    match ← readToken fuel { Check.none with aliases := words.isEmpty } with
    | .word word =>
      match if words.isEmpty then assignment? word else none with
      | some a => simple fuel line (a :: assignments) words found
      | none => simple fuel line assignments (word :: words) found
    | .redirect fd kind dedent =>
      let r ← redirect fuel fd kind dedent
      simple fuel line assignments words (r :: found)
    | token =>
      match token, assignments, words, found with
      | .opening, [], [word], [] =>
        match ← readToken fuel .none with
        | .closing => pure ()
        | _ => unexpected (some (named ")"))
        match plainText? word with
        | none => fail .badFunctionName
        | some name =>
          if ! isName name || specialBuiltins.contains name then fail .badFunctionName
          return .define name (← command fuel .newCommand)
      | _, _, _, _ =>
        pushBack
        return .simple line assignments.reverse words.reverse found.reverse

/-- The words after `in`; the token that ends them has been read. -/
def wordsToEnd : Nat → Parser (List (List Part))
  | 0 => exhausted
  | fuel + 1 => do
    match ← readToken fuel .none with
    | .word word => return word :: (← wordsToEnd fuel)
    | .newline => return []
    | .semicolon => return []
    | _ => unexpected none

/-- The patterns of a branch of `case`, of which the first has been read, up to the parenthesis. -/
def patterns : Nat → Token → Parser (List (List Part))
  | 0, _ => exhausted
  | fuel + 1, first => do
    let pattern := match first with
      | .word word => word
      | .keyword k => [Part.text k false]
      | _ => []
    match ← readToken fuel .none with
    | .pipe => return pattern :: (← patterns fuel (← readToken fuel .none))
    | .closing => return [pattern]
    | _ => unexpected (some (named ")"))

/-- The branches of `case`, up to `esac`. -/
def branches : Nat → Parser (List (List (List Part) × Command))
  | 0 => exhausted
  | fuel + 1 => do
    match ← readToken fuel { Check.newCommand with aliases := false } with
    | .keyword "esac" => return []
    | first =>
      let first ← match first with
        | .opening => readToken fuel .none
        | first => pure first
      let ps ← patterns fuel first
      let body ← commands fuel false true
      match ← readToken fuel { Check.newCommand with aliases := false } with
      | .keyword "esac" => return [(ps, body)]
      | .endCase => return (ps, body) :: (← branches fuel)
      | _ => unexpected (some (named ";;"))

/-- The rest of a conditional after a branch; the token that comes next has been read if there is no other
branch. -/
def elsePart : Nat → Parser Command
  | 0 => exhausted
  | fuel + 1 => do
    match ← readToken fuel .none with
    | .keyword "elif" =>
      let test ← commands fuel true true
      expectKeyword fuel "then"
      let yes ← commands fuel true true
      return .choose test yes (← elsePart fuel)
    | .keyword "else" => commands fuel true true
    | _ => pushBack; return .empty

def expectKeyword : Nat → String → Parser Unit
  | 0, _ => exhausted
  | fuel + 1, k => do
    match ← readToken fuel .none with
    | .keyword l => if l = k then return else unexpected (some (named k))
    | _ => unexpected (some (named k))

/-- One command; `check` is for its first token. -/
def command : Nat → Check → Parser Command
  | 0, _ => exhausted
  | fuel + 1, check => do
    let line := (← get).line
    let withRedirects (c : Command) : Parser Command := do
      match ← redirects fuel .command with
      | [] => return c
      | rs =>
        match c with
        | .subshell line body _ => return .subshell line body rs
        | c => return .redirected line c rs
    match ← readToken fuel check with
    | .opening =>
      let body ← commands fuel true true
      match ← readToken fuel .none with
      | .closing => pure ()
      | _ => unexpected (some (named ")"))
      withRedirects (.subshell line body [])
    | .keyword "\x7b" =>
      let body ← commands fuel true true
      expectKeyword fuel "\x7d"
      withRedirects body
    | .keyword "if" =>
      let test ← commands fuel true true
      expectKeyword fuel "then"
      let yes ← commands fuel true true
      let no ← elsePart fuel
      expectKeyword fuel "fi"
      withRedirects (.choose test yes no)
    | .keyword "while" =>
      let test ← commands fuel true true
      expectKeyword fuel "do"
      let body ← commands fuel true true
      expectKeyword fuel "done"
      withRedirects (.loop false test body)
    | .keyword "until" =>
      let test ← commands fuel true true
      expectKeyword fuel "do"
      let body ← commands fuel true true
      expectKeyword fuel "done"
      withRedirects (.loop true test body)
    | .keyword "for" =>
      let name ← match ← readToken fuel .none with
        | .word word =>
          match (plainText? word).filter isName with
          | some name => pure name
          | none => fail .badLoopVariable
        | _ => fail .badLoopVariable
      let words ← match ← readToken fuel .newCommand with
        | .keyword "in" => some <$> wordsToEnd fuel
        | .semicolon => pure none
        | _ => pushBack; pure none
      match ← readToken fuel .newCommand with
      | .keyword "do" => pure ()
      | _ => unexpected (some (named "do"))
      let body ← commands fuel true true
      expectKeyword fuel "done"
      withRedirects (.each line name words body)
    | .keyword "case" =>
      let word ← match ← readToken fuel .none with
        | .word word => pure word
        | _ => unexpected (some "word")
      match ← readToken fuel .newCommand with
      | .keyword "in" => pure ()
      | _ => unexpected (some (named "in"))
      let bs ← branches fuel
      withRedirects (.select line word bs)
    | .word _ => pushBack; simple fuel (← get).line [] [] []
    | .redirect _ _ _ => pushBack; simple fuel (← get).line [] [] []
    | _ => unexpected none

/-- The stages of a pipeline after the first. -/
def stages : Nat → Parser (List Command)
  | 0 => exhausted
  | fuel + 1 => do
    match ← readToken fuel .none with
    | .pipe =>
      let c ← command fuel .newCommand
      return c :: (← stages fuel)
    | _ => pushBack; return []

/-- A pipeline; `check` is for its first token. -/
def pipeline : Nat → Check → Parser Command
  | 0, _ => exhausted
  | fuel + 1, check => do
    let negated ← match ← readToken fuel check with
      | .keyword "!" => pure true
      | _ => pushBack; pure false
    let first ← command fuel (if negated then .command else .none)
    let c ← match ← stages fuel with
      | [] => pure first
      | rest => pure (.pipeline (first :: rest) false)
    return if negated then .negated c else c

/-- Pipelines joined by `&&` and `||`, after the first. -/
def chain : Nat → Command → Parser Command
  | 0, _ => exhausted
  | fuel + 1, first => do
    match ← readToken fuel .none with
    | .and => chain fuel (.both first (← pipeline fuel .newCommand))
    | .or => chain fuel (.either first (← pipeline fuel .newCommand))
    | _ => pushBack; return first

/-- Commands up to the end of the list that they form, which a line end does not end if it is `nested`;
there is at least one if they are `needed`. -/
def commands : Nat → Bool → Bool → Parser Command
  | 0, _, _ => exhausted
  | fuel + 1, needed, nested => listFrom fuel nested (! needed) .empty

/-- The commands that follow some others in a list; if it `mayEnd`, there may be none. -/
def listFrom : Nat → Bool → Bool → Command → Parser Command
  | 0, _, _, _ => exhausted
  | fuel + 1, nested, mayEnd, before => do
    match ← readToken fuel { Check.command with lines := nested } with
    | .newline => documents fuel; return before
    | .eof => documents fuel; pushBack; return before
    | token =>
      pushBack
      if nested && mayEnd && token.endsList then return before
      let line := (← get).line
      let c ← chain fuel (← pipeline fuel .none)
      let token ← readToken fuel .none
      let c := match token, c with
        | .background, .pipeline stages _ => .pipeline stages true
        | .background, .redirected line body rs => .background line body rs
        | .background, c => .background line c []
        | _, c => c
      let all := if before.isEmpty then c else .sequence before c
      match token with
      | .background => listFrom fuel nested true all
      | .semicolon => listFrom fuel nested true all
      | .newline => pushBack; listFrom fuel nested true all
      | .eof => documents fuel; pushBack; return all
      | _ =>
        if ! nested then unexpected none
        pushBack
        return all

end

end Parser

/-! ## One line after another -/

/-- More than the depth to which readers of a text call each other. -/
def Reading.fuel (r : Reading) : Nat :=
  let size := r.chars.length + (r.aliases.map fun (_, text) => text.length).foldl (· + ·) 0
  64 * (size + 64) * (r.aliases.length + 1)

/-- Reads a line with the texts that are known. -/
def Reading.attempt (r : Reading) (known : List (Nat × List Part)) :
    Except (SyntaxFault × Nat) (Option Command × Reading) := do
  let r := { r with count := 0, found := [], known, announced := [] }
  match (Parser.readToken r.fuel .none).run r with
  | .ok (.eof, r) => return (none, { r with pushed := true })
  | .ok (.newline, r) => return (some .empty, r)
  | .ok (_, r) =>
    let (c, r) ← (Parser.commands r.fuel true false).run { r with pushed := true }
    return (some c, r)
  | .error e => .error e

/-- The commands of the next line with all that belongs to it, if the text goes on. -/
def Reading.nextLine (r : Reading) : Except (SyntaxFault × Nat) (Option Command × Reading) := do
  let (c, after) ← r.attempt []
  if after.found.isEmpty then return (c, after) else r.attempt after.found

end Flowline.Shell
