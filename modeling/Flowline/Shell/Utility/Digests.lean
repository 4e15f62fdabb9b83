import Flowline.Shell.Digest
import Flowline.Shell.Utility.Input

/-!
# Digests of files

`md5sum`, `sha1sum` and their like, which also check lists of digests, the sums of `cksum` and `sum`, and
`base64`, which writes bytes with letters.
-/

namespace Flowline.Shell

namespace Digest

/-! ## Lists of digests -/

/-- A way to compute digests. -/
structure Method where
  /-- The name in lines that tell it. -/
  tag : String
  /-- The number of digits. -/
  digits : Nat
  digest : List Nat → String

def md5 : Method := ⟨"MD5", 32, Md5.digest⟩

def sha1 : Method := ⟨"SHA1", 40, Sha1.digest⟩

def sha224 : Method := ⟨"SHA224", 56, Sha2.digest Sha2.sha224⟩

def sha256 : Method := ⟨"SHA256", 64, Sha2.digest Sha2.sha256⟩

def sha384 : Method := ⟨"SHA384", 96, Sha2.digest Sha2.sha384⟩

def sha512 : Method := ⟨"SHA512", 128, Sha2.digest Sha2.sha512⟩

/-- The bytes of a text. -/
def bytesOf (text : String) : List Nat := text.toList.map fun c => c.toNat % 256

/-- How the lines of a list are written. -/
structure Form where
  tagged : Bool
  binary : Bool
  stop : String

/-- A name in which backslashes and line ends are escaped, and whether any were. -/
def escapedName (name : String) : String × Bool :=
  let cs := name.toList
  let isPlain := cs.all fun c => c ≠ '\\' && c ≠ '\n' && c ≠ '\r'
  (String.join (cs.map fun
    | '\\' => "\\\\"
    | '\n' => "\\n"
    | '\r' => "\\r"
    | c => String.ofList [c]), ! isPlain)

/-- The line of a digest. -/
def Form.line (f : Form) (m : Method) (name digest : String) : String :=
  let (shown, escaped) := if f.stop = "\n" then escapedName name else (name, false)
  (if escaped then "\\" else "") ++
    (if f.tagged then m.tag ++ " (" ++ shown ++ ") = " ++ digest
      else digest ++ " " ++ (if f.binary then "*" else " ") ++ shown) ++ f.stop

/-- The name that an escaped one stands for. -/
def unescapedName : List Char → List Char
  | [] => []
  | '\\' :: 'n' :: cs => '\n' :: unescapedName cs
  | '\\' :: 'r' :: cs => '\r' :: unescapedName cs
  | '\\' :: '\\' :: cs => '\\' :: unescapedName cs
  | c :: cs => c :: unescapedName cs

/-- The name and the digest in a line of a list. -/
def ofLine? (m : Method) (line : String) : Option (String × String) :=
  let cs := line.toList.dropWhile fun c => c = ' ' || c = '\t'
  let isEscaped := cs.head? = some '\\'
  let cs := if isEscaped then cs.drop 1 else cs
  let name (cs : List Char) : String := String.ofList (if isEscaped then unescapedName cs else cs)
  let isDigest (ds : List Char) : Bool := ds.length = m.digits && ds.all fun c => (Text.hexValue? c).isSome
  let start := (m.tag ++ " (").toList
  if start.isPrefixOf cs then
    let rest := cs.drop start.length
    let digest := rest.drop (rest.length - m.digits)
    let middle := rest.take (rest.length - m.digits)
    let stop := ") = ".toList
    if isDigest digest && stop.isSuffixOf middle then
      some (name (middle.take (middle.length - stop.length)), String.ofList digest)
    else none
  else
    let digest := cs.take m.digits
    match cs.drop m.digits with
    | ' ' :: c :: rest =>
      if ! isDigest digest then none
      else if c = ' ' || c = '*' then some (name rest, String.ofList digest)
      else some (name (c :: rest), String.ofList digest)
    | _ => none

end Digest

namespace Exec

open Digest

/-- Writes the digests of files. -/
def listDigests (m : Method) (f : Form) (names : List String) : Exec Unit := do
  for name in inputNames names do
    for (_, text) in ← gather (blame 1) [name] do print (f.line m name (m.digest (bytesOf text)))

/-- What came of a list of digests that was checked. -/
structure CheckTally where
  lines : Nat
  improper : Nat
  unread : Nat
  mismatched : Nat
  matched : Nat

/-- Checks one line of a list. -/
def checkLine (m : Method) (a : Arguments) (shown : String) (t : CheckTally) (number : Nat) (line : String) : Exec CheckTally := do
  let isSilent := a.has '\x03'
  match ofLine? m line with
  | none =>
    if a.has 'w' then
      complain (shown ++ ": " ++ toString number ++ ": improperly formatted " ++ m.tag ++ " checksum line")
    return { t with improper := t.improper + 1 }
  | some (name, digest) =>
    let t := { t with lines := t.lines + 1 }
    let verdict (text : String) : Exec Unit := do
      if ! isSilent then print (Quotation.whereNeeded name ++ ": " ++ text ++ "\n")
    match ← openInput name with
    | .error e =>
      if a.has '\x05' && e.text = OsError.notFound.text then return t
      complain (Quotation.whereNeeded name ++ ": " ++ e.text)
      verdict "FAILED open or read"
      return { t with unread := t.unread + 1 }
    | .ok h =>
      match ← holding h (readToEnd h manyBlocks []) with
      | .error e =>
        complain (Quotation.whereNeeded name ++ ": " ++ e.text)
        verdict "FAILED open or read"
        return { t with unread := t.unread + 1 }
      | .ok text =>
        if m.digest (bytesOf text) = String.ofList (digest.toList.map Char.toLower) then
          if ! a.has '\x02' then verdict "OK"
          return { t with matched := t.matched + 1 }
        else
          verdict "FAILED"
          return { t with mismatched := t.mismatched + 1 }

/-- Checks a list of digests. -/
def checkList (m : Method) (a : Arguments) (name text : String) : Exec Unit := do
  let shown := if name = "-" then Quotation.always "standard input" else Quotation.whereNeeded name
  let mut t : CheckTally := ⟨0, 0, 0, 0, 0⟩
  let mut number := 0
  for line in splitLines text do
    number := number + 1
    if line.toList.head? ≠ some '#' then t ← checkLine m a shown t number line
  if t.lines = 0 then
    complain (shown ++ ": no properly formatted checksum lines found")
    failWith 1
  else
    let warn (n : Nat) (one many : String) : Exec Unit := do
      if n ≠ 0 && ! a.has '\x03' then complain ("WARNING: " ++ toString n ++ " " ++ if n = 1 then one else many)
    warn t.improper "line is improperly formatted" "lines are improperly formatted"
    warn t.unread "listed file could not be read" "listed files could not be read"
    warn t.mismatched "computed checksum did NOT match" "computed checksums did NOT match"
    if a.has '\x05' && t.matched = 0 && ! a.has '\x03' then complain (shown ++ ": no file was verified")
    if 0 < t.unread + t.mismatched || (a.has '\x04' && 0 < t.improper) || (a.has '\x05' && t.matched = 0) then failWith 1

/-- A program for digests by one method. -/
def digests (m : Method) (args : List String) : Exec Unit :=
  let names := [("binary", 'b'), ("check", 'c'), ("text", 't'), ("warn", 'w'), ("zero", 'z'), ("tag", '\x01'),
    ("quiet", '\x02'), ("status", '\x03'), ("strict", '\x04'), ("ignore-missing", '\x05')]
  withArguments { letters := "bctwz\x01\x02\x03\x04\x05", names } 1 args fun a => do
    let checking := a.has 'c'
    let onlyWhen := [('\x05', "ignore-missing"), ('\x03', "status"), ('w', "warn"), ('\x02', "quiet"), ('\x04', "strict")]
    if checking && a.has '\x01' then misuse "the --tag option is meaningless when verifying checksums" 1
    else match if checking then none else onlyWhen.find? fun (c, _) => a.has c with
    | some (_, name) => misuse ("the --" ++ name ++ " option is meaningful only when verifying checksums") 1
    | none =>
      if checking then
        for (name, text) in ← gather (blame 1) a.operands do checkList m a name text
      else listDigests m ⟨a.has '\x01', a.has 'b', if a.has 'z' then "\x00" else "\n"⟩ a.operands

/-! ## Sums -/

/-- Writes the sums of files. -/
def listSums (line : List Nat → String) (names : List String) : Exec Unit := do
  for name in inputNames names do
    for (_, text) in ← gather (blame 1) [name] do
      print (line (bytesOf text) ++ (if names.isEmpty then "" else " " ++ name) ++ "\n")

def cksum (args : List String) : Exec Unit :=
  let names := [("algorithm", 'a'), ("tag", '\x01'), ("untagged", '\x02'), ("zero", 'z')]
  withArguments { letters := "a:z\x01\x02", names } 1 args fun a => do
    let methods := [("md5", md5), ("sha1", sha1), ("sha224", sha224), ("sha256", sha256), ("sha384", sha384), ("sha512", sha512)]
    match a.get? 'a' with
    | none => sum a
    | some name =>
      match methods.lookup name with
      | some m => listDigests m ⟨! a.has '\x02', false, if a.has 'z' then "\x00" else "\n"⟩ a.operands
      | none => sum a
where
  sum (a : Arguments) : Exec Unit :=
    listSums (fun bytes => toString (cyclic bytes) ++ " " ++ toString bytes.length) a.operands

def sum (args : List String) : Exec Unit :=
  withArguments { letters := "rs", names := [("sysv", 's')] } 1 args fun a =>
    let isPlain := (a.flags.getLast?.map Prod.fst) = some 's'
    let blocks (bytes : List Nat) (size : Nat) : Nat := (bytes.length + size - 1) / size
    let padded (fill : Char) (width n : Nat) : String :=
      let s := toString n
      String.ofList (List.replicate (width - s.length) fill) ++ s
    listSums (fun bytes =>
      if isPlain then toString (plainSum bytes) ++ " " ++ toString (blocks bytes 512)
      else padded '0' 5 (turningSum bytes) ++ " " ++ padded ' ' 5 (blocks bytes 1024)) a.operands

/-! ## Bytes as letters -/

/-- The characters that stand for six bits each. -/
def sixBits : List Char :=
  "ABCDEFGHIJKLMNOPQRSTUVWXYZabcdefghijklmnopqrstuvwxyz0123456789+/".toList

/-- Three bytes at a time as four characters. -/
def lettersOf : List Nat → List Char
  | x :: y :: z :: rest =>
    letter (x / 4) :: letter (x % 4 * 16 + y / 16) :: letter (y % 16 * 4 + z / 64) :: letter (z % 64) :: lettersOf rest
  | [x, y] => [letter (x / 4), letter (x % 4 * 16 + y / 16), letter (y % 16 * 4), '=']
  | [x] => [letter (x / 4), letter (x % 4 * 16), '=', '=']
  | [] => []
where
  letter (n : Nat) : Char := sixBits[n]?.getD '='

/-- The six bits that a character stands for. -/
def sixBits? (c : Char) : Option Nat :=
  if 'A' ≤ c && c ≤ 'Z' then some (c.toNat - 65)
  else if 'a' ≤ c && c ≤ 'z' then some (c.toNat - 71)
  else if c.isDigit then some (c.toNat + 4)
  else if c = '+' then some 62
  else if c = '/' then some 63
  else none

/-- The bytes that four characters stand for, or the first of them that can be told; whether all is well. -/
def bytesOfGroup (group : List Char) : List Nat × Bool :=
  match group.map sixBits? with
  | some a :: some b :: rest =>
    let first := a * 4 + b / 16
    match rest, group.drop 2 with
    | [none, none], ['=', '='] => ([first], true)
    | some c :: last, _ :: mark =>
      let second := b % 16 * 16 + c / 4
      match last, mark with
      | [some d], _ => ([first, second, c % 4 * 64 + d], true)
      | [none], ['='] => ([first, second], true)
      | _, _ => ([first, second], false)
    | _, _ => ([first], false)
  | _ => ([], false)

/-- The bytes that characters stand for, as far as they make sense, and whether they do to the end. -/
def bytesOfGroups : List (List Char) → List Nat × Bool
  | [] => ([], true)
  | group :: rest =>
    let (bytes, fine) := bytesOfGroup group
    if fine then
      let (more, fine) := bytesOfGroups rest
      (bytes ++ more, fine)
    else (bytes, false)

/-- A text broken into lines of a width. -/
def wrapped (width : Nat) (cs : List Char) : String :=
  if width = 0 then String.ofList cs
  else joinLines ((pieces width cs.length cs).map String.ofList)

def base64 (args : List String) : Exec Unit :=
  let names := [("decode", 'd'), ("ignore-garbage", 'i'), ("wrap", 'w')]
  withArguments { letters := "diw:", names } 1 args fun a => do
    match (a.get? 'w').getD "76" |>.toNat?, a.operands with
    | none, _ =>
      complain ("invalid wrap size: " ++ Quotation.always ((a.get? 'w').getD ""))
      status 1
    | some _, _ :: extra :: _ => misuse ("extra operand " ++ Quotation.always extra) 1
    | some width, operands =>
      for (_, text) in ← gather (blame 1) operands do
        if a.has 'd' then
          let cs := text.toList.filter fun c => c ≠ '\n' && (! a.has 'i' || c = '=' || (sixBits? c).isSome)
          let (bytes, fine) := bytesOfGroups (pieces 4 cs.length cs)
          print (String.ofList (bytes.map Char.ofNat))
          if ! fine then
            complain "invalid input"
            status 1
        else print (wrapped width (lettersOf (bytesOf text)))

end Exec

end Flowline.Shell
