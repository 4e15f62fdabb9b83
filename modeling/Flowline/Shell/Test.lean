import Flowline.Shell.Arithmetic
import Flowline.Shell.Bytes
import Flowline.Shell.System

/-!
# Conditions and expressions

What `test` decides about texts, numbers and files, and what `expr` computes.
-/

namespace Flowline.Shell

/-! ## Conditions -/

namespace Test

inductive Fault
  | illegalNumber (text : String)
  | unexpectedOperator (text : String)
  | missingParenthesis
  | argumentExpected (operator : String)
  /-- Nested too deep. -/
  | tooDeep

def Fault.message : Fault → String
  | illegalNumber text => "Illegal number: " ++ text
  | unexpectedOperator text => text ++ ": unexpected operator"
  | missingParenthesis => "closing paren expected"
  | argumentExpected operator => operator ++ ": argument expected"
  | tooDeep => "expression too deep"

/-- What a condition may ask about. -/
structure Scene where
  files : Files
  directory : String
  handle? : Nat → Option Handle

/-- The node that a path leads to, if there is something. -/
def Scene.lookup? (scene : Scene) (path : String) : Option Node :=
  (scene.files.lookup? scene.directory path).filter fun n => match n.content with
    | .descriptor fd => (scene.handle? fd).isSome
    | _ => true

def number (s : String) : Except Fault Int :=
  match integerOf? ((s.toList.dropWhile isSpace).reverse.dropWhile isSpace).reverse with
  | some n => if Arithmetic.wrap n = n then .ok n else .error (.illegalNumber s)
  | none => .error (.illegalNumber s)

def unaryOperators : List String := ["-n", "-z", "-e", "-f", "-d", "-r", "-w", "-x", "-s", "-h", "-L", "-p",
  "-S", "-b", "-c", "-t", "-g", "-k", "-u", "-O", "-G"]

def binaryOperators : List String := ["=", "!=", "<", ">", "-eq", "-ne", "-lt", "-le", "-gt", "-ge", "-nt",
  "-ot", "-ef"]

def unary (scene : Scene) (op arg : String) : Except Fault Bool := do
  let node? := scene.lookup? arg
  let isKind (p : Content → Bool) : Bool := node?.any fun n => p n.content
  let hasMode (mode : Nat) : Bool := node?.any fun n => Nat.land n.mode mode ≠ 0
  match op with
  | "-n" => return arg ≠ ""
  | "-z" => return arg = ""
  | "-f" => return isKind fun
      | .text _ => true
      | .program _ => true
      | _ => false
  | "-d" => return node?.any Node.isDirectory
  | "-x" => return node?.any Node.isExecutable
  | "-s" => return isKind fun
      | .text s => s ≠ ""
      | .program _ => true
      | .directory => true
      | _ => false
  | "-c" => return node?.any fun n => n.device?.isSome
  | "-h" | "-L" =>
    match scene.files.find false scene.directory arg with
    | .ok name =>
      return (scene.files.node? name).any fun n => match n.content with
        | .link _ => true
        | _ => false
    | .error _ => return false
  | "-p" => return isKind fun
      | .descriptor fd => match scene.handle? fd with
        | some (.file _) => false
        | h => h.isSome
      | .fifo => true
      | _ => false
  | "-t" =>
    let _ ← number arg
    return false
  | "-g" => return hasMode 0o2000
  | "-u" => return hasMode 0o4000
  | "-k" => return hasMode 0o1000
  | "-S" | "-b" => return false
  | _ => return node?.isSome

/-- What is known of two files. -/
def compareFiles (scene : Scene) (op a b : String) : Bool :=
  let find (path : String) : Option (Nat × Node) :=
    match scene.files.find true scene.directory path with
    | .ok name => (scene.files.number? name).bind fun n => (scene.files.nodes[n]?).map (n, ·)
    | .error _ => none
  match op, find a, find b with
  | "-ef", some (m, _), some (n, _) => m = n
  | "-nt", some (_, x), some (_, y) => y.time < x.time
  | "-ot", some (_, x), some (_, y) => x.time < y.time
  | _, _, _ => false

def binary (scene : Scene) (op a b : String) : Except Fault Bool := do
  match op with
  | "=" => return a = b
  | "!=" => return a ≠ b
  | "<" => return a < b
  | ">" => return b < a
  | "-eq" => return (← number a) = (← number b)
  | "-ne" => return (← number a) ≠ (← number b)
  | "-lt" => return (← number a) < (← number b)
  | "-le" => return (← number a) ≤ (← number b)
  | "-gt" => return (← number a) > (← number b)
  | "-ge" => return (← number a) ≥ (← number b)
  | op => return compareFiles scene op a b

/-! ## Tokens -/

inductive Token
  | operand
  | unary (op : String)
  | binary (op : String)
  | or
  | and
  | not
  | opened
  | closed
  | none

/-- Whether an operator that these words follow stands for itself. -/
def standsAlone : List String → Bool
  | [] => true
  | [_] => false
  | op :: _ => binaryOperators.contains op

/-- What the first of some words is. -/
def token : List String → Token
  | [] => .none
  | s :: rest =>
    if unaryOperators.contains s then if standsAlone rest then .operand else .unary s
    else if binaryOperators.contains s then .binary s
    else match s with
      | "-o" => .or
      | "-a" => .and
      | "!" => .not
      | "(" => if rest.isEmpty then .operand else .opened
      | ")" => .closed
      | _ => .operand

/-! ## Values

Each function is given the kind of the first word and the words; besides the value it gives the words from
the last one that it has used. -/

mutual

/-- Conditions joined by `-o`. -/
def disjunction (scene : Scene) : Nat → Token → List String → Except Fault (Bool × List String)
  | 0, _, _ => .error .tooDeep
  | fuel + 1, first, words => do
    let (a, words) ← conjunction scene fuel first words
    match token (words.drop 1) with
    | .or =>
      let words := words.drop 2
      let (b, words) ← disjunction scene fuel (token words) words
      return (a || b, words)
    | _ => return (a, words)

/-- Conditions joined by `-a`. -/
def conjunction (scene : Scene) : Nat → Token → List String → Except Fault (Bool × List String)
  | 0, _, _ => .error .tooDeep
  | fuel + 1, first, words => do
    let (a, words) ← negation scene fuel first words
    match token (words.drop 1) with
    | .and =>
      let words := words.drop 2
      let (b, words) ← conjunction scene fuel (token words) words
      return (a && b, words)
    | _ => return (a, words)

def negation (scene : Scene) : Nat → Token → List String → Except Fault (Bool × List String)
  | 0, _, _ => .error .tooDeep
  | fuel + 1, first, words => do
    match first with
    | .not =>
      let (a, words) ← match token (words.drop 1) with
        | .none => negation scene fuel .none words
        | next => negation scene fuel next (words.drop 1)
      return (! a, words)
    | first => primary scene fuel first words

def primary (scene : Scene) : Nat → Token → List String → Except Fault (Bool × List String)
  | 0, _, _ => .error .tooDeep
  | fuel + 1, first, words => do
    match first with
    | .none => return (false, words)
    | .opened =>
      let words := words.drop 1
      match token words with
      | .closed => return (false, words)
      | next =>
        let (a, words) ← disjunction scene fuel next words
        match token (words.drop 1) with
        | .closed => return (a, words.drop 1)
        | _ => .error .missingParenthesis
    | .unary op =>
      match words.drop 1 with
      | [] => .error (.argumentExpected op)
      | arg :: rest => return (← unary scene op arg, arg :: rest)
    | _ =>
      match token (words.drop 1), words with
      | .binary op, a :: _ :: b :: rest => return (← binary scene op a b, b :: rest)
      | .binary op, _ => .error (.argumentExpected op)
      | _, words => return (words.head?.any (· ≠ ""), words)

end

/-- The value of a whole condition, whose first word is of a kind. -/
def whole (scene : Scene) (first : Token) (words : List String) : Except Fault Bool := do
  let (a, rest) ← disjunction scene (8 * words.length + 16) first words
  match rest with
  | last :: _ :: _ => .error (.unexpectedOperator last)
  | _ => return a

/-- The value of a condition of which a leading `!` may have been taken off.  Of three or four words, the
parentheses around all of them and a `!` in front are taken off before anything else is looked at; however often
that happens, the value is turned round once.  An operator between two words is taken for one, whatever they
are. -/
def settle (scene : Scene) (negated : Bool) : List String → Except Fault Bool
  | [] => .ok negated
  | first :: args =>
    let value (first : Token) (words : List String) : Except Fault Bool := (whole scene first words).map (· ^^ negated)
    let isShort := args.length = 2 || args.length = 3
    if args.length = 2 && args.head?.any binaryOperators.contains then value .operand (first :: args)
    else if isShort && first = "(" && args.getLast? = some ")" then value (token args.dropLast) args.dropLast
    else if isShort && first = "!" then settle scene true args
    else value (token (first :: args)) (first :: args)

/-- Whether a condition holds. -/
def holds (scene : Scene) (args : List String) : Except Fault Bool := settle scene false args

end Test

end Flowline.Shell
