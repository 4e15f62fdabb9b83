import Flowline.Text

/-!
# Permissions

The twelve bits that say who may do what with a file: as numbers, as letters, and as changes such as `u+x`.
-/

namespace Flowline.Shell.Permissions

def all : Nat := 0o7777

/-- A number in octal digits, at least four. -/
def octal (n : Nat) : String :=
  let digits := Nat.toDigits 8 n
  String.ofList (List.replicate (4 - digits.length) '0' ++ digits)

/-- The number that octal digits denote. -/
def octal? (s : String) : Option Nat :=
  let cs := s.toList
  if cs.isEmpty || cs.any fun c => c < '0' || '7' < c then none
  else some (cs.foldl (fun n c => 8 * n + (c.toNat - '0'.toNat)) 0)

/-- Three bits as letters, without those that are not set. -/
def rights (n : Nat) : String :=
  (if Nat.land n 4 ≠ 0 then "r" else "") ++ (if Nat.land n 2 ≠ 0 then "w" else "") ++
    (if Nat.land n 1 ≠ 0 then "x" else "")

/-- All bits as nine letters. -/
def letters (n : Nat) : String :=
  let has (bit : Nat) : Bool := Nat.land n bit ≠ 0
  let three (shift special : Nat) (both alone : Char) : List Char :=
    let bits := n / Nat.pow 2 shift
    [if Nat.land bits 4 ≠ 0 then 'r' else '-', if Nat.land bits 2 ≠ 0 then 'w' else '-',
      if Nat.land bits 1 ≠ 0 then if has special then both else 'x' else if has special then alone else '-']
  String.ofList (three 6 0o4000 's' 'S' ++ three 3 0o2000 's' 'S' ++ three 0 0o1000 't' 'T')

/-! ## Changes -/

/-- The bits that belong to some of the letters `ugoa`. -/
def bitsOf (who : List Char) : Nat :=
  who.foldl (fun n c => Nat.lor n (match c with
    | 'u' => 0o4700
    | 'g' => 0o2070
    | 'o' => 0o1007
    | _ => all)) 0

/-- The bits that a letter stands for in all places. -/
def bitsFor (mode : Nat) (isDirectory : Bool) (c : Char) : Option Nat :=
  let copied (n : Nat) : Nat := 0o111 * Nat.land n 7
  match c with
  | 'r' => some 0o444
  | 'w' => some 0o222
  | 'x' => some 0o111
  | 'X' => some (if isDirectory || Nat.land mode 0o111 ≠ 0 then 0o111 else 0)
  | 's' => some 0o6000
  | 't' => some 0o1000
  | 'u' => some (copied (mode / 64))
  | 'g' => some (copied (mode / 8))
  | 'o' => some (copied mode)
  | _ => none

/-- The bits that are not in a number. -/
def without (n : Nat) : Nat := Nat.xor all (Nat.land n all)

/-- The permissions after the operators and letters behind some letters `ugoa`; without such letters, bits of
the `mask` are left alone. -/
def applyOperators (mask : Nat) (isDirectory : Bool) (who : List Char) : Nat → Nat → List Char → Option Nat
  | 0, _, _ => none
  | _, mode, [] => some mode
  | fuel + 1, mode, op :: cs =>
    if op ≠ '+' && op ≠ '-' && op ≠ '=' then none
    else
      let isOperator (c : Char) : Bool := c = '+' || c = '-' || c = '='
      let letters := cs.takeWhile fun c => ! isOperator c
      match letters.mapM (bitsFor mode isDirectory) with
      | none => none
      | some bits =>
        let affected := if who.isEmpty then without mask else bitsOf who
        let value := Nat.land (bits.foldl Nat.lor 0) affected
        let kept := if who.isEmpty then 0 else without (bitsOf who)
        let mode := match op with
          | '+' => Nat.lor mode value
          | '-' => Nat.land mode (without value)
          | _ => Nat.lor (Nat.land mode kept) value
        applyOperators mask isDirectory who fuel mode (cs.drop letters.length)

/-- What a text such as `u+rw,g=x` makes of permissions. -/
def apply (mask : Nat) (isDirectory : Bool) (mode : Nat) (s : String) : Option Nat :=
  (Text.split ',' s).foldl (fun mode? clause => mode?.bind fun mode =>
    let who := clause.toList.takeWhile "ugoa".toList.contains
    let rest := clause.toList.drop who.length
    if rest.isEmpty then none else applyOperators mask isDirectory who (rest.length + 1) mode rest) (some mode)

end Flowline.Shell.Permissions
