import Flowline.Shell.Variables

/-!
# Arguments of the shell's own commands

Options as letters after a minus sign, and texts written so that they can be read again.
-/

namespace Flowline.Shell

/-! ## Quoting -/

/-- Some characters between single quotes; runs of single quotes stand between double quotes. -/
def quotedRuns : Nat → List Char → String
  | 0, _ => ""
  | fuel + 1, cs =>
    let plain := cs.takeWhile (· ≠ '\'')
    let rest := cs.drop plain.length
    let quotes := rest.takeWhile (· = '\'')
    let after := rest.drop quotes.length
    "'" ++ String.ofList plain ++ "'" ++
      (if quotes.isEmpty then "" else "\"" ++ String.ofList quotes ++ "\"") ++
      (if after.isEmpty then "" else quotedRuns fuel after)

/-- A text in quotes. -/
def inQuotes (s : String) : String := quotedRuns (s.length + 1) s.toList

namespace Exec

/-! ## Options -/

/-- Whether a letter is among some options, and whether it has an argument. -/
def optionKind? (spec : List Char) (c : Char) : Option Bool :=
  match spec with
  | [] => none
  | d :: ':' :: rest => if c = d then some true else optionKind? rest c
  | d :: rest => if c = d then some false else optionKind? rest c

/-- The options in the letters of one argument, and what is left of the others. -/
def optionLetter (spec : List Char) : List Char → List String → Exec (List (Char × String) × List String)
  | [], args => return ([], args)
  | c :: cs, args => do
    match optionKind? spec c with
    | none => abort ("Illegal option -" ++ String.ofList [c])
    | some false =>
      let (rest, args) ← optionLetter spec cs args
      return ((c, "") :: rest, args)
    | some true =>
      if ! cs.isEmpty then return ([(c, String.ofList cs)], args)
      match args with
      | a :: args => return ([(c, a)], args)
      | [] => abort ("No arg for -" ++ String.ofList [c] ++ " option")

/-- The options that come first among some arguments, and the other arguments. -/
def options (spec : String) : Nat → List String → Exec (List (Char × String) × List String)
  | 0, args => return ([], args)
  | _, [] => return ([], [])
  | fuel + 1, a :: args => do
    match a.toList with
    | ['-', '-'] => return ([], args)
    | '-' :: c :: cs =>
      let (found, args) ← optionLetter spec.toList (c :: cs) args
      let (more, args) ← options spec fuel args
      return (found ++ more, args)
    | _ => return ([], a :: args)

/-- The options that come first among some arguments, and the other arguments. -/
def splitOptions (spec : String) (args : List String) : Exec (List (Char × String) × List String) :=
  options spec (args.length + 1) args

end Exec

end Flowline.Shell
