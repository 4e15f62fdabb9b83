import Flowline.Shell.Days
import Flowline.Shell.Permissions
import Flowline.Shell.Utility.Count
import Flowline.Shell.Utility.Input

/-!
# Trees of files

Programs that make, remove, copy and move files, directories and links, and change what is known of them.
-/

namespace Flowline.Shell

/-! ## Paths as texts -/

/-- The last part of a path, without an ending. -/
def baseName (path ending : String) : String :=
  let s := Files.dropSlashes path
  let name := if s = "/" then "/" else ((Text.split '/' s).getLast?).getD s
  if ending ≠ "" && name ≠ ending && ending.toList.reverse.isPrefixOf name.toList.reverse then
    String.ofList (name.toList.take (name.length - ending.length))
  else name

/-- The part of a path before its last part. -/
def dirName (path : String) : String :=
  let s := Files.dropSlashes path
  if s = "/" then "/"
  else
    match (Text.split '/' s).dropLast with
    | [] => "."
    | parts => Files.dropSlashes (if parts.all (· = "") then "/" else String.intercalate "/" parts)

/-- A path below another. -/
def below (directory name : String) : String :=
  if directory.toList.getLast? = some '/' then directory ++ name else directory ++ "/" ++ name

def Content.isLink : Content → Bool
  | .link _ => true
  | _ => false

namespace Exec

/-- The canonical name of something that exists. -/
def locate (follow : Bool) (path : String) : Exec (Except OsError String) := do
  let p ← get
  let fs ← files
  match fs.find follow p.directory path with
  | .error e => return .error e
  | .ok name =>
    if path.toList.getLast? = some '/' then
      match fs.find true p.directory path with
      | .error e => return .error e
      | .ok full => return if fs.isDirectory full then .ok full else .error .notDirectory
    else return .ok name

/-- The canonical name of something that may be made. -/
def locateNew (path : String) : Exec (Except OsError String) := do
  let fs ← files
  match fs.locate false (← get).directory (Files.dropSlashes path) with
  | .error e => return .error e
  | .ok name => return if fs.isClosed name then .error .notFound else .ok name

def nodeAt? (follow : Bool) (path : String) : Exec (Option Node) := do
  match ← locate follow path with
  | .ok name => return (← files).node? name
  | .error _ => return none

def isDirectoryAt (path : String) : Exec Bool := do return (← nodeAt? true path).any Node.isDirectory

/-- Complains that something cannot be done with a file. -/
def cannot (what name : String) (e : OsError) : Exec Unit := do
  complain (what ++ " " ++ Quotation.always name ++ ": " ++ e.text)
  failWith 1

def insertNode (path : String) (content : Content) (mode : Nat) : Exec Unit := do
  let w ← world
  changeFiles (·.insert path ⟨content, mode, w.clock, 0⟩)

/-! ## Names -/

def basename (args : List String) : Exec Unit :=
  let names := [("multiple", 'a'), ("suffix", 's'), ("zero", 'z')]
  withArguments { letters := "as:z", names, inFront := true } 1 args fun a => do
    let stop := if a.has 'z' then "\x00" else "\n"
    match a.operands with
    | [] => misuse "missing operand" 1
    | operands =>
      if a.has 'a' || a.has 's' then
        for x in operands do print (baseName x ((a.get? 's').getD "") ++ stop)
      else
        match operands with
        | _ :: _ :: x :: _ => misuse ("extra operand " ++ Quotation.always x) 1
        | x :: rest => print (baseName x (rest.headD "") ++ stop)
        | [] => return

def dirname (args : List String) : Exec Unit :=
  withArguments { letters := "z", names := [("zero", 'z')], inFront := true } 1 args fun a => do
    match a.operands with
    | [] => misuse "missing operand" 1
    | operands => for x in operands do print (dirName x ++ if a.has 'z' then "\x00" else "\n")

/-! ## Making files -/

/-- The time that a text such as `202001312359` or `2020-01-31 23:59` denotes, in milliseconds. -/
def timeOf? (text : String) : Option Nat :=
  let cs := text.toList
  let digits := cs.filter Char.isDigit
  if (digits.length = 12 || digits.length = 8 || digits.length = 14) && cs.all fun c => c.isDigit || " -:.TZ".toList.contains c then
    let number (start size : Nat) : Nat := Text.digitsValue ((digits.drop start).take size)
    let days := daysOf (number 0 4) (number 4 2) (number 6 2)
    some (1000 * (((days * 24 + number 8 2) * 60 + number 10 2) * 60 + number 12 2))
  else none

def touch (args : List String) : Exec Unit :=
  let names := [("no-create", 'c'), ("date", 'd'), ("reference", 'r'), ("time", '\x01')]
  withArguments { letters := "acd:fhmr:t:\x01:", names } 1 args fun a => do
    let time ← match (a.get? 't').or (a.get? 'd') with
      | some text => pure (timeOf? text)
      | none => match a.get? 'r' with
        | some name => do pure ((← nodeAt? true name).map Node.time)
        | none => pure none
    if a.operands.isEmpty then misuse "missing file operand" 1
    for name in a.operands do
      match ← locate true name with
      | .ok full =>
        let w ← world
        match w.files.number? full with
        | some n => changeFiles (·.modify n fun x => { x with time := time.getD w.clock })
        | none => pure ()
      | .error .notFound =>
        if ! a.has 'c' then
          match ← openFile name { Access.write with truncate := false } with
          | .ok (.file n) =>
            match time, (← world).opened[n]? with
            | some t, some o => changeFiles (·.modify o.node fun x => { x with time := t })
            | _, _ => pure ()
          | .ok _ => pure ()
          | .error e => cannot "cannot touch" name e
      | .error e => cannot "cannot touch" name e

/-- Makes a directory and all that are missing above it. -/
def makeParents (verbose : Bool) (mode : Nat) : Nat → String → Exec Bool
  | 0, _ => return false
  | fuel + 1, path => do
    match ← locate true path with
    | .ok full =>
      if (← files).isDirectory full then return true
      cannot "cannot create directory" path .alreadyThere
      return false
    | .error _ =>
      let upper := dirName path
      let fine ← if upper = path then pure true
        else do
          match ← locate true upper with
          | .ok full =>
            if (← files).isDirectory full then pure true
            else
              cannot "cannot create directory" (if (baseName path "") = "" then path else upper) .notDirectory
              pure false
          | .error .notDirectory =>
            makeParents verbose mode fuel upper
          | .error _ => makeParents verbose mode fuel upper
      if ! fine then return false
      match ← locateNew path with
      | .error e =>
        cannot "cannot create directory" path e
        return false
      | .ok full =>
        insertNode full .directory mode
        if verbose then print ((← get).name ++ ": created directory " ++ Quotation.always path ++ "\n")
        return true

def mkdir (args : List String) : Exec Unit :=
  let names := [("mode", 'm'), ("parents", 'p'), ("verbose", 'v')]
  withArguments { letters := "pm:v", names } 1 args fun a => do
    let p ← get
    let usual := newMode p 0o777
    let mode? := match a.get? 'm' with
      | none => some usual
      | some m => (Permissions.octal? m).or (Permissions.apply p.umask true 0o777 m)
    match mode? with
    | none =>
      complain ("invalid mode " ++ Quotation.always ((a.get? 'm').getD ""))
      status 1
    | some mode =>
      if a.operands.isEmpty then misuse "missing operand" 1
      for name in a.operands do
        if a.has 'p' && name ≠ "" then
          if ← makeParents (a.has 'v') usual (name.length + 2) name then
            if a.has 'm' then
              match ← locate true name with
              | .ok full => changeFiles fun fs => match fs.number? full with
                  | some n => fs.modify n fun x => { x with mode }
                  | none => fs
              | .error _ => pure ()
        else
          match ← locateNew name with
          | .error e => cannot "cannot create directory" name e
          | .ok full =>
            if (← files).names.has full then cannot "cannot create directory" name .alreadyThere
            else
              insertNode full .directory mode
              if a.has 'v' then print ((← get).name ++ ": created directory " ++ Quotation.always name ++ "\n")

def mkfifo (args : List String) : Exec Unit :=
  withArguments { letters := "m:", names := [("mode", 'm')] } 1 args fun a => do
    let p ← get
    let mode? := match a.get? 'm' with
      | none => some (newMode p 0o666)
      | some m => (Permissions.octal? m).or (Permissions.apply p.umask false 0o666 m)
    match mode? with
    | none =>
      complain "invalid mode"
      status 1
    | some mode =>
      if a.operands.isEmpty then misuse "missing operand" 1
      for name in a.operands do
        match ← locateNew name with
        | .error e => cannot "cannot create fifo" name e
        | .ok full =>
          if (← files).names.has full then cannot "cannot create fifo" name .alreadyThere
          else insertNode full .fifo mode

/-- Makes files with names that nobody uses. -/
def mktemp (args : List String) : Exec Unit :=
  let names := [("directory", 'd'), ("dry-run", 'u'), ("quiet", 'q'), ("tmpdir", 'p'), ("suffix", '\x01')]
  withArguments { letters := "duqp:t\x01:", names } 1 args fun a => do
    let template := a.operands.headD "tmp.XXXXXXXXXX"
    let inTmp := a.operands.isEmpty || a.has 't' || a.has 'p'
    let place := (a.get? 'p').getD (((← get).value? "TMPDIR").getD "/tmp")
    let path := if inTmp then below place template else template
    let marks := (template.toList.reverse.takeWhile (· = 'X')).length
    if marks < 3 then
      complain ("too few X's in template " ++ Quotation.always template)
      status 1
    else
      let count := (← world).files.nodes.size
      let letters := "abcdefghijklmnopqrstuvwxyzABCDEFGHIJKLMNOPQRSTUVWXYZ0123456789".toList
      let random := (List.range marks).map fun i => letters.getD ((count * 7919 + 104729 * (i + 1) * (i + count)) % 62) 'x'
      let name := String.ofList (path.toList.take (path.length - marks) ++ random)
      match ← locateNew name with
      | .error e =>
        complain ("failed to create " ++ (if a.has 'd' then "directory" else "file") ++ " via template " ++
          Quotation.always path ++ ": " ++ e.text)
        status 1
      | .ok full =>
        if ! a.has 'u' then
          if a.has 'd' then insertNode full .directory 0o700 else insertNode full (.text "") 0o600
        print (name ++ "\n")

def truncate (args : List String) : Exec Unit :=
  withArguments { letters := "cs:r:o", names := [("no-create", 'c'), ("size", 's'), ("reference", 'r')] } 1 args fun a => do
    match a.get? 's' with
    | none => misuse "you must specify either '--size' or '--reference'" 1
    | some text =>
      let sign := text.toList.head?.filter "+-<>/%".toList.contains
      match Count.parse (if sign.isSome then String.ofList (text.toList.drop 1) else text) with
      | .error _ =>
        complain ("Invalid number: " ++ Quotation.always text)
        status 1
      | .ok n =>
        if a.operands.isEmpty then misuse "missing file operand" 1
        for name in a.operands do
          match ← openFile name { Access.write with truncate := false, create := ! a.has 'c' } with
          | .error e => if ! (a.has 'c' && e = .notFound) then
              complain ("cannot open " ++ Quotation.always name ++ " for writing: " ++ e.text)
              failWith 1
          | .ok (.file f) =>
            let w ← world
            match (w.opened[f]?) with
            | some o =>
              let old := (((w.files.nodes[o.node]?).bind Node.text?).getD "").toList
              let size := match sign with
                | some '+' => old.length + n
                | some '-' => old.length - n
                | some '<' => min old.length n
                | some '>' => max old.length n
                | _ => n
              let text := String.ofList (old.take size ++ List.replicate (size - old.length) '\x00')
              changeFiles (·.setContent o.node w.clock (.text text))
            | none => pure ()
          | .ok _ => pure ()

/-! ## Removing -/

def rmdir (args : List String) : Exec Unit :=
  let names := [("parents", 'p'), ("verbose", 'v'), ("ignore-fail-on-non-empty", '\x01')]
  withArguments { letters := "pv\x01", names } 1 args fun a => do
    let rec remove : Nat → String → Exec Unit
      | 0, _ => return
      | fuel + 1, name => do
        if a.has 'v' then print ((← get).name ++ ": removing directory, " ++ Quotation.always name ++ "\n")
        match ← locate false name with
        | .error e => cannot "failed to remove" name e
        | .ok full =>
          let fs ← files
          if ! fs.isDirectory full then cannot "failed to remove" name .notDirectory
          else if ! (fs.entries full).isEmpty then
            if ! a.has '\x01' then cannot "failed to remove" name .notEmpty
          else if Files.lastPart name = "." then cannot "failed to remove" name .invalidArgument
          else
            changeFiles (·.remove full)
            let upper := dirName name
            if a.has 'p' && upper ≠ "." && upper ≠ "/" then remove fuel upper
    if a.operands.isEmpty then misuse "missing operand" 1
    for name in a.operands do remove (if a.has 'p' then name.length + 1 else 1) name

/-- Tells of all that is removed with a path, what is below it first. -/
def tellRemoved : Nat → String → String → Exec Unit
  | 0, _, _ => return
  | fuel + 1, path, full => do
    let fs ← files
    if fs.isDirectory full then
      for x in fs.entries full do tellRemoved fuel (below path x) (below full x)
      print ("removed directory " ++ Quotation.always path ++ "\n")
    else print ("removed " ++ Quotation.always path ++ "\n")

def rm (args : List String) : Exec Unit :=
  let names := [("force", 'f'), ("recursive", 'r'), ("dir", 'd'), ("verbose", 'v'), ("no-preserve-root", '\x01'),
    ("preserve-root", '\x02'), ("one-file-system", '\x03')]
  withArguments { letters := "firRdvI\x01\x02\x03", names } 1 args fun a => do
    let recursive := a.has 'r' || a.has 'R'
    if a.operands.isEmpty && ! a.has 'f' then misuse "missing operand" 1
    for name in a.operands do
      let last := Files.lastPart (Files.dropSlashes name)
      if recursive && (last = "." || last = "..") then
        complain ("refusing to remove '.' or '..' directory: skipping " ++ Quotation.always name)
        failWith 1
      else
        match ← locate false name with
        | .error e =>
          if ! (a.has 'f' && (e = .notFound || e = .notDirectory)) then cannot "cannot remove" name e
        | .ok full =>
          let fs ← files
          if recursive && full = "/" then
            complain "it is dangerous to operate recursively on '/'"
            complain "use --no-preserve-root to override this failsafe"
            failWith 1
          else if fs.isDirectory full && ! recursive then
            if a.has 'd' then
              if (fs.entries full).isEmpty then
                changeFiles (·.remove full)
                if a.has 'v' then print ("removed directory " ++ Quotation.always name ++ "\n")
              else cannot "cannot remove" name .notEmpty
            else cannot "cannot remove" name .isDirectory
          else
            if a.has 'v' then tellRemoved (fs.names.length + 1) name full
            changeFiles (·.remove full)

def unlink (args : List String) : Exec Unit :=
  withArguments { letters := "" } 1 args fun a => do
    match a.operands with
    | [] => misuse "missing operand" 1
    | [name] =>
      match ← locate false name with
      | .error e => cannot "cannot unlink" name e
      | .ok full =>
        if (← files).isDirectory full then cannot "cannot unlink" name .isDirectory
        else changeFiles (·.remove full)
    | _ :: x :: _ => misuse ("extra operand " ++ Quotation.always x) 1

/-! ## Copying and moving -/

/-- The sources and the target of a transfer: the last name, or the one that an option gives. -/
def transferOf (a : Arguments) : Exec (Option (List String × String × Bool)) := do
  match a.get? 't' with
  | some target =>
    if a.operands.isEmpty then
      misuse "missing file operand" 1
      return none
    if ← isDirectoryAt target then return some (a.operands, target, true)
    complain ("target directory " ++ Quotation.always target ++ ": " ++
      (if (← nodeAt? true target).isSome then OsError.notDirectory else OsError.notFound).text)
    status 1
    return none
  | none =>
    match a.operands with
    | [] =>
      misuse "missing file operand" 1
      return none
    | [x] =>
      misuse ("missing destination file operand after " ++ Quotation.always x) 1
      return none
    | operands =>
      let target := operands.getLastD ""
      let sources := operands.dropLast
      let isDirectory ← if a.has 'T' then pure false else isDirectoryAt target
      if ! isDirectory && 1 < sources.length then
        let e := if (← nodeAt? true target).isSome then OsError.notDirectory else OsError.notFound
        complain ("target " ++ Quotation.always target ++ ": " ++ e.text)
        status 1
        return none
      return some (sources, target, isDirectory)

/-- How files are copied. -/
structure Copying where
  recursive : Bool
  followLinks : Bool
  keepMode : Bool
  verbose : Bool
  noClobber : Bool
  hardLinks : Bool
  softLinks : Bool

/-- Copies what is at a path to another, whose canonical name is given if there is something. -/
def copyOne (c : Copying) : Nat → String → String → Exec Unit
  | 0, _, _ => return
  | fuel + 1, source, target => do
    match ← locate c.followLinks source with
    | .error e => cannot "cannot stat" source e
    | .ok full =>
      let w ← world
      let p ← get
      match w.files.node? full, w.files.number? full with
      | some n, some number =>
        let existing ← locate true target
        let old := match existing with
          | .ok name => w.files.node? name
          | .error _ => none
        let tell : Exec Unit := do
          if c.verbose then print (Quotation.always source ++ " -> " ++ Quotation.always target ++ "\n")
        if n.isDirectory then
          if ! c.recursive then
            complain ("-r not specified; omitting directory " ++ Quotation.always source)
            failWith 1
          else
            match ← locateNew target with
            | .error e => cannot "cannot create directory" target e
            | .ok path =>
              if Files.isWithin path full then
                complain ("cannot copy a directory, " ++ Quotation.always source ++ ", into itself, " ++
                  Quotation.always target)
                failWith 1
              else if old.any fun o => ! o.isDirectory then
                complain ("cannot overwrite non-directory " ++ Quotation.always target ++ " with directory " ++
                  Quotation.always source)
                failWith 1
              else
                if old.isNone then
                  insertNode path .directory (if c.keepMode then n.mode else newMode p n.mode)
                  tell
                for x in w.files.entries full do
                  copyOne { c with followLinks := false } fuel (below source x) (below target x)
        else
          if old.any Node.isDirectory then
            complain ("cannot overwrite directory " ++ Quotation.always target ++ " with non-directory " ++
              Quotation.always source)
            failWith 1
          else if existing.toOption.any fun name => w.files.number? name = some number then
            complain (Quotation.always source ++ " and " ++ Quotation.always target ++ " are the same file")
            failWith 1
          else if c.noClobber && old.isSome then return
          else if target.toList.getLast? = some '/' then
            cannot "cannot create regular file" target .notDirectory
          else
            match ← locateNew target with
            | .error e => cannot "cannot create regular file" target e
            | .ok path =>
              if c.softLinks then insertNode path (.link source) 0o777
              else if c.hardLinks then changeFiles (·.addName path number)
              else if n.content.isLink then
                insertNode path n.content n.mode
              else
                let text := n.text?.getD ""
                match existing with
                | .ok name =>
                  match w.files.number? name with
                  | some m =>
                    if old.any fun o => o.device? = some .full && text ≠ "" then
                      cannot "error writing" target .noSpace
                      return
                    if old.all fun o => o.device?.isNone then changeFiles (·.setContent m w.clock (.text text))
                    if c.keepMode then changeFiles (·.modify m fun x => { x with mode := n.mode, time := n.time })
                  | none => pure ()
                | .error _ =>
                  insertNode path (.text text) (if c.keepMode then n.mode else newMode p n.mode)
                  if c.keepMode then changeFiles fun fs => match fs.number? path with
                    | some m => fs.modify m fun x => { x with time := n.time }
                    | none => fs
              tell
      | _, _ => return

def copyNames : List (String × Char) := [("archive", 'a'), ("force", 'f'), ("interactive", 'i'), ("link", 'l'),
  ("no-clobber", 'n'), ("recursive", 'r'), ("symbolic-link", 's'), ("target-directory", 't'),
  ("no-target-directory", 'T'), ("update", '\x01'), ("verbose", 'v'), ("no-dereference", 'P'), ("dereference", 'L'),
  ("preserve", '\x02')]

def cp (args : List String) : Exec Unit :=
  withArguments { letters := "abdfHilLnprst:RuvxPTZ\x01::\x02::", names := copyNames } 1 args fun a => do
    if a.has 'n' then
      complain "warning: behavior of -n is non-portable and may change in future; use --update=none instead"
    match ← transferOf a with
    | none => return
    | some (sources, target, isDirectory) =>
      let recursive := a.has 'r' || a.has 'R' || a.has 'a'
      let c : Copying := {
        recursive
        followLinks := ! (a.has 'a' || a.has 'P' || a.has 'd') && (! recursive || a.has 'L')
        keepMode := a.has 'a' || a.has 'p' || a.has '\x02'
        verbose := a.has 'v'
        noClobber := a.has 'n' || a.get? '\x01' = some "none"
        hardLinks := a.has 'l'
        softLinks := a.has 's' }
      for source in sources do
        let into := if isDirectory then
            if Files.lastPart source = "." || Files.lastPart source = ".." then target
            else below target (baseName source "")
          else target
        copyOne c ((← files).names.length + 2) source into

/-- Moves what is at a path to another. -/
def moveOne (verbose noClobber : Bool) (source target : String) : Exec Unit := do
  match ← locate false source with
  | .error e => cannot "cannot stat" source e
  | .ok full =>
    let fs ← files
    let failed (e : OsError) : Exec Unit := do
      complain ("cannot move " ++ Quotation.always source ++ " to " ++ Quotation.always target ++ ": " ++ e.text)
      failWith 1
    match ← locateNew target with
    | .error e => failed e
    | .ok path =>
      let isDirectory := fs.isDirectory full
      let exists_ := fs.names.has path
      if exists_ && fs.number? path = fs.number? full then
        complain (Quotation.always source ++ " and " ++ Quotation.always target ++ " are the same file")
        failWith 1
      else if isDirectory && Files.isWithin path full then
        complain ("cannot move " ++ Quotation.always source ++ " to a subdirectory of itself, " ++
          Quotation.always target)
        failWith 1
      else if noClobber && exists_ then return
      else if exists_ && fs.isDirectory path && ! isDirectory then
        complain ("cannot overwrite directory " ++ Quotation.always target ++ " with non-directory " ++
          Quotation.always source)
        failWith 1
      else if exists_ && ! fs.isDirectory path && isDirectory then
        complain ("cannot overwrite non-directory " ++ Quotation.always target ++ " with directory " ++
          Quotation.always source)
        failWith 1
      else if exists_ && fs.isDirectory path && ! (fs.entries path).isEmpty then
        complain ("cannot overwrite " ++ Quotation.always target ++ ": " ++ OsError.notEmpty.text)
        failWith 1
      else if target.toList.getLast? = some '/' && ! isDirectory then failed .notDirectory
      else
        changeFiles (·.rename full path)
        if verbose then
          print ("renamed " ++ Quotation.always source ++ " -> " ++ Quotation.always target ++ "\n")

def mv (args : List String) : Exec Unit :=
  withArguments { letters := "bfint:uvTZ\x01::", names := copyNames } 1 args fun a => do
    match ← transferOf a with
    | none => return
    | some (sources, target, isDirectory) =>
      for source in sources do
        let into := if isDirectory then below target (baseName source "") else target
        moveOne (a.has 'v') (a.has 'n') source into

/-! ## Links -/

def ln (args : List String) : Exec Unit :=
  let names := [("symbolic", 's'), ("force", 'f'), ("no-dereference", 'n'), ("verbose", 'v'),
    ("target-directory", 't'), ("no-target-directory", 'T')]
  withArguments { letters := "bdfFinrst:TvPL", names } 1 args fun a => do
    let soft := a.has 's'
    let target := a.operands.getLastD ""
    let isDirectory ← match a.get? 't' with
      | some _ => pure true
      | none => do
        let node? ← nodeAt? (! a.has 'n') target
        pure (1 < a.operands.length && ! a.has 'T' && node?.any Node.isDirectory)
    let sources := match a.get? 't', a.operands with
      | some _, xs => xs
      | none, [x] => [x]
      | none, xs => xs.dropLast
    let into (source : String) : String :=
      match a.get? 't' with
      | some d => below d (baseName source "")
      | none =>
        if a.operands.length = 1 then baseName source ""
        else if isDirectory then below target (baseName source "") else target
    if a.operands.isEmpty then misuse "missing file operand" 1
    else if 1 < sources.length && ! isDirectory then
      let e := if (← nodeAt? true target).isSome then OsError.notDirectory else OsError.notFound
      complain ("target " ++ Quotation.always target ++ ": " ++ e.text)
      status 1
    else
      for source in sources do
        let path := into source
        let kind := if soft then "symbolic" else "hard"
        let found ← if soft then pure (.ok "") else locate (a.has 'L') source
        match found with
        | .error e => cannot "failed to access" source e
        | .ok full =>
          if ! soft && (← files).isDirectory full then
            complain (source ++ ": hard link not allowed for directory")
            failWith 1
          else
            match ← locateNew path with
            | .error e => cannot ("failed to create " ++ kind ++ " link") path e
            | .ok new =>
              let fs ← files
              if fs.names.has new && (! a.has 'f' || fs.isDirectory new) then
                cannot ("failed to create " ++ kind ++ " link") path .alreadyThere
              else
                changeFiles (·.remove new)
                if soft then insertNode new (.link source) 0o777
                else
                  match fs.number? full with
                  | some n => changeFiles (·.addName new n)
                  | none => pure ()
                if a.has 'v' then
                  print (Quotation.always path ++ (if soft then " -> " else " => ") ++ Quotation.always source ++ "\n")

def link (args : List String) : Exec Unit :=
  withArguments { letters := "" } 1 args fun a => do
    match a.operands with
    | [source, target] =>
      match ← locate false source, ← locateNew target with
      | .ok full, .ok new =>
        let fs ← files
        if fs.names.has new then
          complain ("cannot create link " ++ Quotation.always target ++ " to " ++ Quotation.always source ++ ": " ++
            OsError.alreadyThere.text)
          failWith 1
        else
          match fs.number? full with
          | some n => changeFiles (·.addName new n)
          | none => pure ()
      | .error e, _ =>
        complain ("cannot create link " ++ Quotation.always target ++ " to " ++ Quotation.always source ++ ": " ++ e.text)
        failWith 1
      | _, .error e =>
        complain ("cannot create link " ++ Quotation.always target ++ " to " ++ Quotation.always source ++ ": " ++ e.text)
        failWith 1
    | _ => misuse "missing operand" 1

/-- The canonical name of a path, of which the last part, or any, need not exist. -/
def canonical (mode : Char) (path : String) : Exec (Except OsError String) := do
  let p ← get
  let fs ← files
  match mode with
  | 'e' => return fs.find true p.directory path
  | 'm' =>
    match fs.locate true p.directory path with
    | .ok name => return .ok name
    | .error _ => return .ok (Files.resolve p.directory path)
  | _ => return fs.locate true p.directory (Files.dropSlashes path)

def readlink (args : List String) : Exec Unit :=
  let names := [("canonicalize", 'f'), ("canonicalize-existing", 'e'), ("canonicalize-missing", 'm'),
    ("no-newline", 'n'), ("quiet", 'q'), ("verbose", 'v'), ("zero", 'z')]
  withArguments { letters := "efmnqsvz", names } 1 args fun a => do
    let stop := if a.has 'n' && a.operands.length = 1 then "" else if a.has 'z' then "\x00" else "\n"
    if a.operands.isEmpty then misuse "missing operand" 1
    for name in a.operands do
      match a.last? ['e', 'f', 'm'] with
      | some mode =>
        match ← canonical mode name with
        | .ok full => print (full ++ stop)
        | .error _ => failWith 1
      | none =>
        match (← nodeAt? false name).map Node.content with
        | some (.link target) => print (target ++ stop)
        | _ => failWith 1

def realpath (args : List String) : Exec Unit :=
  let names := [("canonicalize-existing", 'e'), ("canonicalize-missing", 'm'), ("quiet", 'q'), ("strip", 's'),
    ("no-symlinks", 's'), ("zero", 'z')]
  withArguments { letters := "eLmPqsz", names } 1 args fun a => do
    if a.operands.isEmpty then misuse "missing operand" 1
    for name in a.operands do
      match ← canonical ((a.last? ['e', 'm']).getD 'f') name with
      | .ok full => print (full ++ if a.has 'z' then "\x00" else "\n")
      | .error e =>
        if ! a.has 'q' then complain (Quotation.whereNeeded name ++ ": " ++ e.text)
        failWith 1

/-! ## Permissions -/

/-- Changes the permissions of a file, and of all below it if `recursive`. -/
def changeMode (a : Arguments) (mode : String) : Nat → String → String → Exec Unit
  | 0, _, _ => return
  | fuel + 1, path, full => do
    let p ← get
    let fs ← files
    match fs.node? full, fs.number? full with
    | some n, some number =>
      let new := match Permissions.octal? mode with
        | some m => if n.isDirectory && mode.length < 5 then Nat.lor m (Nat.land n.mode 0o6000) else m
        | none => (Permissions.apply p.umask n.isDirectory n.mode mode).getD n.mode
      changeFiles (·.modify number fun x => { x with mode := new })
      let shown (m : Nat) : String := Permissions.octal m ++ " (" ++ Permissions.letters m ++ ")"
      if a.has 'v' || (a.has 'c' && new ≠ n.mode) then
        print ("mode of " ++ Quotation.always path ++ (if new = n.mode then " retained as " ++ shown new
          else " changed from " ++ shown n.mode ++ " to " ++ shown new) ++ "\n")
      let free := (Permissions.apply 0 n.isDirectory n.mode mode).getD new
      if mode.toList.head? = some '-' && free ≠ new then
        complain (Quotation.whereNeeded path ++ ": new permissions are " ++ Permissions.letters new ++ ", not " ++
          Permissions.letters free)
        failWith 1
      if a.has 'R' && n.isDirectory then
        for x in fs.entries full do changeMode a mode fuel (below path x) (below full x)
    | _, _ => return

def chmod (args : List String) : Exec Unit := do
  let isMode (x : String) : Bool := match x.toList with
    | '-' :: cs => ! cs.isEmpty && cs.all "rwxXstugo,+=-".toList.contains
    | _ => false
  let minus := args.find? isMode
  let args := match minus with
    | some m => args.erase m
    | none => args
  let names := [("changes", 'c'), ("silent", 'f'), ("quiet", 'f'), ("verbose", 'v'), ("recursive", 'R')]
  withArguments { letters := "cfvR", names } 1 args fun a => do
    match minus.toList ++ a.operands with
    | [] => misuse "missing operand" 1
    | [mode] => misuse ("missing operand after " ++ Quotation.always mode) 1
    | mode :: operands =>
      let isValid := match Permissions.octal? mode with
        | some n => n ≤ Permissions.all
        | none => (Permissions.apply 0 false 0 mode).isSome
      if ! isValid then misuse ("invalid mode: " ++ Quotation.always mode) 1
      else
        for name in operands do
          match ← locate true name with
          | .ok full => changeMode a mode ((← files).names.length + 1) name full
          | .error e => if ! a.has 'f' then cannot "cannot access" name e else failWith 1

end Exec

end Flowline.Shell
