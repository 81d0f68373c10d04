/-
# Small programs

Programs that do their work at once: what each prints, how it ends, and what it does to
the disk.
-/
import BotKeeper.Machine.Start

namespace BotKeeper.Machine

/-- What a small program did. -/
structure Done where
  disk : Disk
  status : Nat := 0
  output : Octets := []
  complaints : Octets := []

/-- The surroundings of a small program. -/
structure Around where
  disk : Disk
  place : Place
  environment : List (String × String)
  /-- What it can read. -/
  input : Octets

namespace Tool

/-! ## Printing -/

/-- The value of octal digits. -/
def octal (cs : List Char) : Nat := cs.foldl (fun n c => 8 * n + (c.toNat - '0'.toNat)) 0

/-- A digit below eight. -/
def isOctal (c : Char) : Bool := '0' ≤ c && c ≤ '7'

/-- The octets of characters. -/
def spell (cs : List Char) : Octets := Utf8.encode (String.ofList cs)

/-- What a letter stands for behind a backslash. -/
def escape? (c : Char) : Option UInt8 :=
  match c with
  | 'a' => some 7
  | 'b' => some 8
  | 'f' => some 12
  | 'n' => some 10
  | 'r' => some 13
  | 't' => some 9
  | 'v' => some 11
  | '\\' => some 92
  | '"' => some 34
  | _ => none

/-- The octets of a text with escapes; what follows `\c` is left out, which the flag
tells.  `zero` says that an octal number needs a leading zero. -/
def unescape (zero : Bool) : (fuel : Nat) → List Char → Octets × Bool
  | 0, _ => ([], false)
  | _, [] => ([], false)
  | fuel + 1, '\\' :: c :: cs =>
    let more (octets : Octets) (rest : List Char) : Octets × Bool :=
      let (tail, cut) := unescape zero fuel rest
      (octets ++ tail, cut)
    if c == 'c' then ([], true)
    else if zero && c == '0' then
      let digits := (cs.take 3).takeWhile isOctal
      more [.ofNat (octal digits)] (cs.drop digits.length)
    else if !zero && isOctal c then
      let digits := ((c :: cs).take 3).takeWhile isOctal
      more [.ofNat (octal digits)] ((c :: cs).drop digits.length)
    else match escape? c with
      | some octet => more [octet] cs
      | none => more (spell ['\\', c]) cs
  | fuel + 1, c :: cs =>
    let (tail, cut) := unescape zero fuel cs
    (spell [c] ++ tail, cut)

/-- How a field is widened. -/
inductive Padding where
  /-- Blanks in front. -/
  | front
  /-- Blanks behind. -/
  | behind
  /-- Zeros in front. -/
  | zeros

/-- Text widened to a field. -/
def pad (width : Nat) (padding : Padding) (octets : Octets) : Octets :=
  let fill (octet : UInt8) : Octets := List.replicate (width - octets.length) octet
  match padding with
  | .front => fill 32 ++ octets
  | .behind => octets ++ fill 32
  | .zeros => fill 48 ++ octets

/-- The whole number an argument stands for. -/
def numberArg (arg : String) : Int := (arg.trimAscii.toString.toInt?).getD 0

/-- What a directive prints for an argument; the flag tells that nothing follows. -/
def directive (c : Char) (arg : String) : Octets × Bool :=
  match c with
  | 's' => (Utf8.encode arg, false)
  | 'b' => unescape true (arg.length + 1) arg.toList
  | 'c' => (spell (arg.toList.take 1), false)
  | 'd' | 'i' | 'u' => (Utf8.encode (toString (numberArg arg)), false)
  | 'x' => (spell (Nat.toDigits 16 (numberArg arg).toNat), false)
  | 'o' => (spell (Nat.toDigits 8 (numberArg arg).toNat), false)
  | _ => ([], false)

/-- Goes once over a format; yields what it prints, the arguments left and whether nothing
follows. -/
def formatOnce : (fuel : Nat) → List Char → List String → Octets × List String × Bool
  | 0, _, args => ([], args, false)
  | _, [], args => ([], args, false)
  | fuel + 1, '%' :: '%' :: cs, args =>
    let (tail, args, cut) := formatOnce fuel cs args
    (37 :: tail, args, cut)
  | fuel + 1, '%' :: cs, args =>
    let padding := match cs.head? with
      | some '-' => Padding.behind
      | some '0' => .zeros
      | _ => .front
    let cs := cs.dropWhile fun c => c == '-' || c == '0'
    let digits := cs.takeWhile Char.isDigit
    match cs.drop digits.length with
    | c :: rest =>
      let (octets, cut) := directive c (args.head?.getD "")
      let octets := pad (Shell.digitsValue digits) padding octets
      if cut then (octets, args.drop 1, true)
      else
        let (tail, args, cut) := formatOnce fuel rest (args.drop 1)
        (octets ++ tail, args, cut)
    | [] => (spell ('%' :: digits), args, false)
  | fuel + 1, c :: cs, args =>
    let plain := (c :: cs).takeWhile (· != '%')
    let (octets, cut) := unescape false (plain.length + 1) plain
    if cut then (octets, args, true)
    else
      let (tail, args, cut) := formatOnce fuel ((c :: cs).drop plain.length) args
      (octets ++ tail, args, cut)

/-- Goes over a format until no arguments are left. -/
def format (cs : List Char) : (fuel : Nat) → List String → Octets
  | 0, _ => []
  | fuel + 1, args =>
    let (octets, rest, cut) := formatOnce (cs.length + 1) cs args
    if cut || rest.isEmpty || rest.length == args.length then octets
    else octets ++ format cs fuel rest

/-- What `printf` prints. -/
def printfOctets : List String → Octets
  | [] => []
  | text :: args => format text.toList (args.length + 1) args

/-- What `echo` prints.  `escapes` says whether escapes have a meaning. -/
def echoOctets (escapes : Bool) (args : List String) : Octets :=
  let (silent, args) := match args with
    | "-n" :: rest => (true, rest)
    | _ => (false, args)
  let line := String.intercalate " " args
  let (octets, cut) :=
    if escapes then unescape true (line.length + 1) line.toList else (Utf8.encode line, false)
  if silent || cut then octets else octets ++ [10]

/-! ## Tests -/

/-- Whether a test with one operand holds; nothing if there is no such test. -/
def unaryTest (a : Around) (operator arg : String) : Option Bool :=
  let node : Option Node := (a.disk.findNode a.place arg).toOption.map (·.2)
  match operator with
  | "-n" => some (arg != "")
  | "-z" => some (arg == "")
  | "-e" | "-r" | "-w" => some node.isSome
  | "-f" => some (match node with
    | some (.file ..) | some (.program _) => true
    | _ => false)
  | "-d" => some (node == some .directory)
  | "-p" => some (node == some .pipe)
  | "-s" => some (match node with
    | some (.file content _) => !content.toOctets.isEmpty
    | some _ => true
    | none => false)
  | "-x" => some (match node with
    | some (.file _ runnable) => runnable
    | some (.program _) | some .directory => true
    | _ => false)
  | "-h" | "-L" => some (match a.disk.findNode a.place arg false with
    | .ok (_, .link _) => true
    | _ => false)
  | _ => none

/-- Whether a test with two operands holds; nothing if there is no such test. -/
def binaryTest (left operator right : String) : Option Bool :=
  let a := numberArg left
  let b := numberArg right
  match operator with
  | "=" | "==" => some (left == right)
  | "!=" => some (left != right)
  | "-eq" => some (a == b)
  | "-ne" => some (a != b)
  | "-lt" => some (a < b)
  | "-le" => some (a ≤ b)
  | "-gt" => some (b < a)
  | "-ge" => some (b ≤ a)
  | _ => none

/-- Whether a test holds; nothing if it is malformed. -/
def holds (a : Around) : (fuel : Nat) → List String → Option Bool
  | 0, _ => none
  | _, [] => some false
  | _, [x] => some (x != "")
  | fuel + 1, args =>
    match args.findIdx? (· == "-o") with
    | some (i + 1) =>
      match holds a fuel (args.take (i + 1)), holds a fuel (args.drop (i + 2)) with
      | some x, some y => some (x || y)
      | _, _ => none
    | _ =>
      match args.findIdx? (· == "-a") with
      | some (i + 1) =>
        match holds a fuel (args.take (i + 1)), holds a fuel (args.drop (i + 2)) with
        | some x, some y => some (x && y)
        | _, _ => none
      | _ =>
        match args with
        | [left, operator, right] =>
          match binaryTest left operator right with
          | some t => some t
          | none => if left == "!" then (holds a fuel [operator, right]).map (!·) else none
        | "!" :: rest => (holds a fuel rest).map (!·)
        | [operator, arg] => unaryTest a operator arg
        | _ => none

/-- The outcome of a test. -/
def testStatus (a : Around) (args : List String) : Nat :=
  match holds a (args.length + 2) args with
  | some true => 0
  | some false => 1
  | none => 2

/-! ## Files -/

/-- Does something to each path that is no option; complaints are collected. -/
def eachPath (f : Disk → String → Except String Disk) :
    List String → Done → Done
  | [], done => done
  | path :: paths, done =>
    match f done.disk path with
    | .ok disk => eachPath f paths { done with disk }
    | .error complaint =>
      eachPath f paths
        { done with status := 1, complaints := done.complaints ++ Utf8.encode (complaint ++ "\n") }

/-- The options in front of arguments, and the arguments. -/
def cutOptions (args : List String) : List Char × List String :=
  let options := args.takeWhile fun a => a.startsWith "-" && a.length > 1 && a != "--"
  let rest := args.drop options.length
  (options.flatMap fun o => o.toList.drop 1, if rest.head? == some "--" then rest.drop 1 else rest)

/-- Prints files one behind the other. -/
def cat (a : Around) (args : List String) : Done :=
  if args.isEmpty then { disk := a.disk, output := a.input }
  else
    args.foldl
      (fun done path =>
        match a.disk.findNode a.place path with
        | .ok (_, .directory) =>
          { done with
            status := 1
            complaints := done.complaints ++ Utf8.encode s!"cat: {path}: Is a directory\n" }
        | .ok (_, .file content _) => { done with output := done.output ++ content.toOctets }
        | .ok _ => done
        | .error e =>
          { done with
            status := 1
            complaints := done.complaints ++ Utf8.encode s!"cat: {path}: {e.words}\n" })
      { disk := a.disk }

/-- Lists the names in directories. -/
def ls (a : Around) (args : List String) : Done :=
  let (options, paths) := cutOptions args
  let paths := if paths.isEmpty then ["."] else paths
  let hidden := options.contains 'a' || options.contains 'A'
  paths.foldl
    (fun done path =>
      match a.disk.findNode a.place path with
      | .ok (place, .directory) =>
        let names := (a.disk.children place).filter fun n => hidden || !n.startsWith "."
        let lines := (names.mergeSort (· ≤ ·)).map (· ++ "\n")
        { done with output := done.output ++ Utf8.encode (String.join lines) }
      | .ok _ => { done with output := done.output ++ Utf8.encode (path ++ "\n") }
      | .error e =>
        { done with
          status := 2
          complaints :=
            done.complaints ++ Utf8.encode s!"ls: cannot access '{path}': {e.words}\n" })
    { disk := a.disk }

/-- Makes directories. -/
def mkdir (a : Around) (args : List String) : Done :=
  let (options, paths) := cutOptions args
  eachPath
    (fun disk path =>
      let made := if options.contains 'p' then disk.createDirAll a.place path
        else disk.createDir a.place path
      made.mapError fun e => s!"mkdir: cannot create directory '{path}': {e.words}")
    paths { disk := a.disk }

/-- Removes files, and directories if asked to. -/
def rm (a : Around) (args : List String) : Done :=
  let (options, paths) := cutOptions args
  let deep := options.contains 'r' || options.contains 'R'
  let force := options.contains 'f'
  eachPath
    (fun disk path =>
      match disk.findNode a.place path false with
      | .ok (place, .directory) =>
        if deep then .ok (disk.eraseBelow place)
        else .error s!"rm: cannot remove '{path}': Is a directory"
      | .ok (place, _) => .ok (disk.erase place)
      | .error e => if force then .ok disk else .error s!"rm: cannot remove '{path}': {e.words}")
    paths { disk := a.disk }

/-- Creates files that are missing. -/
def touch (a : Around) (args : List String) : Done :=
  eachPath
    (fun disk path =>
      if disk.isPresent a.place path then .ok disk
      else (disk.write a.place path (.text "")).mapError fun e =>
        s!"touch: cannot touch '{path}': {e.words}")
    (cutOptions args).2 { disk := a.disk }

/-- Sets whether files may be run. -/
def chmod (a : Around) (args : List String) : Done :=
  match args with
  | mode :: paths =>
    let runnable := mode.toList.contains 'x' && !mode.toList.contains '-'
      || ["755", "0755", "700", "777"].contains mode
    eachPath
      (fun disk path =>
        match disk.findNode a.place path with
        | .ok (place, .file content _) => .ok (disk.put place (.file content runnable))
        | .ok _ => .ok disk
        | .error e => .error s!"chmod: cannot access '{path}': {e.words}")
      paths { disk := a.disk }
  | [] => { disk := a.disk, status := 1 }

/-- Whether a path leads to a file that may be run. -/
def isRunnable (a : Around) (path : String) : Bool :=
  unaryTest a "-f" path == some true && unaryTest a "-x" path == some true

/-- The path of a program, if it can be found. -/
def whichPath? (a : Around) (name : String) : Option String :=
  if Path.hasSlash name then if isRunnable a name then some name else none
  else
    let dirs := searchDirs ((a.environment.lookup "PATH").getD standardPath)
    (dirs.map fun dir => (if dir.isEmpty then "." else dir) ++ "/" ++ name).find? (isRunnable a)

/-- Finds programs by their names. -/
def which (a : Around) (args : List String) : Done :=
  let (options, names) := cutOptions args
  if options.any fun o => o != 'a' && o != 's' then { disk := a.disk, status := 2 }
  else
    let found := names.map (whichPath? a)
    let lines := found.filterMap fun path? => path?.map (· ++ "\n")
    { disk := a.disk
      status := if names.isEmpty || found.any Option.isNone then 1 else 0
      output := Utf8.encode (String.join lines) }

/-! ## All of them -/

/-- The work of a small program. -/
def run (a : Around) (name : String) (args : List String) : Done :=
  match name with
  | "true" => { disk := a.disk }
  | "echo" => { disk := a.disk, output := echoOctets false args }
  | "printf" => { disk := a.disk, output := printfOctets args }
  | "pwd" => { disk := a.disk, output := Utf8.encode (Path.absolute a.place ++ "\n") }
  | "test" => { disk := a.disk, status := testStatus a args }
  | "[" => { disk := a.disk, status := testStatus a args.dropLast }
  | "cat" => cat a args
  | "ls" => ls a args
  | "mkdir" => mkdir a args
  | "rm" => rm a args
  | "touch" => touch a args
  | "chmod" => chmod a args
  | "which" => which a args
  | "env" =>
    let lines := a.environment.map fun v => v.1 ++ "=" ++ v.2 ++ "\n"
    { disk := a.disk, output := Utf8.encode (String.join lines) }
  | _ => { disk := a.disk, status := 1 }

end Tool

/-- The programs of the system. -/
def systemTools : List String :=
  ["sh", "dash", "bash", "sleep", "kill", "true", "false", "echo", "printf", "pwd", "test", "[",
   "cat", "ls", "mkdir", "rm", "touch", "chmod", "which", "env"]

end BotKeeper.Machine
