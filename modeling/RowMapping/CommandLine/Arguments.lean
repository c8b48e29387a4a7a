import RowMapping.Text.Digit
import RowMapping.Text.Joined

/-!
# Command line arguments

The command takes one target, `-o` or `--output` with a file, `--config` with a file, and the flags
`-v` or `--verbose` and `-h` or `--help`.  A long option may be cut short where that leaves no
doubt, its value may follow an equals sign, and short options may share one dash.  After `--` there
are no options.

`Arguments.parse` reads every argument on its own first, as an `Item`, and then assigns them.
-/

namespace RowMapping
open RowMapping.Text

structure Arguments where
  target : String
  output : Option String := none
  config : Option String := none
  verbose : Bool := false
deriving DecidableEq, Repr

/-- why no arguments come of a command line: it is malformed, or it asks for help -/
inductive ArgumentStop where
  | usage | help
deriving DecidableEq, Repr

inductive Flag where
  | help | verbose
deriving DecidableEq, Repr

inductive Setting where
  | output | config
deriving DecidableEq, Repr

inductive Switch where
  | flag (f : Flag)
  | setting (s : Setting)
deriving DecidableEq, Repr

inductive Action where
  | raise (f : Flag)
  | set (s : Setting) (value : String)
deriving DecidableEq, Repr

/-- What one argument with options does.  A `pending` setting takes the next argument, and a stray
argument is no option at all. -/
structure Reading where
  actions : List Action := []
  pending : Option Setting := none
  stray : Bool := false
deriving DecidableEq, Repr

/-- an argument read on its own; an option without reading is one that is used wrongly -/
inductive Item where
  | argument (s : String)
  | option (r : Option Reading)
  | separator
deriving DecidableEq, Repr

/-! ### names of the options -/

def longSwitches : List (String × Switch) :=
  [("--help", .flag .help), ("--output", .setting .output), ("--config", .setting .config),
   ("--verbose", .flag .verbose)]

def shortSwitch? : Char → Option Switch
  | 'h' => some (.flag .help)
  | 'o' => some (.setting .output)
  | 'v' => some (.flag .verbose)
  | _ => none

/-- the long options that a text is the beginning of -/
def switchesWith (text : List Char) : List Switch :=
  (longSwitches.filter fun e => text.isPrefixOf e.1.toList).map (·.2)

/-! ### one argument -/

def Switch.alone : Switch → Reading
  | .flag f => { actions := [.raise f] }
  | .setting s => { pending := some s }

/-- an option with a value of its own; a flag takes none -/
def Switch.withValue? : Switch → String → Option Reading
  | .flag _, _ => none
  | .setting s, value => some { actions := [.set s value] }

def Reading.after (a : Action) (r : Reading) : Reading := { r with actions := a :: r.actions }

/-- A short option with text behind it: its value, or more short options if it is a flag.
`afterEquals` says that an equals sign stands between. -/
def readBundle : Switch → Bool → List Char → Option Reading
  | .setting s, _, text => some { actions := [.set s (String.ofList text)] }
  | .flag _, _, [] => none
  | .flag f, afterEquals, c :: rest =>
    if afterEquals || c == '-' then none
    else match shortSwitch? c, rest with
      | none, _ => some { actions := [.raise f], stray := true }
      | some next, [] => some (next.alone.after (.raise f))
      | some next, '=' :: value => (readBundle next true value).map (·.after (.raise f))
      | some next, d :: more => (readBundle next false (d :: more)).map (·.after (.raise f))

def readLong (s : List Char) : Except ArgumentStop Item :=
  let name := s.takeWhile (· ≠ '=')
  let value := s.dropWhile (· ≠ '=')
  match longSwitches.lookup (String.ofList name), switchesWith name with
  | some switch, _ | none, [switch] =>
    .ok (.option (if value.isEmpty then some switch.alone
      else switch.withValue? (String.ofList (value.drop 1))))
  | none, [] => .ok (if s.contains ' ' then .argument (String.ofList s)
      else .option (some { stray := true }))
  | none, _ => .error .usage

def isNegativeNumber : List Char → Bool
  | '-' :: s =>
    let s := if s.getLast? = some '\n' then s.dropLast else s
    let whole := s.takeWhile isDecimalDigit
    match s.dropWhile isDecimalDigit with
    | [] => !whole.isEmpty
    | '.' :: fraction => !fraction.isEmpty && fraction.all isDecimalDigit
    | _ => false
  | _ => false
where
  /-- a decimal digit of any script -/
  isDecimalDigit (c : Char) : Bool := c.isDigit || (decimalValue? c).isSome

/-- an argument with one dash and text behind it -/
def readShort (c : Char) (rest : List Char) : Item :=
  match shortSwitch? c with
  | some switch => .option (match rest with
    | [] => some switch.alone
    | '=' :: value => readBundle switch true value
    | _ => readBundle switch false rest)
  | none =>
    let s := '-' :: c :: rest
    if isNegativeNumber s || s.contains ' ' then .argument (String.ofList s)
    else .option (some { stray := true })

def readItem (s : String) : Except ArgumentStop Item :=
  match s.toList with
  | '-' :: '-' :: rest => readLong ('-' :: '-' :: rest)
  | '-' :: c :: rest => .ok (readShort c rest)
  | _ => .ok (.argument s)

def readItems : List String → Except ArgumentStop (List Item)
  | [] => .ok []
  | s :: rest =>
    if s = "--" then .ok (.separator :: rest.map .argument)
    else (readItem s).bind fun item => (readItems rest).map (item :: ·)

/-! ### all arguments -/

/-- What the next item may be.  A value has to follow a pending setting, the target a separator in
front of it, and a separator may follow the target. -/
inductive Expected where
  | anything
  | value (before : List Action) (s : Setting)
  | target
  | separator
deriving DecidableEq, Repr

structure Assigned where
  target : Option String := none
  output : Option String := none
  config : Option String := none
  verbose : Bool := false
  stray : Bool := false
  next : Expected := .anything
deriving DecidableEq, Repr

namespace Assigned

def act (a : Assigned) : Action → Except ArgumentStop Assigned
  | .raise .help => .error .help
  | .raise .verbose => .ok { a with verbose := true }
  | .set .output value => .ok { a with output := some value }
  | .set .config value => .ok { a with config := some value }

def actAll (a : Assigned) : List Action → Except ArgumentStop Assigned
  | [] => .ok { a with next := .anything }
  | x :: rest => (a.act x).bind (·.actAll rest)

def takeArgument (a : Assigned) (s : String) (next : Expected) : Assigned :=
  if a.target.isNone then { a with target := some s, next := next }
  else { a with stray := true, next := .anything }

def take (a : Assigned) (item : Item) : Except ArgumentStop Assigned :=
  match a.next, item with
  | .value before s, .argument value => a.actAll (before ++ [.set s value])
  | .value _ _, _ => .error .usage
  | .target, .argument s => .ok (a.takeArgument s .anything)
  | _, .argument s => .ok (a.takeArgument s .separator)
  | .separator, .separator => .ok { a with next := .anything }
  | _, .separator =>
    .ok (if a.target.isNone then { a with next := .target } else { a with stray := true })
  | _, .option none => .error .usage
  | _, .option (some r) =>
    match r.pending with
    | some s => .ok { a with next := .value r.actions s }
    | none => { a with stray := a.stray || r.stray }.actAll r.actions

/-- the arguments, if there is a target, nothing stray and no value missing -/
def finish (a : Assigned) : Except ArgumentStop Arguments :=
  match a.target, a.stray, a.next with
  | _, _, .value _ _ => .error .usage
  | some target, false, _ =>
    .ok { target := target, output := a.output, config := a.config, verbose := a.verbose }
  | _, _, _ => .error .usage

end Assigned

def Arguments.parse (argv : List String) : Except ArgumentStop Arguments := do
  let items ← readItems argv
  (← items.foldlM Assigned.take {}).finish

end RowMapping
