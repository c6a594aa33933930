import SqlxDryRun.Command
import SqlxDryRun.Path

/-!
# Arguments

A command line names a task, with options before and behind it. An option has a long name and may
have a short one; its value follows as the next word, behind an equals sign, or directly behind the
short name. Behind two dashes every word is an operand.

The words are read from left to right, and the first problem or the first question about the program
ends the reading. A word that is a value or an operand as a whole is checked only when the next item
begins, or at the end.

Main definitions:

* `Reading`: what is known after some words;
* `readWords`: words are told apart into options and operands;
* `Request.ofWords`: what a command line asks for.
-/

namespace SqlxDryRun.Cli

/-- Why a command line asks for no task: it is wrong, or it asks about the program. -/
inductive Stop where
  | misuse
  | help
  | version
deriving DecidableEq, Repr, Inhabited

/-! ## Words -/

/-- What an option does: it is set, it has a value, or it ends the reading of the words. -/
inductive FlagKind where
  | switch
  | valued
  | stops (s : Stop)
deriving DecidableEq, Repr, Inhabited

/-- An option. The value of an option with one is never empty. -/
structure Flag where
  long : String
  short : Option Char
  kind : FlagKind
deriving DecidableEq, Repr, Inhabited

/-- What an operand is: a text, or a path, which is never empty. -/
inductive OperandKind where
  | text
  | path
deriving DecidableEq, Repr, Inhabited

/-- The options and the operands that may occur among some words. -/
structure Grammar where
  flags : List Flag
  operandKinds : List OperandKind
deriving DecidableEq, Repr, Inhabited

/-- A word that was told apart: an option, with its value if it has one, or an operand. -/
inductive Item where
  | option (long : String) (value : Option String)
  | operand (word : String)
deriving DecidableEq, Repr, Inhabited

/-- Whether an option is among some items. -/
def has (items : List Item) (long : String) : Bool :=
  items.any fun i =>
    match i with
    | .option l _ => l == long
    | .operand _ => false

/-- The value of an option among some items. -/
def value? (items : List Item) (long : String) : Option String :=
  items.findSome? fun i =>
    match i with
    | .option l v => if l == long then v else none
    | .operand _ => none

/-- The operands among some items. -/
def operands (items : List Item) : List String :=
  items.filterMap fun i =>
    match i with
    | .operand word => some word
    | .option _ _ => none

/-- Whether an item may follow others: no option occurs twice, no value and no path is empty, and
there are not more operands than may occur. -/
def Grammar.allows (g : Grammar) (items : List Item) : Item → Bool
  | .option long value => !has items long && value != some ""
  | .operand word =>
    match g.operandKinds[(operands items).length]? with
    | some .text => true
    | some .path => word != ""
    | none => false

/-- What the end of the words read so far leaves open: nothing, an option whose value is the next
word, or an item that is still to be checked. -/
inductive Pending where
  | nothing
  | value (long : String)
  | check (item : Item)
deriving DecidableEq, Repr, Inhabited

/-- What is known after some words: the items that were checked, and what is left open. -/
structure Reading where
  items : List Item
  pending : Pending
deriving DecidableEq, Repr, Inhabited

namespace Reading

/-- Nothing was read. -/
def start : Reading := ⟨[], .nothing⟩

/-- The items after one more, if it may follow. -/
def add (g : Grammar) (items : List Item) (item : Item) : Except Stop (List Item) :=
  if g.allows items item then .ok (items ++ [item]) else .error .misuse

/-- The items when nothing is left open any more. -/
def close (g : Grammar) (r : Reading) : Except Stop (List Item) :=
  match r.pending with
  | .nothing => .ok r.items
  | .value _ => .error .misuse
  | .check item => add g r.items item

/-- The reading after an option, with the value that is attached to it if there is one. -/
def readFlag (g : Grammar) (r : Reading) (flag : Flag) (value : Option String) :
    Except Stop Reading := do
  match flag.kind, value with
  | .valued, none => .ok ⟨← r.close g, .value flag.long⟩
  | .valued, some v => .ok ⟨← add g (← r.close g) (.option flag.long (some v)), .nothing⟩
  | .switch, none => .ok ⟨← add g (← r.close g) (.option flag.long none), .nothing⟩
  | .stops s, none => do
    let _ ← r.close g
    .error s
  | _, some _ => .error .misuse

/-- The reading after an option with a long name. -/
def readLong (g : Grammar) (r : Reading) (name : String) (value : Option String) :
    Except Stop Reading :=
  match g.flags.find? fun f => f.long == name with
  | some flag => r.readFlag g flag value
  | none => .error .misuse

/-- The reading after options with short names that stand together. All that stands behind an option
with a value is the value. -/
def readShort (g : Grammar) (r : Reading) : List Char → Except Stop Reading
  | [] => .ok r
  | c :: rest =>
    match g.flags.find? fun f => f.short == some c with
    | none => .error .misuse
    | some flag =>
      match flag.kind, rest with
      | .valued, [] => r.readFlag g flag none
      | .valued, '=' :: value => r.readFlag g flag (some (String.ofList value))
      | .valued, value => r.readFlag g flag (some (String.ofList value))
      | _, rest => do (← r.readFlag g flag none).readShort g rest

/-- The reading after a word with options, and nothing if the word is none. -/
def readOptions? (g : Grammar) (r : Reading) (word : String) : Except Stop (Option Reading) :=
  match word.toList with
  | '-' :: '-' :: name =>
    let value :=
      if name.contains '=' then some (String.ofList ((name.dropWhile (· != '=')).drop 1)) else none
    (r.readLong g (String.ofList (name.takeWhile (· != '='))) value).map some
  | '-' :: c :: more => (r.readShort g (c :: more)).map some
  | _ => .ok none

/-- The reading after a word that does not look like an option and is the value of the option before
it. -/
def readValue? (r : Reading) (word : String) : Option Reading :=
  match r.pending with
  | .value long =>
    if !word.startsWith "-" || word == "-" then
      some { r with pending := .check (.option long (some word)) }
    else none
  | _ => none

/-- The reading after an operand. -/
def readOperand (g : Grammar) (r : Reading) (word : String) : Except Stop Reading := do
  .ok ⟨← r.close g, .check (.operand word)⟩

/-- The items after operands to the end. -/
def readOperands (g : Grammar) (r : Reading) : List String → Except Stop (List Item)
  | [] => r.close g
  | word :: words => do (← r.readOperand g word).readOperands g words

/-- The items after words to the end. -/
def readWords (g : Grammar) (r : Reading) : List String → Except Stop (List Item)
  | [] => r.close g
  | word :: words =>
    match r.readValue? word with
    | some r => r.readWords g words
    | none =>
      if word == "--" then r.readOperands g words
      else do
        match ← r.readOptions? g word with
        | some r => r.readWords g words
        | none => (← r.readOperand g word).readWords g words

/-- The reading before the first operand, which must be there, the operand, and the words behind
it. -/
def readLeading (g : Grammar) (r : Reading) :
    List String → Except Stop (Reading × String × List String)
  | [] => .error .misuse
  | word :: words =>
    match r.readValue? word with
    | some r => r.readLeading g words
    | none =>
      if word == "--" then .error .misuse
      else do
        match ← r.readOptions? g word with
        | some r => r.readLeading g words
        | none => .ok (r, word, words)

end Reading

/-! ## Tasks -/

/-- What can be asked for. -/
inductive Task where
  | dryRun (file : Path) (showQuery : Bool)
  | compile
  | query (file : Path) (output : Option Path)
  | runTag (tag : String) (scope : Command.Scope)
  | runReported (report : Path) (scope : Command.Scope)
  | pipelines (file : Path)
  | format (file : Path)
deriving DecidableEq, Repr, Inhabited

namespace Task

/-- The source file of a task. -/
def file? : Task → Option Path
  | dryRun file _ => some file
  | query file _ => some file
  | pipelines file => some file
  | format file => some file
  | _ => none

end Task

/-- What a command line asks for: a task, and how to find the workspace and the settings. -/
structure Request where
  workspace : Option Path
  settings : Option Path
  verbose : Bool
  task : Task
deriving DecidableEq, Repr, Inhabited

/-- The options that may stand before and behind the name of a task. -/
def commonFlags : List Flag :=
  [⟨"workspace", some 'w', .valued⟩, ⟨"config", some 'c', .valued⟩,
    ⟨"verbose", some 'v', .switch⟩, ⟨"help", some 'h', .stops .help⟩]

/-- What may stand before the name of a task. -/
def leading : Grammar :=
  ⟨⟨"version", some 'V', .stops .version⟩ :: commonFlags, []⟩

/-- The options of a scope. -/
def scopeFlags : List Flag :=
  [⟨"include-deps", none, .switch⟩, ⟨"include-dependents", none, .switch⟩]

/-- What may stand behind the name of each task, besides the common options. -/
def taskGrammars : List (String × Grammar) :=
  [("dry-run", ⟨[⟨"show-query", none, .switch⟩], [.path]⟩),
    ("compile", ⟨[], []⟩),
    ("query", ⟨[⟨"output", some 'o', .valued⟩], [.path]⟩),
    ("run-tag", ⟨scopeFlags, [.text]⟩),
    ("run-file", ⟨⟨"cost-output", none, .valued⟩ :: scopeFlags, []⟩),
    ("pipelines", ⟨[], [.path]⟩),
    ("format", ⟨[], [.path]⟩)]

/-- The scope that options ask for. No run includes both directions. -/
def scopeOf (items : List Item) : Except Stop Command.Scope :=
  match has items "include-deps", has items "include-dependents" with
  | true, true => .error .misuse
  | true, false => .ok .withDependencies
  | false, true => .ok .withDependents
  | false, false => .ok .selected

/-- The task of a name with its items. -/
def taskOf (name : String) (items : List Item) : Except Stop Task :=
  match name, operands items with
  | "dry-run", [file] => .ok (.dryRun (Path.ofString file) (has items "show-query"))
  | "compile", [] => .ok .compile
  | "query", [file] =>
    .ok (.query (Path.ofString file) ((value? items "output").map Path.ofString))
  | "run-tag", [tag] => do .ok (.runTag tag (← scopeOf items))
  | "run-file", [] => do
    .ok (.runReported (Path.ofString ((value? items "cost-output").getD "-")) (← scopeOf items))
  | "pipelines", [file] => .ok (.pipelines (Path.ofString file))
  | "format", [file] => .ok (.format (Path.ofString file))
  | _, _ => .error .misuse

/-- What words ask for that begin with the name of no task: they may ask for help. -/
def stopOf : List String → Stop
  | ["help"] => .help
  | ["help", name] => if (taskGrammars.lookup name).isSome || name == "help" then .help else .misuse
  | _ => .misuse

/-- What the words of a command line ask for. An option that stands before and behind the name of
the task has the value that stands behind it. The words behind the name are read before the value
that stands right before it is checked. -/
def Request.ofWords (words : List String) : Except Stop Request := do
  let (reading, name, rest) ← Reading.start.readLeading leading words
  match taskGrammars.lookup name with
  | none => .error (stopOf (name :: rest))
  | some g =>
    let behind ← Reading.start.readWords { g with flags := commonFlags ++ g.flags } rest
    let before ← reading.close leading
    let path (long : String) : Option Path :=
      ((value? behind long).or (value? before long)).map Path.ofString
    .ok {
      workspace := path "workspace"
      settings := path "config"
      verbose := has behind "verbose" || has before "verbose"
      task := ← taskOf name behind }

end SqlxDryRun.Cli
