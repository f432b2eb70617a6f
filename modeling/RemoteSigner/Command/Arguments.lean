import RemoteSigner.Config.Layers

/-!
# Arguments of the command line

Arguments are read one after another: switches that hold everywhere, the name
of a command, and switches of that command. A switch with a value has it behind
`=` or as the next argument, which must not look like a switch. Asking for help
ends the reading.
-/

namespace RemoteSigner

/-- How the watermarks are to be repaired. -/
structure WatermarkRepair where
  slot : Option UInt64 := none
  epoch : Option UInt64 := none
  setsHigh : Bool := false
  removesHigh : Bool := false
deriving DecidableEq, Repr

/-- What is to be done. -/
inductive Command where
  /-- Serve the signer. -/
  | run (flags : RunFlags)
  /-- Write history to a file: of the given keys, or of all if none is given. -/
  | exportHistory (target : FilePath) (keys : List String)
  /-- Take history in from a file. -/
  | importHistory (source : FilePath)
  | repairWatermarks (repair : WatermarkRepair)
deriving DecidableEq

/-- A command with the file of its settings. -/
structure Invocation where
  settings : Option FilePath
  command : Command
deriving DecidableEq

/-- Why arguments give no command. -/
inductive Usage where
  /-- Help is asked for. -/
  | help
  /-- They are wrong. -/
  | fault
deriving DecidableEq, Repr

/-- A switch and what its value does. -/
structure Switch (σ : Type) where
  long : String
  short : Option Char
  takesValue : Bool
  /-- Whether it may be given several times. -/
  repeats : Bool
  /-- Take in a value, unless it cannot be used. -/
  apply : String → σ → Option σ

namespace Switch

variable {σ : Type}

/-- A switch with a value. -/
def valued (long : String) (apply : String → σ → Option σ) : Switch σ :=
  ⟨long, none, true, false, apply⟩

/-- A switch without value. -/
def plain (long : String) (apply : σ → σ) : Switch σ :=
  ⟨long, none, false, false, fun _ s => some (apply s)⟩

/-- An argument as a reader sees it. -/
inductive Argument where
  /-- `--name` or `--name=value`. -/
  | long (name : String) (value : Option String)
  /-- `-c` and what follows the letter. -/
  | short (letter : Char) (value : Option String)
  /-- Two dashes. -/
  | dashes
  /-- No switch. -/
  | word (text : String)
deriving DecidableEq, Repr

/-- What an argument is. -/
def Argument.of (text : String) : Argument :=
  match text.toList with
  | ['-', '-'] => .dashes
  | '-' :: '-' :: cs =>
      let name := String.ofList (cs.takeWhile (· ≠ '='))
      match cs.dropWhile (· ≠ '=') with
      | '=' :: value => .long name (some (String.ofList value))
      | _ => .long name none
  | ['-', letter] => .short letter none
  | '-' :: letter :: '=' :: value => .short letter (some (String.ofList value))
  | '-' :: letter :: value => .short letter (some (String.ofList value))
  | _ => .word text

/-- The switch that an argument names, and the value in it. -/
def find? (switches : List (Switch σ)) : Argument → Option (Switch σ × Option String)
  | .long name value => (switches.find? (·.long == name)).map (·, value)
  | .short letter value => (switches.find? (·.short == some letter)).map (·, value)
  | _ => none

/-- Whether an argument asks for help. -/
def asksHelp : Argument → Bool
  | .long "help" none => true
  | .short 'h' _ => true
  | _ => false

/-- Take in a switch with a value, given the switches seen before. -/
def accept (switch : Switch σ) (value : String) (seen : List String) (s : σ) :
    Except Usage (List String × σ) :=
  if seen.contains switch.long && !switch.repeats then .error .fault
  else
    match switch.apply value s with
    | some s => .ok (switch.long :: seen, s)
    | none => .error .fault

/-- Read switches up to the first argument that is none; `seen` are those read
before. Behind two dashes nothing may follow. -/
def read (switches : List (Switch σ)) :
    List String → List String → σ → Except Usage (σ × List String)
  | [], _, s => .ok (s, [])
  | text :: rest, seen, s =>
      let argument := Argument.of text
      match argument with
      | .word _ => .ok (s, text :: rest)
      | .dashes => if rest.isEmpty then .ok (s, []) else .error .fault
      | _ =>
          match find? switches argument with
          | none => .error (if asksHelp argument then .help else .fault)
          | some (switch, some value) =>
              if switch.takesValue then do
                let (seen, s) ← accept switch value seen s
                read switches rest seen s
              else .error .fault
          | some (switch, none) =>
              if !switch.takesValue then do
                let (seen, s) ← accept switch "" seen s
                read switches rest seen s
              else
                match rest with
                | [] => .error .fault
                | next :: rest =>
                    match Argument.of next with
                    | .word value => do
                        let (seen, s) ← accept switch value seen s
                        read switches rest seen s
                    | _ => .error .fault

end Switch

namespace Invocation

/-- A path in an argument, which must not be empty. -/
def pathValue (text : String) : Option FilePath :=
  if text.isEmpty then none else some text

/-- A number in an argument. -/
def numberValue (text : String) : Option UInt64 :=
  (Numeral.decodeUInt64 text).toOption

/-- The switches that hold everywhere, over the file of the settings. -/
def everywhere {σ : Type} (put : FilePath → σ → σ) : List (Switch σ) := [
  ⟨"config", some 'c', true, false, fun v s => (pathValue v).map (put · s)⟩,
  .valued "log-level" fun _ s => some s]

/-- The switches of a command beside those that hold everywhere. -/
def within {σ : Type} (switches : List (Switch σ)) : List (Switch (Option FilePath × σ)) :=
  everywhere (fun path s => (some path, s.2)) ++ switches.map fun w =>
    ⟨w.long, w.short, w.takesValue, w.repeats, fun v s => (w.apply v s.2).map (s.1, ·)⟩

/-- The switches of serving. -/
def runSwitches : List (Switch RunFlags) := [
  .valued "listen" fun v f => (ListenAddress.parse? v).map fun a => { f with listen := some a },
  .valued "key-directory" fun v f => (pathValue v).map fun p => { f with keyDirectory := some p },
  .valued "slashing-protection-database" fun v f =>
    (pathValue v).map fun p => { f with database := some p },
  .plain "no-slashing-protection" fun f => { f with unprotected := true },
  .plain "key-manager" fun f => { f with keyManager := true }]

/-- The switches of handing out history: the file, and the keys. -/
def exportSwitches : List (Switch (Option FilePath × List String)) := [
  .valued "to" fun v s => (pathValue v).map fun p => (some p, s.2),
  ⟨"pubkeys", none, true, true, fun v s => some (s.1, s.2 ++ v.splitOn ",")⟩]

/-- The switches of taking history in. -/
def importSwitches : List (Switch (Option FilePath)) := [
  .valued "from" fun v _ => (pathValue v).map some]

/-- The switches of repairing watermarks. -/
def repairSwitches : List (Switch WatermarkRepair) := [
  .valued "slot" fun v r => (numberValue v).map fun n => { r with slot := some n },
  .valued "epoch" fun v r => (numberValue v).map fun n => { r with epoch := some n },
  .plain "set-high-watermark" fun r => { r with setsHigh := true },
  .plain "remove-high-watermark" fun r => { r with removesHigh := true }]

/-- Read the switches of a command, behind which nothing may follow. -/
def readCommand {σ : Type} (switches : List (Switch σ)) (start : σ)
    (finish : σ → Option Command) (settings : Option FilePath) (arguments : List String) :
    Except Usage Invocation := do
  match ← Switch.read (within switches) arguments [] (settings, start) with
  | ((settings, s), []) =>
      match finish s with
      | some command => .ok ⟨settings, command⟩
      | none => .error .fault
  | _ => .error .fault

/-- The readers of commands by name. -/
def commands : List (String × (Option FilePath → List String → Except Usage Invocation)) := [
  ("run", readCommand runSwitches {} fun f => some (.run f)),
  ("export", readCommand exportSwitches (none, []) fun s =>
    s.1.map fun target => .exportHistory target s.2),
  ("import", readCommand importSwitches none fun s => s.map .importHistory),
  ("watermark-repair", readCommand repairSwitches {} fun r =>
    if r.setsHigh && r.removesHigh then none else some (.repairWatermarks r))]

/-- What asking for help in words comes to. -/
def helpOn : List String → Usage
  | [] => .help
  | [name] => if name = "help" ∨ (commands.lookup name).isSome then .help else .fault
  | _ => .fault

/-- Read arguments. -/
def ofArguments (arguments : List String) : Except Usage Invocation := do
  let (settings, rest) ←
    Switch.read (everywhere fun path (_ : Option FilePath) => some path) arguments [] none
  match rest with
  | [] => .error .fault
  | "help" :: words => .error (helpOn words)
  | name :: rest =>
      match commands.lookup name with
      | some reader => reader settings rest
      | none => .error .fault

end Invocation

end RemoteSigner
