/-!
# Arguments of a command line

Arguments are options with values, flags, and operands. An option is written `--name value`, `--name=value`, `-n
value`, `-nvalue` or `-n=value`, at most once; a value of its own argument does not begin with a dash unless it
is one. After `--` everything is an operand. Arguments are taken in order, so that of two mistakes, or of
a mistake and a flag, the first one counts.
-/

namespace PedestrianControl.CommandLine

/-- Why no program is run. -/
inductive Stop
  | usage
  | help
  | version
deriving DecidableEq, Inhabited, Repr

/-- An option that takes a value. -/
structure ValueOption where
  long : String
  short : Option Char
  accepts : String → Bool

/-- What the arguments of a program may be. -/
structure Grammar where
  options : List ValueOption
  /-- Whether there is a flag that asks for the version. -/
  hasVersion : Bool
  /-- Which values each operand takes. -/
  operands : List (String → Bool)
  /-- Whether the first operand begins the arguments of a program of its own. -/
  leadsOn : Bool

/-- Arguments sorted out. -/
structure Matched where
  options : List (String × String)
  operands : List String
  /-- The arguments from the first operand on, if it leads on. -/
  further : List String
deriving Inhabited

/-- The value of an option. -/
def Matched.value? (m : Matched) (long : String) : Option String := m.options.lookup long

/-- What an argument is by itself. -/
inductive Shape
  | option (o : ValueOption) (value : Option String)
  | flag (stop : Stop)
  | separator
  | operand
  | unknown

/-- Whether an argument is taken for an option rather than a value. -/
def looksLikeOption (arg : String) : Bool := arg.startsWith "-" && arg != "-"

namespace Grammar

/-- What an argument that begins with two dashes is. -/
def classifyLong (g : Grammar) (text : List Char) : Shape :=
  let (name, after) := text.span (· != '=')
  let name := String.ofList name
  let value := match after with
    | [] => none
    | _ :: value => some (String.ofList value)
  match g.options.find? fun o => o.long == name with
  | some o => .option o value
  | none =>
    match name, value with
    | "help", none => .flag .help
    | "version", none => if g.hasVersion then .flag .version else .unknown
    | _, _ => .unknown

/-- What an argument that begins with one dash is. -/
def classifyShort (g : Grammar) (letter : Char) (after : List Char) : Shape :=
  match g.options.find? fun o => o.short == some letter with
  | some o =>
    match after with
    | [] => .option o none
    | '=' :: value => .option o (some (String.ofList value))
    | value => .option o (some (String.ofList value))
  | none =>
    if letter = 'h' then .flag .help
    else if letter = 'V' && g.hasVersion then .flag .version
    else .unknown

/-- What an argument is by itself. -/
def classify (g : Grammar) (arg : String) : Shape :=
  match arg.toList with
  | ['-', '-'] => .separator
  | '-' :: '-' :: text => g.classifyLong text
  | '-' :: letter :: after => g.classifyShort letter after
  | _ => .operand

/-- Stores the value of an option, once. -/
def store (m : Matched) (o : ValueOption) (value : String) : Except Stop Matched :=
  if (m.value? o.long).isSome || !o.accepts value then .error .usage
  else .ok { m with options := (o.long, value) :: m.options }

/-- Adds an operand, if one more is taken. -/
def addOperand (g : Grammar) (m : Matched) (value : String) : Except Stop Matched :=
  match g.operands[m.operands.length]? with
  | some accepts =>
    if accepts value then .ok { m with operands := m.operands ++ [value] } else .error .usage
  | none => .error .usage

/-- Adds operands in order. -/
def addOperands (g : Grammar) (m : Matched) : List String → Except Stop Matched
  | [] => .ok m
  | value :: rest => do addOperands g (← g.addOperand m value) rest

/-- Sorts out arguments after those already matched. -/
def matchFrom (g : Grammar) (m : Matched) : List String → Except Stop Matched
  | [] => .ok m
  | arg :: rest =>
    match g.classify arg with
    | .option o (some value) => do matchFrom g (← store m o value) rest
    | .option o none =>
      match rest with
      | value :: rest =>
        if looksLikeOption value then .error .usage
        else do matchFrom g (← store m o value) rest
      | [] => .error .usage
    | .flag stop => .error stop
    | .separator =>
      if g.leadsOn then
        match rest with
        | [] => .ok m
        | _ => .error .usage
      else g.addOperands m rest
    | .operand =>
      if g.leadsOn then .ok { m with further := arg :: rest }
      else do matchFrom g (← g.addOperand m arg) rest
    | .unknown => .error .usage

/-- Sorts out arguments; every operand must be there. -/
def sortOut (g : Grammar) (args : List String) : Except Stop Matched := do
  let m ← g.matchFrom ⟨[], [], []⟩ args
  if m.operands.length = g.operands.length then .ok m else .error .usage

end Grammar

end PedestrianControl.CommandLine
