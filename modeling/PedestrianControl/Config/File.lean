import PedestrianControl.Config
import PedestrianControl.Files.Store
import PedestrianControl.Toml.Item

/-!
# Configuration files

A configuration file is a TOML document. A field that the document lacks keeps its usual value, and keys that
are no fields are ignored, but a field with a value of the wrong kind, or out of its range, is a fault. How the text of
a document is read is left to the caller.
-/

namespace PedestrianControl.Config

open Toml (Item)

/-! ## Kinds of values -/

/-- A text. -/
def text? : Item → Option String
  | .text s => some s
  | _ => none

/-- A whole number from zero on, below a bound. -/
def natural? (bound : Nat) : Item → Option Nat
  | .integer n => if 0 ≤ n && n < bound then some n.toNat else none
  | _ => none

/-- A number; a whole one counts as its nearest double. -/
def number? : Item → Option Double
  | .float d => some d
  | .integer n =>
    let d := Double.ofBinary n.natAbs 0
    some (if n < 0 then -d else d)
  | _ => none

/-! ## Fields -/

/-- A field: its key, and how its value changes the settings. -/
structure Field where
  key : String
  apply : Item → Config → Option Config

/-- A field for values of one kind. -/
def field {α : Type} (key : String) (read : Item → Option α) (set : α → Config → Config) : Field :=
  ⟨key, fun item c => (read item).map (set · c)⟩

/-- The fields of a configuration file. -/
def fields : List Field := [
  field "listen_addr" text? fun v c => { c with listenAddress := v },
  field "max_connections" (natural? UInt64.size) fun v c => { c with maxConnections := v },
  field "read_timeout_ms" (natural? UInt64.size) fun v c => { c with readTimeout := v },
  field "write_timeout_ms" (natural? UInt64.size) fun v c => { c with writeTimeout := v },
  field "max_frame_size" (natural? UInt32.size) fun v c => { c with maxFrameSize := v },
  field "shutdown_grace_ms" (natural? UInt64.size) fun v c => { c with shutdownGrace := v },
  field "step_length" number? fun v c => { c with stepLength := v },
  field "step_interval_ms" (natural? UInt64.size) fun v c => { c with stepInterval := v },
  field "scenario" text? fun v c => { c with scenario := some v },
  field "data_dir" text? fun v c => { c with dataDirectory := v }]

/-- The settings changed by the fields of a document. -/
def applyFields (entries : List (String × Item)) : List Field → Config → Except ConfigFault Config
  | [], c => .ok c
  | f :: rest, c =>
    match entries.lookup f.key with
    | none => applyFields entries rest c
    | some item =>
      match f.apply item c with
      | some c => applyFields entries rest c
      | none => .error (.document (.unsuitable f.key))

/-- The settings in the text of a configuration file, checked. -/
def ofText (read : Toml.Reader) (text : String) : Except Error Config :=
  match read text with
  | .error number => .error (.config (.document (.malformed number)))
  | .ok entries =>
    match applyFields entries fields usual with
    | .error fault => .error (.config fault)
    | .ok c => do
      c.validate
      .ok c

/-- The settings in the configuration file at a path. -/
def ofFile (read : Toml.Reader) (files : FileStore) (path : String) : Except Error Config :=
  match files.readText path with
  | .ok text => ofText read text
  | .error e => .error (.config (.cannotRead path e))

end PedestrianControl.Config
