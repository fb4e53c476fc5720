/-!
# Opcodes

The table of command and response identifiers. An opcode's category decides how the rest of its unit is
laid out.
-/

namespace PedestrianControl

/-- The categories of opcodes. -/
inductive Category
  /-- Commands for the session and the simulation as a whole. -/
  | control
  /-- Commands that ask for a value. -/
  | get
  /-- Commands that change a value. -/
  | set
  /-- Commands that subscribe to values. -/
  | subscribe
  /-- Subscriptions to a surrounding, which are known but not served. -/
  | contextSubscribe
  /-- Identifiers that only replies carry. -/
  | response
deriving DecidableEq, Inhabited, Repr

/-- The name of a category. -/
def Category.name : Category → String
  | control => "Control"
  | get => "Get"
  | set => "Set"
  | subscribe => "Subscribe"
  | contextSubscribe => "ContextSubscribe"
  | response => "Response"

/-- The known opcodes. -/
inductive Opcode
  | getVersion
  | load
  | simStep
  | sendFile
  | close
  | getSimulation
  | getSimulationResponse
  | setSimulation
  | subscribeSimulation
  | subscribeSimulationResponse
  | simulationContext
  | simulationContextResponse
  | getPerson
  | getPersonResponse
  | setPerson
  | subscribePerson
  | subscribePersonResponse
  | personContext
  | personContextResponse
deriving DecidableEq, Inhabited, Repr

namespace Opcode

/-- The byte that stands for an opcode. -/
def code : Opcode → UInt8
  | getVersion => 0x00
  | load => 0x01
  | simStep => 0x02
  | sendFile => 0x75
  | close => 0x7F
  | getSimulation => 0xAB
  | getSimulationResponse => 0xBB
  | setSimulation => 0xCB
  | subscribeSimulation => 0xDB
  | subscribeSimulationResponse => 0xEB
  | simulationContext => 0x8B
  | simulationContextResponse => 0x9B
  | getPerson => 0xAE
  | getPersonResponse => 0xBE
  | setPerson => 0xCE
  | subscribePerson => 0xDE
  | subscribePersonResponse => 0xEE
  | personContext => 0x8E
  | personContextResponse => 0x9E

/-- The name of an opcode, as the table of commands has it. -/
def name : Opcode → String
  | getVersion => "GetVersion"
  | load => "Load"
  | simStep => "SimStep"
  | sendFile => "SendFile"
  | close => "Close"
  | getSimulation => "GetSimulationValue"
  | getSimulationResponse => "ResponseGetSimulationValue"
  | setSimulation => "SetSimulationState"
  | subscribeSimulation => "SubSimulationValue"
  | subscribeSimulationResponse => "ResponseSubSimulationValue"
  | simulationContext => "SubSimulationContext"
  | simulationContextResponse => "ResponseSubSimulationContext"
  | getPerson => "GetPersonValue"
  | getPersonResponse => "ResponseGetPersonValue"
  | setPerson => "SetPersonState"
  | subscribePerson => "SubPersonValue"
  | subscribePersonResponse => "ResponseSubPersonValue"
  | personContext => "SubPersonContext"
  | personContextResponse => "ResponseSubPersonContext"

/-- Every opcode once. -/
def all : List Opcode :=
  [getVersion, load, simStep, sendFile, close, getSimulation, getSimulationResponse, setSimulation,
    subscribeSimulation, subscribeSimulationResponse, simulationContext, simulationContextResponse,
    getPerson, getPersonResponse, setPerson, subscribePerson, subscribePersonResponse, personContext,
    personContextResponse]

/-- The opcode that a byte stands for. -/
def ofCode? (b : UInt8) : Option Opcode := all.find? fun o => o.code == b

/-- The category of an opcode. -/
def category : Opcode → Category
  | getVersion | load | simStep | sendFile | close => .control
  | getSimulation | getPerson => .get
  | setSimulation | setPerson => .set
  | subscribeSimulation | subscribePerson => .subscribe
  | simulationContext | personContext => .contextSubscribe
  | getSimulationResponse | subscribeSimulationResponse | simulationContextResponse
  | getPersonResponse | subscribePersonResponse | personContextResponse => .response

/-- Reading the byte of an opcode gives the opcode. -/
@[simp] theorem ofCode?_code (o : Opcode) : ofCode? o.code = some o := by
  cases o <;> decide

/-- Only its own byte stands for an opcode. -/
theorem code_of_ofCode? {b : UInt8} {o : Opcode} (h : ofCode? b = some o) : o.code = b := by
  simpa using List.find?_some h

end Opcode

end PedestrianControl
