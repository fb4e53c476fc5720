/-!
# Result codes

How a command ended, as its status unit tells.
-/

namespace PedestrianControl

/-- How a command ended. -/
inductive ResultCode
  | ok
  | notImplemented
  | error
deriving DecidableEq, Inhabited, Repr

namespace ResultCode

/-- The byte that stands for a result. -/
def code : ResultCode → UInt8
  | ok => 0x00
  | notImplemented => 0x01
  | error => 0xFF

/-- The result that a byte stands for. -/
def ofCode? (b : UInt8) : Option ResultCode :=
  if b = 0x00 then some ok
  else if b = 0x01 then some notImplemented
  else if b = 0xFF then some error
  else none

/-- The result as a word. -/
def name : ResultCode → String
  | ok => "Ok"
  | notImplemented => "NotImplemented"
  | error => "Error"

/-- Reading the byte of a result gives the result. -/
@[simp] theorem ofCode?_code (r : ResultCode) : ofCode? r.code = some r := by
  cases r <;> decide

/-- Only its own byte stands for a result. -/
theorem code_of_ofCode? {b : UInt8} {r : ResultCode} (h : ofCode? b = some r) : r.code = b := by
  unfold ofCode? at h
  split at h
  · cases h; subst b; rfl
  · split at h
    · cases h; subst b; rfl
    · split at h
      · cases h; subst b; rfl
      · cases h

end ResultCode

end PedestrianControl
