import PedestrianControl.Wire.Opcode
import PedestrianControl.Wire.ResultCode
import PedestrianControl.Wire.TypedValue

/-!
# Responses

What the server answers to a command: its status, and a body whose shape depends on the command.
-/

namespace PedestrianControl

/-- The version of the interface that the server speaks. -/
def apiVersion : Int32 := 20

/-- The part of a response that every command gets. -/
structure Status where
  opcode : Opcode
  result : ResultCode
  description : String
deriving DecidableEq, Inhabited, Repr

/-- The version of the interface and the name of the server. -/
structure VersionInfo where
  api : Int32
  identifier : String
deriving DecidableEq, Inhabited, Repr

/-- The value of one variable of one element. -/
structure ValueReport where
  opcode : Opcode
  var : UInt8
  element : String
  value : TypedValue
deriving Inhabited

/-- One value of a subscription, or why there is none, as a text. -/
structure SubscribedValue where
  var : UInt8
  status : ResultCode
  value : TypedValue
deriving Inhabited

/-- The values of a subscription at one time. -/
structure SubscriptionResult where
  opcode : Opcode
  element : String
  values : List SubscribedValue
deriving Inhabited

/-- The value reported for a variable, if it was asked for and could be had. -/
def SubscriptionResult.valueOf? (r : SubscriptionResult) (var : UInt8) : Option TypedValue :=
  (r.values.find? fun v => v.var == var && v.status == .ok).map (·.value)

/-- What a response holds beside its status. -/
inductive Body
  | none
  | version (info : VersionInfo)
  | value (report : ValueReport)
  | subscription (result : SubscriptionResult)
  | simStep (results : List SubscriptionResult)
deriving Inhabited

/-- The answer to one command. -/
structure Response where
  status : Status
  body : Body
deriving Inhabited

namespace Response

/-- Success without a body. -/
def ok (o : Opcode) : Response := ⟨⟨o, .ok, ""⟩, .none⟩

/-- A failure and its description. -/
def error (o : Opcode) (description : String) : Response := ⟨⟨o, .error, description⟩, .none⟩

/-- A command that the server does not serve. -/
def notImplemented (o : Opcode) (description : String) : Response :=
  ⟨⟨o, .notImplemented, description⟩, .none⟩

/-- Success with a body. -/
def withBody (o : Opcode) (body : Body) : Response := ⟨⟨o, .ok, ""⟩, body⟩

/-- The answer to the question for the version. -/
def version (identifier : String) : Response :=
  withBody .getVersion (.version ⟨apiVersion, identifier⟩)

/-- The answer to a step, with the results of the session's subscriptions. -/
def simStep (results : List SubscriptionResult) : Response := withBody .simStep (.simStep results)

/-- Whether the command succeeded. -/
def isOk (r : Response) : Bool := r.status.result == .ok

/-- The value in the body. -/
def value? (r : Response) : Option TypedValue :=
  match r.body with
  | .value report => some report.value
  | _ => none

/-- The results of subscriptions in the body of the answer to a step. -/
def subscriptions (r : Response) : List SubscriptionResult :=
  match r.body with
  | .simStep results => results
  | _ => []

end Response

/-! ## Agreement of doubles as numbers -/

/-- Whether two reports agree. -/
def ValueReport.same (a b : ValueReport) : Bool :=
  a.opcode == b.opcode && a.var == b.var && a.element == b.element &&
    a.value.same b.value

/-- Whether two lists of subscribed values agree. -/
def SubscribedValue.sameAll : List SubscribedValue → List SubscribedValue → Bool
  | [], [] => true
  | a :: as, b :: bs =>
    a.var == b.var && a.status == b.status && a.value.same b.value && sameAll as bs
  | _, _ => false

/-- Whether two results agree. -/
def SubscriptionResult.same (a b : SubscriptionResult) : Bool :=
  a.opcode == b.opcode && a.element == b.element && SubscribedValue.sameAll a.values b.values

/-- Whether two lists of results agree. -/
def SubscriptionResult.sameAll : List SubscriptionResult → List SubscriptionResult → Bool
  | [], [] => true
  | a :: as, b :: bs => a.same b && sameAll as bs
  | _, _ => false

/-- Whether two bodies agree. -/
def Body.same : Body → Body → Bool
  | .none, .none => true
  | .version a, .version b => a == b
  | .value a, .value b => a.same b
  | .subscription a, .subscription b => a.same b
  | .simStep a, .simStep b => SubscriptionResult.sameAll a b
  | _, _ => false

/-- Whether two lists of responses agree. -/
def Response.sameAll : List Response → List Response → Bool
  | [], [] => true
  | a :: as, b :: bs => a.status == b.status && a.body.same b.body && sameAll as bs
  | _, _ => false

end PedestrianControl
