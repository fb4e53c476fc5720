import PedestrianControl.Decimal.Positional
import PedestrianControl.Wire.Response

/-!
# Values on the screen

The client program prints common values plainly. Other values, and the values of subscriptions, are printed with
the names of their parts.
-/

namespace PedestrianControl.CommandLine

/-- A double with at least one place, in exponent form outside the range from `1e-4` up to `1e16`. -/
def detailedDouble (d : Double) : String :=
  if !d.isFinite then d.text
  else if d.mantissa = 0 then d.text ++ ".0"
  else
    let found := Decimal.shortest d
    let digits := (toString found.digits).toList
    let lead := found.step + (digits.length : Int) - 1
    let sign := if d.isNegative then "-" else ""
    if lead < -4 || 16 ≤ lead then
      let places := match digits.drop 1 with
        | [] => ""
        | more => "." ++ String.ofList more
      s!"{sign}{String.ofList (digits.take 1)}{places}e{lead}"
    else if d.text.toList.contains '.' then d.text
    else d.text ++ ".0"

/-- A character between double quotes. -/
def detailedChar (c : Char) : String :=
  match c with
  | '"' => "\\\""
  | '\\' => "\\\\"
  | '\n' => "\\n"
  | '\r' => "\\r"
  | '\t' => "\\t"
  | '\x00' => "\\0"
  | c => c.toString

/-- A text between double quotes. -/
def detailedText (s : String) : String := "\"" ++ String.join (s.toList.map detailedChar) ++ "\""

/-- Texts in brackets. -/
def bracketed (texts : List String) : String := "[" ++ ", ".intercalate texts ++ "]"

/-- Named parts in braces. -/
def braced (name : String) (parts : List (String × String)) : String :=
  name ++ " \x7b " ++ ", ".intercalate (parts.map fun (k, v) => k ++ ": " ++ v) ++ " \x7d"

/-- A point with the names of its parts. -/
def detailedPoint (p : Vec2) : String :=
  braced "Vec2" [("x", detailedDouble p.x), ("y", detailedDouble p.y)]

mutual

/-- A value with the names of its parts. -/
def detailed : TypedValue → String
  | .pos2d p => s!"Pos2D({detailedPoint p})"
  | .pos3d p =>
    let parts := [("x", detailedDouble p.x), ("y", detailedDouble p.y), ("z", detailedDouble p.z)]
    "Pos3D(" ++ braced "Vec3" parts ++ ")"
  | .polygon points => s!"Polygon({bracketed (points.map detailedPoint)})"
  | .ubyte n => s!"UByte({n.toNat})"
  | .byte n => s!"Byte({n.toInt})"
  | .integer n => s!"Integer({n.toInt})"
  | .double d => s!"Double({detailedDouble d})"
  | .string s => s!"String({detailedText s})"
  | .stringList texts => s!"StringList({bracketed (texts.map detailedText)})"
  | .compound items => s!"Compound({bracketed (detailedItems items)})"
  | .color c =>
    let parts := [("r", toString c.red.toNat), ("g", toString c.green.toNat),
      ("b", toString c.blue.toNat), ("a", toString c.alpha.toNat)]
    "Color(" ++ braced "Color" parts ++ ")"

/-- Values with the names of their parts. -/
def detailedItems : List TypedValue → List String
  | [] => []
  | v :: rest => detailed v :: detailedItems rest

end

/-- A value of a subscription. -/
def detailedSubscribed (v : SubscribedValue) : String :=
  braced "SubscribedValue"
    [("variable", toString v.var.toNat), ("status", v.status.name), ("value", detailed v.value)]

/-- A value as the answer to a question for it. -/
def plain : TypedValue → String
  | .pos2d p => s!"({p.x.text}, {p.y.text})"
  | .pos3d p => s!"({p.x.text}, {p.y.text}, {p.z.text})"
  | .double d => d.text
  | .integer n => toString n.toInt
  | .string s => s
  | .stringList texts => " ".intercalate texts
  | v => detailed v

/-- How a command ended. -/
def statusLine (r : Response) : String :=
  if r.status.description.isEmpty then r.status.result.name
  else s!"{r.status.result.name}: {r.status.description}"

end PedestrianControl.CommandLine
