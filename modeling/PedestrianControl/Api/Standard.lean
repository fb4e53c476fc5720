import PedestrianControl.Api.Clock
import PedestrianControl.Api.Person
import PedestrianControl.Api.Registry

/-!
# The registry of the server
-/

namespace PedestrianControl

namespace Registry

/-- The registry with the person and the simulation surface. -/
def standard : Registry World := ⟨[Person.surface, Clock.surface]⟩

/-- The two surfaces have sound tables and share no opcode. -/
theorem build_standard : build [Person.surface, Clock.surface] = .ok standard := by
  rfl

end Registry

end PedestrianControl
