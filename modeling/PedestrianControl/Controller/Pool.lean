import PedestrianControl.Controller

/-!
# Pools of controllers

Several controllers of one server, each known by a number of the caller's choice. Every connection gets a
number of its own from the server's side, so that a controller that connects again starts a new session.
-/

namespace PedestrianControl.Controller

/-- A server, its controllers by their numbers, and the number of the next connection. -/
structure Pool (σ : Type) where
  server : Server σ
  controllers : List (Nat × Controller)
  next : Nat

namespace Pool

variable {σ : Type}

/-- A server without controllers. -/
def ofServer (server : Server σ) : Pool σ := ⟨server, [], 0⟩

/-- The pool without a controller; its connection ends with it. -/
def drop (s : Pool σ) (number : Nat) : Pool σ :=
  match s.controllers.lookup number with
  | none => s
  | some c =>
    { s with
      server := s.server.disconnect c.connection
      controllers := s.controllers.filter fun entry => entry.1 != number }

/-- The pool with a new controller, in place of an earlier one of that number. -/
def connect (network : Network) (s : Pool σ) (number : Nat) : Except Error (Pool σ) := do
  let s := s.drop number
  let link ← Controller.connect network s.next s.server
  return ⟨link.server, (number, link.controller) :: s.controllers, s.next + 1⟩

/-- What a controller's call gives. Without a connection, it fails for want of one. -/
def call {α : Type} (s : Pool σ) (number : Nat) (work : LinkM σ α) : Except Error α × Pool σ :=
  match s.controllers.lookup number with
  | none => (.error .connectionClosed, s)
  | some c =>
    let keep (link : Link σ) : Pool σ :=
      { s with
        server := link.server
        controllers := (number, link.controller) ::
          s.controllers.filter fun entry => entry.1 != number }
    match work ⟨c, s.server⟩ with
    | .ok a link => (.ok a, keep link)
    | .error e link => (.error e, keep link)

end Pool

end PedestrianControl.Controller
