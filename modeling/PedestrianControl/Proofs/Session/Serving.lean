import PedestrianControl.Proofs.Routing.Batch
import PedestrianControl.Proofs.Wire.Frame

/-!
# Serving what has arrived

`Session.serve` counts frames down so that it ends. As every frame takes a byte, the count is never used up
(`serve_eq_drain`), and `drain` serves whatever whole frames there are. It makes no difference in which
portions the bytes arrive (`receiveEach_start`): a session that has served all it can and is then given
more does what it would have done with all bytes at once (`drain_extend`).
-/

namespace PedestrianControl

variable {σ : Type}

/-- One thing done after another. -/
def Served.followedBy (first next : Served σ) : Served σ :=
  { next with replies := first.replies ++ next.replies }

/-- Three parts that are served one after another may be joined from either end. -/
theorem Served.followedBy_assoc (a b c : Served σ) :
    (a.followedBy b).followedBy c = a.followedBy (b.followedBy c) := by
  simp only [followedBy, List.append_assoc]

namespace Session

/-- A session for which more bytes have arrived. -/
def extend (s : Session) (more : Bytes) : Session := { s with unread := s.unread ++ more }

/-- To receive one portion and then another is to have received both. -/
theorem extend_extend (s : Session) (first next : Bytes) :
    (s.extend first).extend next = s.extend (first ++ next) := by
  simp only [extend, List.append_assoc]

variable [Simulation σ] {r : Router σ} {limit : Nat} {s : Session} {shared : Shared σ}

/-! ## One payload -/

/-- Carrying out a payload leaves the bytes behind it alone. -/
theorem perform_extend (payload more : Bytes) :
    perform r payload (s.extend more) shared =
      let done := perform r payload s shared
      { done with session := done.session.extend more } := by
  rw [perform, perform]
  cases Command.parse payload with
  | error e => rfl
  | ok commands =>
    dsimp only [extend]
    cases Response.encodeAll (r.routeAll commands s.subscriptions shared).responses <;> rfl

/-- Carrying out a payload reads nothing further. -/
theorem unread_perform (payload : Bytes) :
    (perform r payload s shared).session.unread = s.unread := by
  rw [perform]
  cases Command.parse payload with
  | error e => rfl
  | ok commands =>
    dsimp only
    cases Response.encodeAll (r.routeAll commands s.subscriptions shared).responses <;> rfl

/-- A payload that is not made of commands has no effect but the session's end. -/
theorem perform_of_malformed {payload : Bytes} {e : Error} (h : Command.parse payload = .error e)
    (s : Session) (shared : Shared σ) :
    perform r payload s shared = ⟨[], { s with ending? := some (.failed e) }, shared⟩ := by
  rw [perform, h]

/-- The commands of a payload are routed up to a `close`, and their responses are sent in one frame. -/
theorem perform_of_encodeAll {payload answer : Bytes} {commands : List Command}
    (hparse : Command.parse payload = .ok commands)
    (hencode : Response.encodeAll
      (r.routeEach (Command.upToClose commands) s.subscriptions shared).1 = .ok answer) :
    perform r payload s shared =
      let done := r.routeEach (Command.upToClose commands) s.subscriptions shared
      ⟨[Frame.encode answer],
        ⟨done.2.1, s.unread, if commands.any Command.isClose then some .closed else none⟩,
        done.2.2⟩ := by
  rw [perform, hparse]
  dsimp only
  rw [r.routeAll_eq]
  dsimp only
  rw [hencode]

/-! ## All whole frames -/

/-- A session that has ended serves nothing. -/
theorem serve_of_ended (h : s.isConnected = false) (frames : Nat) :
    serve r limit frames s shared = ⟨[], s, shared⟩ := by
  cases frames with
  | zero => rfl
  | succ frames => rw [serve, h, if_neg Bool.false_ne_true]

/-- A session without a whole frame serves nothing yet. -/
theorem serve_of_incomplete (h : Frame.front limit s.unread = .incomplete) (frames : Nat) :
    serve r limit frames s shared = ⟨[], s, shared⟩ := by
  cases frames with
  | zero => rfl
  | succ frames =>
    rw [serve, h]
    exact ite_self _

/-- Counts of frames that are not used up are all the same. -/
theorem serve_congr {n m : Nat} (hn : s.unread.length ≤ n) (hm : s.unread.length ≤ m) :
    serve r limit n s shared = serve r limit m s shared := by
  -- at count zero nothing is unread, so that the other count finds no frame either
  induction n generalizing m s shared with
  | zero =>
    have hshort : Frame.front limit s.unread = .incomplete :=
      Frame.front_of_short (Nat.lt_of_le_of_lt hn (by decide))
    rw [serve_of_incomplete hshort, serve_of_incomplete hshort]
  | succ n ih =>
    cases m with
    | zero =>
      have hshort : Frame.front limit s.unread = .incomplete :=
        Frame.front_of_short (Nat.lt_of_le_of_lt hm (by decide))
      rw [serve_of_incomplete hshort, serve_of_incomplete hshort]
    | succ m =>
      rw [serve, serve]
      cases hfront : Frame.front limit s.unread with
      | incomplete => rfl
      | fault e => rfl
      | complete payload rest =>
        have hlt := Frame.length_lt_of_front_complete hfront
        have hafter : serve r limit n (perform r payload { s with unread := rest } shared).session
              (perform r payload { s with unread := rest } shared).shared
            = serve r limit m (perform r payload { s with unread := rest } shared).session
              (perform r payload { s with unread := rest } shared).shared := by
          refine ih ?_ ?_ <;> rw [unread_perform] <;> show rest.length ≤ _ <;> omega
        dsimp only
        rw [hafter]

/-- Serves all whole frames that have arrived. -/
def drain (r : Router σ) (limit : Nat) (s : Session) (shared : Shared σ) : Served σ :=
  serve r limit s.unread.length s shared

/-- A count of as many frames as there are bytes serves all. -/
theorem serve_eq_drain {frames : Nat} (h : s.unread.length ≤ frames) :
    serve r limit frames s shared = drain r limit s shared :=
  serve_congr h (Nat.le_refl _)

/-- A session that has ended has nothing left to serve. -/
theorem drain_of_ended (h : s.isConnected = false) : drain r limit s shared = ⟨[], s, shared⟩ :=
  serve_of_ended h _

/-- A session without a whole frame waits for more. -/
theorem drain_of_incomplete (h : Frame.front limit s.unread = .incomplete) :
    drain r limit s shared = ⟨[], s, shared⟩ :=
  serve_of_incomplete h _

/-- A frame that cannot be one ends the session with its error. -/
theorem drain_of_fault (hs : s.isConnected = true) {e : Error}
    (h : Frame.front limit s.unread = .fault e) :
    drain r limit s shared = ⟨[], { s with ending? := some (.failed e) }, shared⟩ := by
  rw [← serve_eq_drain (Nat.le_succ s.unread.length), serve, h, if_pos hs]

/-- A frame is carried out, and then what is behind it is served. -/
theorem drain_of_complete (hs : s.isConnected = true) {payload rest : Bytes}
    (h : Frame.front limit s.unread = .complete payload rest) :
    drain r limit s shared =
      let done := perform r payload { s with unread := rest } shared
      done.followedBy (drain r limit done.session done.shared) := by
  have hlt := Frame.length_lt_of_front_complete h
  have hrest : (perform r payload { s with unread := rest } shared).session.unread.length
      ≤ s.unread.length := by
    rw [unread_perform]
    exact Nat.le_of_lt hlt
  rw [← serve_eq_drain (Nat.le_succ s.unread.length), serve, h, if_pos hs]
  dsimp only
  rw [serve_eq_drain hrest]
  rfl

/-- To receive bytes is to serve all whole frames among them and those before. -/
theorem receive_eq_drain (bytes : Bytes) :
    receive r limit bytes s shared = drain r limit (s.extend bytes) shared := rfl

/-! ## Portions -/

/-- Bytes that arrive after all has been served are served as if they had been there before. -/
theorem drain_extend (s : Session) (shared : Shared σ) (more : Bytes) :
    drain r limit (s.extend more) shared =
      let first := drain r limit s shared
      first.followedBy (drain r limit (first.session.extend more) first.shared) := by
  -- a frame carried out leaves fewer bytes unread, and the bytes that come later stay behind these
  induction hn : s.unread.length using Nat.strongRecOn generalizing s shared with
  | ind n ih =>
    cases hs : s.isConnected with
    | false =>
      rw [drain_of_ended hs]
      rfl
    | true =>
      have hextended : (s.extend more).isConnected = true := hs
      cases hfront : Frame.front limit s.unread with
      | incomplete =>
        rw [drain_of_incomplete hfront]
        rfl
      | fault e =>
        have hmore := Frame.front_append_of_fault hfront more
        rw [drain_of_fault hs hfront, drain_of_fault hextended hmore]
        dsimp only
        rw [drain_of_ended rfl]
        rfl
      | complete payload rest =>
        have hmore := Frame.front_append_of_complete hfront more
        have hlt := Frame.length_lt_of_front_complete hfront
        have hunread : (perform r payload { s with unread := rest } shared).session.unread = rest :=
          unread_perform payload
        have hafter := ih _ (by rw [hunread, ← hn]; exact hlt) _
          (perform r payload { s with unread := rest } shared).shared rfl
        rw [drain_of_complete hs hfront, drain_of_complete hextended hmore]
        show (perform r payload (extend { s with unread := rest } more) shared).followedBy
          (drain r limit (perform r payload (extend { s with unread := rest } more) shared).session
            (perform r payload (extend { s with unread := rest } more) shared).shared) = _
        rw [perform_extend]
        dsimp only
        rw [hafter, Served.followedBy_assoc]
        rfl

/-- A frame that arrives at an idle session is carried out, and nothing is left of it. -/
theorem receive_encode (hs : s.isConnected = true) (hunread : s.unread = []) {payload : Bytes}
    (hne : payload ≠ []) (hlimit : payload.length + Frame.lengthField ≤ limit)
    (hlt : payload.length + Frame.lengthField < 2 ^ 31) :
    receive r limit (Frame.encode payload) s shared = perform r payload s shared := by
  have hfront : Frame.front limit (s.extend (Frame.encode payload)).unread = .complete payload [] := by
    rw [extend, hunread, List.nil_append, ← List.append_nil (Frame.encode payload)]
    exact Frame.front_encode hne hlimit hlt []
  have hconnected : (s.extend (Frame.encode payload)).isConnected = true := hs
  have hidle : { s.extend (Frame.encode payload) with unread := [] } = s := by
    rw [extend, ← hunread]
  have hafter : (perform r payload s shared).session.unread = [] := by rw [unread_perform, hunread]
  rw [receive_eq_drain, drain_of_complete hconnected hfront, hidle]
  dsimp only
  rw [drain_of_incomplete (by rw [hafter]; rfl)]
  simp only [Served.followedBy, List.append_nil]

/-- What a session does with bytes that arrive in portions. -/
def receiveEach (r : Router σ) (limit : Nat) : List Bytes → Session → Shared σ → Served σ
  | [], s, shared => ⟨[], s, shared⟩
  | portion :: rest, s, shared =>
    let first := receive r limit portion s shared
    first.followedBy (receiveEach r limit rest first.session first.shared)

/-- What arrives in portions is served as if it had arrived at once. -/
theorem receiveEach_cons (portion : Bytes) (rest : List Bytes) (s : Session) (shared : Shared σ) :
    receiveEach r limit (portion :: rest) s shared
      = receive r limit (portion :: rest).flatten s shared := by
  induction rest generalizing portion s shared with
  | nil =>
    rw [List.flatten_singleton, receiveEach, receiveEach]
    simp only [Served.followedBy, List.append_nil]
  | cons next rest ih =>
    rw [receiveEach, List.flatten_cons, ih, receive_eq_drain, receive_eq_drain, receive_eq_drain,
      ← extend_extend]
    exact (drain_extend (s.extend portion) shared _).symm

/-- A new session does the same whichever portions the bytes arrive in. -/
theorem receiveEach_start (portions : List Bytes) (shared : Shared σ) :
    receiveEach r limit portions start shared = receive r limit portions.flatten start shared := by
  cases portions with
  | nil => rfl
  | cons portion rest => exact receiveEach_cons portion rest start shared

end Session

end PedestrianControl
