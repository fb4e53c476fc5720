import PedestrianControl.Proofs.Session.Serving
import PedestrianControl.Proofs.Wire.Parsed

/-!
# Whole sessions

`Transcript` says how a stream of bytes is cut into frames up to the first point at which a session ends,
and how it ends there; it speaks of no state and no reply. Every stream has exactly one transcript
(`exists_transcript`, `Transcript.unique`).

What a session does is then said in terms of the transcript alone (`Session.receiveEach_transcript`): it
routes the commands of the frames in order, each frame's up to its `close`, and sends one reply for each
frame. Nothing is routed that is not in the transcript, so a malformed frame has no effect at all.
-/

namespace PedestrianControl

/-! ## Cutting a stream -/

/-- The commands in the frames of a stream, frame by frame, up to the first point at which a session
ends, and the ending. -/
inductive Transcript (limit : Nat) : Bytes → List (List Command) → Ending → Prop
  /-- The stream ends before a length or inside one. -/
  | leftInLength {bytes} (hshort : bytes.length < Frame.lengthField) :
      Transcript limit bytes [] .closed
  /-- The stream ends inside a payload. -/
  | leftInPayload {length count rest}
      (hlength : Frame.payloadLength length limit = .ok count) (hshort : rest.length < count) :
      Transcript limit (Frame.header length ++ rest) [] .closed
  /-- No frame has such a length. -/
  | badLength {length rest e} (hlength : Frame.payloadLength length limit = .error e) :
      Transcript limit (Frame.header length ++ rest) [] (.failed e)
  /-- The payload is not made of commands. -/
  | malformed {length payload rest e}
      (hlength : Frame.payloadLength length limit = .ok payload.length)
      (hparse : Command.parse payload = .error e) :
      Transcript limit (Frame.header length ++ (payload ++ rest)) [] (.failed e)
  /-- A `close` is among the commands. -/
  | close {length payload rest commands}
      (hlength : Frame.payloadLength length limit = .ok payload.length)
      (hparse : Command.parse payload = .ok commands) (hclose : .close ∈ commands) :
      Transcript limit (Frame.header length ++ (payload ++ rest)) [commands] .closed
  /-- The session goes on behind the frame. -/
  | frame {length payload rest commands batches ending}
      (hlength : Frame.payloadLength length limit = .ok payload.length)
      (hparse : Command.parse payload = .ok commands) (hopen : .close ∉ commands)
      (hrest : Transcript limit rest batches ending) :
      Transcript limit (Frame.header length ++ (payload ++ rest)) (commands :: batches) ending

namespace Transcript

variable {limit : Nat} {bytes : Bytes} {batches : List (List Command)} {ending : Ending}

/-- Every stream can be cut. -/
theorem exists_transcript (limit : Nat) (bytes : Bytes) :
    ∃ batches ending, Transcript limit bytes batches ending := by
  -- every frame takes its length off the stream, so that less is left to cut
  induction hn : bytes.length using Nat.strongRecOn generalizing bytes with
  | ind n ih =>
    by_cases hshort : bytes.length < Frame.lengthField
    · exact ⟨[], .closed, leftInLength hshort⟩
    obtain ⟨length, behind, rfl⟩ := Frame.exists_header (Nat.le_of_not_lt hshort)
    cases hlength : Frame.payloadLength length limit with
    | error e => exact ⟨[], .failed e, badLength hlength⟩
    | ok count =>
      by_cases hpayload : behind.length < count
      · exact ⟨[], .closed, leftInPayload hlength hpayload⟩
      obtain ⟨payload, rest, rfl, rfl⟩ :
          ∃ payload rest, behind = payload ++ rest ∧ payload.length = count :=
        ⟨behind.take count, behind.drop count, (List.take_append_drop _ _).symm,
          List.length_take_of_le (Nat.le_of_not_lt hpayload)⟩
      cases hparse : Command.parse payload with
      | error e => exact ⟨[], .failed e, malformed hlength hparse⟩
      | ok commands =>
        by_cases hclose : .close ∈ commands
        · exact ⟨[commands], .closed, close hlength hparse hclose⟩
        · have hlt : rest.length < n := by
            rw [← hn, List.length_append, List.length_append, Frame.length_header, Frame.lengthField]
            omega
          obtain ⟨batches, ending, hrest⟩ := ih rest.length hlt rest rfl
          exact ⟨commands :: batches, ending, frame hlength hparse hclose hrest⟩

/-- A transcript in terms of what stands at the front of the stream. -/
theorem cases_front (h : Transcript limit bytes batches ending) :
    match Frame.front limit bytes with
    | .incomplete => batches = [] ∧ ending = .closed
    | .fault e => batches = [] ∧ ending = .failed e
    | .complete payload rest =>
      match Command.parse payload with
      | .error e => batches = [] ∧ ending = .failed e
      | .ok commands =>
        (.close ∈ commands ∧ batches = [commands] ∧ ending = .closed) ∨
          (.close ∉ commands ∧
            ∃ behind, batches = commands :: behind ∧ Transcript limit rest behind ending) := by
  cases h with
  | leftInLength hshort =>
    rw [Frame.front_of_short hshort]
    exact ⟨rfl, rfl⟩
  | leftInPayload hlength hshort =>
    rw [Frame.front_of_partial hlength hshort]
    exact ⟨rfl, rfl⟩
  | badLength hlength =>
    rw [Frame.front_of_fault hlength]
    exact ⟨rfl, rfl⟩
  | malformed hlength hparse =>
    rw [Frame.front_of_payload hlength]
    dsimp only
    rw [hparse]
    exact ⟨rfl, rfl⟩
  | close hlength hparse hclose =>
    rw [Frame.front_of_payload hlength]
    dsimp only
    rw [hparse]
    exact .inl ⟨hclose, rfl, rfl⟩
  | frame hlength hparse hopen hrest =>
    rw [Frame.front_of_payload hlength]
    dsimp only
    rw [hparse]
    exact .inr ⟨hopen, _, rfl, hrest⟩

/-- A stream is cut in one way only. -/
theorem unique {batches' : List (List Command)} {ending' : Ending}
    (h : Transcript limit bytes batches ending) (h' : Transcript limit bytes batches' ending') :
    batches' = batches ∧ ending' = ending := by
  induction h generalizing batches' with
  | leftInLength hshort =>
    have hcases := h'.cases_front
    rwa [Frame.front_of_short hshort] at hcases
  | leftInPayload hlength hshort =>
    have hcases := h'.cases_front
    rwa [Frame.front_of_partial hlength hshort] at hcases
  | badLength hlength =>
    have hcases := h'.cases_front
    rwa [Frame.front_of_fault hlength] at hcases
  | malformed hlength hparse =>
    have hcases := h'.cases_front
    simpa only [Frame.front_of_payload hlength, hparse] using hcases
  | close hlength hparse hclose =>
    have hcases := h'.cases_front
    simp only [Frame.front_of_payload hlength, hparse] at hcases
    rcases hcases with ⟨-, hbatches⟩ | ⟨hopen, -⟩
    · exact hbatches
    · exact absurd hclose hopen
  | frame hlength hparse hopen hrest ih =>
    have hcases := h'.cases_front
    simp only [Frame.front_of_payload hlength, hparse] at hcases
    rcases hcases with ⟨hclose, -⟩ | ⟨-, behind, rfl, hbehind⟩
    · exact absurd hclose hopen
    · obtain ⟨rfl, hending⟩ := ih hbehind
      exact ⟨rfl, hending⟩

end Transcript

/-! ## Carrying it out -/

/-- A reply is the frame of these responses, and they are read from it again. Only a payload too long for
the counts of the wire is no promise to a reader. -/
def Carries (reply : Bytes) (answers : List Response) : Prop :=
  ∃ payload, Response.encodeAll answers = .ok payload ∧ reply = Frame.encode payload ∧
    (payload.length < 2 ^ 31 → Response.parse payload = .ok answers)

/-- What was served is one reply for each batch of commands, with one response for each command up to a
`close`, and what is left is the state after routing just these commands in order. -/
structure Served.CarriesOut {σ : Type} [Simulation σ] (served : Served σ) (r : Router σ)
    (batches : List (List Command)) (subs : Subscriptions) (shared : Shared σ)
    (answers : List (List Response)) : Prop where
  replies : List.Forall₂ Carries served.replies answers
  answered : List.Forall₂
    (fun responses commands => List.Forall₂ Response.Answers responses (Command.upToClose commands))
    answers batches
  routed : r.routeEach (batches.flatMap Command.upToClose) subs shared
    = (answers.flatten, served.session.subscriptions, served.shared)

/-- What is known of the commands of a payload is known of those up to a `close`. -/
theorem Command.of_parse_upToClose {payload : Bytes} {commands : List Command}
    (h : Command.parse payload = .ok commands) :
    (∀ c ∈ Command.upToClose commands, c.WellKinded) ∧
      ∀ c ∈ Command.upToClose commands, c.VarsFit := by
  have hparsed := Command.of_parse h
  constructor
  · exact fun c hc => (hparsed c (Command.mem_of_mem_upToClose hc)).1
  · exact fun c hc => (hparsed c (Command.mem_of_mem_upToClose hc)).2

namespace Session

variable {σ : Type} [Simulation σ] {r : Router σ} {limit : Nat}

/-- A well-formed payload is carried out up to its `close` and answered with one reply. -/
theorem perform_of_parse (h : r.registry.Sound) {payload : Bytes} {commands : List Command}
    (hparse : Command.parse payload = .ok commands) {s : Session} (hsubs : s.subscriptions.VarsFit)
    (shared : Shared σ) :
    let done := r.routeEach (Command.upToClose commands) s.subscriptions shared
    ∃ reply, Carries reply done.1 ∧ perform r payload s shared =
      ⟨[reply], ⟨done.2.1, s.unread, if commands.any Command.isClose then some .closed else none⟩,
        done.2.2⟩ := by
  intro done
  obtain ⟨hkinds, hvars⟩ := Command.of_parse_upToClose hparse
  obtain ⟨answer, hencode⟩ := Router.exists_encodeAll_routeEach h hvars hsubs shared
  refine ⟨Frame.encode answer, ⟨answer, hencode, rfl, ?_⟩, ?_⟩
  · exact Router.parse_of_encodeAll_routeEach h hkinds hencode
  · exact perform_of_encodeAll hparse hencode

/-- A session carries out what the transcript of the bytes before it says, and ends as it says. -/
theorem drain_of_transcript (h : r.registry.Sound) {bytes : Bytes} {batches : List (List Command)}
    {ending : Ending} (ht : Transcript limit bytes batches ending) {subs : Subscriptions}
    (hsubs : subs.VarsFit) (shared : Shared σ) :
    ∃ answers, (drain r limit ⟨subs, bytes, none⟩ shared).CarriesOut r batches subs shared answers ∧
      (drain r limit ⟨subs, bytes, none⟩ shared).session.leave.ending? = some ending := by
  -- the subscriptions kept from a frame fit again, and so what is behind it can be answered too
  induction ht generalizing subs shared with
  | leftInLength hshort =>
    rw [drain_of_incomplete (Frame.front_of_short hshort)]
    exact ⟨[], ⟨.nil, .nil, rfl⟩, rfl⟩
  | leftInPayload hlength hshort =>
    rw [drain_of_incomplete (Frame.front_of_partial hlength hshort)]
    exact ⟨[], ⟨.nil, .nil, rfl⟩, rfl⟩
  | badLength hlength =>
    rw [drain_of_fault rfl (Frame.front_of_fault hlength _)]
    exact ⟨[], ⟨.nil, .nil, rfl⟩, rfl⟩
  | malformed hlength hparse =>
    rw [drain_of_complete rfl (Frame.front_of_payload hlength _), perform_of_malformed hparse]
    dsimp only
    rw [drain_of_ended rfl]
    exact ⟨[], ⟨.nil, .nil, rfl⟩, rfl⟩
  | @close length payload rest commands hlength hparse hclose =>
    obtain ⟨reply, hreply, hperform⟩ :=
      perform_of_parse h hparse (s := ⟨subs, rest, none⟩) hsubs shared
    have hkinds := (Command.of_parse_upToClose hparse).1
    rw [drain_of_complete rfl (Frame.front_of_payload hlength _), hperform,
      Command.any_isClose_iff.2 hclose, if_pos rfl]
    dsimp only
    rw [drain_of_ended rfl]
    refine ⟨[_], ⟨.cons hreply .nil, .cons (Router.answers_routeEach h hkinds _ _) .nil, ?_⟩, rfl⟩
    rw [List.flatMap_singleton, List.flatten_singleton]
    rfl
  | @frame length payload rest commands batches ending hlength hparse hopen hrest ih =>
    obtain ⟨reply, hreply, hperform⟩ :=
      perform_of_parse h hparse (s := ⟨subs, rest, none⟩) hsubs shared
    obtain ⟨hkinds, hvars⟩ := Command.of_parse_upToClose hparse
    have hkept := Router.varsFit_routeEach (r := r) hvars hsubs shared
    obtain ⟨answers, hbehind, hending⟩ := ih hkept
      (r.routeEach (Command.upToClose commands) subs shared).2.2
    have hgoes : ¬ commands.any Command.isClose = true :=
      fun hclose => hopen (Command.any_isClose_iff.1 hclose)
    rw [drain_of_complete rfl (Frame.front_of_payload hlength _), hperform, if_neg hgoes]
    refine ⟨_ :: answers, ⟨.cons hreply hbehind.replies,
      .cons (Router.answers_routeEach h hkinds _ _) hbehind.answered, ?_⟩, hending⟩
    rw [List.flatMap_cons, Router.routeEach_append]
    dsimp only
    rw [hbehind.routed]
    rfl

/-- Whatever a stream of bytes is, and in whatever portions it arrives, a new session does with it what
its transcript says. For each frame up to the first point at which a session ends, it sends one reply; the
reply holds one response, with the command's own opcode, for each command of the frame up to a `close`; and
the state, the files and the subscriptions are those after routing exactly these commands in order. -/
theorem receiveEach_transcript (dataDirectory : String) (limit : Nat) (portions : List Bytes)
    (shared : Shared World) :
    let r : Router World := ⟨.standard, dataDirectory⟩
    let served := receiveEach r limit portions start shared
    ∃ batches ending, Transcript limit portions.flatten batches ending ∧
      (∀ batches' ending', Transcript limit portions.flatten batches' ending' →
        batches' = batches ∧ ending' = ending) ∧
      (∃ answers, served.CarriesOut r batches .empty shared answers) ∧
      served.session.leave.ending? = some ending ∧
      run r limit portions.flatten shared = { served with session := served.session.leave } := by
  intro r served
  obtain ⟨batches, ending, ht⟩ := Transcript.exists_transcript limit portions.flatten
  obtain ⟨answers, hserved, hending⟩ := drain_of_transcript (r := r) Registry.sound_standard ht
    Subscriptions.varsFit_empty shared
  have hdrain : served = drain r limit ⟨.empty, portions.flatten, none⟩ shared :=
    receiveEach_start portions shared
  rw [hdrain]
  exact ⟨batches, ending, ht, fun _ _ => ht.unique, ⟨answers, hserved⟩, hending, rfl⟩

end Session

end PedestrianControl
