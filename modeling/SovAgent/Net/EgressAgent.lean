import SovAgent.Foundation.Base64
import SovAgent.Foundation.Occurrence

/-! # The proxy handshake

A CONNECT tunnel through the egress proxy. The reply is accumulated chunk by
chunk until its first blank line, and the status line decides.
-/

namespace SovAgent.Net

/-! ## The status line -/

def beginsAs : List (Char → Bool) → List Char → Bool
  | [], _ => true
  | _ :: _, [] => false
  | inClass :: classes, character :: rest => inClass character && beginsAs classes rest

/-- `HTTP\/\d\.\d ` -/
def versionPattern : List (Char → Bool) :=
  [(· == 'H'), (· == 'T'), (· == 'T'), (· == 'P'), (· == '/'), Char.isDigit, (· == '.'),
    Char.isDigit, (· == ' ')]

/-- The group of `/^HTTP\/\d\.\d (\d{3})/`. -/
def statusCode (statusLine : List Char) : Option (List Char) :=
  if beginsAs (versionPattern ++ [Char.isDigit, Char.isDigit, Char.isDigit]) statusLine then
    some ((statusLine.drop 9).take 3)
  else none

def lineEnd : List Char := ['\r', '\n']

def blankLine : List Char := ['\r', '\n', '\r', '\n']

/-- `text.slice(0, index)`, with -1 for an index that was not found. -/
def sliceTo (text : List Char) : Option Nat → List Char
  | some index => text.take index
  | none => text.dropLast

def statusLineOf (buf : List Char) : List Char := sliceTo buf (indexOf lineEnd buf)

def latin1 (chunk : Bytes) : List Char := chunk.map fun byte => Char.ofNat byte.toNat

/-! ## The handshake -/

structure Target where
  targetHost : String
  targetPort : Nat
  token : String

inductive Outcome where
  | resolved
  | rejected (message : String)
  deriving DecidableEq

/-- The promise, its timer and its socket. `settled` is the first outcome. -/
structure Handshake where
  buf : List Char
  settled : Option Outcome
  written : List String
  timerArmed : Bool
  destroyed : Bool
  listensConnect : Bool
  listensData : Bool
  listensError : Bool

def opened : Handshake where
  buf := []
  settled := none
  written := []
  timerArmed := true
  destroyed := false
  listensConnect := true
  listensData := true
  listensError := true

inductive Event where
  | connect
  | data (chunk : Bytes)
  | error (message : String)
  | timeout

def connectRequest (o : Target) : String :=
  let hp := s!"{o.targetHost}:{o.targetPort}"
  s!"CONNECT {hp} HTTP/1.1\r\n" ++ s!"Host: {hp}\r\n" ++
    s!"Proxy-Authorization: Bearer {o.token}\r\n" ++ "\r\n"

def fail (message : String) (state : Handshake) : Handshake :=
  match state.settled with
  | none => { state with
      settled := some (.rejected message), timerArmed := false, destroyed := true }
  | some _ => state

/-- A second `resolve` of a promise does nothing. -/
def accept (state : Handshake) : Handshake :=
  { state with
    settled := state.settled.or (some .resolved), timerArmed := false, listensError := false }

def settleByStatus (state : Handshake) : Handshake :=
  let statusLine := statusLineOf state.buf
  if statusCode statusLine = some ['2', '0', '0'] then accept state
  else fail s!"egress CONNECT refused: {String.ofList statusLine}" state

def onData (chunk : Bytes) (state : Handshake) : Handshake :=
  let buf := state.buf ++ latin1 chunk
  match indexOf blankLine buf with
  | none =>
      if buf.length > 8192 then fail "egress CONNECT header too large" { state with buf }
      else { state with buf }
  | some _ => settleByStatus { state with buf, listensData := false }

/-- What the socket and the timer do. A destroyed socket emits no data. -/
def step (o : Target) (state : Handshake) : Event → Handshake
  | .connect =>
      if state.listensConnect && !state.destroyed then
        { state with listensConnect := false, written := state.written ++ [connectRequest o] }
      else state
  | .data chunk =>
      if state.listensData && !state.destroyed then onData chunk state else state
  | .error message =>
      if state.listensError then fail message { state with listensError := false } else state
  | .timeout => if state.timerArmed then fail "egress CONNECT timeout" state else state

def connectThroughProxy (o : Target) (events : List Event) : Handshake :=
  events.foldl (step o) opened

/-! ## What a handshake promises -/

def Handshake.Resolved (state : Handshake) : Prop := state.settled = some .resolved

def Handshake.Rejected (state : Handshake) : Prop :=
  ∃ message, state.settled = some (.rejected message)

def Event.delivers : Event → Option Bytes
  | .connect => some []
  | .data chunk => some chunk
  | .error _ | .timeout => none

/-- Undisturbed events that deliver a stream, in whatever chunks. -/
inductive Delivers : List Event → Bytes → Prop
  | nil : Delivers [] []
  | cons {event events chunk stream} : event.delivers = some chunk → Delivers events stream →
      Delivers (event :: events) (chunk ++ stream)

def headerBlock (text : List Char) : List Char :=
  text.take ((indexOf blankLine text).getD text.length)

/-- The code that follows the version, up to a space or to the end of the line. -/
def StatusIsOk (statusLine : List Char) : Prop :=
  beginsAs versionPattern statusLine = true ∧
    (statusLine.drop 9).takeWhile (· != ' ') = ['2', '0', '0']

/-- The promise of a handshake: which bytes arrive matters, not how they are cut,
and a status of exactly 200 within the limit is all that is accepted. -/
structure Handshakes (o : Target) (stream : Bytes) : Prop where
  independent : ∀ left right, Delivers left stream → Delivers right stream →
    ((connectThroughProxy o left).Resolved ↔ (connectThroughProxy o right).Resolved) ∧
    ((connectThroughProxy o left).Rejected ↔ (connectThroughProxy o right).Rejected)
  accepts : ∀ events, Delivers events stream → (connectThroughProxy o events).Resolved →
    (indexOf blankLine (latin1 stream)).isSome = true ∧
      (headerBlock (latin1 stream)).length ≤ 8192 ∧ StatusIsOk (statusLineOf (latin1 stream))
  refuses : ∀ events, Delivers events stream →
    (indexOf blankLine (latin1 stream)).isSome = true →
    ¬ StatusIsOk (statusLineOf (latin1 stream)) → (connectThroughProxy o events).Rejected
  limits : ∀ events, Delivers events stream → 8192 < (headerBlock (latin1 stream)).length →
    (connectThroughProxy o events).Rejected

/-! ## Status lines -/

theorem latin1_append (left right : Bytes) : latin1 (left ++ right) = latin1 left ++ latin1 right :=
  List.map_append

theorem statusLineOf_append {text : List Char} {length : Nat}
    (complete : indexOf blankLine text = some length) (more : List Char) :
    statusLineOf (text ++ more) = statusLineOf text := by
  have begins : lineEnd <+: blankLine := ⟨['\r', '\n'], rfl⟩
  rcases indexOf_beginning begins complete with ⟨first, found⟩
  have fits : first + lineEnd.length ≤ text.length := indexOf_fits found
  rw [statusLineOf, statusLineOf, indexOf_append found, found]
  exact List.take_append_of_le_length (Nat.le_of_add_right_le fits)

/-! ## What a chunk can do -/

def verdict (statusLine : List Char) : Outcome :=
  if statusCode statusLine = some ['2', '0', '0'] then .resolved
  else .rejected s!"egress CONNECT refused: {String.ofList statusLine}"

/-- What a handshake has come to after the bytes it received. -/
inductive Reached (received : List Char) (state : Handshake) : Prop
  | waiting :
      state.settled = none → state.destroyed = false → state.listensData = true →
      state.buf = received → indexOf blankLine received = none → received.length ≤ 8192 →
      Reached received state
  | tooLarge {before : List Char} :
      state.settled = some (.rejected "egress CONNECT header too large") →
      state.destroyed = true → before <+: received → indexOf blankLine before = none →
      8192 < before.length → Reached received state
  | answered {length : Nat} :
      state.settled = some (verdict (statusLineOf received)) → state.listensData = false →
      indexOf blankLine received = some length → Reached received state

theorem settleByStatus_settled (state : Handshake) (pending : state.settled = none) :
    (settleByStatus state).settled = some (verdict (statusLineOf state.buf)) ∧
      (settleByStatus state).listensData = state.listensData := by
  rw [settleByStatus, verdict]
  split
  · rw [accept, pending]
    exact ⟨rfl, rfl⟩
  · rw [fail, pending]
    exact ⟨rfl, rfl⟩

theorem onData_complete {chunk : Bytes} {state : Handshake} {length : Nat}
    (found : indexOf blankLine (state.buf ++ latin1 chunk) = some length) :
    onData chunk state = settleByStatus { state with
      buf := state.buf ++ latin1 chunk, listensData := false } := by
  simp only [onData, found]

theorem onData_large {chunk : Bytes} {state : Handshake}
    (missing : indexOf blankLine (state.buf ++ latin1 chunk) = none)
    (large : 8192 < (state.buf ++ latin1 chunk).length) :
    onData chunk state = fail "egress CONNECT header too large" { state with
      buf := state.buf ++ latin1 chunk } := by
  simp only [onData, missing]
  exact if_pos large

theorem onData_short {chunk : Bytes} {state : Handshake}
    (missing : indexOf blankLine (state.buf ++ latin1 chunk) = none)
    (short : (state.buf ++ latin1 chunk).length ≤ 8192) :
    onData chunk state = { state with buf := state.buf ++ latin1 chunk } := by
  simp only [onData, missing]
  exact if_neg (Nat.not_lt_of_le short)

theorem onData_reached {state : Handshake} (chunk : Bytes) (pending : state.settled = none)
    (alive : state.destroyed = false) (listens : state.listensData = true) :
    Reached (state.buf ++ latin1 chunk) (onData chunk state) := by
  cases found : indexOf blankLine (state.buf ++ latin1 chunk) with
  | none =>
      by_cases large : 8192 < (state.buf ++ latin1 chunk).length
      · rw [onData_large found large, fail, pending]
        exact Reached.tooLarge rfl rfl (List.prefix_refl _) found large
      · have short := Nat.le_of_not_lt large
        rw [onData_short found short]
        exact Reached.waiting pending alive listens rfl found short
  | some length =>
      rw [onData_complete found]
      have settled := settleByStatus_settled { state with
        buf := state.buf ++ latin1 chunk, listensData := false } pending
      exact Reached.answered settled.1 settled.2 found

theorem Reached.append {received : List Char} {state : Handshake} (more : List Char)
    (reached : Reached received state) (decided : state.settled ≠ none) :
    Reached (received ++ more) state := by
  cases reached with
  | waiting pending => exact absurd pending decided
  | tooLarge settled destroyed starts missing large =>
      exact Reached.tooLarge settled destroyed (starts.trans (List.prefix_append _ _)) missing large
  | answered settled deaf found =>
      rw [← statusLineOf_append found more] at settled
      exact Reached.answered settled deaf (indexOf_append found more)

theorem Reached.deaf {received : List Char} {state : Handshake} (reached : Reached received state)
    (decided : state.settled ≠ none) : (state.listensData && !state.destroyed) = false := by
  cases reached with
  | waiting pending => exact absurd pending decided
  | tooLarge _ destroyed =>
      rw [destroyed]
      exact Bool.and_false _
  | answered _ deaf =>
      rw [deaf]
      exact Bool.false_and _

theorem step_connect_reached {o : Target} {received : List Char} {state : Handshake}
    (reached : Reached received state) : Reached received (step o state .connect) := by
  rw [step]
  split
  · cases reached with
    | waiting pending alive listens accumulated missing within =>
        exact Reached.waiting pending alive listens accumulated missing within
    | tooLarge settled destroyed starts missing large =>
        exact Reached.tooLarge settled destroyed starts missing large
    | answered settled deaf found => exact Reached.answered settled deaf found
  · exact reached

theorem step_data_reached {o : Target} {received : List Char} {state : Handshake} (chunk : Bytes)
    (reached : Reached received state) :
    Reached (received ++ latin1 chunk) (step o state (.data chunk)) := by
  rw [step]
  by_cases decided : state.settled = none
  · cases reached with
    | waiting pending alive listens accumulated missing within =>
        have hears : (state.listensData && !state.destroyed) = true := by
          rw [listens, alive]
          rfl
        rw [if_pos hears, ← accumulated]
        exact onData_reached chunk pending alive listens
    | tooLarge settled => cases settled.symm.trans decided
    | answered settled => cases settled.symm.trans decided
  · have deaf := reached.deaf decided
    rw [deaf]
    exact reached.append _ decided

theorem step_reached {o : Target} {received : List Char} {state : Handshake} {event : Event}
    {chunk : Bytes} (delivered : event.delivers = some chunk) (reached : Reached received state) :
    Reached (received ++ latin1 chunk) (step o state event) := by
  cases event with
  | connect =>
      cases delivered
      rw [latin1, List.map_nil, List.append_nil]
      exact step_connect_reached reached
  | data bytes =>
      cases delivered
      exact step_data_reached _ reached
  | error message => cases delivered
  | timeout => cases delivered

/-! ## Whole handshakes -/

theorem run_reached {o : Target} {events : List Event} {stream : Bytes}
    (delivers : Delivers events stream) {received : List Char} {state : Handshake}
    (reached : Reached received state) :
    Reached (received ++ latin1 stream) (events.foldl (step o) state) := by
  induction delivers generalizing received state with
  | nil =>
      rw [latin1, List.map_nil, List.append_nil]
      exact reached
  | cons delivered _ induction =>
      rw [latin1_append, ← List.append_assoc]
      exact induction (step_reached delivered reached)

theorem connectThroughProxy_reached {o : Target} {events : List Event} {stream : Bytes}
    (delivers : Delivers events stream) :
    Reached (latin1 stream) (connectThroughProxy o events) := by
  have initially : Reached [] opened := Reached.waiting rfl rfl rfl rfl rfl (Nat.zero_le 8192)
  exact run_reached delivers initially

theorem delivers_chunks (chunks : List Bytes) :
    Delivers (chunks.map .data) chunks.flatten := by
  induction chunks with
  | nil => exact Delivers.nil
  | cons chunk chunks induction =>
      have delivered : (Event.data chunk).delivers = some chunk := rfl
      exact Delivers.cons delivered induction

theorem settled_of_short {o : Target} {events : List Event} {stream : Bytes} {length : Nat}
    (delivers : Delivers events stream)
    (complete : indexOf blankLine (latin1 stream) = some length) (short : length ≤ 8189) :
    (connectThroughProxy o events).settled = some (verdict (statusLineOf (latin1 stream))) := by
  cases connectThroughProxy_reached (o := o) delivers with
  | waiting _ _ _ _ missing => cases missing.symm.trans complete
  | answered settled => exact settled
  | @tooLarge before _ _ starts missing large =>
      rcases starts with ⟨rest, split⟩
      rw [← split] at complete
      have fits : length + blankLine.length ≤ before.length :=
        Nat.le_trans (Nat.add_le_add_right short 4) large
      cases missing.symm.trans (indexOf_of_append complete fits)

theorem step_opened {o : Target} {chunk : Bytes} :
    step o opened (.data chunk) = onData chunk opened := by
  have hears : (opened.listensData && !opened.destroyed) = true := rfl
  rw [step, if_pos hears]

theorem settled_of_chunk {o : Target} {stream : Bytes} {length : Nat}
    (complete : indexOf blankLine (latin1 stream) = some length) :
    (connectThroughProxy o [.data stream]).settled =
      some (verdict (statusLineOf (latin1 stream))) := by
  have found : indexOf blankLine (opened.buf ++ latin1 stream) = some length := complete
  rw [connectThroughProxy, List.foldl_cons, List.foldl_nil, step_opened, onData_complete found]
  exact (settleByStatus_settled _ rfl).1

theorem settled_of_large {o : Target} {first : Bytes} (rest : Bytes)
    (missing : indexOf blankLine (latin1 first) = none) (large : 8192 < (latin1 first).length) :
    (connectThroughProxy o [.data first, .data rest]).settled =
      some (.rejected "egress CONNECT header too large") := by
  have notFound : indexOf blankLine (opened.buf ++ latin1 first) = none := missing
  rw [connectThroughProxy, List.foldl_cons, step_opened, onData_large notFound large]
  rfl

theorem verdict_resolved_iff {statusLine : List Char} :
    verdict statusLine = .resolved ↔ statusCode statusLine = some ['2', '0', '0'] := by
  rw [verdict]
  split
  · rename_i ok
    exact ⟨fun _ => ok, fun _ => rfl⟩
  · rename_i refused
    constructor
    · intro impossible
      cases impossible
    · intro ok
      exact absurd ok refused

/-! ## Exactly when the handshake keeps its promise -/

/-- A reply that the status test lets through is short enough to be found within
the limit however it is cut, and its code ends after the three digits. -/
def Unmistakable (text : List Char) : Prop :=
  ∀ length, indexOf blankLine text = some length →
    statusCode (statusLineOf text) = some ['2', '0', '0'] →
    length ≤ 8189 ∧ StatusIsOk (statusLineOf text)

theorem headerBlock_length {text : List Char} {length : Nat}
    (complete : indexOf blankLine text = some length) : (headerBlock text).length = length := by
  have fits := indexOf_fits complete
  rw [headerBlock, complete, Option.getD_some, List.length_take]
  exact Nat.min_eq_left (Nat.le_of_add_right_le fits)

def Accepted (text : List Char) : Prop :=
  (indexOf blankLine text).isSome = true ∧ statusCode (statusLineOf text) = some ['2', '0', '0']

def Refused (text : List Char) : Prop :=
  (indexOf blankLine text = none ∧ 8192 < text.length) ∨
    ((indexOf blankLine text).isSome = true ∧ statusCode (statusLineOf text) ≠ some ['2', '0', '0'])

theorem verdict_refused {statusLine : List Char}
    (refused : statusCode statusLine ≠ some ['2', '0', '0']) :
    ∃ message, verdict statusLine = .rejected message :=
  ⟨_, if_neg refused⟩

theorem resolved_iff {o : Target} {events : List Event} {stream : Bytes}
    (unmistakable : Unmistakable (latin1 stream)) (delivers : Delivers events stream) :
    (connectThroughProxy o events).Resolved ↔ Accepted (latin1 stream) := by
  constructor
  · intro resolved
    cases connectThroughProxy_reached (o := o) delivers with
    | waiting pending => cases pending.symm.trans resolved
    | tooLarge settled => cases settled.symm.trans resolved
    | answered settled _ found =>
        have decided := Option.some.inj (settled.symm.trans resolved)
        exact ⟨by rw [found]; rfl, verdict_resolved_iff.mp decided⟩
  · intro accepted
    rcases Option.isSome_iff_exists.mp accepted.1 with ⟨length, complete⟩
    have short := (unmistakable length complete accepted.2).1
    rw [Handshake.Resolved, settled_of_short delivers complete short,
      verdict_resolved_iff.mpr accepted.2]

theorem rejected_iff {o : Target} {events : List Event} {stream : Bytes}
    (unmistakable : Unmistakable (latin1 stream)) (delivers : Delivers events stream) :
    (connectThroughProxy o events).Rejected ↔ Refused (latin1 stream) := by
  constructor
  · intro rejected
    rcases rejected with ⟨message, rejected⟩
    have notResolved : ¬ Accepted (latin1 stream) := by
      intro accepted
      cases rejected.symm.trans ((resolved_iff unmistakable delivers).mpr accepted)
    cases found : indexOf blankLine (latin1 stream) with
    | some length =>
        have complete : (indexOf blankLine (latin1 stream)).isSome = true := by
          rw [found]
          rfl
        exact Or.inr ⟨complete, fun ok => notResolved ⟨complete, ok⟩⟩
    | none =>
        cases connectThroughProxy_reached (o := o) delivers with
        | waiting pending => cases pending.symm.trans rejected
        | tooLarge _ _ starts _ large =>
            exact Or.inl ⟨found, Nat.lt_of_lt_of_le large starts.length_le⟩
        | answered _ _ complete => cases found.symm.trans complete
  · intro refused
    cases connectThroughProxy_reached (o := o) delivers with
    | waiting _ _ _ _ missing within =>
        rcases refused with ⟨_, large⟩ | ⟨complete, _⟩
        · exact absurd within (Nat.not_le_of_lt large)
        · rw [missing] at complete
          cases complete
    | tooLarge settled => exact ⟨_, settled⟩
    | answered settled _ found =>
        rcases refused with ⟨missing, _⟩ | ⟨_, refused⟩
        · cases missing.symm.trans found
        · rcases verdict_refused refused with ⟨message, decided⟩
          exact ⟨message, settled.trans (congrArg some decided)⟩

theorem refused_of_complete {text : List Char} (unmistakable : Unmistakable text) {length : Nat}
    (complete : indexOf blankLine text = some length)
    (other : 8192 < length ∨ ¬ StatusIsOk (statusLineOf text)) : Refused text := by
  refine Or.inr ⟨by rw [complete]; rfl, ?_⟩
  intro ok
  rcases unmistakable length complete ok with ⟨short, exactly⟩
  rcases other with large | wrong
  · omega
  · exact wrong exactly

theorem refused_of_large {text : List Char} (unmistakable : Unmistakable text)
    (large : 8192 < (headerBlock text).length) : Refused text := by
  cases found : indexOf blankLine text with
  | none =>
      rw [headerBlock, found, Option.getD_none, List.take_length] at large
      exact Or.inl ⟨found, large⟩
  | some length =>
      rw [headerBlock_length found] at large
      exact refused_of_complete unmistakable found (Or.inl large)

theorem handshakes_of_unmistakable {o : Target} {stream : Bytes}
    (unmistakable : Unmistakable (latin1 stream)) : Handshakes o stream where
  independent := by
    intro left right deliversLeft deliversRight
    constructor
    · exact (resolved_iff unmistakable deliversLeft).trans
        (resolved_iff unmistakable deliversRight).symm
    · exact (rejected_iff unmistakable deliversLeft).trans
        (rejected_iff unmistakable deliversRight).symm
  accepts := by
    intro events delivers resolved
    have accepted := (resolved_iff unmistakable delivers).mp resolved
    rcases Option.isSome_iff_exists.mp accepted.1 with ⟨length, complete⟩
    rcases unmistakable length complete accepted.2 with ⟨short, exactly⟩
    refine ⟨accepted.1, ?_, exactly⟩
    rw [headerBlock_length complete]
    omega
  refuses := by
    intro events delivers isSome wrong
    rcases Option.isSome_iff_exists.mp isSome with ⟨length, complete⟩
    have refused := refused_of_complete unmistakable complete (Or.inr wrong)
    exact (rejected_iff unmistakable delivers).mpr refused
  limits := by
    intro events delivers large
    exact (rejected_iff unmistakable delivers).mpr (refused_of_large unmistakable large)

/-- Cut after 8193 bytes, a long header is found too large before it is complete. -/
theorem settled_of_cut {o : Target} {stream : Bytes} {length : Nat}
    (complete : indexOf blankLine (latin1 stream) = some length) (long : 8189 < length) :
    (connectThroughProxy o [.data (stream.take 8193), .data (stream.drop 8193)]).settled =
      some (.rejected "egress CONNECT header too large") := by
  have whole : latin1 (stream.take 8193) ++ latin1 (stream.drop 8193) = latin1 stream := by
    rw [← latin1_append, List.take_append_drop]
  have fits : length + 4 ≤ (latin1 stream).length := indexOf_fits complete
  have cut : (latin1 (stream.take 8193)).length = 8193 := by
    rw [latin1, List.length_map] at fits ⊢
    rw [List.length_take]
    omega
  apply settled_of_large
  · cases found : indexOf blankLine (latin1 (stream.take 8193)) with
    | none => rfl
    | some earlier =>
        have same := indexOf_append found (latin1 (stream.drop 8193))
        rw [whole] at same
        have equal : length = earlier := Option.some.inj (complete.symm.trans same)
        have inside : earlier + 4 ≤ (latin1 (stream.take 8193)).length := indexOf_fits found
        omega
  · omega

theorem connectThroughProxy_handshakes_iff (o : Target) (stream : Bytes) :
    Handshakes o stream ↔ Unmistakable (latin1 stream) := by
  constructor
  · intro handshakes length complete ok
    have whole : Delivers [.data stream] stream := by
      have chunk := delivers_chunks [stream]
      rwa [List.flatten_singleton] at chunk
    have resolved : (connectThroughProxy o [.data stream]).Resolved := by
      rw [Handshake.Resolved, settled_of_chunk complete, verdict_resolved_iff.mpr ok]
    refine ⟨?_, (handshakes.accepts _ whole resolved).2.2⟩
    by_contra long
    have cut : Delivers [.data (stream.take 8193), .data (stream.drop 8193)] stream := by
      have chunks := delivers_chunks [stream.take 8193, stream.drop 8193]
      rwa [List.flatten_cons, List.flatten_singleton, List.take_append_drop] at chunks
    have resolvedToo := (handshakes.independent _ _ whole cut).1.mp resolved
    have rejected := settled_of_cut (o := o) complete (Nat.lt_of_not_le long)
    cases rejected.symm.trans resolvedToo
  · exact handshakes_of_unmistakable

/-- A code of four digits that begins with 200 is let through. -/
theorem status_2000_is_accepted :
    ¬ Handshakes ⟨"api.junction41.io", 443, "token"⟩
      ("HTTP/1.1 2000 No\r\n\r\n".toList.map fun character => .ofNat character.toNat) := by
  intro handshakes
  have whole := delivers_chunks
    ["HTTP/1.1 2000 No\r\n\r\n".toList.map fun character => .ofNat character.toNat]
  have accepted := handshakes.accepts _ whole rfl
  exact absurd accepted.2.2.2 (by decide)

end SovAgent.Net
