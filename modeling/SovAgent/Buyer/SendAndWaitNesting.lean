import SovAgent.Buyer.SendAndWait

/-! # Nesting of overlapping `sendAndWait` calls

As long as the calls that wait end in the reverse of the order in which they
were made, or together with a message, the wrappers are theirs and no others.
-/

namespace SovAgent.Buyer

/-! ## What a step leaves of the settlements -/

namespace ChatState

variable {session : ChatSession} {message : ChatMessage} {reaction : Reaction}

theorem sendAndWait_length (state : ChatState) (text : String) :
    (state.sendAndWait text).calls.length = state.calls.length + 1 := by
  rw [sendAndWait]
  split <;> exact List.length_append

theorem sendAndWait_getElem? {state : ChatState} {text : String} {call : Nat}
    (made : call < state.calls.length) :
    (state.sendAndWait text).calls[call]? = state.calls[call]? := by
  rw [sendAndWait]
  split <;> exact List.getElem?_append_left made

theorem sendAndWait_settlement {state : ChatState} {text : String} {call : Nat}
    (made : call < state.calls.length) :
    (state.sendAndWait text).settlement call = state.settlement call := by
  rw [settlement, sendAndWait_getElem? made, settlement]

theorem enter_settlement (state : ChatState) (call : Nat) (originalHandler : MessageHandler)
    (other : Nat) : (state.enter call originalHandler).settlement other =
      state.settlement other := by
  rw [settlement, settlement, enter, List.getElem?_modify]
  cases state.calls[other]? with
  | none => rfl
  | some entry =>
      by_cases same : call = other
      · simp [same, WaitingCall.clearTimeout]
      · simp [same]

theorem settle_settlement (state : ChatState) (call : Nat) (outcome : Settlement) (other : Nat) :
    (state.settle call outcome).settlement other =
      if call = other ∧ other < state.calls.length then
        (state.settlement other).or (some outcome)
      else state.settlement other := by
  rw [settlement, settlement, settle, List.getElem?_modify]
  cases found : state.calls[other]? with
  | none =>
      rw [if_neg fun holds => Nat.not_lt.mpr (List.getElem?_eq_none_iff.mp found) holds.2]
      rfl
  | some entry =>
      have made := (List.getElem?_eq_some_iff.mp found).1
      by_cases same : call = other
      · simp [same, made, WaitingCall.settle]
      · simp [same]

theorem settlement_lt {state : ChatState} {call : Nat} {outcome : Settlement}
    (settled : state.settlement call = some outcome) : call < state.calls.length := by
  rcases Option.bind_eq_some_iff.mp settled with ⟨entry, found, _⟩
  exact (List.getElem?_eq_some_iff.mp found).1

/-- The later state has the earlier state's calls, settled as they were or since. -/
structure Continues (state next : ChatState) : Prop where
  length : state.calls.length ≤ next.calls.length
  once : ∀ call outcome, state.settlement call = some outcome →
    next.settlement call = some outcome

theorem Continues.refl (state : ChatState) : Continues state state :=
  ⟨Nat.le_refl _, fun _ _ settled => settled⟩

theorem Continues.trans {first second third : ChatState} (left : Continues first second)
    (right : Continues second third) : Continues first third :=
  ⟨Nat.le_trans left.length right.length,
    fun call outcome settled => right.once call outcome (left.once call outcome settled)⟩

theorem continues_sendAndWait (state : ChatState) (text : String) :
    Continues state (state.sendAndWait text) := by
  constructor
  · rw [sendAndWait_length]
    exact Nat.le_succ _
  · intro call outcome settled
    rw [sendAndWait_settlement (settlement_lt settled)]
    exact settled

theorem continues_enter (state : ChatState) (call : Nat) (originalHandler : MessageHandler) :
    Continues state (state.enter call originalHandler) := by
  constructor
  · exact Nat.le_of_eq (List.length_modify _ _ _).symm
  · intro other outcome settled
    rw [enter_settlement]
    exact settled

theorem continues_settle (state : ChatState) (call : Nat) (outcome : Settlement) :
    Continues state (state.settle call outcome) := by
  constructor
  · exact Nat.le_of_eq (List.length_modify _ _ _).symm
  · intro other earlier settled
    rw [settle_settlement]
    split
    · rw [settled, Option.some_or]
    · exact settled

/-- What holds when the user's handler is called, and is kept by the calls that it
makes, holds when it returns. -/
theorem deliver_induction {property : ChatState → Prop} {state : ChatState}
    (called : property { state with delivered := state.delivered ++ [message] })
    (kept : ∀ middle text, property middle → property (middle.sendAndWait text)) :
    property (state.deliver message reaction) := by
  rw [deliver]
  generalize { state with delivered := state.delivered ++ [message] } = start at called
  induction reaction.calls generalizing start with
  | nil => exact called
  | cons text texts induction => exact induction _ (kept start text called)

theorem continues_deliver (state : ChatState) : Continues state (state.deliver message reaction) :=
  deliver_induction ⟨Nat.le_refl _, fun _ _ settled => settled⟩
    fun middle text holds => holds.trans (continues_sendAndWait middle text)

theorem continues_invoke (handler : MessageHandler) (state : ChatState) :
    Continues state (invoke message reaction handler state).1 := by
  induction handler generalizing state with
  | undefined => exact Continues.refl state
  | user => exact continues_deliver state
  | waiting call originalHandler induction =>
      rw [invoke]
      have inner := (continues_enter state call originalHandler).trans
        (induction (state.enter call originalHandler))
      split
      · rename_i after found
        rwa [found] at inner
      · rename_i after found
        rw [found] at inner
        exact inner.trans (continues_settle after call _)

/-! ## Calls that a handler does not reach -/

end ChatState

namespace MessageHandler

/-- The calls whose wrappers are around the handler, the outermost first. -/
def waitingCalls : MessageHandler → List Nat
  | .undefined | .user => []
  | .waiting call originalHandler => call :: originalHandler.waitingCalls

def innermost : MessageHandler → MessageHandler
  | .undefined => .undefined
  | .user => .user
  | .waiting _ originalHandler => originalHandler.innermost

end MessageHandler

namespace ChatState

theorem deliver_settlement {state : ChatState} {call : Nat} (made : call < state.calls.length) :
    (state.deliver message reaction).settlement call = state.settlement call := by
  have holds := @deliver_induction message reaction
    (fun next => call < next.calls.length ∧ next.settlement call = state.settlement call)
    state ⟨made, rfl⟩
  apply (holds _).2
  intro middle text kept
  rw [sendAndWait_length, sendAndWait_settlement kept.1]
  exact ⟨Nat.lt_succ_of_lt kept.1, kept.2⟩

/-- A handler settles no call but those of its wrappers, and none if it throws. -/
theorem invoke_settlement {handler : MessageHandler} {state : ChatState} {call : Nat}
    (made : call < state.calls.length)
    (unreached : call ∉ handler.waitingCalls ∨ (invoke message reaction handler state).2 = true) :
    (invoke message reaction handler state).1.settlement call = state.settlement call := by
  induction handler generalizing state with
  | undefined => rfl
  | user => exact deliver_settlement made
  | waiting waits originalHandler induction =>
      have entered : call < (state.enter waits originalHandler).calls.length :=
        Nat.lt_of_lt_of_le made (continues_enter state waits originalHandler).length
      have inner := @induction _ entered
      rw [enter_settlement] at inner
      rw [invoke] at unreached ⊢
      rw [MessageHandler.waitingCalls, List.mem_cons, not_or] at unreached
      split
      · rename_i after found
        rw [found] at inner
        exact inner (.inr rfl)
      · rename_i after found
        rw [found] at inner unreached
        rcases unreached with ⟨apart, beyond⟩ | thrown
        · rw [settle_settlement, if_neg fun same => apart same.1.symm]
          exact inner (.inl beyond)
        · cases thrown

theorem invoke_throws {handler : MessageHandler} (user : handler.innermost = .user)
    (throws : reaction.throws = true) (state : ChatState) :
    (invoke message reaction handler state).2 = true := by
  induction handler generalizing state with
  | undefined => cases user
  | user => exact throws
  | waiting call originalHandler induction =>
      have inner := induction user (state.enter call originalHandler)
      rw [invoke]
      split
      · rfl
      · rename_i after found
        rw [found] at inner
        cases inner

/-! ## The wrappers are those of the calls that wait -/

/-- The wrappers around a handler are of calls that wait, each made after those
inside, whose timers restore what the wrappers restore. -/
def Linked (calls : List WaitingCall) : MessageHandler → Prop
  | .undefined | .user => True
  | .waiting call originalHandler =>
      calls[call]? = some { timer := some originalHandler, settlement := none } ∧
        (∀ earlier ∈ originalHandler.waitingCalls, earlier < call) ∧
        Linked calls originalHandler

/-- While wrappers run, their calls wait without a timer: the doomed calls. Every
other call has its wrapper around the handler or is finished. -/
structure Nested (session : ChatSession) (doomed : List Nat) (state : ChatState) : Prop where
  linked : Linked state.calls state.onMessage
  innermost : state.onMessage.innermost = session.userHandler
  cleared : ∀ call ∈ doomed, state.calls[call]? = some { timer := none, settlement := none }
  finished : ∀ call entry, state.calls[call]? = some entry →
    call ∉ state.onMessage.waitingCalls → call ∉ doomed →
      entry.timer = none ∧ entry.settlement ≠ none
  distinct : doomed.Nodup

theorem Linked.found {calls : List WaitingCall} {handler : MessageHandler}
    (linked : Linked calls handler) {call : Nat} (member : call ∈ handler.waitingCalls) :
    ∃ originalHandler, calls[call]? =
      some { timer := some originalHandler, settlement := none } := by
  induction handler with
  | undefined => cases member
  | user => cases member
  | waiting waits originalHandler induction =>
      rcases List.mem_cons.mp member with rfl | inside
      · exact ⟨originalHandler, linked.1⟩
      · exact induction linked.2.2 inside

theorem Linked.congr {calls others : List WaitingCall} {handler : MessageHandler}
    (linked : Linked calls handler)
    (same : ∀ call ∈ handler.waitingCalls, others[call]? = calls[call]?) :
    Linked others handler := by
  induction handler with
  | undefined => trivial
  | user => trivial
  | waiting waits originalHandler induction =>
      refine ⟨?_, linked.2.1, ?_⟩
      · rw [same waits List.mem_cons_self]
        exact linked.1
      · exact induction linked.2.2 fun call member => same call (List.mem_cons_of_mem _ member)

theorem Linked.made {calls : List WaitingCall} {handler : MessageHandler}
    (linked : Linked calls handler) :
    ∀ call ∈ handler.waitingCalls, call < calls.length := by
  intro call member
  rcases linked.found member with ⟨_, found⟩
  exact (List.getElem?_eq_some_iff.mp found).1

theorem pending_of_entry {state : ChatState} {call : Nat} {entry : WaitingCall}
    (found : state.calls[call]? = some entry) (unsettled : entry.settlement = none) :
    state.Pending call := by
  refine ⟨(List.getElem?_eq_some_iff.mp found).1, ?_⟩
  rw [settlement, found, Option.bind_some, unsettled]

theorem entry_of_pending {state : ChatState} {call : Nat} (pending : state.Pending call) :
    ∃ entry, state.calls[call]? = some entry ∧ entry.settlement = none := by
  rcases List.getElem?_eq_some_iff.mpr ⟨pending.1, rfl⟩ with found
  refine ⟨_, found, ?_⟩
  have unsettled := pending.2
  rwa [settlement, found, Option.bind_some] at unsettled

theorem Nested.pending_iff {state : ChatState} (nested : Nested session [] state) (call : Nat) :
    state.Pending call ↔ call ∈ state.onMessage.waitingCalls := by
  constructor
  · intro pending
    rcases entry_of_pending pending with ⟨entry, found, unsettled⟩
    apply Decidable.byContradiction
    intro outside
    exact (nested.finished call entry found outside List.not_mem_nil).2 unsettled
  · intro member
    rcases nested.linked.found member with ⟨_, found⟩
    exact pending_of_entry found rfl

/-! ## Each operation keeps the nesting -/

theorem Nested.sendAndWait {doomed : List Nat} {state : ChatState}
    (nested : Nested session doomed state) (text : String) :
    Nested session doomed (state.sendAndWait text) := by
  have before : ∀ call < state.calls.length,
      (state.sendAndWait text).calls[call]? = state.calls[call]? :=
    fun call made => sendAndWait_getElem? made
  have linked : Linked (state.sendAndWait text).calls state.onMessage :=
    nested.linked.congr fun call member => before call (nested.linked.made call member)
  have cleared : ∀ call ∈ doomed, (state.sendAndWait text).calls[call]? =
      some { timer := none, settlement := none } := by
    intro call member
    have found := nested.cleared call member
    rw [before call (List.getElem?_eq_some_iff.mp found).1]
    exact found
  have older : ∀ call entry, (state.sendAndWait text).calls[call]? = some entry →
      state.calls[call]? = some entry ∨ call = state.calls.length := by
    intro call entry found
    have made := (List.getElem?_eq_some_iff.mp found).1
    rw [sendAndWait_length] at made
    rcases Nat.lt_succ_iff_lt_or_eq.mp made with earlier | last
    · rw [before call earlier] at found
      exact .inl found
    · exact .inr last
  cases active : state.active with
  | true =>
      have wrapped : (state.sendAndWait text).onMessage =
          .waiting state.calls.length state.onMessage := by
        simp [ChatState.sendAndWait, active]
      constructor
      · rw [wrapped]
        refine ⟨?_, nested.linked.made, linked⟩
        simp [ChatState.sendAndWait, active]
      · rw [wrapped]
        exact nested.innermost
      · exact cleared
      · intro call entry found outside
        rw [wrapped, MessageHandler.waitingCalls, List.mem_cons, not_or] at outside
        rcases older call entry found with earlier | last
        · exact nested.finished call entry earlier outside.2
        · exact absurd last outside.1
      · exact nested.distinct
  | false =>
      have same : (state.sendAndWait text).onMessage = state.onMessage := by
        simp [ChatState.sendAndWait, active]
      constructor
      · rw [same]
        exact linked
      · rw [same]
        exact nested.innermost
      · exact cleared
      · intro call entry found outside
        rw [same] at outside
        rcases older call entry found with earlier | last
        · exact nested.finished call entry earlier outside
        · -- The call is rejected when it is made.
          rw [last] at found
          simp only [ChatState.sendAndWait, active, Bool.false_eq_true, if_false,
            List.getElem?_concat_length, Option.some.injEq] at found
          rw [← found]
          exact fun _ => ⟨rfl, Option.some_ne_none _⟩
      · exact nested.distinct

theorem Nested.enter {doomed : List Nat} {state : ChatState} {call : Nat}
    {originalHandler : MessageHandler} (nested : Nested session doomed state)
    (outermost : state.onMessage = .waiting call originalHandler) :
    Nested session (call :: doomed) (state.enter call originalHandler) := by
  have linked := nested.linked
  have innermost := nested.innermost
  rw [outermost] at linked innermost
  have apart : ∀ other, other ≠ call →
      (state.enter call originalHandler).calls[other]? = state.calls[other]? :=
    fun other different => List.getElem?_modify_ne _ _ (Ne.symm different)
  have own : (state.enter call originalHandler).calls[call]? =
      some { timer := none, settlement := none } := by
    rw [ChatState.enter, List.getElem?_modify, linked.1]
    simp [WaitingCall.clearTimeout]
  constructor
  · apply linked.2.2.congr
    intro earlier member
    exact apart earlier (Nat.ne_of_lt (linked.2.1 earlier member))
  · exact innermost
  · intro other member
    by_cases same : other = call
    · rw [same]
      exact own
    · rw [apart other same]
      exact nested.cleared other ((List.mem_cons.mp member).resolve_left same)
  · intro other entry found outside undoomed
    rw [List.mem_cons, not_or] at undoomed
    rw [apart other undoomed.1] at found
    apply nested.finished other entry found _ undoomed.2
    rw [outermost, MessageHandler.waitingCalls, List.mem_cons, not_or]
    exact ⟨undoomed.1, outside⟩
  · apply List.nodup_cons.mpr ⟨_, nested.distinct⟩
    intro member
    have found := nested.cleared call member
    rw [linked.1] at found
    cases found

theorem Nested.settle {doomed : List Nat} {state : ChatState} {call : Nat}
    (nested : Nested session (call :: doomed) state) (outcome : Settlement) :
    Nested session doomed (state.settle call outcome) := by
  have apart : ∀ other, other ≠ call →
      (state.settle call outcome).calls[other]? = state.calls[other]? :=
    fun other different => List.getElem?_modify_ne _ _ (Ne.symm different)
  have own := nested.cleared call List.mem_cons_self
  have fresh := List.nodup_cons.mp nested.distinct
  constructor
  · apply nested.linked.congr
    intro other member
    apply apart
    intro same
    rcases nested.linked.found member with ⟨_, found⟩
    rw [same, own] at found
    cases found
  · exact nested.innermost
  · intro other member
    rw [apart other fun same => fresh.1 (same ▸ member)]
    exact nested.cleared other (List.mem_cons_of_mem call member)
  · intro other entry found outside undoomed
    by_cases same : other = call
    · rw [same, ChatState.settle, List.getElem?_modify, own] at found
      simp only [if_true, Option.map_eq_map, Option.map_some, Option.some.injEq] at found
      rw [← found]
      exact ⟨rfl, Option.some_ne_none _⟩
    · rw [apart other same] at found
      apply nested.finished other entry found outside
      exact fun member => (List.mem_cons.mp member).elim same undoomed
  · exact fresh.2

theorem Nested.deliver {doomed : List Nat} {state : ChatState}
    (nested : Nested session doomed state) :
    Nested session doomed (state.deliver message reaction) :=
  deliver_induction
    ⟨nested.linked, nested.innermost, nested.cleared, nested.finished, nested.distinct⟩
    fun _ text holds => holds.sendAndWait text

theorem deliver_delivered (state : ChatState) :
    (state.deliver message reaction).delivered = state.delivered ++ [message] := by
  apply @deliver_induction message reaction fun next =>
    next.delivered = state.delivered ++ [message]
  · rfl
  · intro middle text holds
    rw [ChatState.sendAndWait]
    split <;> exact holds

/-! ## A message -/

/-- What the handler's wrappers and the user's handler inside of them do. -/
structure Invoked (session : ChatSession) (doomed : List Nat) (message : ChatMessage)
    (handler : MessageHandler) (state : ChatState) (result : ChatState × Bool) : Prop where
  returned : result.2 = false
  nested : Nested session doomed result.1
  resolved : ∀ call ∈ handler.waitingCalls,
    result.1.settlement call = some (.resolved message.content)
  delivered : result.1.delivered =
    state.delivered ++ if session.configured then [message] else []

theorem invoke_nested {handler : MessageHandler} {doomed : List Nat} {state : ChatState}
    (nested : Nested session doomed state) (current : state.onMessage = handler)
    (calm : session.configured = true → reaction.throws = false) :
    Invoked session doomed message handler state (invoke message reaction handler state) := by
  induction handler generalizing state doomed with
  | undefined =>
      have unconfigured : session.configured = false := by
        have inner := nested.innermost
        rw [current, ChatSession.userHandler] at inner
        cases configured : session.configured with
        | false => rfl
        | true =>
            rw [configured] at inner
            cases inner
      refine ⟨rfl, nested, (fun call member => by cases member), ?_⟩
      rw [unconfigured]
      exact (List.append_nil _).symm
  | user =>
      have configured : session.configured = true := by
        have inner := nested.innermost
        rw [current, ChatSession.userHandler] at inner
        cases configured : session.configured with
        | true => rfl
        | false =>
            rw [configured] at inner
            cases inner
      refine ⟨calm configured, nested.deliver, (fun call member => by cases member), ?_⟩
      rw [configured]
      exact deliver_delivered state
  | waiting call originalHandler induction =>
      have inner := induction (nested.enter current) rfl
      rw [invoke]
      split
      · rename_i after found
        rw [found] at inner
        cases inner.returned
      · rename_i after found
        rw [found] at inner
        have own := inner.nested.cleared call List.mem_cons_self
        refine ⟨rfl, inner.nested.settle _, ?_, inner.delivered⟩
        intro waits member
        rcases List.mem_cons.mp member with same | inside
        · have unsettled : after.settlement waits = none := by
            rw [settlement, same, own]
            rfl
          rw [settle_settlement, unsettled, same,
            if_pos ⟨rfl, (List.getElem?_eq_some_iff.mp own).1⟩]
          rfl
        · exact (continues_settle after call _).once waits _ (inner.resolved waits inside)

/-! ## Steps -/

theorem timeout_eq_some {state next : ChatState} {call : Nat}
    (fires : state.timeout call = some next) :
    ∃ originalHandler settled,
      state.calls[call]? = some { timer := some originalHandler, settlement := settled } ∧
        next = (state.enter call originalHandler).settle call (.rejected "Response timeout") := by
  rcases Option.map_eq_some_iff.mp fires with ⟨originalHandler, timer, rfl⟩
  rcases Option.bind_eq_some_iff.mp timer with ⟨entry, found, armed⟩
  refine ⟨originalHandler, entry.settlement, ?_, rfl⟩
  rw [found, ← armed]

theorem Nested.mem_of_timer {state : ChatState} (nested : Nested session [] state)
    {call : Nat} {originalHandler : MessageHandler} {settled : Option Settlement}
    (armed : state.calls[call]? =
      some { timer := some originalHandler, settlement := settled }) :
    call ∈ state.onMessage.waitingCalls := by
  apply Decidable.byContradiction
  intro outside
  cases (nested.finished call _ armed outside List.not_mem_nil).1

theorem Nested.outermost {state : ChatState} (nested : Nested session [] state)
    {call : Nat} (member : call ∈ state.onMessage.waitingCalls)
    (last : ∀ later, call < later → ¬ state.Pending later) :
    ∃ originalHandler, state.onMessage = .waiting call originalHandler ∧
      state.calls[call]? = some { timer := some originalHandler, settlement := none } := by
  cases current : state.onMessage with
  | undefined =>
      rw [current] at member
      cases member
  | user =>
      rw [current] at member
      cases member
  | waiting head originalHandler =>
      have linked := nested.linked
      rw [current] at member linked
      rcases List.mem_cons.mp member with rfl | inside
      · exact ⟨originalHandler, rfl, linked.1⟩
      · exact absurd (pending_of_entry linked.1 rfl) (last head (linked.2.1 call inside))

theorem Nested.sound {state : ChatState} (nested : Nested session [] state) :
    state.Sound session := by
  constructor
  · intro call pending
    rcases nested.linked.found ((nested.pending_iff call).mp pending) with ⟨_, found⟩
    rw [timeout, found]
    rfl
  · intro quiet
    have innermost := nested.innermost
    cases current : state.onMessage with
    | waiting call originalHandler =>
        apply absurd ((nested.pending_iff call).mpr _) (quiet call)
        rw [current]
        exact List.mem_cons_self
    | _ =>
        rw [current] at innermost
        exact innermost

/-! ## Steps in order -/

theorem orderly_message {state : ChatState} (nested : Nested session [] state)
    (orderly : Orderly session state (.message message reaction)) :
    Nested session [] (state.receive session message reaction) ∧
      Obeyed session state (.message message reaction)
        (state.receive session message reaction) := by
  rw [receive]
  split
  · rename_i accepts
    have continues := @continues_invoke message reaction state.onMessage state
    by_cases throws : session.configured = true ∧ reaction.throws = true
    · -- Nothing waits, so the handler is the user's own.
      have quiet := orderly accepts throws.1 throws.2
      have current := nested.sound.restored quiet
      rw [ChatSession.userHandler, if_pos throws.1] at current
      rw [current] at continues ⊢
      refine ⟨nested.deliver, continues.once, ?_, ?_, ?_⟩
      · intro call equal
        cases equal
      · intro _ _ _ _ call pending
        exact absurd pending (quiet call)
      · rw [deliveries, if_pos ⟨accepts, throws.1⟩]
        exact deliver_delivered state
    · have calm : session.configured = true → reaction.throws = false := by
        intro configured
        exact Bool.eq_false_iff.mpr fun thrown => throws ⟨configured, thrown⟩
      have invoked := @invoke_nested session message reaction _ _ _ nested rfl calm
      refine ⟨invoked.nested, continues.once, ?_, ?_, ?_⟩
      · intro call equal
        cases equal
      · intro _ _ equal _ call pending
        cases equal
        exact invoked.resolved call ((nested.pending_iff call).mp pending)
      · rw [invoked.delivered, deliveries]
        simp only [accepts, true_and]
  · rename_i refused
    refine ⟨nested, fun _ _ settled => settled, ?_, ?_, ?_⟩
    · intro call equal
      cases equal
    · intro _ _ equal accepts
      cases equal
      exact absurd accepts refused
    · rw [deliveries, if_neg fun both => refused both.1, List.append_nil]

theorem orderly_timeout {state next : ChatState} {call : Nat} (nested : Nested session [] state)
    (orderly : Orderly session state (.timeout call)) (fires : state.timeout call = some next) :
    Nested session [] next ∧ Obeyed session state (.timeout call) next := by
  rcases timeout_eq_some fires with ⟨restored, settled, armed, rfl⟩
  rcases nested.outermost (nested.mem_of_timer armed) orderly with
    ⟨originalHandler, current, found⟩
  rw [armed] at found
  cases found
  have entered := nested.enter current
  refine ⟨entered.settle _, ?_, ?_, ?_, ?_⟩
  · exact ((continues_enter state call _).trans (continues_settle _ call _)).once
  · intro other equal
    cases equal
    have own := entered.cleared call List.mem_cons_self
    rw [settle_settlement, if_pos ⟨rfl, (List.getElem?_eq_some_iff.mp own).1⟩, settlement, own]
    rfl
  · intro _ _ equal
    cases equal
  · exact (List.append_nil _).symm

theorem orderly_step {state next : ChatState} {event : ChatEvent}
    (nested : Nested session [] state) (orderly : Orderly session state event)
    (stepped : chatStep session state event = some next) :
    Nested session [] next ∧ Obeyed session state event next := by
  cases event with
  | sendAndWait text =>
      cases stepped
      refine ⟨nested.sendAndWait text, (continues_sendAndWait state text).once, ?_, ?_, ?_⟩
      · intro call equal
        cases equal
      · intro _ _ equal
        cases equal
      · change (state.sendAndWait text).delivered = state.delivered ++ []
        rw [List.append_nil, ChatState.sendAndWait]
        split <;> rfl
  | message message reaction =>
      cases stepped
      exact orderly_message nested orderly
  | timeout call => exact orderly_timeout nested orderly stepped
  | endSession =>
      cases stepped
      refine ⟨⟨nested.linked, nested.innermost, nested.cleared, nested.finished, nested.distinct⟩,
        fun _ _ settled => settled, ?_, ?_, ?_⟩
      · intro call equal
        cases equal
      · intro _ _ equal
        cases equal
      · exact (List.append_nil _).symm

/-! ## Steps out of order -/

theorem Linked.inside {calls : List WaitingCall} {handler : MessageHandler}
    (linked : Linked calls handler) {call : Nat} (member : call ∈ handler.waitingCalls)
    {originalHandler : MessageHandler} {settled : Option Settlement}
    (armed : calls[call]? = some { timer := some originalHandler, settlement := settled }) :
    ∀ earlier ∈ originalHandler.waitingCalls, earlier < call := by
  induction handler with
  | undefined => cases member
  | user => cases member
  | waiting waits found induction =>
      rcases List.mem_cons.mp member with rfl | inside
      · have own := linked.1
        rw [armed] at own
        cases own
        exact linked.2.1
      · exact induction linked.2.2 inside

/-- The next message passes by a later call whose wrapper a timer has removed. -/
theorem disorderly_timeout {state next : ChatState} {call later : Nat}
    (nested : Nested session [] state) (fires : state.timeout call = some next)
    (after : call < later) (pending : state.Pending later) :
    next.Pending later ∧
      (next.receive session message reaction).settlement later = none := by
  rcases timeout_eq_some fires with ⟨restored, settled, armed, rfl⟩
  have inside := nested.linked.inside (nested.mem_of_timer armed) armed
  have continues := (continues_enter state call restored).trans
    (continues_settle _ call (.rejected "Response timeout"))
  have unsettled : ((state.enter call restored).settle call
      (.rejected "Response timeout")).settlement later = none := by
    rw [settle_settlement, if_neg fun same => Nat.ne_of_lt after same.1, enter_settlement]
    exact pending.2
  have made := Nat.lt_of_lt_of_le pending.1 continues.length
  refine ⟨⟨made, unsettled⟩, ?_⟩
  rw [receive]
  split
  · rw [invoke_settlement made (.inl _)]
    · exact unsettled
    · intro member
      exact Nat.lt_asymm after (inside later member)
  · exact unsettled

theorem disorderly_message {state : ChatState} {call : Nat} (nested : Nested session [] state)
    (configured : session.configured = true) (throws : reaction.throws = true)
    (pending : state.Pending call) :
    (state.receive session message reaction).settlement call = none := by
  rw [receive]
  split
  · have user := nested.innermost
    rw [ChatSession.userHandler, if_pos configured] at user
    rw [invoke_settlement pending.1 (.inr (invoke_throws user throws state))]
    exact pending.2
  · exact pending.2

end ChatState

/-! ## Runs -/

namespace ChatSession

def reply (session : ChatSession) : ChatMessage where
  jobId := session.jobId
  senderVerusId := session.address.getD "" ++ "x"
  content := "reply"

theorem accepts_reply (session : ChatSession) : session.Accepts session.reply := by
  refine ⟨rfl, ?_⟩
  rw [reply]
  cases session.address with
  | none => exact Option.some_ne_none _
  | some address =>
      intro same
      have lengths := congrArg String.length (Option.some.inj same)
      rw [Option.getD_some, String.length_append] at lengths
      exact Nat.succ_ne_self _ lengths

end ChatSession

namespace ChatState

/-- The messages that may come next, to a handler that does not throw, are obeyed. -/
def NextObeyed (session : ChatSession) (state : ChatState) : Prop :=
  ∀ message reaction next, session.Accepts message → reaction.throws = false →
    chatStep session state (.message message reaction) = some next →
      Obeyed session state (.message message reaction) next

theorem nested_started (session : ChatSession) : Nested session [] session.started := by
  have handler : session.userHandler = .user ∨ session.userHandler = .undefined := by
    rw [ChatSession.userHandler]
    split
    · exact .inl rfl
    · exact .inr rfl
  constructor
  · rcases handler with user | undefined
    · rw [ChatSession.started, user]
      trivial
    · rw [ChatSession.started, undefined]
      trivial
  · rcases handler with user | undefined
    · rw [ChatSession.started, user]
      rfl
    · rw [ChatSession.started, undefined]
      rfl
  · intro call member
    cases member
  · intro call entry found
    cases found
  · exact List.nodup_nil

theorem orderly_iff {state next : ChatState} {event : ChatEvent}
    (nested : Nested session [] state) (stepped : chatStep session state event = some next) :
    Orderly session state event ↔ Obeyed session state event next ∧ NextObeyed session next := by
  constructor
  · intro orderly
    rcases orderly_step nested orderly stepped with ⟨nextNested, obeyed⟩
    refine ⟨obeyed, ?_⟩
    intro message reaction later accepts calm received
    apply (orderly_step nextNested _ received).2
    intro _ _ throws
    rw [calm] at throws
    cases throws
  · rintro ⟨obeyed, nextObeyed⟩
    cases event with
    | sendAndWait text => trivial
    | message message reaction =>
        cases stepped
        intro accepts configured throws call pending
        have settled := obeyed.resolves message reaction rfl accepts call pending
        rw [disorderly_message nested configured throws pending] at settled
        cases settled
    | timeout call =>
        intro later after pending
        have passed := @disorderly_timeout session session.reply {} _ _ _ _ nested stepped after
          pending
        have received := nextObeyed session.reply {} _ session.accepts_reply rfl rfl
        have settled := received.resolves session.reply {} rfl session.accepts_reply later passed.1
        rw [passed.2] at settled
        cases settled
    | endSession => trivial

/-- In a run whose steps are in order every state is sound, and a step is in order
exactly when it and the messages that may follow it are obeyed. -/
theorem overlapping_calls_iff {events : List ChatEvent} {state : ChatState}
    (runs : (chatMachine session).Runs (Orderly session) session.started events state) :
    state.Sound session ∧
      ∀ event next, (chatMachine session).step state event = some next →
        (Orderly session state event ↔
          Obeyed session state event next ∧ NextObeyed session next) := by
  have nested : Nested session [] state :=
    runs.preserves (Nested session [])
      (fun _ _ _ orderly holds stepped => (orderly_step holds orderly stepped).1)
      (nested_started session)
  exact ⟨nested.sound, fun event next stepped => orderly_iff nested stepped⟩

end ChatState

/-! ## Two calls -/

def demoSession : ChatSession where
  jobId := "job"
  address := some "iBuyer"
  configured := true

namespace ChatState

def nestedCalls : List ChatEvent := [.sendAndWait "a", .sendAndWait "b", .timeout 1]

theorem overlapping_calls_nested :
    ∃ state, (chatMachine demoSession).run demoSession.started nestedCalls = some state ∧
      state.Sound demoSession ∧
      ∀ event next, (chatMachine demoSession).step state event = some next →
        (Orderly demoSession state event ↔
          Obeyed demoSession state event next ∧ NextObeyed demoSession next) := by
  have runs : (chatMachine demoSession).Runs (Orderly demoSession) demoSession.started nestedCalls
      { onMessage := .waiting 0 .user
        calls := [⟨some .user, none⟩, ⟨none, some (.rejected "Response timeout")⟩]
        sent := ["a", "b"] } := by
    refine .cons trivial rfl (.cons trivial rfl (.cons ?_ rfl (.nil _)))
    intro later after pending
    exact Nat.not_lt.mpr after pending.1
  exact ⟨_, runs.executes, overlapping_calls_iff runs⟩

/-- The first of two calls times out first: a message passes by the second, and
after both timers a wrapper of the first is left. -/
theorem first_call_times_out :
    (∃ state next,
      (chatMachine demoSession).run demoSession.started
        [.sendAndWait "a", .sendAndWait "b", .timeout 0] = some state ∧
      (chatMachine demoSession).step state (.message demoSession.reply {}) = some next ∧
      ¬ Obeyed demoSession state (.message demoSession.reply {}) next) ∧
    ∃ state,
      (chatMachine demoSession).run demoSession.started
        [.sendAndWait "a", .sendAndWait "b", .timeout 0, .timeout 1] = some state ∧
      ¬ state.Sound demoSession := by
  constructor
  · refine ⟨_, _, rfl, rfl, ?_⟩
    intro obeyed
    have settled := obeyed.resolves demoSession.reply {} rfl demoSession.accepts_reply 1
      ⟨by decide, rfl⟩
    cases settled
  · refine ⟨_, rfl, ?_⟩
    intro sound
    have restored := sound.restored
    cases restored fun call pending => by
      match call, pending with
      | 0, ⟨_, unsettled⟩ => cases unsettled
      | 1, ⟨_, unsettled⟩ => cases unsettled

end ChatState

end SovAgent.Buyer
