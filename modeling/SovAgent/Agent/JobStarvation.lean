import Mathlib.Data.List.TakeWhile
import SovAgent.Agent.JobAcceptance

/-! # Jobs that a poll leaves out

A poll cuts the response off before it passes over the jobs that are seen. Seen jobs at
the head of the response therefore take the turns of unseen ones behind them.
-/

namespace SovAgent.JobPolling

/-! ## What a turn adds -/

/-- Events are only added, and seen jobs stay seen. -/
structure Grows (before after : JobsState) (news : List JobEvent) : Prop where
  events : after.events = before.events ++ news
  seen : before.seenJobIds ⊆ after.seenJobIds

theorem Grows.refl (state : JobsState) : Grows state state [] where
  events := (List.append_nil state.events).symm
  seen := List.Subset.refl _

theorem Grows.trans {first second third : JobsState} {news later : List JobEvent}
    (grows : Grows first second news) (rest : Grows second third later) :
    Grows first third (news ++ later) where
  events := by rw [rest.events, grows.events, List.append_assoc]
  seen := fun _ member => rest.seen (grows.seen member)

theorem Grows.record (state : JobsState) (news : List JobEvent) :
    Grows state (state.record news) news where
  events := rfl
  seen := List.Subset.refl _

theorem Grows.settle (state : JobsState) (jobId : String) :
    Grows state (state.settle jobId) [] where
  events := (List.append_nil state.events).symm
  seen := fun _ member => List.mem_append_left [jobId] member

def Unrequested (news : List JobEvent) : Prop := ∀ jobId, JobEvent.requested jobId ∉ news

theorem Unrequested.append {news later : List JobEvent} (first : Unrequested news)
    (second : Unrequested later) : Unrequested (news ++ later) := by
  intro jobId member
  rcases List.mem_append.mp member with old | new
  · exact first jobId old
  · exact second jobId new

theorem failAttempt_grows (state : JobsState) (jobId : String)
    (abandonedMessage failedMessage : Nat → String) :
    ∃ news, Unrequested news ∧
      Grows state (state.failAttempt jobId abandonedMessage failedMessage) news := by
  rw [failAttempt_eq]
  dsimp only
  split
  · exact ⟨_, by simp [Unrequested], rfl, fun _ member => List.mem_append_left [jobId] member⟩
  · exact ⟨_, by simp [Unrequested], rfl, List.Subset.refl _⟩

theorem attempt_grows (state : JobsState) (jobId : String) (job : JobOffer) :
    ∃ news, Unrequested news ∧ Grows state (state.attempt jobId job) news := by
  have failed : ∀ (tried : List JobEvent) (abandonedMessage failedMessage : Nat → String),
      Unrequested tried → ∃ news, Unrequested news ∧
        Grows state ((state.record tried).failAttempt jobId abandonedMessage failedMessage)
          news := by
    intro tried abandonedMessage failedMessage plain
    rcases failAttempt_grows (state.record tried) jobId abandonedMessage failedMessage with
      ⟨news, unrequested, grows⟩
    exact ⟨_, plain.append unrequested, (Grows.record state tried).trans grows⟩
  rw [JobsState.attempt]
  dsimp only
  split
  · exact failed _ _ _ (by simp [Unrequested])
  · split
    · exact failed _ _ _ (by simp [Unrequested])
    · split
      · rw [record_record]
        exact failed _ _ _ (by simp [Unrequested])
      · rw [record_record]
        exact ⟨_, by simp [Unrequested],
          ((Grows.record state _).trans (Grows.settle _ jobId)).trans (Grows.record _ _)⟩

theorem afterDecision_grows (state : JobsState) (jobId : String) (job : JobOffer)
    (decision : Except String Decision) :
    ∃ news, Unrequested news ∧ Grows state (state.afterDecision jobId job decision) news := by
  cases decision with
  | error message => exact ⟨_, by simp [Unrequested], Grows.record state _⟩
  | ok decision =>
      cases decision with
      | accept =>
          rw [JobsState.afterDecision]
          split
          · exact attempt_grows state jobId job
          · exact ⟨_, by simp [Unrequested], Grows.record state _⟩
      | reject =>
          exact ⟨_, by simp [Unrequested], (Grows.settle state jobId).trans (Grows.record _ _)⟩
      | hold => exact ⟨[], by simp [Unrequested], Grows.refl state⟩

def Unseen (state : JobsState) (job : JobOffer) (jobId : String) : Prop :=
  job.id = some jobId ∧ jobId ≠ "" ∧ jobId ∉ state.seenJobIds

theorem offer_grows (state : JobsState) (job : JobOffer) :
    ∃ news, Grows state (state.offer job) news ∧
      ∀ jobId, .requested jobId ∈ news ↔ Unseen state job jobId := by
  rw [JobsState.offer]
  split
  · rename_i none
    refine ⟨[], Grows.refl state, ?_⟩
    intro jobId
    have absent : ¬Unseen state job jobId := by
      intro unseen
      rw [unseen.1, Option.filter_some, if_pos (by simpa using unseen.2.1)] at none
      cases none
    simp [absent]
  · rename_i jobId found
    rcases Option.filter_eq_some_iff.mp found with ⟨id, filled⟩
    have unique : ∀ other, Unseen state job other → other = jobId := by
      intro other unseen
      exact Option.some.inj (unseen.1.symm.trans id)
    split
    · rename_i seen
      refine ⟨[], Grows.refl state, ?_⟩
      intro other
      have absent : ¬Unseen state job other := fun unseen => unseen.2.2 (unique other unseen ▸ seen)
      simp [absent]
    · rename_i fresh
      have requested : ∀ news, Unrequested news → ∀ other,
          .requested other ∈ JobEvent.requested jobId :: news ↔ Unseen state job other := by
        intro news unrequested other
        constructor
        · intro member
          rcases List.mem_cons.mp member with same | later
          · cases same
            exact ⟨id, by simpa using filled, fresh⟩
          · exact absurd later (unrequested other)
        · intro unseen
          rw [unique other unseen]
          exact List.mem_cons_self
      dsimp only
      split
      · rename_i decision _
        rcases afterDecision_grows ((state.record [.requested jobId]).record [.asked jobId]) jobId
          job decision with ⟨news, unrequested, grows⟩
        refine ⟨_, ((Grows.record state _).trans (Grows.record _ _)).trans grows, ?_⟩
        exact requested (.asked jobId :: news) (by
          intro other member
          rcases List.mem_cons.mp member with same | later
          · cases same
          · exact unrequested other later)
      · refine ⟨_, (Grows.record state _).trans (Grows.settle _ jobId), ?_⟩
        exact requested [] (by simp [Unrequested])

theorem offer_eq_self {state : JobsState} {job : JobOffer}
    (seen : ¬∃ jobId, Unseen state job jobId) : state.offer job = state := by
  rw [JobsState.offer]
  split
  · rfl
  · rename_i jobId found
    rcases Option.filter_eq_some_iff.mp found with ⟨id, filled⟩
    split
    · rfl
    · rename_i fresh
      exact absurd ⟨jobId, id, by simpa using filled, fresh⟩ seen

/-! ## A poll -/

theorem foldl_offer_grows (jobs : List JobOffer) (state : JobsState) :
    ∃ news, Grows state (jobs.foldl JobsState.offer state) news ∧
      (∀ jobId, .requested jobId ∈ news → ∃ job ∈ jobs, Unseen state job jobId) ∧
      ((∃ job ∈ jobs, ∃ jobId, Unseen state job jobId) →
        ∃ job ∈ jobs, ∃ jobId, Unseen state job jobId ∧ .requested jobId ∈ news) := by
  induction jobs generalizing state with
  | nil =>
      refine ⟨[], Grows.refl state, by simp, ?_⟩
      intro unseen
      rcases unseen with ⟨job, member, _⟩
      cases member
  | cons head tail induction =>
      rcases offer_grows state head with ⟨first, grows, requests⟩
      rcases induction (state.offer head) with ⟨later, growsLater, onlyUnseen, someUnseen⟩
      have earlier : ∀ job jobId, Unseen (state.offer head) job jobId → Unseen state job jobId :=
        fun job jobId unseen =>
          ⟨unseen.1, unseen.2.1, fun seen => unseen.2.2 (grows.seen seen)⟩
      refine ⟨first ++ later, grows.trans growsLater, ?_, ?_⟩
      · intro jobId member
        rcases List.mem_append.mp member with old | new
        · exact ⟨head, List.mem_cons_self, (requests jobId).mp old⟩
        · rcases onlyUnseen jobId new with ⟨job, inside, unseen⟩
          exact ⟨job, List.mem_cons_of_mem head inside, earlier job jobId unseen⟩
      · intro unseen
        by_cases now : ∃ jobId, Unseen state head jobId
        · rcases now with ⟨jobId, unseen⟩
          exact ⟨head, List.mem_cons_self, jobId, unseen,
            List.mem_append_left later ((requests jobId).mpr unseen)⟩
        · rcases unseen with ⟨job, member, jobId, unseen⟩
          rcases List.mem_cons.mp member with rfl | member
          · exact absurd ⟨jobId, unseen⟩ now
          · rw [offer_eq_self now] at someUnseen
            rcases someUnseen ⟨job, member, jobId, unseen⟩ with
              ⟨other, inside, otherId, otherUnseen, requested⟩
            exact ⟨other, List.mem_cons_of_mem head inside, otherId, otherUnseen,
              List.mem_append_right first requested⟩

/-- The poll requests a job of the response that was unseen before it. -/
def ProcessesUnseen (state : JobsState) (poll : Poll) (allJobs : List JobOffer) : Prop :=
  ∃ job ∈ allJobs, ∃ jobId, Unseen state job jobId ∧
    .requested jobId ∈ (state.checkForJobs poll).events.drop state.events.length

/-- While the agent runs, a poll whose response has an unseen job processes one exactly if
one is in the part of the response that the cap keeps. -/
theorem checkForJobs_processes_iff (state : JobsState) (poll : Poll) {allJobs : List JobOffer}
    (answered : poll.getMyJobs = .ok allJobs) (running : ∀ job ∈ allJobs, job.running) :
    ((∃ job ∈ allJobs, ∃ jobId, Unseen state job jobId) →
      ProcessesUnseen state poll allJobs) ↔
    ((∃ job ∈ allJobs, ∃ jobId, Unseen state job jobId) →
      ∃ job ∈ allJobs.take poll.maxPerPoll, ∃ jobId, Unseen state job jobId) := by
  have kept : (allJobs.take poll.maxPerPoll).takeWhile JobOffer.running =
      allJobs.take poll.maxPerPoll :=
    List.takeWhile_eq_self_iff.mpr fun job member => running job (List.mem_of_mem_take member)
  rcases foldl_offer_grows (allJobs.take poll.maxPerPoll) state with
    ⟨news, grows, onlyUnseen, someUnseen⟩
  have events : (state.checkForJobs poll).events.drop state.events.length = news := by
    rw [JobsState.checkForJobs, answered]
    simp only [kept, grows.events, List.drop_left]
  constructor
  · intro processes unseen
    rcases processes unseen with ⟨job, member, jobId, fresh, requested⟩
    rw [events] at requested
    rcases onlyUnseen jobId requested with ⟨other, inside, otherFresh⟩
    exact ⟨other, inside, jobId, otherFresh⟩
  · intro reached unseen
    rcases someUnseen (reached unseen) with ⟨job, member, jobId, fresh, requested⟩
    refine ⟨job, List.mem_of_mem_take member, jobId, fresh, ?_⟩
    rw [events]
    exact requested

def listedJob (jobId : String) : JobOffer where
  id := some jobId
  jobHash := some "1f2e"
  onJobRequested := some (.ok .accept)
  signBrokered := .ok ()
  acceptJob := .ok ()

/-- A job is rejected and still listed in front of two new ones, of which the cap cuts off the
second; the first of them has failed before. -/
theorem checkForJobs_processes_truncated :
    ProcessesUnseen
      { seenJobIds := ["old"], acceptFailures := .mk [("new", 1)] (by decide)
        events := [.rejected "old", .failed "new" 1 false] }
      ⟨.ok [listedJob "old", listedJob "new", listedJob "next"], 2⟩
      [listedJob "old", listedJob "new", listedJob "next"] := by
  apply (checkForJobs_processes_iff _ _ rfl (by simp [listedJob])).mpr
  · exact fun _ => ⟨listedJob "new", by simp, "new", rfl, by decide, by decide⟩
  · exact ⟨listedJob "next", by simp, "next", rfl, by decide, by decide⟩

/-- A job that was rejected here and is still listed keeps a new one from its turn. -/
theorem new_job_starved :
    (∃ job ∈ [listedJob "old", listedJob "new"], ∃ jobId,
      Unseen { seenJobIds := ["old"] } job jobId) ∧
    ¬ProcessesUnseen { seenJobIds := ["old"] }
      ⟨.ok [listedJob "old", listedJob "new"], 1⟩ [listedJob "old", listedJob "new"] := by
  constructor
  · exact ⟨listedJob "new", by simp, "new", rfl, by decide, by decide⟩
  · intro processes
    rcases processes with ⟨_, _, jobId, _, requested⟩
    have nothing : (JobsState.checkForJobs { seenJobIds := ["old"] }
        ⟨.ok [listedJob "old", listedJob "new"], 1⟩).events = [] := by
      decide
    rw [nothing] at requested
    cases requested

end SovAgent.JobPolling
