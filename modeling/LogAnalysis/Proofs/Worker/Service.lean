import LogAnalysis.Worker
import Mathlib.Data.List.Nodup
import Mathlib.Logic.Relation

/-!
# Requests are served in their order

Clients put requests into the queue of a worker while its loop takes them out, one by one, so that their moves and those of
the loop alternate in any way. Requests are served in the order of the queue, each as if all of them came one after
the other on one session, and no request is answered twice (`Worker.Reached.served_in_order`). The loop ends at the first
order to stop; what was put into the queue behind it is never served (`Worker.Reached.unanswered_iff`).
-/

namespace LogAnalysis.Worker

/-! ## Tasks and answers -/

def Task.request? : Task → Option (Nat × Request)
  | request ticket r => some (ticket, r)
  | stop => none

def requestsOf (tasks : List Task) : List (Nat × Request) := tasks.filterMap Task.request?

def ticketsOf (tasks : List Task) : List Nat := (requestsOf tasks).map (·.1)

def beforeStop (tasks : List Task) : List Task := tasks.takeWhile (·.request?.isSome)

def Answer.ofOutcome : Outcome Result → Answer
  | .ok r => result r
  | .error f => fault f

def Answer.isCancelled : Answer → Bool
  | cancelled => true
  | _ => false

def isCancelled (w : Worker) (ticket : Nat) : Bool := (w.answer? ticket).any Answer.isCancelled

section

variable {t : Nat} {r : Request} {tasks others : List Task}

@[simp] theorem requestsOf_append : requestsOf (tasks ++ others) = requestsOf tasks ++ requestsOf others := by
  simp [requestsOf]

@[simp] theorem requestsOf_request : requestsOf (.request t r :: tasks) = (t, r) :: requestsOf tasks := rfl

@[simp] theorem requestsOf_stop : requestsOf (.stop :: tasks) = requestsOf tasks := rfl

@[simp] theorem requestsOf_nil : requestsOf [] = [] := rfl

@[simp] theorem ticketsOf_append : ticketsOf (tasks ++ others) = ticketsOf tasks ++ ticketsOf others := by
  simp [ticketsOf]

@[simp] theorem ticketsOf_request : ticketsOf (.request t r :: tasks) = t :: ticketsOf tasks := rfl

@[simp] theorem ticketsOf_stop : ticketsOf (.stop :: tasks) = ticketsOf tasks := rfl

@[simp] theorem ticketsOf_nil : ticketsOf [] = [] := rfl

theorem beforeStop_append_stop (running : Task.stop ∉ tasks) : beforeStop (tasks ++ .stop :: others) = tasks := by
  have all : ∀ task ∈ tasks, task.request?.isSome = true := by
    intro task member
    cases task with
    | request => rfl
    | stop => exact absurd member running
  rw [beforeStop, List.takeWhile_append_of_pos all, List.takeWhile_cons_of_neg (by decide), List.append_nil]

theorem ticketsOf_beforeStop : ticketsOf (beforeStop tasks) ⊆ ticketsOf tasks :=
  List.map_subset _ (List.filterMap_subset _ (List.takeWhile_subset _))

theorem isCancelled_ofOutcome (outcome : Outcome Result) : (Answer.ofOutcome outcome).isCancelled = false := by
  cases outcome <;> rfl

end

section

variable {w : Worker} {ticket other : Nat}

theorem answer?_reply (a : Answer) :
    (w.reply ticket a).answer? other = (w.answer? other).or (if other = ticket then some a else none) := by
  rw [answer?, reply, List.lookup_append]
  by_cases same : other = ticket
  · rw [if_pos same, same, List.lookup_cons_self]
    rfl
  · rw [if_neg same, List.lookup_cons, beq_eq_false_iff_ne.mpr same]
    rfl

theorem answer?_isSome_iff : (w.answer? ticket).isSome = true ↔ ticket ∈ w.answers.map (·.1) := by
  simp only [answer?, List.lookup_isSome_iff, beq_iff_eq, List.mem_map]
  exact exists_congr fun _ => and_congr_right fun _ => eq_comm

theorem answer?_eq_none_iff : w.answer? ticket = none ↔ ticket ∉ w.answers.map (·.1) := by
  rw [← answer?_isSome_iff, Option.not_isSome_iff_eq_none]

theorem answer?_reply_of_ne (a : Answer) (ne : other ≠ ticket) :
    (w.reply ticket a).answer? other = w.answer? other := by
  rw [answer?_reply, if_neg ne, Option.or_none]

theorem answer?_reply_self (a : Answer) (unanswered : w.answer? ticket = none) :
    (w.reply ticket a).answer? ticket = some a := by
  rw [answer?_reply, unanswered, if_pos rfl, Option.none_or]

theorem isSome_answer?_reply (a : Answer) (answered : (w.answer? other).isSome = true) :
    ((w.reply ticket a).answer? other).isSome = true := by
  rw [answer?_reply, Option.isSome_or, answered, Bool.true_or]

theorem answer?_of_mem {answer : Nat × Answer} (given : answer ∈ w.answers) :
    (w.answer? answer.1).isSome = true :=
  answer?_isSome_iff.mpr (List.mem_map_of_mem given)

theorem serve_eq (clock : Calendar.Clock) (unanswered : w.answer? ticket = none) (r : Request) :
    ∃ events, w.serve clock ticket r =
      reply { w with session := (serveRequest clock w.session r).session, events } ticket
        (.ofOutcome (serveRequest clock w.session r).outcome) := by
  refine ⟨w.events ++ (serveRequest clock w.session r).reports.map fun p =>
    ⟨ticket, p.percent, p.message, (serveRequest clock w.session r).operation⟩, ?_⟩
  rw [serve, unanswered, if_neg (by exact nofun)]
  rfl

end

/-! ## Moves -/

/-- What the loop of a worker is doing: it waits for a task, it holds a request that it took from the queue, or it serves
a request, which can no longer be cancelled. -/
inductive Stage
  | waiting
  | holding (ticket : Nat) (r : Request)
  | serving (ticket : Nat) (r : Request)

def Stage.tasks : Stage → List Task
  | waiting => []
  | holding ticket r | serving ticket r => [.request ticket r]

structure Loop where
  worker : Worker
  stage : Stage

def requestType? : Value → Option RequestType
  | .text name => RequestType.ofName? name
  | _ => none

/-- What a request puts into the queue when it is submitted: itself, unless its type is unknown. -/
def submitted (w : Worker) (type : Value) (payload : Members Value) : List Task :=
  ((requestType? type).map fun type => .request w.tickets ⟨type, payload⟩).toList

/-- A move of any client, with the tasks that it puts into the queue. A client can cancel requests that were
submitted, but not the one that is being served. -/
inductive ClientMove (l : Loop) : List Task → Loop → Prop
  | submit (type : Value) (payload : Members Value) :
      ClientMove l (submitted l.worker type payload) { l with worker := l.worker.submit type payload }
  | cancel {ticket : Nat} (issued : ticket < l.worker.tickets) (unclaimed : ∀ r, l.stage ≠ .serving ticket r) :
      ClientMove l [] { l with worker := l.worker.cancel ticket }
  | stop : ClientMove l [.stop] { l with worker := l.worker.stop }

inductive LoopMove (clock : Calendar.Clock) : Loop → Loop → Prop
  | take {w : Worker} {ticket : Nat} {r : Request} {rest : List Task} (running : w.ended = false)
      (next : w.queue = .request ticket r :: rest) :
      LoopMove clock ⟨w, .waiting⟩ ⟨{ w with queue := rest }, .holding ticket r⟩
  | stop {w : Worker} {rest : List Task} (running : w.ended = false) (next : w.queue = .stop :: rest) :
      LoopMove clock ⟨w, .waiting⟩ ⟨{ w with queue := rest, ended := true }, .waiting⟩
  | skip {w : Worker} {ticket : Nat} {r : Request} (answered : (w.answer? ticket).isSome = true) :
      LoopMove clock ⟨w, .holding ticket r⟩ ⟨w, .waiting⟩
  | claim {w : Worker} {ticket : Nat} {r : Request} (unanswered : w.answer? ticket = none) :
      LoopMove clock ⟨w, .holding ticket r⟩ ⟨w, .serving ticket r⟩
  | finish {w : Worker} {ticket : Nat} {r : Request} :
      LoopMove clock ⟨w, .serving ticket r⟩ ⟨w.serve clock ticket r, .waiting⟩

theorem step_moves (clock : Calendar.Clock) (w : Worker) :
    Relation.ReflTransGen (LoopMove clock) ⟨w, .waiting⟩ ⟨w.step clock, .waiting⟩ := by
  unfold step
  split
  · exact .refl
  · next notEnded =>
      have running : w.ended = false := Bool.eq_false_iff.mpr notEnded
      split
      · exact .refl
      · next rest next => exact .single (.stop running next)
      · next ticket r rest next =>
          have taken : Relation.ReflTransGen (LoopMove clock) ⟨w, .waiting⟩
              ⟨{ w with queue := rest }, .holding ticket r⟩ := .single (.take running next)
          cases answer : answer? { w with queue := rest } ticket with
          | some a =>
              have skipped : serve clock { w with queue := rest } ticket r = { w with queue := rest } := by
                rw [serve, answer]
                rfl
              rw [skipped]
              exact taken.tail (.skip (by rw [answer]; rfl))
          | none => exact (taken.tail (.claim answer)).tail .finish

theorem run_moves (clock : Calendar.Clock) (w : Worker) :
    Relation.ReflTransGen (LoopMove clock) ⟨w, .waiting⟩ ⟨w.run clock, .waiting⟩ := by
  unfold run
  generalize w.queue = tasks
  induction tasks generalizing w with
  | nil => exact .refl
  | cons task tasks ih => exact (step_moves clock w).trans (ih (w.step clock))

/-- What clients and the loop of a worker come to, together, from the start on a session, with the tasks that were put
into the queue so far. -/
inductive Reached (s : Session) : List Task → Loop → Prop
  | start : Reached s [] ⟨{ session := s }, .waiting⟩
  | client {order put : List Task} {l l' : Loop} (reached : Reached s order l) (move : ClientMove l put l') :
      Reached s (order ++ put) l'
  | loop {order : List Task} {l l' : Loop} (reached : Reached s order l) (clock : Calendar.Clock)
      (move : LoopMove clock l l') : Reached s order l'

theorem Reached.loops {s : Session} {order : List Task} {l l' : Loop} {clock : Calendar.Clock}
    (reached : Reached s order l) (moves : Relation.ReflTransGen (LoopMove clock) l l') : Reached s order l' := by
  induction moves with
  | refl => exact reached
  | tail _ move ih => exact .loop ih clock move

/-! ## Tickets -/

/-- Each request that was put into the queue has a ticket of its own, no ticket is answered twice, and each that was
handed out is answered or was put into the queue. -/
structure Issued (order : List Task) (w : Worker) : Prop where
  queued : ∀ t ∈ ticketsOf order, t < w.tickets
  distinct : (ticketsOf order).Nodup
  answered : ∀ t ∈ w.answers.map (·.1), t < w.tickets
  once : (w.answers.map (·.1)).Nodup
  known : ∀ t < w.tickets, t ∈ ticketsOf order ∨ (w.answer? t).isSome = true

theorem submit_cases (w : Worker) (type : Value) (payload : Members Value) :
    (∃ r, submitted w type payload = [.request w.tickets r] ∧ w.submit type payload =
        { w with tickets := w.tickets + 1, queue := w.queue ++ [.request w.tickets r] }) ∨
      ∃ a, submitted w type payload = [] ∧ w.submit type payload =
        reply { w with tickets := w.tickets + 1 } w.tickets a := by
  have split : w.submit type payload = (requestType? type).elim
      (reply { w with tickets := w.tickets + 1 } w.tickets (.fault (.unacceptable (.requestType type.display))))
      (fun type => { w with tickets := w.tickets + 1, queue := w.queue ++ [.request w.tickets ⟨type, payload⟩] }) := by
    cases type with
    | text name =>
        unfold submit requestType?
        dsimp only
        cases RequestType.ofName? name <;> rfl
    | _ => rfl
  rw [split, submitted]
  cases requestType? type with
  | some type => exact .inl ⟨⟨type, payload⟩, rfl, rfl⟩
  | none => exact .inr ⟨_, rfl, rfl⟩

section

variable {order : List Task} {w : Worker} {ticket : Nat} {a : Answer}

theorem Issued.unanswered (issued : Issued order w) (new : w.tickets ≤ ticket) : w.answer? ticket = none :=
  answer?_eq_none_iff.mpr fun member => Nat.not_lt.mpr new (issued.answered ticket member)

theorem Issued.congr {w' : Worker} (issued : Issued order w) (tickets : w'.tickets = w.tickets)
    (answers : w'.answers = w.answers) : Issued order w' where
  queued := tickets ▸ issued.queued
  distinct := issued.distinct
  answered := tickets ▸ answers ▸ issued.answered
  once := answers ▸ issued.once
  known := fun t handedOut => by
    rw [answer?, answers]
    exact issued.known t (tickets ▸ handedOut)

theorem Issued.stop (issued : Issued order w) : Issued (order ++ [.stop]) w.stop := by
  have same : ticketsOf (order ++ [.stop]) = ticketsOf order := by
    rw [ticketsOf_append, ticketsOf_stop, ticketsOf_nil, List.append_nil]
  exact ⟨same ▸ issued.queued, same ▸ issued.distinct, issued.answered, issued.once, same ▸ issued.known⟩

theorem Issued.reply (issued : Issued order w) (isTicket : ticket < w.tickets) (unanswered : w.answer? ticket = none) :
    Issued order (w.reply ticket a) where
  queued := issued.queued
  distinct := issued.distinct
  answered := by
    rw [Worker.reply, List.map_append]
    exact List.forall_mem_append.mpr ⟨issued.answered, List.forall_mem_singleton.mpr isTicket⟩
  once := by
    rw [Worker.reply, List.map_append, List.nodup_append']
    exact ⟨issued.once, List.nodup_singleton _, List.disjoint_singleton.mpr (answer?_eq_none_iff.mp unanswered)⟩
  known := fun t handedOut => (issued.known t handedOut).imp_right fun answered => by
    rw [answer?_reply, Option.isSome_or, answered, Bool.true_or]

theorem Issued.cancel (issued : Issued order w) (isTicket : ticket < w.tickets) : Issued order (w.cancel ticket) := by
  unfold Worker.cancel
  split
  · exact issued
  · next unanswered => exact issued.reply isTicket (Option.not_isSome_iff_eq_none.mp unanswered)

theorem Issued.serve (issued : Issued order w) (isTicket : ticket < w.tickets) (unanswered : w.answer? ticket = none)
    {clock : Calendar.Clock} {r : Request} : Issued order (w.serve clock ticket r) := by
  obtain ⟨events, served⟩ := serve_eq clock unanswered r
  have before : Issued order { w with session := (serveRequest clock w.session r).session, events } :=
    issued.congr rfl rfl
  rw [served]
  exact before.reply isTicket unanswered

theorem Issued.submit (issued : Issued order w) (type : Value) (payload : Members Value) :
    Issued (order ++ submitted w type payload) (w.submit type payload) := by
  have older : ∀ t, t < w.tickets → t < w.tickets + 1 := fun t => Nat.lt_succ_of_lt
  rcases submit_cases w type payload with ⟨r, put, after⟩ | ⟨a, put, after⟩
  · rw [put, after]
    refine ⟨fun t member => ?_, ?_, fun t member => older t (issued.answered t member), issued.once, fun t low => ?_⟩
    · rw [ticketsOf_append] at member
      rcases List.mem_append.mp member with member | member
      · exact older t (issued.queued t member)
      · obtain rfl := List.mem_singleton.mp member
        exact Nat.lt_succ_self _
    · have new : w.tickets ∉ ticketsOf order := fun member => Nat.lt_irrefl _ (issued.queued _ member)
      rw [ticketsOf_append, List.nodup_append']
      exact ⟨issued.distinct, List.nodup_singleton _, List.disjoint_singleton.mpr new⟩
    · rw [ticketsOf_append, List.mem_append]
      rcases Nat.lt_succ_iff_lt_or_eq.mp low with low | rfl
      · exact (issued.known t low).imp_left .inl
      · exact .inl (.inr (List.mem_singleton.mpr rfl))
  · -- The ticket of a request that is turned away is answered at once.
    rw [put, after, List.append_nil]
    refine ⟨fun t member => older t (issued.queued t member), issued.distinct, ?_, ?_, fun t low => ?_⟩
    · rw [Worker.reply, List.map_append]
      exact List.forall_mem_append.mpr ⟨fun t member => older t (issued.answered t member),
        List.forall_mem_singleton.mpr (Nat.lt_succ_self _)⟩
    · rw [Worker.reply, List.map_append, List.nodup_append']
      have new : w.tickets ∉ w.answers.map (·.1) := answer?_eq_none_iff.mp (issued.unanswered (Nat.le_refl _))
      exact ⟨issued.once, List.nodup_singleton _, List.disjoint_singleton.mpr new⟩
    · rw [answer?_reply, Option.isSome_or]
      rcases Nat.lt_succ_iff_lt_or_eq.mp low with low | rfl
      · exact (issued.known t low).imp_right fun answered => Bool.or_eq_true_iff.mpr (.inl answered)
      · exact .inr (Bool.or_eq_true_iff.mpr (.inr (by rw [if_pos rfl]; rfl)))

end

/-! ## The session that the answers come from -/

structure Job where
  clock : Calendar.Clock
  ticket : Nat
  request : Request

/-- One request after the other on one session: the session in the end, and the answers. -/
def serveInTurn (s : Session) : List Job → Session × List (Nat × Answer)
  | [] => (s, [])
  | job :: jobs =>
    let service := serveRequest job.clock s job.request
    let (last, answers) := serveInTurn service.session jobs
    (last, (job.ticket, .ofOutcome service.outcome) :: answers)

theorem serveInTurn_concat (s : Session) (jobs : List Job) (job : Job) :
    let service := serveRequest job.clock (serveInTurn s jobs).1 job.request
    serveInTurn s (jobs ++ [job]) =
      (service.session, (serveInTurn s jobs).2 ++ [(job.ticket, .ofOutcome service.outcome)]) := by
  induction jobs generalizing s with
  | nil => rfl
  | cons first jobs ih =>
      have later := ih (serveRequest first.clock s first.request).session
      simp only [List.cons_append, serveInTurn, later]

/-- The answer to a request of the queue that its client did not give itself. -/
def isServed (order : List Task) (answer : Nat × Answer) : Bool :=
  (ticketsOf order).contains answer.1 && !answer.2.isCancelled

theorem isServed_append {order put : List Task} {answer : Nat × Answer} (old : answer.1 ∉ ticketsOf put) :
    isServed (order ++ put) answer = isServed order answer := by
  rw [isServed, isServed, ticketsOf_append, List.contains_eq_mem, List.contains_eq_mem]
  simp only [List.mem_append, old, or_false]

/-- Where a worker is in the queue: it has dealt with the first tasks, of which it has served the requests that were not
cancelled, in their order. -/
structure Follows (s : Session) (order dealt : List Task) (jobs : List Job) (l : Loop) : Prop where
  parts : order = dealt ++ (l.stage.tasks ++ l.worker.queue)
  settled : ∀ t ∈ ticketsOf dealt, (l.worker.answer? t).isSome = true
  pending : ∀ t ∈ ticketsOf (l.stage.tasks ++ l.worker.queue), ∀ a,
    l.worker.answer? t = some a → a.isCancelled = true
  claimed : ∀ t r, l.stage = .serving t r → l.worker.answer? t = none
  served : jobs.map (fun job => (job.ticket, job.request)) = (requestsOf dealt).filter (!isCancelled l.worker ·.1)
  replies : l.worker.answers.filter (isServed order) = (serveInTurn s jobs).2
  session : l.worker.session = (serveInTurn s jobs).1
  running : l.worker.ended = false → Task.stop ∉ dealt
  stopped : l.worker.ended = true →
    l.stage = .waiting ∧ ∃ before, dealt = before ++ [.stop] ∧ Task.stop ∉ before

theorem Follows.start (s : Session) : Follows s [] [] [] ⟨{ session := s }, .waiting⟩ where
  parts := rfl
  settled := fun _ member => absurd member List.not_mem_nil
  pending := fun _ member => absurd member List.not_mem_nil
  claimed := fun _ _ serving => nomatch serving
  served := rfl
  replies := rfl
  session := rfl
  running := fun _ => List.not_mem_nil
  stopped := fun ended => nomatch ended

section

variable {s : Session} {order dealt put : List Task} {jobs : List Job} {l : Loop} {w : Worker} {rest : List Task}
  {t : Nat} {r : Request} {a : Answer}

theorem Follows.queued (follows : Follows s order dealt jobs l) (new : ∀ t ∈ ticketsOf put, l.worker.answer? t = none)
    (tickets : Nat) :
    Follows s (order ++ put) dealt jobs
      { l with worker := { l.worker with queue := l.worker.queue ++ put, tickets } } where
  parts := by rw [follows.parts, List.append_assoc, List.append_assoc]
  settled := follows.settled
  pending := fun t member a answer => by
    rw [← List.append_assoc, ticketsOf_append] at member
    rcases List.mem_append.mp member with member | member
    · exact follows.pending t member a answer
    · exact nomatch (new t member).symm.trans answer
  claimed := follows.claimed
  served := follows.served
  replies := by
    rw [← follows.replies]
    refine List.filter_congr fun answer given => isServed_append fun member => ?_
    exact absurd (new answer.1 member) (Option.isSome_iff_ne_none.mp (answer?_of_mem given))
  session := follows.session
  running := follows.running
  stopped := follows.stopped

theorem Follows.reply (follows : Follows s order dealt jobs l) (unanswered : l.worker.answer? t = none)
    (outside : t ∈ ticketsOf order → a.isCancelled = true) (unclaimed : ∀ r, l.stage ≠ .serving t r) :
    Follows s order dealt jobs { l with worker := l.worker.reply t a } := by
  have other : ∀ {u}, (l.worker.answer? u).isSome = true → u ≠ t := fun answered same => by
    rw [same, unanswered] at answered
    exact nomatch answered
  refine ⟨follows.parts, fun u member => isSome_answer?_reply a (follows.settled u member), fun u member b answer => ?_,
    fun u r serving => ?_, ?_, ?_, follows.session, follows.running, follows.stopped⟩
  · by_cases same : u = t
    · subst same
      obtain rfl := Option.some.inj ((answer?_reply_self a unanswered).symm.trans answer)
      refine outside ?_
      rw [follows.parts, ticketsOf_append]
      exact List.mem_append_right _ member
    · exact follows.pending u member b ((answer?_reply_of_ne a same).symm.trans answer)
  · have apart : u ≠ t := fun same => unclaimed r (same ▸ serving)
    exact (answer?_reply_of_ne a apart).trans (follows.claimed u r serving)
  · rw [follows.served]
    refine List.filter_congr fun request member => ?_
    have apart := other (follows.settled request.1 (List.mem_map_of_mem member))
    rw [isCancelled, isCancelled, answer?_reply_of_ne a apart]
  · have outsider : isServed order (t, a) = false := by
      rw [isServed, Bool.and_eq_false_iff, Bool.not_eq_false', List.contains_eq_mem, decide_eq_false_iff_not]
      exact or_iff_not_imp_left.mpr fun member => outside (not_not.mp member)
    rw [Worker.reply, List.filter_append, follows.replies, List.filter_cons_of_neg (by rw [outsider]; exact nofun),
      List.filter_nil, List.append_nil]

theorem Follows.cancel (follows : Follows s order dealt jobs l) (unclaimed : ∀ r, l.stage ≠ .serving t r) :
    Follows s order dealt jobs { l with worker := l.worker.cancel t } := by
  unfold Worker.cancel
  split
  · exact follows
  · next unanswered => exact follows.reply (Option.not_isSome_iff_eq_none.mp unanswered) (fun _ => rfl) unclaimed

theorem Follows.apart (follows : Follows s order dealt jobs l) (issued : Issued order l.worker)
    (atHand : l.stage.tasks = [.request t r]) : t ∉ ticketsOf dealt ∧ t ∉ ticketsOf l.worker.queue := by
  have distinct := issued.distinct
  rw [follows.parts, atHand, ticketsOf_append, List.singleton_append, ticketsOf_request] at distinct
  obtain ⟨-, others, separate⟩ := List.nodup_append'.mp distinct
  exact ⟨fun member => separate member List.mem_cons_self, (List.nodup_cons.mp others).1⟩

theorem Follows.isTicket (follows : Follows s order dealt jobs l) (atHand : l.stage.tasks = [.request t r]) :
    t ∈ ticketsOf order := by
  rw [follows.parts, atHand, ticketsOf_append, List.singleton_append, ticketsOf_request]
  exact List.mem_append_right _ List.mem_cons_self

theorem Follows.submit (follows : Follows s order dealt jobs l) (issued : Issued order l.worker) (type : Value)
    (payload : Members Value) :
    Follows s (order ++ submitted l.worker type payload) dealt jobs
      { l with worker := l.worker.submit type payload } := by
  have new := issued.unanswered (Nat.le_refl _)
  have outsider : l.worker.tickets ∉ ticketsOf order := fun member => Nat.lt_irrefl _ (issued.queued _ member)
  rcases submit_cases l.worker type payload with ⟨r, put, after⟩ | ⟨a, put, after⟩
  · rw [put, after]
    exact follows.queued (fun t member => by rwa [List.mem_singleton.mp member]) _
  · have ticketed : Follows s order dealt jobs { l with worker := { l.worker with tickets := l.worker.tickets + 1 } } :=
      { follows with }
    rw [put, after, List.append_nil]
    refine ticketed.reply new (fun member => absurd member outsider) fun r serving => ?_
    exact outsider (follows.isTicket (congrArg Stage.tasks serving))

theorem Follows.isRunning (follows : Follows s order dealt jobs l) (busy : l.stage ≠ .waiting) :
    l.worker.ended = false :=
  Bool.eq_false_iff.mpr fun ended => busy (follows.stopped ended).1

theorem Follows.goesOn (follows : Follows s order dealt jobs l) (busy : l.stage ≠ .waiting) :
    Task.stop ∉ dealt ++ [.request t r] := fun member =>
  (List.mem_append.mp member).elim (follows.running (follows.isRunning busy)) fun last =>
    nomatch List.mem_singleton.mp last

theorem Follows.take (follows : Follows s order dealt jobs ⟨w, .waiting⟩) (running : w.ended = false)
    (next : w.queue = .request t r :: rest) :
    Follows s order dealt jobs ⟨{ w with queue := rest }, .holding t r⟩ where
  parts := follows.parts.trans (congrArg (dealt ++ ·) next)
  settled := follows.settled
  pending := fun u member => follows.pending u (by rw [next]; exact member)
  claimed := fun _ _ serving => nomatch serving
  served := follows.served
  replies := follows.replies
  session := follows.session
  running := follows.running
  stopped := fun ended => nomatch running.symm.trans ended

theorem Follows.stop (follows : Follows s order dealt jobs ⟨w, .waiting⟩) (running : w.ended = false)
    (next : w.queue = .stop :: rest) :
    Follows s order (dealt ++ [.stop]) jobs ⟨{ w with queue := rest, ended := true }, .waiting⟩ where
  parts := by
    rw [List.append_assoc]
    exact follows.parts.trans (congrArg (dealt ++ ·) next)
  settled := fun u member => follows.settled u (by simpa using member)
  pending := fun u member => follows.pending u (by rw [next]; exact member)
  claimed := fun _ _ serving => nomatch serving
  served := by
    rw [requestsOf_append, requestsOf_stop, requestsOf_nil, List.append_nil]
    exact follows.served
  replies := follows.replies
  session := follows.session
  running := fun ended => nomatch ended
  stopped := fun _ => ⟨rfl, dealt, rfl, follows.running running⟩

theorem Follows.skip (follows : Follows s order dealt jobs ⟨w, .holding t r⟩)
    (answered : (w.answer? t).isSome = true) :
    Follows s order (dealt ++ [.request t r]) jobs ⟨w, .waiting⟩ where
  parts := by
    rw [List.append_assoc]
    exact follows.parts
  settled := by
    rw [ticketsOf_append]
    exact List.forall_mem_append.mpr ⟨follows.settled, List.forall_mem_singleton.mpr answered⟩
  pending := fun u member => follows.pending u (List.mem_cons_of_mem t member)
  claimed := fun _ _ serving => nomatch serving
  served := by
    obtain ⟨a, answer⟩ := Option.isSome_iff_exists.mp answered
    have cancelled : isCancelled w t = true := by
      rw [isCancelled, answer]
      exact follows.pending t List.mem_cons_self a answer
    rw [follows.served, requestsOf_append, List.filter_append, requestsOf_request, requestsOf_nil,
      List.filter_cons_of_neg (by simp [cancelled]), List.filter_nil, List.append_nil]
  replies := follows.replies
  session := follows.session
  running := fun _ => follows.goesOn (by exact nofun)
  stopped := fun ended => nomatch (follows.isRunning (by exact nofun)).symm.trans ended

theorem Follows.claim (follows : Follows s order dealt jobs ⟨w, .holding t r⟩) (unanswered : w.answer? t = none) :
    Follows s order dealt jobs ⟨w, .serving t r⟩ where
  parts := follows.parts
  settled := follows.settled
  pending := follows.pending
  claimed := fun u _ serving => by
    obtain ⟨rfl, rfl⟩ := Stage.serving.inj serving
    exact unanswered
  served := follows.served
  replies := follows.replies
  session := follows.session
  running := follows.running
  stopped := fun ended => nomatch (follows.isRunning (by exact nofun)).symm.trans ended

theorem Follows.finish (follows : Follows s order dealt jobs ⟨w, .serving t r⟩) (issued : Issued order w)
    (clock : Calendar.Clock) :
    Follows s order (dealt ++ [.request t r]) (jobs ++ [⟨clock, t, r⟩]) ⟨w.serve clock t r, .waiting⟩ := by
  have unanswered := follows.claimed t r rfl
  -- The ticket stands nowhere else in the queue, so that no other request sees the new answer.
  obtain ⟨earlier, later⟩ := follows.apart issued rfl
  have turn := serveInTurn_concat s jobs ⟨clock, t, r⟩
  have before : (serveInTurn s jobs).1 = w.session := follows.session.symm
  simp only [before] at turn
  obtain ⟨events, served⟩ := serve_eq clock unanswered r
  have others : ∀ u, u ≠ t → (w.serve clock t r).answer? u = w.answer? u := fun u apart => by
    rw [served]
    exact answer?_reply_of_ne _ apart
  have own : (w.serve clock t r).answer? t = some (.ofOutcome (serveRequest clock w.session r).outcome) := by
    rw [served]
    exact answer?_reply_self _ unanswered
  exact {
    parts := by
      rw [List.append_assoc, served]
      exact follows.parts
    settled := by
      rw [ticketsOf_append]
      refine List.forall_mem_append.mpr ⟨fun u member => ?_, List.forall_mem_singleton.mpr (by rw [own]; rfl)⟩
      rw [others u (ne_of_mem_of_not_mem member earlier)]
      exact follows.settled u member
    pending := fun u member => by
      have queue : (w.serve clock t r).queue = w.queue := by rw [served]; rfl
      have queued : u ∈ ticketsOf w.queue := queue ▸ member
      rw [others u (ne_of_mem_of_not_mem queued later)]
      exact follows.pending u (List.mem_cons_of_mem t queued)
    claimed := fun _ _ serving => nomatch serving
    served := by
      have kept : isCancelled (w.serve clock t r) t = false := by
        rw [isCancelled, own]
        exact isCancelled_ofOutcome _
      rw [List.map_append, follows.served, requestsOf_append, List.filter_append, requestsOf_request, requestsOf_nil,
        List.filter_cons_of_pos (by simp [kept])]
      refine congrArg (· ++ [(t, r)]) (List.filter_congr fun request member => ?_)
      rw [isCancelled, isCancelled, others _ (ne_of_mem_of_not_mem (List.mem_map_of_mem member) earlier)]
    replies := by
      have counts : isServed order (t, .ofOutcome (serveRequest clock w.session r).outcome) = true := by
        rw [isServed, isCancelled_ofOutcome, Bool.not_false, Bool.and_true, List.contains_iff_mem]
        exact follows.isTicket rfl
      rw [turn, served]
      exact (List.filter_append ..).trans (congrArg₂ (· ++ ·) follows.replies (List.filter_cons_of_pos counts))
    session := by
      rw [turn, served]
      rfl
    running := fun _ => follows.goesOn (by exact nofun)
    stopped := fun ended => by
      rw [served] at ended
      exact nomatch (follows.isRunning (by exact nofun)).symm.trans ended }

end

/-! ## Runs -/

section

variable {s : Session} {order : List Task} {l l' : Loop} {clock : Calendar.Clock}

theorem Reached.follows (reached : Reached s order l) :
    Issued order l.worker ∧ ∃ dealt jobs, Follows s order dealt jobs l := by
  induction reached with
  | start => exact ⟨⟨nofun, List.nodup_nil, nofun, List.nodup_nil, nofun⟩, [], [], .start s⟩
  | @client order put l l' reached move ih =>
      obtain ⟨issued, dealt, jobs, follows⟩ := ih
      cases move with
      | submit type payload => exact ⟨issued.submit type payload, dealt, jobs, follows.submit issued type payload⟩
      | cancel isTicket unclaimed =>
          rw [List.append_nil]
          exact ⟨issued.cancel isTicket, dealt, jobs, follows.cancel unclaimed⟩
      | stop => exact ⟨issued.stop, dealt, jobs, follows.queued (by exact nofun) _⟩
  | loop reached clock move ih =>
      obtain ⟨issued, dealt, jobs, follows⟩ := ih
      cases move with
      | take running next => exact ⟨issued.congr rfl rfl, dealt, jobs, follows.take running next⟩
      | stop running next => exact ⟨issued.congr rfl rfl, _, jobs, follows.stop running next⟩
      | skip answered => exact ⟨issued, _, jobs, follows.skip answered⟩
      | claim unanswered => exact ⟨issued, dealt, jobs, follows.claim unanswered⟩
      | finish =>
          have unanswered := follows.claimed _ _ rfl
          exact ⟨issued.serve (issued.queued _ (follows.isTicket rfl)) unanswered, _, _, follows.finish issued clock⟩

/-- When the loop waits and has nothing left to do, all requests ahead of the first order to stop are answered. -/
theorem Follows.answered {dealt : List Task} {jobs : List Job} (follows : Follows s order dealt jobs l)
    (waiting : l.stage = .waiting) (idle : l.worker.ended = true ∨ l.worker.queue = []) {t : Nat}
    (ahead : t ∈ ticketsOf (beforeStop order)) : (l.worker.answer? t).isSome = true := by
  have parts := follows.parts
  rw [waiting, Stage.tasks, List.nil_append] at parts
  refine follows.settled t ?_
  rcases idle with ended | empty
  · obtain ⟨-, before, pill, first⟩ := follows.stopped ended
    rw [parts, pill, List.append_assoc, List.singleton_append, beforeStop_append_stop first] at ahead
    rw [pill, ticketsOf_append]
    exact List.mem_append_left _ ahead
  · rw [empty, List.append_nil] at parts
    exact parts ▸ ticketsOf_beforeStop ahead

theorem serve_queue {w : Worker} {t : Nat} {r : Request} : (w.serve clock t r).queue = w.queue := by
  unfold serve
  split <;> rfl

theorem foldl_ended {w : Worker} (ended : w.ended = true) {tasks : List Task} :
    tasks.foldl (fun w _ => w.step clock) w = w := by
  have still : w.step clock = w := by rw [step, if_pos ended]
  induction tasks with
  | nil => rfl
  | cons task tasks ih => rw [List.foldl_cons, still, ih]

theorem step_queue {w : Worker} {task : Task} {rest : List Task} (running : w.ended = false)
    (next : w.queue = task :: rest) : (w.step clock).queue = rest := by
  rw [step, running, next]
  cases task with
  | request ticket r => exact serve_queue
  | stop => rfl

theorem exists_waiting (clock : Calendar.Clock) (l : Loop) :
    ∃ w, Relation.ReflTransGen (LoopMove clock) l ⟨w, .waiting⟩ := by
  obtain ⟨w, stage⟩ := l
  cases stage with
  | waiting => exact ⟨w, .refl⟩
  | serving ticket r => exact ⟨_, .single .finish⟩
  | holding ticket r =>
      cases answer : w.answer? ticket with
      | none => exact ⟨_, .tail (.single (.claim answer)) .finish⟩
      | some a => exact ⟨w, .single (.skip (by rw [answer]; rfl))⟩

theorem run_idle (clock : Calendar.Clock) (w : Worker) : (w.run clock).ended = true ∨ (w.run clock).queue = [] := by
  unfold run
  induction tasks : w.queue generalizing w with
  | nil => exact .inr tasks
  | cons task rest ih =>
      cases running : w.ended with
      | true => exact .inl (by rw [foldl_ended running, running])
      | false => exact ih (w.step clock) (step_queue running tasks)

theorem ClientMove.answers {put : List Task} (move : ClientMove l put l') :
    l.worker.answers <+: l'.worker.answers := by
  cases move with
  | submit type payload =>
      rcases submit_cases l.worker type payload with ⟨r, -, after⟩ | ⟨a, -, after⟩
      · exact after ▸ List.prefix_refl _
      · exact after ▸ List.prefix_append ..
  | cancel =>
      unfold Worker.cancel
      split
      · exact List.prefix_refl _
      · exact List.prefix_append ..
  | stop => exact List.prefix_refl _

theorem LoopMove.answers (move : LoopMove clock l l') : l.worker.answers <+: l'.worker.answers := by
  cases move with
  | take | stop | skip | claim => exact List.prefix_refl _
  | finish =>
      unfold serve
      split
      · exact List.prefix_refl _
      · exact List.prefix_append ..

/-- However the moves of the clients and of the loop alternate, no ticket is answered twice, no answer is taken back, and
a request that does not get into the queue is answered at once. The requests that were served are those at the front of
the queue that no client has cancelled, each with the answer that serving them one after the other on one session leads
to; every other answer to a request of the queue is that it was cancelled. When the loop has ended, all requests ahead of
the first order to stop are answered, and until then its own moves lead there, whatever the answers to earlier requests
are. -/
theorem Reached.served_in_order (reached : Reached s order l) :
    ((l.worker.answers.map (·.1)).Nodup ∧
      (∀ put l', ClientMove l put l' → l.worker.answers <+: l'.worker.answers) ∧
        ∀ clock l', LoopMove clock l l' → l.worker.answers <+: l'.worker.answers) ∧
      (∃ dealt jobs, order = dealt ++ (l.stage.tasks ++ l.worker.queue) ∧
        (∀ t ∈ ticketsOf dealt, (l.worker.answer? t).isSome = true) ∧
        (∀ t ∈ ticketsOf (l.stage.tasks ++ l.worker.queue), ∀ a,
          l.worker.answer? t = some a → a.isCancelled = true) ∧
        jobs.map (fun job => (job.ticket, job.request)) = (requestsOf dealt).filter (!isCancelled l.worker ·.1) ∧
        l.worker.answers.filter (isServed order) = (serveInTurn s jobs).2 ∧
        l.worker.session = (serveInTurn s jobs).1) ∧
      (∀ t < l.worker.tickets, t ∉ ticketsOf order → (l.worker.answer? t).isSome = true) ∧
      (l.worker.ended = true → ∀ t ∈ ticketsOf (beforeStop order), (l.worker.answer? t).isSome = true) ∧
      ∀ clock, ∃ w, Relation.ReflTransGen (LoopMove clock) l ⟨w, .waiting⟩ ∧
        ∀ t ∈ ticketsOf (beforeStop order), (w.answer? t).isSome = true := by
  obtain ⟨issued, dealt, jobs, follows⟩ := reached.follows
  refine ⟨⟨issued.once, fun _ _ => ClientMove.answers, fun _ _ => LoopMove.answers⟩,
    ⟨dealt, jobs, follows.parts, follows.settled, follows.pending, follows.served, follows.replies, follows.session⟩,
    fun t isTicket => (issued.known t isTicket).resolve_left,
    fun ended t => follows.answered (follows.stopped ended).1 (.inl ended), fun clock => ?_⟩
  obtain ⟨w, start⟩ := exists_waiting clock l
  have moves := start.trans (run_moves clock w)
  obtain ⟨-, dealt, jobs, follows⟩ := (reached.loops moves).follows
  exact ⟨w.run clock, moves, fun t => follows.answered rfl (run_idle clock w)⟩

/-- A page that cannot be shown is asked for, then numbers, then the worker is told to stop, and numbers are asked for
again. -/
def closing : Worker :=
  let asked := ({ session := .new 100 } : Worker).submit (.text "GET_PAGE") [("per_page", .int 0)]
  (asked.submit (.text "GET_STATS") []).stop.submit (.text "GET_STATS") []

def closingTasks : List Task :=
  [.request 0 ⟨.getPage, [("per_page", .int 0)]⟩, .request 1 ⟨.getStats, []⟩, .stop, .request 2 ⟨.getStats, []⟩]

theorem reached_closing : Reached (.new 100) closingTasks ⟨closing.run (.ofSeconds 0 0), .waiting⟩ := by
  have asked := Reached.client (.start (s := .new 100)) (.submit (.text "GET_PAGE") [("per_page", .int 0)])
  have closed : Reached (.new 100) closingTasks ⟨closing, .waiting⟩ :=
    .client (.client (.client asked (.submit (.text "GET_STATS") [])) .stop) (.submit (.text "GET_STATS") [])
  exact closed.loops (run_moves _ closing)

theorem ended_closing : (closing.run (.ofSeconds 0 0)).ended = true := by decide

theorem served_in_order_closing :
    let w := closing.run (.ofSeconds 0 0)
    Reached (.new 100) closingTasks ⟨w, .waiting⟩ ∧ (∃ f, w.answer? 0 = some (.fault f)) ∧
      ∀ t ∈ [0, 1], (w.answer? t).isSome = true := by
  obtain ⟨-, -, -, answered, -⟩ := reached_closing.served_in_order
  exact ⟨reached_closing, ⟨_, rfl⟩, answered ended_closing⟩

/-- When the loop has ended, just those requests have no answer that stand behind the first order to stop and were not
cancelled, and as the loop does not move any more, it never answers them. -/
theorem Reached.unanswered_iff (reached : Reached s order l) (ended : l.worker.ended = true) :
    (∃ before, order = before ++ .stop :: l.worker.queue ∧ Task.stop ∉ before) ∧
      (∀ t < l.worker.tickets,
        l.worker.answer? t = none ↔ t ∈ ticketsOf l.worker.queue ∧ isCancelled l.worker t = false) ∧
      ∀ clock l', ¬LoopMove clock l l' := by
  obtain ⟨issued, dealt, jobs, follows⟩ := reached.follows
  obtain ⟨waiting, before, pill, first⟩ := follows.stopped ended
  have parts := follows.parts
  have pending := follows.pending
  rw [waiting, Stage.tasks, List.nil_append] at parts pending
  refine ⟨⟨before, ?_, first⟩, fun t isTicket => ⟨fun unanswered => ⟨?_, ?_⟩, fun ⟨queued, kept⟩ => ?_⟩, ?_⟩
  · rw [parts, pill, List.append_assoc, List.singleton_append]
  · have member := (issued.known t isTicket).resolve_right (by rw [unanswered]; exact nofun)
    rw [parts, ticketsOf_append] at member
    refine (List.mem_append.mp member).resolve_left fun settled => ?_
    exact absurd unanswered (Option.isSome_iff_ne_none.mp (follows.settled t settled))
  · rw [isCancelled, unanswered]
    rfl
  · rw [isCancelled] at kept
    cases answer : l.worker.answer? t with
    | none => rfl
    | some a =>
        rw [answer] at kept
        exact nomatch (pending t queued a answer).symm.trans kept
  · intro clock l' move
    cases move with
    | take running | stop running => exact nomatch running.symm.trans ended
    | skip | claim | finish => exact nomatch waiting

theorem unanswered_iff_closing :
    let w := closing.run (.ofSeconds 0 0)
    Reached (.new 100) closingTasks ⟨w, .waiting⟩ ∧ w.ended = true ∧ w.answer? 2 = none := by
  obtain ⟨-, unanswered, -⟩ := reached_closing.unanswered_iff ended_closing
  exact ⟨reached_closing, ended_closing, (unanswered 2 (by decide +kernel)).mpr ⟨by decide +kernel, rfl⟩⟩

/-- A request that is submitted when the loop has ended is left without an answer. -/
theorem submit_ended_unanswered :
    ¬∀ (s : Session) (order : List Task) (l : Loop), Reached s order l → l.worker.ended = true →
      ∀ t < l.worker.tickets, (l.worker.answer? t).isSome = true := by
  intro complete
  have ended := (Reached.client (.start (s := .new 100)) .stop).loops (run_moves (.ofSeconds 0 0) _)
  have late := ended.client (.submit (.text "GET_STATS") [])
  exact nomatch complete _ _ _ late rfl 0 (by decide +kernel)

end

end LogAnalysis.Worker
