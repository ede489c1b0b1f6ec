import DocumentPipeline.Client
import DocumentPipeline.Proofs.Success
import Mathlib.Data.List.ReduceOption

/-!
# Histories of calls

A client's executor gets calls one after the other: replies are queued and pipelines are run, in any
order. Which requests it has received by then and which reply answers which call:

* `Client.serve`, `Client.serveAll`: one call, and a history of calls;
* `Client.result`: what a call gives when it is dealt a reply, or when none is left for it;
* `Client.Takes`: the reply that one call takes, and those that it leaves;
* `Client.Dealt`: replies that are dealt in the order in which they were queued, one to each call
  that is sent, as long as any are left;
* `serve_takes`: what one call gives and what it does to the executor;
* `history_served_in_order`: in every history the requests are those of the calls that are sent, and
  the replies are dealt in order.
-/

namespace DocumentPipeline

/-- A call at the executor of a client. -/
inductive ExecutorCall where
  | queue (reply : Reply)
  | execute (p : Pipeline) (o : ExecuteOptions)
  | stream (p : Pipeline) (o : ExecuteOptions)

/-- What a call gives. -/
inductive CallResult where
  | queued
  | whole (result : Except ClientError Snapshot)
  | streamed (items : List (Except ClientError Row))

/-- The reply that a call queues. -/
def ExecutorCall.reply? : ExecutorCall → Option Reply
  | .queue reply => some reply
  | _ => none

/-- The whole answer that a reply gives. -/
def Reply.snapshot (reply : Reply) : Except ClientError Snapshot := do
  let response ← reply.whole
  (Snapshot.ofResponse response).mapError .decode

namespace Client
variable (c : Client)

/-- One call. -/
def serve (x : Executor) : ExecutorCall → CallResult × Executor
  | .queue reply => (.queued, x.push reply)
  | .execute p o => ((c.execute x p o).map .whole id)
  | .stream p o => ((c.stream x p o).map .streamed id)

/-- Calls one after the other. -/
def serveAll : Executor → List ExecutorCall → List CallResult × Executor
  | x, [] => ([], x)
  | x, call :: rest =>
    let (result, x) := c.serve x call
    let (results, x) := serveAll x rest
    (result :: results, x)

/-- The request that a call sends: none if it only queues a reply, or if its pipeline cannot be
compiled. -/
def request? : ExecutorCall → Option Request
  | .queue _ => none
  | .execute p o | .stream p o => (c.compile p o).toOption

/-- The rows that a reply gives to a stream. -/
def rowsFrom (reply : Reply) : List (Except ClientError Row) :=
  (if c.batched then [reply.whole] else reply.parts).flatMap rowsOf

/-- What a call gives. One whose pipeline cannot be compiled gives that error. Any other is answered
by the reply that it is dealt, and by an empty response if there is none. -/
def result (call : ExecutorCall) (dealt : Option Reply) : CallResult :=
  let reply := dealt.getD (.response .empty)
  match call with
  | .queue _ => .queued
  | .execute p o =>
    match c.compile p o with
    | .error e => .whole (.error (.pipeline e))
    | .ok _ => .whole reply.snapshot
  | .stream p o =>
    match c.compile p o with
    | .error e => .streamed [.error (.pipeline e)]
    | .ok _ => .streamed (c.rowsFrom reply)

/-- The reply that a call takes of those that wait, which is the first, and those that it leaves. A
call that is not sent takes none, and one that is sent takes none only when none waits. -/
structure Takes (call : ExecutorCall) (waiting : List Reply) (taken : Option Reply)
    (left : List Reply) : Prop where
  first : waiting = taken.toList ++ left
  unsent : c.request? call = none → taken = none
  emptied : c.request? call ≠ none → taken = none → left = []

/-- A way to deal replies to calls, which begins with some replies that wait already. A call that is
not sent gets none. The replies dealt so far are always the first of those queued so far, so that
each is dealt at most once and in its turn. A call that is sent goes without only when all that were
queued before it have been dealt. -/
structure Dealt (waiting : List Reply) (calls : List ExecutorCall) (dealt : List (Option Reply)) :
    Prop where
  length : dealt.length = calls.length
  unsent : ∀ (i : Nat) call, calls[i]? = some call → c.request? call = none → dealt[i]? = some none
  inTurn : ∀ n, (dealt.take n).reduceOption <+:
    waiting ++ (calls.take n).filterMap ExecutorCall.reply?
  left : ∀ (i : Nat) call, calls[i]? = some call → c.request? call ≠ none →
    dealt[i]? = some none →
    (dealt.take i).reduceOption = waiting ++ (calls.take i).filterMap ExecutorCall.reply?

section
variable {c}

/-- **One call** answers with the reply that it takes, adds its request if it is sent, and leaves
the other replies before the one that it queues. -/
theorem serve_takes (x : Executor) (call : ExecutorCall) :
    ∃ taken left, c.Takes call x.replies taken left ∧
      c.serve x call = (c.result call taken,
        ⟨x.requests ++ (c.request? call).toList, left ++ call.reply?.toList⟩) := by
  obtain ⟨received, waiting⟩ := x
  cases call with
  | queue reply =>
    refine ⟨none, waiting, ⟨rfl, fun _ => rfl, absurd rfl⟩, ?_⟩
    rw [request?, Option.toList_none, List.append_nil]
    rfl
  | execute p o | stream p o =>
    cases compiled : c.compile p o with
    | error e =>
      -- Nothing is sent, so the executor stays as it is.
      have refused : (c.compile p o).toOption = none := toOption_eq_none.2 ⟨e, compiled⟩
      refine ⟨none, waiting, ⟨rfl, fun _ => rfl, absurd refused⟩, ?_⟩
      simp [serve, execute, stream, result, request?, compiled, Except.toOption,
        ExecutorCall.reply?]
    | ok request =>
      have sent : (c.compile p o).toOption = some request := toOption_eq_some.2 compiled
      refine ⟨waiting.head?, waiting.tail, ⟨?_, ?_, ?_⟩, ?_⟩
      · cases waiting <;> rfl
      · intro refused
        cases sent.symm.trans refused
      · intro _ none
        rw [List.head?_eq_none_iff.1 none, List.tail_nil]
      · simp [serve, execute, stream, result, request?, compiled, Except.toOption, Executor.receive,
          Reply.snapshot, rowsFrom, ExecutorCall.reply?]

/-! ## Dealing replies -/

theorem reduceOption_cons (taken : Option Reply) (dealt : List (Option Reply)) :
    (taken :: dealt).reduceOption = taken.toList ++ dealt.reduceOption := by
  cases taken <;> rfl

/-- The replies of a history in the order in which they are dealt: the one that its first call
takes, those that this leaves, the one that it queues, and those of the other calls. -/
theorem Takes.queued {call : ExecutorCall} {waiting left : List Reply} {taken : Option Reply}
    (takes : c.Takes call waiting taken left) (calls : List ExecutorCall) :
    waiting ++ (call :: calls).filterMap ExecutorCall.reply? =
      taken.toList ++
        (left ++ call.reply?.toList ++ calls.filterMap ExecutorCall.reply?) := by
  have split : (call :: calls).filterMap ExecutorCall.reply? =
      call.reply?.toList ++ calls.filterMap ExecutorCall.reply? := by
    cases call <;> rfl
  rw [takes.first, split, List.append_assoc, List.append_assoc]

theorem Dealt.nil (waiting : List Reply) : c.Dealt waiting [] [] where
  length := rfl
  unsent := by
    intro i call found
    cases found
  inTurn := by
    intro n
    rw [List.take_nil]
    exact List.nil_prefix
  left := by
    intro i call found
    cases found

/-- One call and then the others, which find what it left and what it queued. -/
theorem Dealt.cons {waiting left : List Reply} {taken : Option Reply} {call : ExecutorCall}
    {calls : List ExecutorCall} {dealt : List (Option Reply)}
    (takes : c.Takes call waiting taken left)
    (later : c.Dealt (left ++ call.reply?.toList) calls dealt) :
    c.Dealt waiting (call :: calls) (taken :: dealt) where
  length := by rw [List.length_cons, List.length_cons, later.length]
  unsent := by
    intro i other found unsent
    cases i with
    | zero =>
      cases found
      rw [takes.unsent unsent]
      rfl
    | succ i => exact later.unsent i other found unsent
  inTurn := by
    intro n
    cases n with
    | zero => exact List.nil_prefix
    | succ n =>
      rw [List.take_succ_cons, List.take_succ_cons, reduceOption_cons, takes.queued]
      exact (List.prefix_append_right_inj _).2 (later.inTurn n)
  left := by
    intro i other found sent without
    cases i with
    | zero =>
      cases found
      obtain rfl : taken = none := Option.some.inj without
      rw [takes.first, takes.emptied sent rfl]
      rfl
    | succ i =>
      rw [List.take_succ_cons, List.take_succ_cons, reduceOption_cons, takes.queued,
        later.left i other found sent without]

end

/-! ## Whole histories -/

/-- **No request is lost or invented, and no reply answers twice.** In every history of calls there
is a way to deal the replies, in the order in which they were queued, one to each call that is sent
and none to the others, by which every call gives its result. The requests received are those of
the calls that are sent, in order, and the replies that are not dealt are left, in order. -/
theorem history_served_in_order (x : Executor) (calls : List ExecutorCall) :
    ∃ dealt, c.Dealt x.replies calls dealt ∧
      (c.serveAll x calls).1 = List.zipWith c.result calls dealt ∧
      (c.serveAll x calls).2.requests = x.requests ++ calls.filterMap c.request? ∧
      dealt.reduceOption ++ (c.serveAll x calls).2.replies =
        x.replies ++ calls.filterMap ExecutorCall.reply? := by
  induction calls generalizing x with
  | nil => exact ⟨[], .nil _, rfl, (List.append_nil _).symm, (List.append_nil _).symm⟩
  | cons call calls ih =>
    obtain ⟨taken, left, takes, served⟩ := c.serve_takes x call
    obtain ⟨dealt, later, results, requests, rest⟩ :=
      ih ⟨x.requests ++ (c.request? call).toList, left ++ call.reply?.toList⟩
    have first : c.serveAll x (call :: calls) =
        (c.result call taken :: List.zipWith c.result calls dealt,
          (c.serveAll ⟨x.requests ++ (c.request? call).toList, left ++ call.reply?.toList⟩
            calls).2) := by
      rw [serveAll, served, ← results]
    rw [first]
    refine ⟨taken :: dealt, .cons takes later, rfl, ?_, ?_⟩
    · rw [requests, List.append_assoc]
      cases sent : c.request? call with
      | none => rw [List.filterMap_cons_none sent, Option.toList_none, List.nil_append]
      | some request =>
        rw [List.filterMap_cons_some sent, Option.toList_some, List.singleton_append]
    · rw [reduceOption_cons, List.append_assoc, rest, takes.queued]

end Client
end DocumentPipeline
