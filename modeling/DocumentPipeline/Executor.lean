import DocumentPipeline.ClientError
import DocumentPipeline.Protocol.Request
import DocumentPipeline.Protocol.Response

/-!
An executor that answers from a queue. It keeps every request that it gets, in order, and gives the
queued replies one for each request, first in first out; with no reply queued it answers with an
empty response.
-/
namespace DocumentPipeline

inductive Reply where
  | response (response : Response)
  | error (message : String)
  | chunks (chunks : List Response)

/-- The requests received, oldest first, and the replies still to be given, next first. -/
structure Executor where
  requests : List Request
  replies : List Reply

namespace Executor

def empty : Executor := ⟨[], []⟩

def push (x : Executor) (r : Reply) : Executor := { x with replies := x.replies ++ [r] }

/-- Takes a request and gives the reply to it. -/
def receive (x : Executor) (r : Request) : Reply × Executor :=
  (x.replies.headD (.response .empty), ⟨x.requests ++ [r], x.replies.tail⟩)

end Executor

namespace Reply

/-- A reply as one response. -/
def whole : Reply → Except ClientError Response
  | .response r => .ok r
  | .error message => .error (.execution message)
  | .chunks rs => .ok (.combine rs)

/-- A reply as it is delivered part by part. -/
def parts : Reply → List (Except ClientError Response)
  | .response r => [.ok r]
  | .error message => [.error (.execution message)]
  | .chunks rs => rs.map .ok

end Reply
end DocumentPipeline
