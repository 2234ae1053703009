import Provisioning.Program

/-!
# Scripted services

An environment that answers the requests for an operation from a script, one answer after another;
the last answer stays and repeats. An operation that is not in the script is answered by the empty
mapping, or by no pages. The environment keeps the requests that were made and the time that was
slept, and its clock stands still but for sleeping. It refuses no pause.
-/

set_option autoImplicit false

namespace Provisioning

/-- What a scripted service answers to one request. -/
inductive Reply
  | answer (a : Answer)
  | pages (answers : List Answer)

/-- A reply as the answer to a request for one response. -/
def Reply.toAnswer : Reply → Answer
  | .answer a => a
  | .pages answers => answers.headD (.ok (.map []))

/-- A reply as the answer to a request for pages. -/
def Reply.toPages : Reply → List Answer
  | .answer a => [a]
  | .pages answers => answers

/-- A script with the requests that were made so far, in reverse. -/
structure Script where
  replies : Entries String (List Reply) := []
  made : List Call := []
  clock : Number := .int 0
  slept : List Value := []

namespace Script

/-- The script after one request for an operation, and the reply to it. -/
def take (s : Script) (operation : String) : Option Reply × Script :=
  match (s.replies.get? operation).getD [] with
  | [] => (none, s)
  | [last] => (some last, s)
  | reply :: rest => (some reply, { s with replies := s.replies.insert operation rest })

/-- The operation under which pages are scripted. -/
def paged (operation : String) : String := "paginate:" ++ operation

/-- Keeps a request. -/
def keep (s : Script) (c : Call) : Script := { s with made := c :: s.made }

/-- The environment of a script. -/
def environment : Program.Environment Script where
  call c s :=
    let (reply, s) := s.take c.operation
    ((reply.map Reply.toAnswer).getD (.ok (.map [])), s.keep c)
  pages c s :=
    let (reply, s) := s.take (paged c.operation)
    ((reply.map Reply.toPages).getD [], s.keep { c with operation := paged c.operation })
  clock s := (s.clock, s)
  sleep seconds s :=
    (.ok (), { s with slept := seconds :: s.slept
                      clock := (seconds.number?.bind (s.clock.sub? ·.neg)).getD s.clock })

/-- The requests that were made, in order. -/
def calls (s : Script) : List Call := s.made.reverse

/-- Equal consecutive requests as one, with their number. -/
def counted : List Call → List (Call × Nat)
  | [] => []
  | c :: rest =>
    match counted rest with
    | (d, n) :: more =>
      if c.operation == d.operation && Value.map c.arguments == Value.map d.arguments
      then (c, n + 1) :: more else (c, 1) :: (d, n) :: more
    | [] => [(c, 1)]

end Script

end Provisioning
