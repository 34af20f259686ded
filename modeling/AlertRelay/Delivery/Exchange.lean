import AlertRelay.Delivery.Notice
import AlertRelay.Delivery.Post

namespace AlertRelay.Delivery

open AlertRelay.Number AlertRelay.Text

/-- A request as it goes to the server, but for the cookies that a client may add. -/
structure Request where
  url : Url
  authorization : Option String
  timeout : Option Double
  body : List Nat
  deriving DecidableEq, Repr

def Request.method : String := "POST"

def Request.contentType : String := "application/json"

abbrev Headers := List (String × String)

/-- What comes of a request: an answer, whose body may turn out not to be readable, or a fault,
which may come up when the head of an answer was read already. -/
inductive Reply where
  | answer (status : Nat) (body : Except Fault (List Nat)) (headers : Headers := [])
  | fault (f : Fault) (headers : Headers := [])

def Reply.headers : Reply → Headers
  | .answer _ _ headers | .fault _ headers => headers

def created : Nat := 201

/-- The replies that are still to come. After the last one every event is taken. -/
abbrev Replies := List Reply

def Replies.next : Replies → Reply × Replies
  | [] => (.answer created (.ok []), [])
  | r :: rest => (r, rest)

/-- An answer from its first line on. Its body is read only when it is asked for, and the answer
is held until it is closed. -/
structure Answer where
  status : Nat
  body : Except Fault (List Nat)
  isRead : Bool
  isClosed : Bool

namespace Answer

def opened (status : Nat) (body : Except Fault (List Nat)) : Answer := ⟨status, body, false, false⟩

def read (a : Answer) : Except Fault (List Nat) × Answer := (a.body, { a with isRead := true })

def use {α : Type} (a : Answer) (f : Answer → α × Answer) : α × Answer :=
  let (x, a) := f a
  (x, { a with isClosed := true })

end Answer

structure Exchange where
  request : Request
  answer : Option Answer

structure Attempt where
  outcome : Except Failure Unit
  exchange : Option Exchange
  notices : List Notice

def Attempt.failed (f : Failure) : Attempt := ⟨.error f, none, []⟩

def urlAuthorization (u : Url) : Option String :=
  let (user, password) := u.credentials
  if user.isEmpty && password.isEmpty then none else some (basicAuthorization user password)

/-- The request that the client makes of a prepared one. It reads the URL once more, and takes
credentials from it if there are no others. -/
def requestOf (p : Post) : Except Failure Request :=
  match Url.parse p.url with
  | .error f => .error (.address f)
  | .ok u =>
    match foreignRun? u.hostText with
    | some (pos, run) => .error (.host pos run)
    | none =>
      .ok
        { url := u
          authorization := p.authorization.or (urlAuthorization u)
          timeout := p.timeout
          body := p.body }

def Fault.failure : Fault → Failure
  | .breakdown sort message => .connection sort message
  | .accident sort message => .accident sort message

/-- Finds out what an answer means. The body is read only if the event was not taken. -/
def settle (a : Answer) : Except Failure Unit × Answer :=
  if a.status == created then (.ok (), a)
  else
    match a.read with
    | (.error f, a) => (.error f.failure, a)
    | (.ok bytes, a) => (.error (.rejected a.status (String.ofList (Utf8.decode bytes))), a)

def send (p : Post) (r : Request) : Reply → Attempt
  | .fault f _ => ⟨.error f.failure, some ⟨r, none⟩, []⟩
  | .answer status body _ =>
    let (outcome, a) := (Answer.opened status body).use settle
    ⟨outcome, some ⟨r, some a⟩, if status == created then [.sent p.url] else []⟩

def attempt (p : Except Failure Post) (replies : Replies) : Attempt × Replies :=
  match p with
  | .error f => (.failed f, replies)
  | .ok p =>
    match requestOf p with
    | .error f => (.failed f, replies)
    | .ok r =>
      let (reply, replies) := replies.next
      (send p r reply, replies)

end AlertRelay.Delivery
