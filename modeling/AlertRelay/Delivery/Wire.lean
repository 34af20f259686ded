import AlertRelay.Delivery.Exchange
import AlertRelay.Text.Blank
import AlertRelay.Text.Split

namespace AlertRelay.Delivery

open AlertRelay.Number AlertRelay.Text

def target (u : Url) : List Char :=
  (if u.path.isEmpty then ['/'] else u.path) ++
    match u.query with
    | some q => '?' :: q
    | none => []

def headLine (s : String) : List Char := s.toList ++ ['\r', '\n']

namespace Request

def head (r : Request) : List Char :=
  headLine (Request.method ++ " " ++ String.ofList (target r.url) ++ " HTTP/1.1") ++
    headLine ("Host: " ++ String.ofList r.url.hostText) ++
    headLine ("Content-Type: " ++ Request.contentType) ++
    headLine ("Content-Length: " ++ toString r.body.length) ++
    (match r.authorization with
      | some a => headLine ("Authorization: " ++ a)
      | none => []) ++
    headLine "Connection: close" ++ headLine ""

def bytes (r : Request) : List Nat := Utf8.encode r.head ++ r.body

end Request

def statusOf? (bytes : List Nat) : Option Nat :=
  let line := Utf8.decode (bytes.takeWhile (· != 10))
  let digits := (line.dropWhile (· != ' ')).drop 1 |>.takeWhile Double.isDecimalDigit
  if startsWith "HTTP/1.".toList line && digits.length == 3 then some (natOfDigits digits) else none

def afterHead? : List Nat → Option (List Nat)
  | 13 :: 10 :: 13 :: 10 :: body => some body
  | _ :: rest => afterHead? rest
  | [] => none

def headerOf? (line : List Char) : Option (String × String) :=
  match line.dropWhile (· != ':') with
  | _ :: value =>
    some (String.ofList (line.takeWhile (· != ':')), String.ofList (trimBy isSpacing value))
  | [] => none

def headersOf (head : List Nat) : Headers :=
  ((splitAt '\n' (Utf8.decode head)).drop 1).filterMap headerOf?

def Reply.ofBytes (bytes : List Nat) : Reply :=
  match statusOf? bytes, afterHead? bytes with
  | some status, some body =>
    .answer status (.ok body) (headersOf (bytes.take (bytes.length - body.length)))
  | _, _ => .fault (.breakdown .remoteProtocol "the server did not answer in full")

end AlertRelay.Delivery
