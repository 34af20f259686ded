namespace AlertRelay.Delivery

inductive Breakdown where
  | exchange
  | request
  | transport
  | timeout
  | connectTimeout
  | readTimeout
  | writeTimeout
  | poolTimeout
  | network
  | connect
  | read
  | write
  | close
  | protocol
  | localProtocol
  | remoteProtocol
  | proxy
  | unsupportedProtocol
  | decoding
  | tooManyRedirects
  deriving DecidableEq, Repr

namespace Breakdown

def all : List Breakdown :=
  [.exchange, .request, .transport, .timeout, .connectTimeout, .readTimeout, .writeTimeout,
    .poolTimeout, .network, .connect, .read, .write, .close, .protocol, .localProtocol,
    .remoteProtocol, .proxy, .unsupportedProtocol, .decoding, .tooManyRedirects]

def name : Breakdown → String
  | .exchange => "HTTPError"
  | .request => "RequestError"
  | .transport => "TransportError"
  | .timeout => "TimeoutException"
  | .connectTimeout => "ConnectTimeout"
  | .readTimeout => "ReadTimeout"
  | .writeTimeout => "WriteTimeout"
  | .poolTimeout => "PoolTimeout"
  | .network => "NetworkError"
  | .connect => "ConnectError"
  | .read => "ReadError"
  | .write => "WriteError"
  | .close => "CloseError"
  | .protocol => "ProtocolError"
  | .localProtocol => "LocalProtocolError"
  | .remoteProtocol => "RemoteProtocolError"
  | .proxy => "ProxyError"
  | .unsupportedProtocol => "UnsupportedProtocol"
  | .decoding => "DecodingError"
  | .tooManyRedirects => "TooManyRedirects"

end Breakdown

/-- The sorts of a failure that has nothing to do with the exchange itself. -/
inductive Accident where
  | url
  | cookies
  | stream
  | program
  | system
  | value
  deriving DecidableEq, Repr

namespace Accident

def all : List Accident := [.url, .cookies, .stream, .program, .system, .value]

def name : Accident → String
  | .url => "InvalidURL"
  | .cookies => "CookieConflict"
  | .stream => "StreamError"
  | .program => "RuntimeError"
  | .system => "OSError"
  | .value => "ValueError"

end Accident

inductive Fault where
  | breakdown (sort : Breakdown) (message : String)
  | accident (sort : Accident) (message : String)
  deriving DecidableEq, Repr

end AlertRelay.Delivery
