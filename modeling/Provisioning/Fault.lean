import Provisioning.ErrorCode
import Provisioning.Value.Display

/-!
# Faults

What can go wrong while a handler runs: the service refuses a call, the call does not get through,
the handler itself finds fault with the request or the resource, or a document lacks the shape that
a handler expects of it. Every fault has a text and a lineage, the names of its error classes from
the most specific one to the root class, by which rules recognise it.
-/

set_option autoImplicit false

namespace Provisioning

/-- The class that all errors descend from. -/
def rootClass : String := "Exception"

/-- A call refused by the service. Code and message are as the service sent them: absent, null, or
any document. -/
structure ServiceError where
  code : Option Value
  message : Option Value
  operation : String
  /-- The number of retries, reported once they are exhausted. -/
  exhaustedRetries : Option Value := none

/-- Why a call did not get an answer from the service. -/
inductive TransportFault
  | endpointConnection (url : String)
  | connectTimeout (url : String)
  | proxyConnection (url : String)
  | connection (reason : String)
  | httpClient (reason : String)
  | readTimeout (url : String)
  | connectionClosed (url : String)
  | invalidParameters (report : String)
  | noCredentials
  | unspecified
  deriving DecidableEq

/-- What a handler itself finds fault with. -/
inductive HandlerFault
  | notFound (type : String) (identifier : Value)
  | notStabilized (type : String) (identifier : Value) (reason : String)
  | notUpdatable (type : String) (properties : List String)
  | invalidRequest (message : Value) (code : Option ErrorCode)
  | other (message : Value) (code : Option ErrorCode)

/-- A fault. -/
inductive Fault
  | service (error : ServiceError)
  | transport (fault : TransportFault)
  | handler (fault : HandlerFault)
  /-- A mapping lacks a key that is read from it. -/
  | missingKey (key : Option Value)
  /-- There is no handler for a resource type. -/
  | noProvider (type : Value)
  /-- Any other error, known by its lineage and its message. -/
  | general (lineage : List String) (message : Option String)

/-! ## Lineage -/

/-- The ancestors of the error classes that have any between them and the root class. -/
def ancestors : List (String × List String) :=
  [("KeyError", ["LookupError"]), ("IndexError", ["LookupError"]), ("TimeoutError", ["OSError"]),
   ("ZeroDivisionError", ["ArithmeticError"]), ("OverflowError", ["ArithmeticError"]),
   ("NotImplementedError", ["RuntimeError"]), ("builtins.ConnectionError", ["OSError"]),
   ("UnicodeError", ["ValueError"]), ("UnicodeEncodeError", ["UnicodeError", "ValueError"])]

/-- The lineage of an error class without a constructor of its own. -/
def lineageOf (name : String) : List String :=
  let above := (ancestors.lookup name).getD []
  if name = rootClass then [name] else name :: above ++ [rootClass]

namespace TransportFault

/-- The error class of a transport fault and its ancestors below the root class. -/
def lineage : TransportFault → List String
  | endpointConnection _ => ["EndpointConnectionError", "ConnectionError", "BotoCoreError"]
  | connectTimeout _ => ["ConnectTimeoutError", "ConnectionError", "BotoCoreError", "OSError"]
  | proxyConnection _ => ["ProxyConnectionError", "ConnectionError", "BotoCoreError", "OSError"]
  | connection _ => ["ConnectionError", "BotoCoreError"]
  | httpClient _ => ["HTTPClientError", "BotoCoreError"]
  | readTimeout _ => ["ReadTimeoutError", "HTTPClientError", "BotoCoreError", "OSError"]
  | connectionClosed _ => ["ConnectionClosedError", "HTTPClientError", "BotoCoreError"]
  | invalidParameters _ => ["ParamValidationError", "BotoCoreError"]
  | noCredentials => ["NoCredentialsError", "BotoCoreError"]
  | unspecified => ["BotoCoreError"]

/-- The transport fault of an error class. -/
def ofClass? (className detail : String) : Option TransportFault :=
  [endpointConnection detail, connectTimeout detail, proxyConnection detail, connection detail,
   httpClient detail, readTimeout detail, connectionClosed detail, invalidParameters detail,
   noCredentials, unspecified].find? (·.lineage.head? == some className)

/-- The text of a transport fault. -/
def text : TransportFault → String
  | endpointConnection url => "Could not connect to the endpoint URL: \"" ++ url ++ "\""
  | connectTimeout url => "Connect timeout on endpoint URL: \"" ++ url ++ "\""
  | proxyConnection url => "Failed to connect to proxy URL: \"" ++ url ++ "\""
  | connection reason => "An HTTP Client failed to establish a connection: " ++ reason
  | httpClient reason => "An HTTP Client raised an unhandled exception: " ++ reason
  | readTimeout url => "Read timeout on endpoint URL: \"" ++ url ++ "\""
  | connectionClosed url =>
    "Connection was closed before we received a valid response from endpoint URL: \"" ++ url
      ++ "\"."
  | invalidParameters report => "Parameter validation failed:\n" ++ report
  | noCredentials => "Unable to locate credentials"
  | unspecified => "An unspecified error occurred"

end TransportFault

namespace ServiceError

/-- A part of a refusal in its text: a part that was not sent is unknown. -/
def part (v : Option Value) : String := (v.map Value.display).getD "Unknown"

/-- The text of a refusal. -/
def text (e : ServiceError) : String :=
  let retries := match e.exhaustedRetries with
    | some n => " (reached max retries: " ++ n.display ++ ")"
    | none => ""
  "An error occurred (" ++ part e.code ++ ") when calling the " ++ e.operation ++ " operation"
    ++ retries ++ ": " ++ part e.message

end ServiceError

namespace HandlerFault

/-- The error class of a handler fault. -/
def className : HandlerFault → String
  | notFound .. => "NotFoundError"
  | notStabilized .. => "NotStabilizedError"
  | notUpdatable .. => "NotUpdatableError"
  | invalidRequest .. => "InvalidRequestError"
  | other .. => "HandlerError"

/-- The class of all handler faults. -/
def baseClass : String := "HandlerError"

/-- The error class of a handler fault and its ancestors below the root class. -/
def lineage (f : HandlerFault) : List String :=
  if f.className = baseClass then [baseClass] else [f.className, baseClass]

/-- The code that a handler fault is reported with. -/
def code : HandlerFault → ErrorCode
  | notFound .. => .notFound
  | notStabilized .. => .notStabilized
  | notUpdatable .. => .notUpdatable
  | invalidRequest _ code => code.getD .invalidRequest
  | other _ code => code.getD .internalFailure

/-- A resource in the text of a handler fault. -/
def subject (type : String) (identifier : Value) : String :=
  "Resource of type '" ++ type ++ "' with identifier '" ++ identifier.display ++ "'"

/-- The text of a handler fault. -/
def text : HandlerFault → String
  | notFound type identifier => subject type identifier ++ " was not found."
  | notStabilized type identifier reason =>
    subject type identifier ++ " did not stabilize: " ++ reason
  | notUpdatable type properties =>
    "Resource of type '" ++ type ++ "' cannot update create-only properties: "
      ++ String.intercalate ", " properties
  | invalidRequest message _ => message.display
  | other message _ => message.display

/-- The message of a handler fault: what it was given as one, else its text. -/
def message : HandlerFault → Value
  | invalidRequest message _ => message
  | other message _ => message
  | f => .text f.text

end HandlerFault

namespace Fault

/-- The error classes of a fault, the most specific one first. -/
def lineage : Fault → List String
  | service _ => ["ClientError", rootClass]
  | transport fault => fault.lineage ++ [rootClass]
  | handler fault => fault.lineage ++ [rootClass]
  | missingKey _ => lineageOf "KeyError"
  | noProvider _ => lineageOf "NoResourceProvider"
  | general lineage _ => lineage

/-- Whether a fault belongs to an error class. -/
def isA (f : Fault) (className : String) : Bool := f.lineage.contains className

/-- The name of the error class of a fault, without the module that tells apart two classes of one
name. -/
def className (f : Fault) : String :=
  let name := f.lineage.headD rootClass
  if name = "builtins.ConnectionError" then "ConnectionError" else name

/-- The text of a fault; it may be empty. -/
def text : Fault → String
  | service error => error.text
  | transport fault => fault.text
  | handler fault => fault.text
  | missingKey key => (key.map Value.inner).getD ""
  | noProvider type => type.display
  | general _ message => message.getD ""

/-- The code that the service sent with a refusal; null for every other fault. -/
def serviceCode : Fault → Value
  | service error => error.code.getD .null
  | _ => .null

/-- The text of a fault, or the name of its class if the text is empty. -/
def description (f : Fault) : String := if f.text.isEmpty then f.className else f.text

/-- The most specific message of a fault: the message of the service as it was sent, if it sent one,
else the description. It always counts as true. -/
def message (f : Fault) : Value :=
  match f with
  | service { message := some m, .. } => m.orElse (.text f.description)
  | _ => .text f.description

/-! ## Faults of shape -/

/-- An error of a class without a constructor of its own. -/
def ofClass (className : String) (message : String) : Fault :=
  general (lineageOf className) (some message)

/-- A document or record does not have an attribute that is read from it. -/
def noAttribute (kind name : String) : Fault :=
  ofClass "AttributeError" ("'" ++ kind ++ "' object has no attribute '" ++ name ++ "'")

/-- A document is of a kind that an operation does not take. -/
def wrongType (message : String) : Fault := ofClass "TypeError" message

/-- A value is outside the range that is accepted. -/
def badValue (message : String) : Fault := ofClass "ValueError" message

/-- An integer is beyond the largest floating-point number. -/
def tooLarge : Fault := ofClass "OverflowError" "int too large to convert to float"

/-- An action that a handler does not have. -/
def notImplemented : Fault := general (lineageOf "NotImplementedError") none

end Fault

end Provisioning
