import Provisioning.Request
import Provisioning.Version

/-!
# Clients of the service

Making a client is expensive, so a factory keeps the clients that it has made, up to a limit, and
drops the one that was not used for longest. A client is known by everything that it is made from.
-/

set_option autoImplicit false

namespace Provisioning

/-- The options of a client; an option that is not set has a default of the service. -/
structure ClientConfig where
  retries : Option Value := none
  userAgentExtra : Option Value := none
  readTimeout : Option Value := none

/-- The options of two configurations together, where the second one wins. -/
def ClientConfig.merge (c above : ClientConfig) : ClientConfig where
  retries := above.retries.or c.retries
  userAgentExtra := above.userAgentExtra.or c.userAgentExtra
  readTimeout := above.readTimeout.or c.readTimeout

/-- The default configuration: a number of attempts, and the name of the handlers. -/
def ClientConfig.standard (maxAttempts : Int) : ClientConfig where
  retries := some (.map [("max_attempts", .int maxAttempts), ("mode", .text "standard")])
  userAgentExtra := some (.text ("rds-cfn-providers/" ++ version))

/-- The seconds that a client waits for a response unless an option says otherwise. -/
def defaultReadTimeout : Int := 60

/-- The region of clients for which nothing says another one. -/
def defaultRegion : String := "us-east-1"

/-- What a client is known by. -/
structure ClientKey where
  service : String
  params : ClientParams

instance : BEq ClientKey where
  beq a b := a.service == b.service && a.params.config == b.params.config &&
    a.params.entries == b.params.entries

/-- A client that was made, with its merged configuration. -/
structure Client where
  key : ClientKey
  config : ClientConfig

/-- A client as a document, where an option that is not set has its default. -/
def Client.toValue (c : Client) : Value :=
  .map ([("service_name", .text c.key.service)] ++ c.key.params.entries ++
    [("retries", c.config.retries.getD .null),
     ("user_agent_extra", c.config.userAgentExtra.getD .null),
     ("read_timeout", c.config.readTimeout.getD (.int defaultReadTimeout))])

/-- Makes clients and keeps them. -/
structure ClientFactory where
  config : ClientConfig
  configs : List ClientConfig := []
  sessionRegion : Value := .null
  /-- Kept clients by number, the one used last at the front. -/
  kept : List (ClientKey × Nat) := []
  /-- All clients made so far, in the order of their numbers. -/
  made : List Client := []

namespace ClientFactory

/-- The most clients that are kept. -/
def limit : Nat := 256

/-- The region of a client: the one asked for, else that of the session, else the default. -/
def regionFor (f : ClientFactory) (region : Value) : Value :=
  region.orElse (f.sessionRegion.orElse (.text defaultRegion))

/-- The client for a service: a kept one, or a new one. -/
def get (f : ClientFactory) (service : String) (params : ClientParams) :
    Except Fault (Nat × ClientFactory) := do
  let key : ClientKey := ⟨service, { params with region := f.regionFor params.region }⟩
  key.params.entries.forM fun e => e.2.checkKey
  match f.kept.find? (·.1 == key) with
  | some (_, number) =>
    return (number, { f with kept := (key, number) :: f.kept.filter (!·.1 == key) })
  | none =>
    let number := f.made.length
    let own := ((params.config.bind fun i => f.configs[i]?).getD f.config).merge f.config
    return (number, { f with
      kept := ((key, number) :: f.kept).take limit
      made := f.made ++ [⟨key, own⟩] })

/-- The service that an attribute stands for: one underscore at the end is dropped, the others are
hyphens. -/
def serviceName (name : String) : String :=
  let cs := name.toList
  let stem := if cs.getLast? = some '_' then cs.dropLast else cs
  String.ofList (stem.map fun c => if c = '_' then '-' else c)

/-- The client for an attribute; names that begin with two underscores are no services. -/
def getAttribute (f : ClientFactory) (name : String) (params : ClientParams) :
    Except Fault (Nat × ClientFactory) :=
  if ['_', '_'].isPrefixOf name.toList then .error (.ofClass "AttributeError" name)
  else f.get (serviceName name) params

end ClientFactory

end Provisioning
