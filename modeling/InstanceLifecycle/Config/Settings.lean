import InstanceLifecycle.Config.Integers
import InstanceLifecycle.Service

/-!
# Settings from the environment

The settings are read from environment variables, one after the other. What is missing or
malformed has a default or ends the program with a text that names the variable.
-/

namespace InstanceLifecycle

/-- The environment, as `os.getenv` reads it. -/
abbrev Environ := String → Option String

/-- Any of four words in any case is true, everything else false. -/
def strToBool (value : String) : Bool :=
  ["true", "1", "yes", "on"].contains (String.ofList (value.toList.map Char.toLower))

/-- `str` of a Boolean, as it stands for the default. -/
def boolText (value : Bool) : String := if value then "True" else "False"

/-- `os.getenv` with a default. -/
def getenv (environ : Environ) (name : String) (default : Option String) : Option String :=
  (environ name).or default

/-- A text; without variable and default it is an error, whose text is that of
the `RuntimeError`. -/
def envStr (environ : Environ) (name : String) (default : Option String := none) :
    Except String String :=
  match getenv environ name default with
  | none => .error (name ++ " is required but is not set")
  | some value => .ok value

/-- The default, or the complaint if there is none. -/
def fallBack (default : Option Int) (complaint : String) : Except String Int :=
  match default with
  | none => .error complaint
  | some value => .ok value

/-- An integer not below a minimum. Whatever is wrong with it, the default
stands in if there is one, and the default itself is not checked. -/
def envInt (repr : String → String) (environ : Environ) (name : String) (default : Option Int)
    (minimum : Int) : Except String Int :=
  match environ name with
  | none => fallBack default (name ++ " is required but is not set")
  | some raw =>
      match readInt raw with
      | none => fallBack default (name ++ "=" ++ repr raw ++ " is not an integer")
      | some value =>
          if value < minimum then
            fallBack default (name ++ "=" ++ toString value ++ " is below the minimum of " ++
              toString minimum)
          else .ok value

/-- The settings of the program, as `from_env` reads them. -/
structure Config where
  cmdbUrl : String
  cmdbUsername : String
  cmdbPassword : String
  amqpHost : String
  amqpPort : Int
  amqpUsername : String
  amqpPassword : String
  amqpVhost : String
  amqpQueue : String
  sentryDsn : String
  k8sPodName : String
  k8sNamespace : String
  k8sNodeName : String
  amqpSsl : Bool
  maxMessageProcessRetries : Int
  minMessageProcessRetryDelay : Int
  amqpPrefetchCount : Int
  cmdbTransportAttempts : Int
  sentryEnv : String
  logLevel : String
deriving DecidableEq

namespace Config

/-! The class attributes that stand for variables that are not set. -/

namespace Default

/-- TLS, unless it is switched off. -/
def amqpSsl : Bool := true
/-- Attempts at a message. -/
def maxMessageProcessRetries : Int := 3
/-- Seconds before the first retry of a message. -/
def minMessageProcessRetryDelay : Int := 2
/-- Messages in flight. -/
def amqpPrefetchCount : Int := 10
/-- Attempts at a CMDB call. -/
def cmdbTransportAttempts : Int := 5
/-- The environment reported to the error tracker. -/
def sentryEnv : String := "local"
/-- The level of the log. -/
def logLevel : String := "INFO"

end Default

/-- The variables in the order in which they are read, so that the first
complaint is the one that ends the program. -/
def fromEnv (repr : String → String) (environ : Environ) : Except String Config := do
  let cmdbUrl ← envStr environ "CMDB_URL"
  let cmdbUsername ← envStr environ "CMDB_USERNAME"
  let cmdbPassword ← envStr environ "CMDB_PASSWORD"
  let amqpHost ← envStr environ "AMQP_HOST"
  let amqpPort ← envInt repr environ "AMQP_PORT" none 1
  let amqpSsl := strToBool ((environ "AMQP_SSL").getD (boolText Default.amqpSsl))
  let amqpUsername ← envStr environ "AMQP_USERNAME"
  let amqpPassword ← envStr environ "AMQP_PASSWORD"
  let amqpVhost ← envStr environ "AMQP_VHOST"
  let amqpQueue ← envStr environ "AMQP_QUEUE"
  let amqpPrefetchCount ← envInt repr environ "AMQP_PREFETCH_COUNT"
    (some Default.amqpPrefetchCount) 1
  let maxMessageProcessRetries ← envInt repr environ "MAX_MESSAGE_PROCESS_RETRIES"
    (some Default.maxMessageProcessRetries) 1
  let minMessageProcessRetryDelay ← envInt repr environ "MIN_MESSAGE_PROCESS_RETRY_DELAY"
    (some Default.minMessageProcessRetryDelay) 0
  let sentryDsn ← envStr environ "SENTRY_DSN" (some "")
  let k8sPodName ← envStr environ "K8S_POD_NAME" (some "")
  let k8sNamespace ← envStr environ "K8S_NAMESPACE" (some "")
  let k8sNodeName ← envStr environ "K8S_NODE_NAME" (some "")
  let cmdbTransportAttempts ← envInt repr environ "CMDB_TRANSPORT_ATTEMPTS"
    (some Default.cmdbTransportAttempts) 1
  let sentryEnv ← envStr environ "SENTRY_ENV" (some Default.sentryEnv)
  let logLevel ← envStr environ "LOG_LEVEL" (some Default.logLevel)
  return {
    cmdbUrl, cmdbUsername, cmdbPassword, amqpHost, amqpPort, amqpSsl, amqpUsername, amqpPassword,
    amqpVhost, amqpQueue, amqpPrefetchCount, maxMessageProcessRetries,
    minMessageProcessRetryDelay, sentryDsn, k8sPodName, k8sNamespace, k8sNodeName,
    cmdbTransportAttempts, sentryEnv, logLevel }

end Config

/-- The service of a configuration; the rest of the handler comes from the client library. -/
def buildHandlerService (handler : InstanceHandler) (config : Config) : MessageHandlerService where
  handler := { handler with cmdbTransportAttempts := config.cmdbTransportAttempts }
  maxRetries := config.maxMessageProcessRetries.toNat

end InstanceLifecycle
