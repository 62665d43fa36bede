import FeedOperator.FeedGroup
import FeedOperator.Text.Integer
import FeedOperator.Text.Plain

/-!
# Options

What the operator is told when it is started: by the command line, or else by the environment, or
else by default. Every option has a long name and takes one value, behind an equals sign or as the
next argument.

Model of `OperatorConfig` (specification 10.6).

* `Options.read`: the options out of command line and environment.
* `OptionError`: why there are none; `OptionError.headline` says it in one line.

The command line is read from left to right, and the first fault counts. A value that is an argument
of its own is only looked at when the next option begins or the command line ends, so an argument
that nothing is known of is noticed before a fault in such a value in front of it.
-/

namespace FeedOperator

/-- The names of the options. -/
inductive OptionName where
  | sourceServiceUrl
  | articleServiceUrl
  | feedGroupNamespace
  | feedGroupName
  | httpTimeoutSecs
  | hotNewsResyncSecs
  | webhookPort
  | webhookCertDir
  | enableWebhooks
  | healthPort
  deriving DecidableEq

namespace OptionName

/-- All options, in the order in which the environment is looked at. -/
def all : List OptionName := [
  .sourceServiceUrl, .articleServiceUrl, .feedGroupNamespace, .feedGroupName, .httpTimeoutSecs,
  .hotNewsResyncSecs, .webhookPort, .webhookCertDir, .enableWebhooks, .healthPort]

/-- The long name. -/
def text : OptionName → String
  | .sourceServiceUrl => "source-service-url"
  | .articleServiceUrl => "article-service-url"
  | .feedGroupNamespace => "feed-group-namespace"
  | .feedGroupName => "feed-group-name"
  | .httpTimeoutSecs => "http-timeout-secs"
  | .hotNewsResyncSecs => "hotnews-resync-secs"
  | .webhookPort => "webhook-port"
  | .webhookCertDir => "webhook-cert-dir"
  | .enableWebhooks => "enable-webhooks"
  | .healthPort => "health-port"

/-- The variable of the environment, which also stands for the value in messages. -/
def envName : OptionName → String
  | .sourceServiceUrl => "SOURCE_SERVICE_URL"
  | .articleServiceUrl => "ARTICLE_SERVICE_URL"
  | .feedGroupNamespace => "FEED_GROUP_NAMESPACE"
  | .feedGroupName => "FEED_GROUP_NAME"
  | .httpTimeoutSecs => "HTTP_TIMEOUT_SECS"
  | .hotNewsResyncSecs => "HOTNEWS_RESYNC_SECS"
  | .webhookPort => "WEBHOOK_PORT"
  | .webhookCertDir => "WEBHOOK_CERT_DIR"
  | .enableWebhooks => "ENABLE_WEBHOOKS"
  | .healthPort => "HEALTH_PORT"

/-- The option as it is shown to a user. -/
def usage (o : OptionName) : String :=
  "--" ++ o.text ++ " <" ++ o.envName ++ ">"

/-- The option of a long name. -/
def ofText? (name : String) : Option OptionName :=
  all.find? (·.text == name)

end OptionName

/-- Why there are no options. -/
inductive OptionError where
  /-- Help was asked for. -/
  | help
  /-- Nothing is known of an argument. -/
  | unknown (argument : String)
  /-- An option that takes no value was given one. -/
  | unneededValue (option value : String)
  /-- An option has no value, or an empty one. -/
  | missingValue (option : OptionName)
  /-- The value is neither true nor false. -/
  | notTruth (option : OptionName) (value : String)
  /-- The value is not a number, or one out of bounds. -/
  | notNumber (option : OptionName) (value : String) (fault : Text.IntegerFault)
  /-- An option was given twice. -/
  | repeated (option : OptionName)
  /-- Options that have to be given are not. -/
  | required (options : List OptionName)
  deriving DecidableEq

/-- What a user is told first. What the user wrote is shown without control sequences. -/
def OptionError.message : OptionError → Option String
  | .help => none
  | .unknown argument => "error: unexpected argument '" ++ Text.plain argument ++ "' found"
  | .unneededValue option value =>
    "error: unexpected value '" ++ Text.plain value ++ "' for '" ++ option ++
      "' found; no more were expected"
  | .missingValue option =>
    "error: a value is required for '" ++ option.usage ++ "' but none was supplied"
  | .notTruth option value =>
    if value.isEmpty then
      "error: a value is required for '" ++ option.usage ++ "' but none was supplied"
    else "error: invalid value '" ++ Text.plain value ++ "' for '" ++ option.usage ++ "'"
  | .notNumber option value fault =>
    "error: invalid value '" ++ Text.plain value ++ "' for '" ++ option.usage ++ "': " ++
      fault.message
  | .repeated option =>
    "error: the argument '" ++ option.usage ++ "' cannot be used multiple times"
  | .required _ => "error: the following required arguments were not provided:"

/-- The first line of what a user is told. -/
def OptionError.headline (e : OptionError) : Option String :=
  e.message.map Text.firstLine

/-- What the operator is told when it is started. -/
structure Options where
  sourceServiceUrl : String
  articleServiceUrl : String
  feedGroup : FeedGroupRef := {}
  /-- Seconds that a request to the aggregation service may take. -/
  httpTimeout : Nat := 5
  /-- Seconds after which a HotNews is looked at again when all is well. -/
  hotNewsResync : Nat := 300
  webhookPort : Nat := 9443
  /-- The directory with certificate and key. -/
  webhookCertDir : String := "/tmp/k8s-webhook-server/serving-certs"
  enableWebhooks : Bool := true
  healthPort : Nat := 8081
  deriving DecidableEq

/-- The options that were given so far. -/
structure GivenOptions where
  sourceServiceUrl : Option String := none
  articleServiceUrl : Option String := none
  feedGroupNamespace : Option String := none
  feedGroupName : Option String := none
  httpTimeout : Option Nat := none
  hotNewsResync : Option Nat := none
  webhookPort : Option Nat := none
  webhookCertDir : Option String := none
  enableWebhooks : Option Bool := none
  healthPort : Option Nat := none

namespace GivenOptions

/-- Whether an option was given. -/
def has (g : GivenOptions) : OptionName → Bool
  | .sourceServiceUrl => g.sourceServiceUrl.isSome
  | .articleServiceUrl => g.articleServiceUrl.isSome
  | .feedGroupNamespace => g.feedGroupNamespace.isSome
  | .feedGroupName => g.feedGroupName.isSome
  | .httpTimeoutSecs => g.httpTimeout.isSome
  | .hotNewsResyncSecs => g.hotNewsResync.isSome
  | .webhookPort => g.webhookPort.isSome
  | .webhookCertDir => g.webhookCertDir.isSome
  | .enableWebhooks => g.enableWebhooks.isSome
  | .healthPort => g.healthPort.isSome

/-- Reads a number of seconds, which 64 bits hold. -/
def seconds (o : OptionName) (value : String) : Except OptionError Nat :=
  (Text.readNatural 18446744073709551615 value.toList).mapError (.notNumber o value)

/-- Reads a port. -/
def port (o : OptionName) (value : String) : Except OptionError Nat :=
  Int.toNat <$> (Text.readInteger 0 65535 value.toList).mapError (.notNumber o value)

/-- Puts the value of an option. -/
def put (g : GivenOptions) (o : OptionName) (value : String) : Except OptionError GivenOptions :=
  match o with
  | .sourceServiceUrl => .ok { g with sourceServiceUrl := some value }
  | .articleServiceUrl => .ok { g with articleServiceUrl := some value }
  | .feedGroupNamespace => .ok { g with feedGroupNamespace := some value }
  | .feedGroupName => .ok { g with feedGroupName := some value }
  | .httpTimeoutSecs => do return { g with httpTimeout := some (← seconds o value) }
  | .hotNewsResyncSecs => do return { g with hotNewsResync := some (← seconds o value) }
  | .webhookPort => do return { g with webhookPort := some (← port o value) }
  | .webhookCertDir =>
    if value.isEmpty then .error (.missingValue o) else .ok { g with webhookCertDir := some value }
  | .enableWebhooks =>
    if value = "true" then .ok { g with enableWebhooks := some true }
    else if value = "false" then .ok { g with enableWebhooks := some false }
    else .error (.notTruth o value)
  | .healthPort => do return { g with healthPort := some (← port o value) }

/-- Takes a value from the command line, where no option may stand twice. -/
def take (g : GivenOptions) (o : OptionName) (value : String) : Except OptionError GivenOptions :=
  if g.has o then .error (.repeated o) else g.put o value

/-- Takes the value of a variable for an option that was not given. -/
def takeVariable (env : String → Option String) (g : GivenOptions) (o : OptionName) :
    Except OptionError GivenOptions :=
  match g.has o, env o.envName with
  | false, some value => g.put o value
  | _, _ => .ok g

/-- The options, the rest of them by default. -/
def complete (g : GivenOptions) : Except OptionError Options :=
  match g.sourceServiceUrl, g.articleServiceUrl with
  | some sources, some articles =>
    let start : Options := { sourceServiceUrl := sources, articleServiceUrl := articles }
    let group : FeedGroupRef := {
      ns := g.feedGroupNamespace.getD start.feedGroup.ns
      name := g.feedGroupName.getD start.feedGroup.name }
    .ok { start with
      feedGroup := group
      httpTimeout := g.httpTimeout.getD start.httpTimeout
      hotNewsResync := g.hotNewsResync.getD start.hotNewsResync
      webhookPort := g.webhookPort.getD start.webhookPort
      webhookCertDir := g.webhookCertDir.getD start.webhookCertDir
      enableWebhooks := g.enableWebhooks.getD start.enableWebhooks
      healthPort := g.healthPort.getD start.healthPort }
  | _, _ =>
    .error (.required ([OptionName.sourceServiceUrl, .articleServiceUrl].filter (!g.has ·)))

end GivenOptions

/-! ## The command line -/

/-- The command line as far as it was read. -/
structure CommandLine where
  given : GivenOptions := {}
  /-- An option whose value was not looked at yet, and the value if it was there. -/
  waiting : Option (OptionName × Option String) := none
  /-- Whether only arguments that are no options may follow. -/
  closed : Bool := false

namespace CommandLine

/-- Looks at the value that waits. -/
def settle (l : CommandLine) : Except OptionError CommandLine :=
  match l.waiting with
  | none => .ok l
  | some (o, none) => .error (.missingValue o)
  | some (o, some value) => do
    return { l with given := ← l.given.take o value, waiting := none }

/-- Reads a long name, with a value if there is one behind an equals sign. -/
def readLong (l : CommandLine) (name : String) (value : Option String) :
    Except OptionError CommandLine := do
  if name = "help" then
    match value with
    | some v => throw (.unneededValue "--help" v)
    | none =>
      let _ ← l.settle
      throw .help
  else
    match OptionName.ofText? name with
    | none => throw (.unknown ("--" ++ name))
    | some o =>
      let l ← l.settle
      match value with
      | some v => return { l with given := ← l.given.take o v }
      | none => return { l with waiting := some (o, none) }

/-- Reads an argument that is no option. -/
def readPlain (l : CommandLine) (argument : String) : Except OptionError CommandLine :=
  match l.waiting with
  | some (o, none) => .ok { l with waiting := some (o, some argument) }
  | _ => .error (.unknown argument)

/-- Reads an argument. -/
def read (l : CommandLine) (argument : String) : Except OptionError CommandLine :=
  if l.closed then .error (.unknown argument)
  else
    match argument.toList with
    | ['-', '-'] => .ok { l with closed := true }
    | '-' :: '-' :: rest =>
      let name := String.ofList (rest.takeWhile (· != '='))
      match rest.dropWhile (· != '=') with
      | [] => l.readLong name none
      | _ :: value => l.readLong name (some (String.ofList value))
    | '-' :: c :: _ =>
      if c = 'h' then do
        let _ ← l.settle
        throw .help
      else .error (.unknown (String.ofList ['-', c]))
    | _ => l.readPlain argument

end CommandLine

namespace Options

/-- The options out of command line and environment. -/
def read (arguments : List String) (env : String → Option String) : Except OptionError Options := do
  let line ← arguments.foldlM CommandLine.read {}
  let given := (← line.settle).given
  let given ← OptionName.all.foldlM (GivenOptions.takeVariable env) given
  given.complete

end Options

end FeedOperator
