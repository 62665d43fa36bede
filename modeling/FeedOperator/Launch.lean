import FeedOperator.Aggregator.Client
import FeedOperator.Options
import FeedOperator.Tls.Identity

/-!
# Starting the operator

The operator reads its options, connects to the cluster, checks the URLs of the aggregation service,
and then serves probes and admissions and runs its controllers until it is told to stop. Whatever
is in the way of that ends it.

Model of `main` up to the first task that ends, and of `run_webhook_server` as far as it reads files
(specification 10.10).

* `Surroundings`: what the operator finds where it is started.
* `launch`: what comes of starting it.
* `Launch.exitCode`, `Launch.report`: what its user sees.
-/

namespace FeedOperator

/-- What the operator finds where it is started. -/
structure Surroundings where
  /-- The variables of the environment. -/
  env : String → Option String := fun _ => none
  /-- Why there is no way to the cluster, if there is none. -/
  clusterFault : Option String := none
  /-- The files below the directory in which it runs. -/
  directory : Directory := {}
  /-- Whether a port belongs to someone else. -/
  isTaken : Nat → Bool := fun _ => false

/-- What is said of an identity that cannot be loaded. -/
def identityMessage (directory : String) (fault : LoadFault) : String :=
  "failed to load TLS certificate from " ++ directory ++ ": " ++ fault.message

/-! ## Launches -/

/-- What comes of starting the operator. -/
inductive Launch where
  /-- It runs until it is told to stop. -/
  | running (options : Options)
  /-- The options do not do, or help was asked for. -/
  | refused (error : OptionError)
  /-- Something failed, for a reason. -/
  | failed (what reason : String)

/-- What fails of the two servers, if something does. -/
def serverFault? (s : Surroundings) (o : Options) : Option (String × String) :=
  if s.isTaken o.healthPort then
    some ("health server failed", "Address already in use (os error 98)")
  else if o.enableWebhooks then
    match loadFault? s.directory o.webhookCertDir with
    | some fault => some ("webhook server failed", identityMessage o.webhookCertDir fault)
    | none =>
      if s.isTaken o.webhookPort then
        some ("webhook server failed",
          "webhook server error: Address already in use (os error 98)")
      else none
  else none

/-- Starts the operator. -/
def launch (arguments : List String) (s : Surroundings) : Launch :=
  match Options.read arguments s.env with
  | .error e => .refused e
  | .ok o =>
    match s.clusterFault with
    | some fault => .failed "Failed to create Kubernetes client" fault
    | none =>
      match ServiceUrls.parse o.sourceServiceUrl o.articleServiceUrl with
      | .error e => .failed "Failed to create aggregation service client" e.message
      | .ok _ =>
        match serverFault? s o with
        | some (what, reason) => .failed what reason
        | none => .running o

namespace Launch

/-- The code with which the process ends. -/
def exitCode : Launch → Nat
  | .running _ => 0
  | .refused .help => 0
  | .refused _ => 2
  | .failed _ _ => 1

/-- The first line of what a user is told, if something went wrong. -/
def headline : Launch → Option String
  | .running _ => none
  | .refused e => e.headline
  | .failed what _ => some ("Error: " ++ what)

/-- Why it went wrong. -/
def reason : Launch → Option String
  | .failed _ reason => some reason
  | _ => none

/-- All that a user is told. -/
def report (l : Launch) : String :=
  match l.headline, l.reason with
  | none, _ => ""
  | some what, none => what ++ "\n"
  | some what, some reason => what ++ "\n\nCaused by:\n    " ++ reason ++ "\n"

end Launch

end FeedOperator
