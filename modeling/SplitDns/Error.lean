import SplitDns.AddressMap.Snapshot
import SplitDns.AddressSet.Backend
import SplitDns.Exchange.Error
import SplitDns.Pattern.File

/-!
# Errors of the proxy

What can go wrong while the proxy is configured, administered or run. `isConfig` tells the errors
that an administrator mends in the configuration file.
-/

namespace SplitDns

open SplitDns.Address

/-- A setting that cannot be used. -/
inductive ConfigError where
  | listen (cause : ResolverError)
  | zeroIdleTimeout
  | zeroForwarderTimeout
  | zeroSaveInterval
  | zeroCapacity
  | zeroReloadInterval
  | zeroToolTimeout
  | zeroSetCapacity
  | namelessClass
  | reservedName
  | noPatternFile (name : String)
  | classResolver (name : String) (cause : ResolverError)
  | classSet (name : String) (cause : AddressSet.Error)
  | duplicateClass (name : String)
  | noDefaultResolver
  deriving DecidableEq, Repr

/-- The environment variable with the resolver for names without class. -/
def resolverVariable : String := "DNSROUTE_UPSTREAM"

def resolverFile : String := "/etc/resolv.conf"

def ConfigError.message : ConfigError → String
  | .listen cause => "invalid listen address: " ++ (Exchange.Error.resolver cause).message
  | .zeroIdleTimeout => "server.tcp_idle_timeout must be > 0"
  | .zeroForwarderTimeout => "forwarder timeouts must be > 0"
  | .zeroSaveInterval => "persistence intervals must be > 0"
  | .zeroCapacity => "persistence.signal_capacity must be > 0"
  | .zeroReloadInterval => "patterns.reload_interval must be > 0"
  | .zeroToolTimeout => "ipset.timeout must be > 0"
  | .zeroSetCapacity => "ipset.maxelem must be > 0"
  | .namelessClass => "class name is required"
  | .reservedName => "class name 'direct' is reserved for unmatched domains"
  | .noPatternFile name => s!"class '{name}' needs a pattern file"
  | .classResolver name cause =>
      s!"class '{name}' upstream: " ++ (Exchange.Error.resolver cause).message
  | .classSet name cause => s!"class '{name}': {cause.message}"
  | .duplicateClass name => s!"duplicate routing class '{name}'"
  | .noDefaultResolver =>
      s!"no default upstream: set server.upstream, {resolverVariable} " ++
        s!"or a nameserver in {resolverFile}"

inductive Error where
  | config (cause : ConfigError)
  | configSyntax
  | io (cause : IoError)
  /-- The snapshot file is not well formed. -/
  | snapshotSyntax
  | exchange (cause : Exchange.Error)
  | set (cause : AddressSet.Error)
  /-- The audit log cannot be opened or read. -/
  | audit
  | pattern (cause : Pattern.Problem)
  | unknownClass (name : String)
  | alreadyRunning
  deriving DecidableEq

namespace Error

/-- The wording of an error; of what a parser or the audit log reports, only the beginning. -/
def message : Error → String
  | .config cause => "configuration error: " ++ cause.message
  | .configSyntax => "failed to parse config"
  | .io cause => "I/O error: " ++ cause.message
  | .snapshotSyntax => "JSON error"
  | .exchange cause => "DNS error: " ++ cause.message
  | .set cause => "ipset error: " ++ cause.message
  | .audit => "audit log error"
  | .pattern cause => "invalid pattern: " ++ cause.message
  | .unknownClass name => "unknown routing class: " ++ name
  | .alreadyRunning => "engine is already running"

def isConfig : Error → Bool
  | .config _ => true
  | .configSyntax => true
  | _ => false

def ofResolver (cause : ResolverError) : Error :=
  .exchange (.resolver cause)

def ofRead : Snapshot.ReadError → Error
  | .io cause => .io cause
  | .malformed => .snapshotSyntax

end Error

end SplitDns
