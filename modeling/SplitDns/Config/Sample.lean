/-!
# The sample configuration

A configuration file with a comment on every setting, for administrators to start from.
-/

namespace SplitDns.Config

def sampleLines : List String :=
  [ "# dnsroute configuration",
    "",
    "# Log level: \"error\", \"warn\", \"info\", \"debug\", \"trace\"",
    "# RUST_LOG overrides this when set.",
    "log_level = \"info\"",
    "",
    "[server]",
    "# Address for the DNS listener (UDP and TCP)",
    "listen = \"10.200.0.1:53\"",
    "",
    "# Upstream for domains that match no class.",
    "# When omitted, DNSROUTE_UPSTREAM is used, then the first nameserver",
    "# in /etc/resolv.conf.",
    "upstream = \"192.168.0.200:53\"",
    "",
    "# Seconds before an idle client TCP connection is closed",
    "tcp_idle_timeout = 30",
    "",
    "[forwarder]",
    "# Per-exchange deadlines in seconds. A failed or truncated UDP exchange",
    "# is retried once over TCP.",
    "dial_timeout = 5",
    "read_timeout = 5",
    "write_timeout = 5",
    "",
    "[patterns]",
    "# Seconds between pattern file reloads",
    "reload_interval = 5",
    "",
    "[persistence]",
    "# Domain -> addresses snapshot (JSON)",
    "map_file = \"/root/map.json\"",
    "",
    "# Output of `ipset save`",
    "ipset_save_file = \"/etc/ipset.conf\"",
    "",
    "# Dirty snapshots are flushed on this tick (seconds)...",
    "save_interval = 10",
    "",
    "# ...or after this much quiet time following a change (seconds)",
    "batch_timeout = 2",
    "",
    "# Change signals beyond this many pending ones are dropped",
    "signal_capacity = 100",
    "",
    "[ipset]",
    "command = \"ipset\"",
    "",
    "# Seconds per invocation",
    "timeout = 3",
    "",
    "# Run `ipset create <set> hash:ip family inet -exist` at startup",
    "create_sets = true",
    "",
    "# Capacity of created sets (ipset's default is 65536)",
    "# maxelem = 262144",
    "",
    "[audit]",
    "# SQLite database receiving one row per observed (domain, address).",
    "# Comment out to disable.",
    "database = \"/root/dns_log.db\"",
    "",
    "# Routing classes. Order is priority: a domain matching several classes",
    "# goes to the first one listed. Pattern files hold one substring per line;",
    "# blank lines and lines starting with '#' are ignored.",
    "",
    "[[class]]",
    "name = \"nl\"",
    "patterns = \"/root/site_nl\"",
    "upstream = \"10.10.1.2:53\"",
    "ipset = \"proxied_nl\"",
    "",
    "[[class]]",
    "name = \"usa\"",
    "patterns = \"/root/site_usa\"",
    "upstream = \"10.24.0.2:53\"",
    "ipset = \"proxied_usa\"" ]

def sample : String :=
  String.join (sampleLines.map (· ++ "\n"))

end SplitDns.Config
