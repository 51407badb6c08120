import ImportResolver.Failure
import ImportResolver.Text.Affix
/- Names of the modules that the runtime itself provides. -/
namespace ImportResolver

structure Builtins where
  names : List String
  deriving DecidableEq

namespace Builtins

/-- Any specifier of this scheme names a built-in module. -/
def scheme : String := "node:"

/-- Names are trimmed; blank and repeated ones are dropped. -/
def ofNames (names : List String) : Builtins :=
  ⟨((names.map Text.trim).filter (· ≠ "")).eraseDups⟩

def size (b : Builtins) : Nat := b.names.length

def contains (b : Builtins) (name : String) : Bool := b.names.contains name

def isBuiltin (b : Builtins) (specifier : String) : Bool :=
  Text.startsWith specifier scheme || b.contains specifier

def embedded : Builtins := ofNames
  ["_http_agent", "_http_client", "_http_common", "_http_incoming", "_http_outgoing",
   "_http_server", "_stream_duplex", "_stream_passthrough", "_stream_readable",
   "_stream_transform", "_stream_wrap", "_stream_writable", "_tls_common", "_tls_wrap", "assert",
   "assert/strict", "async_hooks", "buffer", "child_process", "cluster", "console", "constants",
   "crypto", "dgram", "diagnostics_channel", "dns", "dns/promises", "domain", "events", "fs",
   "fs/promises", "http", "http2", "https", "inspector", "inspector/promises", "module", "net",
   "os", "path", "path/posix", "path/win32", "perf_hooks", "process", "punycode", "querystring",
   "readline", "readline/promises", "repl", "stream", "stream/consumers", "stream/promises",
   "stream/web", "string_decoder", "sys", "timers", "timers/promises", "tls", "trace_events",
   "tty", "url", "util", "util/types", "v8", "vm", "wasi", "worker_threads", "zlib"]

/-- The set can be chosen only before one is in use. -/
def install (current : Option Builtins) (chosen : Builtins) : Except Failure Builtins :=
  match current with
  | none => .ok chosen
  | some _ => .error (.configuration .builtinsInUse)

end Builtins
end ImportResolver
