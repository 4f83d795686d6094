import KernelConfig.Script.Parser

/-!
The prelude: source text that runs before every script. It makes the handles of symbols, leads the
functions of the host to errors with a place, and holds a script to its deadline.
-/

set_option autoImplicit false

namespace KernelConfig.Script.Prelude

def lines : List String :=
  [
    "-- The prelude of every script.",
    "--",
    "-- It runs before the script. 'ak', 'symbol_set' and 'load_kconfig' are set",
    "-- after it, and what follows finds them only when it is called.",
    "",
    "",
    "AK_API_VERSION = \"1\"",
    "",
    "y = \"y\"",
    "m = \"m\"",
    "n = \"n\"",
    "",
    "local getinfo = debug.getinfo",
    "local traceback = debug.traceback",
    "local sethook = debug.sethook",
    "local raw_pcall, raw_xpcall = pcall, xpcall",
    "",
    "local handle_set",
    "",
    "-- Where the handle's caller is: this function, the helper, and the method",
    "-- of the handle stand above it.",
    "local function origin()",
    "  local info = getinfo(4, \"S\")",
    "  local from = \"<internal>\"",
    "  if info and info.source then",
    "    from = info.source:gsub(\"^[@=]\", \"\")",
    "  end",
    "  return from, traceback(nil, 4)",
    "end",
    "",
    "local function set_from_handle(sym, value)",
    "  local from, trace = origin()",
    "  local ok, err = handle_set(sym._name, value, from, trace)",
    "  return ok, err",
    "end",
    "",
    "Symbol = \x7b\x7d",
    "Symbol.__index = Symbol",
    "",
    "function Symbol:new(o, name)",
    "  o = o or \x7b\x7d",
    "  setmetatable(o, self)",
    "  o._name = name",
    "  return o",
    "end",
    "",
    "function Symbol:name()",
    "  return self._name",
    "end",
    "",
    "function Symbol:value()",
    "  return ak.symbol_get_string(self._name)",
    "end",
    "",
    "function Symbol:type()",
    "  return ak.symbol_get_type(self._name)",
    "end",
    "",
    "-- True, or false and a message where the symbol has refused the value.",
    "function Symbol:set(value)",
    "  local ok, err = set_from_handle(self, value)",
    "  return ok, err",
    "end",
    "",
    "Symbol.__call = function(self, value)",
    "  local ok, err = set_from_handle(self, value)",
    "  return ok, err",
    "end",
    "",
    "Symbol.__tostring = function(self)",
    "  return ak.symbol_get_string(self._name)",
    "end",
    "",
    "-- The functions whose names begin with underscores are for the program that",
    "-- runs the script; it takes them out of the globals.",
    "",
    "-- A host function answers \"ok\" and its results, or \"error\" and a message,",
    "-- which becomes an error 'level' functions up, at the line of the script.",
    "function __ak_wrap(host_fn, level)",
    "  return function(...)",
    "    local status, a, b = host_fn(...)",
    "    if status ~= \"ok\" then",
    "      error(a, level)",
    "    end",
    "    return a, b",
    "  end",
    "end",
    "",
    "function __ak_bind_handle_setter(fn)",
    "  handle_set = fn",
    "end",
    "",
    "-- True, or false with the message of the error and its traceback.",
    "function __ak_run(chunk)",
    "  local trace",
    "  local ok, err = raw_xpcall(chunk, function(e)",
    "    trace = traceback(tostring(e), 2)",
    "    return e",
    "  end)",
    "  if ok then",
    "    return true",
    "  end",
    "  return false, tostring(err), trace",
    "end",
    "",
    "-- After the deadline the message is an error again behind every protected",
    "-- call and every resumed coroutine, so that no script goes on without end.",
    "local expired",
    "",
    "local function reraise_if_expired(...)",
    "  if expired then",
    "    error(expired, 0)",
    "  end",
    "  return ...",
    "end",
    "",
    "local function guard_protected_calls(hook, count)",
    "  local co_create, co_resume = coroutine.create, coroutine.resume",
    "",
    "  pcall = function(...)",
    "    return reraise_if_expired(raw_pcall(...))",
    "  end",
    "  xpcall = function(...)",
    "    return reraise_if_expired(raw_xpcall(...))",
    "  end",
    "",
    "  -- A hook belongs to one thread; every new coroutine gets the same.",
    "  local function create(fn)",
    "    local co = co_create(fn)",
    "    sethook(co, hook, \"\", count)",
    "    return co",
    "  end",
    "  coroutine.create = create",
    "  coroutine.resume = function(...)",
    "    return reraise_if_expired(co_resume(...))",
    "  end",
    "  coroutine.wrap = function(fn)",
    "    local co = create(fn)",
    "    return function(...)",
    "      return (function(ok, ...)",
    "        if not ok then",
    "          error((...), 0)",
    "        end",
    "        return ...",
    "      end)(co_resume(co, ...))",
    "    end",
    "  end",
    "end",
    "",
    "function __ak_set_deadline(check, count)",
    "  local function hook()",
    "    local status, message = check()",
    "    if status ~= \"ok\" then",
    "      expired = message",
    "      error(message, 2)",
    "    end",
    "  end",
    "  guard_protected_calls(hook, count)",
    "  sethook(hook, \"\", count)",
    "end",
    "",
    "-- An entry has a symbol's name, its long global, and its bare global or false.",
    "function __ak_define_symbols(entries)",
    "  for _, entry in ipairs(entries) do",
    "    local sym = Symbol:new(nil, entry[1])",
    "    _G[entry[2]] = sym",
    "    if entry[3] then",
    "      _G[entry[3]] = sym",
    "    end",
    "  end",
    "end"]

def text : Bytes := lines.flatMap fun line => bytes line ++ [10]

def source : Bytes := bytes "@api.lua"

def chunk : Chunk :=
  match compile source text with
  | .ok chunk => chunk
  | .error _ => #[]

end KernelConfig.Script.Prelude
