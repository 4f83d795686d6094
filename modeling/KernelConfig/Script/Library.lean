import KernelConfig.Script.Library.Format
import KernelConfig.Script.Library.Inspection
import KernelConfig.Script.Library.Matching
import KernelConfig.Script.Library.Numbers
import KernelConfig.Script.Library.Sequences
import KernelConfig.Script.Library.System
import KernelConfig.Script.Library.Threads
import KernelConfig.Script.Library.Unicode

/-!
The library: what every function of it does, and the global variables that a script begins with.
-/

set_option autoImplicit false

namespace KernelConfig.Script.Library

/-- What a library function does with its arguments. -/
def task : Native → List Value → Task (List Value)
  | .assert, as => assert as
  | .collectgarbage, as => collectGarbage as
  | .dofile, as => doFile as
  | .error, as => error as
  | .getmetatable, as => getMetatable as
  | .ipairs, as => ipairs as
  | .ipairsStep, as => ipairsStep as
  | .load, as => load as
  | .loadfile, as => loadFile as
  | .next, as => next as
  | .pairs, as => pairs as
  | .pcall, as => pcall as
  | .print, as => print as
  | .rawequal, as => rawEqualFunction as
  | .rawget, as => rawGet as
  | .rawlen, as => rawLen as
  | .rawset, as => rawSet as
  | .require, as => require as
  | .select, as => select as
  | .setmetatable, as => setMetatable as
  | .tonumber, as => toNumber as
  | .tostring, as => toString as
  | .type, as => type as
  | .warn, as => do
    let _ ← checkString as 1
    return []
  | .xpcall, as => xpcall as
  | .stringByte, as => stringByte as
  | .stringChar, as => stringChar as
  | .stringDump, _ => Task.failText "unable to dump given function"
  | .stringFind, as => searchString true as
  | .stringFormat, as => stringFormat as
  | .stringGmatch, as => gmatch as
  | .stringGsub, as => gsub as
  | .stringLen, as => stringLength as
  | .stringLower, as => mapString (·.map lowerByte) as
  | .stringMatch, as => searchString false as
  | .stringRep, as => stringRepeat as
  | .stringReverse, as => mapString List.reverse as
  | .stringSub, as => stringSlice as
  | .stringUpper, as => mapString (·.map upperByte) as
  | .stringAdd, as => stringOperator .add as
  | .stringSubtract, as => stringOperator .sub as
  | .stringMul, as => stringOperator .mul as
  | .stringMod, as => stringOperator .mod as
  | .stringPow, as => stringOperator .pow as
  | .stringDiv, as => stringOperator .div as
  | .stringIdiv, as => stringOperator .idiv as
  | .stringUnm, as => stringNegate as
  | .gmatchStep source pattern cell, _ => gmatchStep source pattern cell
  | .tableConcat, as => tableConcat as
  | .tableCreate, as => tableCreate as
  | .tableInsert, as => tableInsert as
  | .tableMove, as => tableMove as
  | .tablePack, as => tablePack as
  | .tableRemove, as => tableRemove as
  | .tableSort, as => tableSort as
  | .tableUnpack, as => tableUnpack as
  | .mathAbs, as => mathAbs as
  | .mathAcos, as => viaFloat Float.acos as
  | .mathAsin, as => viaFloat Float.asin as
  | .mathAtan, as => mathAtan as
  | .mathCeil, as => rounded Double.ceil as
  | .mathCos, as => viaFloat Float.cos as
  | .mathDeg, as => viaFloat (fun x => x * (180.0 / 3.141592653589793)) as
  | .mathExp, as => viaFloat Float.exp as
  | .mathFloor, as => rounded Double.floor as
  | .mathFmod, as => mathFmod as
  | .mathFrexp, as => mathFrexp as
  | .mathLdexp, as => mathLdexp as
  | .mathLog, as => mathLog as
  | .mathMax, as => mathExtreme (fun v best => numberLt best v) as
  | .mathMin, as => mathExtreme numberLt as
  | .mathModf, as => mathModf as
  | .mathRad, as => viaFloat (fun x => x * (3.141592653589793 / 180.0)) as
  | .mathRandom, as => mathRandom as
  | .mathRandomseed, as => mathRandomseed as
  | .mathSin, as => viaFloat Float.sin as
  | .mathSqrt, as => viaFloat Float.sqrt as
  | .mathTan, as => viaFloat Float.tan as
  | .mathTointeger, as => mathTointeger as
  | .mathType, as => mathType as
  | .mathUlt, as => mathUlt as
  | .utf8Char, as => utf8Char as
  | .utf8Codepoint, as => utf8Codepoint as
  | .utf8Codes, as => utf8Codes as
  | .utf8CodesStep lax, as => utf8CodesStep lax as
  | .utf8Len, as => utf8Len as
  | .utf8Offset, as => utf8Offset as
  | .coroutineClose, as => coroutineClose as
  | .coroutineCreate, as => coroutineCreate as
  | .coroutineIsyieldable, as => coroutineIsyieldable as
  | .coroutineResume, as => coroutineResume as
  | .coroutineRunning, _ => coroutineRunning
  | .coroutineStatus, as => coroutineStatus as
  | .coroutineWrap, as => coroutineWrap as
  | .coroutineYield, as => coroutineYield as
  | .wrapped thread, as => resumeWrapped thread as
  | .debugDebug, _ => return []
  | .debugGethook, as => debugGethook as
  | .debugGetinfo, as => debugGetinfo as
  | .debugGetlocal, _ => silent
  | .debugGetmetatable, as => debugGetmetatable as
  | .debugGetregistry, _ => do return [← Task.newTable {}]
  | .debugGetupvalue, as => debugGetupvalue as
  | .debugGetuservalue, _ => silent
  | .debugSethook, as => debugSethook as
  | .debugSetlocal, _ => silent
  | .debugSetmetatable, as => debugSetmetatable as
  | .debugSetupvalue, as => debugSetupvalue as
  | .debugSetuservalue, _ => silent
  | .debugTraceback, as => debugTraceback as
  | .debugUpvalueid, _ => silent
  | .debugUpvaluejoin, as => debugUpvaluejoin as
  | .osClock, _ => osClock
  | .osDate, as => osDate as
  | .osDifftime, as => osDifftime as
  | .osExecute, _ => return [.nil, .text "exit", .int 127]
  | .osExit, _ => silent
  | .osGetenv, as => osGetenv as
  | .osRemove, as => noSuchFile as
  | .osRename, as => noSuchFile as
  | .osSetlocale, as => osSetlocale as
  | .osTime, as => osTime as
  | .osTmpname, _ => Task.failText "unable to generate a unique filename"
  | .ioClose, _ => silent
  | .ioFlush, _ => silent
  | .ioInput, _ => silent
  | .ioLines, as => do Task.fail ((← checkString as 1) ++ bytes ": No such file or directory")
  | .ioOpen, as => noSuchFile as
  | .ioOutput, _ => silent
  | .ioPopen, _ => unavailable "popen"
  | .ioRead, _ => silent
  | .ioTmpfile, _ => silent
  | .ioType, as => do
    checkAny as 1
    silent
  | .ioWrite, _ => silent
  | .packageLoadlib, _ => return [.nil, .text "dynamic libraries not enabled", .text "absent"]
  | .packageSearchpath, as => searchPath as

def basicFunctions : List (String × Native) :=
  [("assert", .assert), ("collectgarbage", .collectgarbage), ("dofile", .dofile), ("error", .error),
    ("getmetatable", .getmetatable), ("ipairs", .ipairs), ("load", .load), ("loadfile", .loadfile),
    ("next", .next), ("pairs", .pairs), ("pcall", .pcall), ("print", .print),
    ("rawequal", .rawequal), ("rawget", .rawget), ("rawlen", .rawlen), ("rawset", .rawset),
    ("require", .require), ("select", .select), ("setmetatable", .setmetatable),
    ("tonumber", .tonumber), ("tostring", .tostring), ("type", .type), ("warn", .warn),
    ("xpcall", .xpcall)]

def stringFunctions : List (String × Native) :=
  [("byte", .stringByte), ("char", .stringChar), ("dump", .stringDump), ("find", .stringFind),
    ("format", .stringFormat), ("gmatch", .stringGmatch), ("gsub", .stringGsub),
    ("len", .stringLen), ("lower", .stringLower), ("match", .stringMatch), ("rep", .stringRep),
    ("reverse", .stringReverse), ("sub", .stringSub), ("upper", .stringUpper)]

def stringOperators : List (String × Native) :=
  [("__add", .stringAdd), ("__sub", .stringSubtract), ("__mul", .stringMul), ("__mod", .stringMod),
    ("__pow", .stringPow), ("__div", .stringDiv), ("__idiv", .stringIdiv), ("__unm", .stringUnm)]

def tableFunctions : List (String × Native) :=
  [("concat", .tableConcat), ("create", .tableCreate), ("insert", .tableInsert),
    ("move", .tableMove), ("pack", .tablePack), ("remove", .tableRemove), ("sort", .tableSort),
    ("unpack", .tableUnpack)]

def mathFunctions : List (String × Native) :=
  [("abs", .mathAbs), ("acos", .mathAcos), ("asin", .mathAsin), ("atan", .mathAtan),
    ("ceil", .mathCeil), ("cos", .mathCos), ("deg", .mathDeg), ("exp", .mathExp),
    ("floor", .mathFloor), ("fmod", .mathFmod), ("frexp", .mathFrexp), ("ldexp", .mathLdexp),
    ("log", .mathLog), ("max", .mathMax), ("min", .mathMin), ("modf", .mathModf),
    ("rad", .mathRad), ("random", .mathRandom), ("randomseed", .mathRandomseed),
    ("sin", .mathSin), ("sqrt", .mathSqrt), ("tan", .mathTan), ("tointeger", .mathTointeger),
    ("type", .mathType), ("ult", .mathUlt)]

def utf8Functions : List (String × Native) :=
  [("char", .utf8Char), ("codepoint", .utf8Codepoint), ("codes", .utf8Codes), ("len", .utf8Len),
    ("offset", .utf8Offset)]

def coroutineFunctions : List (String × Native) :=
  [("close", .coroutineClose), ("create", .coroutineCreate), ("isyieldable", .coroutineIsyieldable),
    ("resume", .coroutineResume), ("running", .coroutineRunning), ("status", .coroutineStatus),
    ("wrap", .coroutineWrap), ("yield", .coroutineYield)]

def debugFunctions : List (String × Native) :=
  [("debug", .debugDebug), ("gethook", .debugGethook), ("getinfo", .debugGetinfo),
    ("getlocal", .debugGetlocal), ("getmetatable", .debugGetmetatable),
    ("getregistry", .debugGetregistry), ("getupvalue", .debugGetupvalue),
    ("getuservalue", .debugGetuservalue), ("sethook", .debugSethook),
    ("setlocal", .debugSetlocal), ("setmetatable", .debugSetmetatable),
    ("setupvalue", .debugSetupvalue), ("setuservalue", .debugSetuservalue),
    ("traceback", .debugTraceback), ("upvalueid", .debugUpvalueid),
    ("upvaluejoin", .debugUpvaluejoin)]

def osFunctions : List (String × Native) :=
  [("clock", .osClock), ("date", .osDate), ("difftime", .osDifftime), ("execute", .osExecute),
    ("exit", .osExit), ("getenv", .osGetenv), ("remove", .osRemove), ("rename", .osRename),
    ("setlocale", .osSetlocale), ("time", .osTime), ("tmpname", .osTmpname)]

def ioFunctions : List (String × Native) :=
  [("close", .ioClose), ("flush", .ioFlush), ("input", .ioInput), ("lines", .ioLines),
    ("open", .ioOpen), ("output", .ioOutput), ("popen", .ioPopen), ("read", .ioRead),
    ("tmpfile", .ioTmpfile), ("type", .ioType), ("write", .ioWrite)]

def packageFunctions : List (String × Native) :=
  [("loadlib", .packageLoadlib), ("searchpath", .packageSearchpath)]

def withFunctions (fs : List (String × Native)) (t : Table) : Table :=
  fs.foldl (fun t e => t.setText e.1 (.native e.2)) t

/-- Adds a library under its name, to the globals and to the loaded libraries. -/
def provide (s : Store) (name : String) (t : Table) : Store :=
  let (s, id) := s.addTable t
  (s.setText s.globals name (.table id)).setText s.loaded name (.table id)

def mathTable : Table :=
  ((((withFunctions mathFunctions {}).setText "pi" (.float (Double.ofFloat 3.141592653589793))).setText
    "huge" (.float Double.infinity)).setText "maxinteger" (.int Int64.maxValue)).setText
    "mininteger" (.int Int64.minValue)

def utf8Table : Table :=
  (withFunctions utf8Functions {}).setText "charpattern"
    (.string (91 :: 0 :: bytes "-\x7f" ++ [0xC2, 45, 0xFD, 93, 91, 0x80, 45, 0xBF, 93, 42]))

/-- The store that a script begins with: the globals are the table zero. -/
def initialStore : Store :=
  let s : Store := {}
  let (s, globals) := s.addTable (withFunctions basicFunctions {})
  let (s, loaded) := s.addTable {}
  let s := { s with globals, loaded }
  let s := s.setText globals "_G" (.table globals)
  let s := s.setText globals "_VERSION" (.text "Lua 5.5")
  let s := s.setText loaded "_G" (.table globals)
  let (s, preload) := s.addTable {}
  let (s, searchers) := s.addTable {}
  let package := (((((withFunctions packageFunctions {}).setText "path" (.text "./?.lua")).setText
    "cpath" (.text "./?.so")).setText "config" (.text "/\n;\n?\n!\n-\n")).setText
    "loaded" (.table loaded)).setText "preload" (.table preload)
  let s := provide s "package" (package.setText "searchers" (.table searchers))
  let s := provide s "coroutine" (withFunctions coroutineFunctions {})
  let s := provide s "table" (withFunctions tableFunctions {})
  let s := provide s "io" (withFunctions ioFunctions {})
  let s := provide s "os" (withFunctions osFunctions {})
  let s := provide s "string" (withFunctions stringFunctions {})
  let s := provide s "math" mathTable
  let s := provide s "utf8" utf8Table
  let s := provide s "debug" (withFunctions debugFunctions {})
  let (s, metatable) := s.addTable
    ((withFunctions stringOperators {}).setText "__index" (s.getText globals "string"))
  { s with metatables := [("string", metatable)] }

end KernelConfig.Script.Library
