/-!
# Known names

The names every expression knows, whatever is around it: functions, kinds of
data (those of faults among them), and a few other things. Two names may stand
for the same kind.
-/

namespace StateMachine.Known

/-- The kinds of data. -/
def kinds : List String :=
  ["bool", "bytearray", "bytes", "classmethod", "complex", "dict", "enumerate", "filter", "float",
    "frozenset", "int", "list", "map", "memoryview", "object", "property", "range", "reversed",
    "set", "slice", "staticmethod", "str", "super", "tuple", "type", "zip"]

/-- The kinds of faults and warnings. -/
def faultKinds : List String :=
  ["ArithmeticError", "AssertionError", "AttributeError", "BaseException", "BaseExceptionGroup",
    "BlockingIOError", "BrokenPipeError", "BufferError", "BytesWarning", "ChildProcessError",
    "ConnectionAbortedError", "ConnectionError", "ConnectionRefusedError", "ConnectionResetError",
    "DeprecationWarning", "EOFError", "EncodingWarning", "Exception", "ExceptionGroup",
    "FileExistsError", "FileNotFoundError", "FloatingPointError", "FutureWarning",
    "GeneratorExit", "ImportError", "ImportWarning", "IndentationError", "IndexError",
    "InterruptedError", "IsADirectoryError", "KeyError", "KeyboardInterrupt", "LookupError",
    "MemoryError", "ModuleNotFoundError", "NameError", "NotADirectoryError",
    "NotImplementedError", "OSError", "OverflowError", "PendingDeprecationWarning",
    "PermissionError", "ProcessLookupError", "RecursionError", "ReferenceError",
    "ResourceWarning", "RuntimeError", "RuntimeWarning", "StopAsyncIteration", "StopIteration",
    "SyntaxError", "SyntaxWarning", "SystemError", "SystemExit", "TabError", "TimeoutError",
    "TypeError", "UnboundLocalError", "UnicodeDecodeError", "UnicodeEncodeError",
    "UnicodeError", "UnicodeTranslateError", "UnicodeWarning", "UserWarning", "ValueError",
    "Warning", "ZeroDivisionError"]

/-- The kinds of data that have no name. -/
def namelessKinds : List String :=
  ["NoneType", "NotImplementedType", "Owner", "builtin_function_or_method", "ellipsis",
    "function", "generator", "getset_descriptor", "method_descriptor"]

/-- The kinds of data that can be told what kind their items are of. -/
def itemKinds : List String :=
  ["BaseExceptionGroup", "ExceptionGroup", "dict", "enumerate", "frozenset", "list", "set",
    "tuple", "type"]

/-- Other names for kinds. -/
def aliases : List (String × String) :=
  [("EnvironmentError", "OSError"), ("IOError", "OSError")]

/-- The functions. -/
def functions : List String :=
  ["__build_class__", "__import__", "abs", "aiter", "all", "anext", "any", "ascii", "bin",
    "breakpoint", "callable", "chr", "compile", "delattr", "dir", "divmod", "eval", "exec",
    "format", "getattr", "globals", "hasattr", "hash", "hex", "id", "input", "isinstance",
    "issubclass", "iter", "len", "locals", "max", "min", "next", "oct", "open", "ord", "pow",
    "print", "repr", "round", "setattr", "sorted", "sum", "vars"]

/-- Something that is neither a function nor a kind. -/
structure Thing where
  name : String
  kind : String
  /-- What it is shown as. -/
  text : String
  /-- Can it be called? -/
  callable : Bool

/-- What the things that would end the program are shown as. -/
def endingText (name : String) : String :=
  "Use " ++ name ++ "() or Ctrl-D (i.e. EOF) to exit"

/-- The other things. -/
def things : List Thing := [
  ⟨"Ellipsis", "ellipsis", "Ellipsis", false⟩,
  ⟨"NotImplemented", "NotImplementedType", "NotImplemented", false⟩,
  ⟨"__builtins__", "dict", "\x7b...\x7d", false⟩,
  ⟨"__loader__", "type", "<class '_frozen_importlib.BuiltinImporter'>", true⟩,
  ⟨"__spec__", "ModuleSpec", "ModuleSpec(name='builtins', "
    ++ "loader=<class '_frozen_importlib.BuiltinImporter'>, origin='built-in')", false⟩,
  ⟨"copyright", "_Printer", "Type copyright() to see the full copyright text", true⟩,
  ⟨"credits", "_Printer", "Type credits() to see the full credits text", true⟩,
  ⟨"exit", "Quitter", endingText "exit", true⟩,
  ⟨"help", "_Helper",
    "Type help() for interactive help, or help(object) for help about object.", true⟩,
  ⟨"license", "_Printer", "Type license() to see the full license text", true⟩,
  ⟨"quit", "Quitter", endingText "quit", true⟩]

/-- The thing of a name. -/
def thing? (name : String) : Option Thing :=
  things.find? fun t => t.name == name

/-- The name that stands for what a name means, if it is known. -/
def find? (name : String) : Option String :=
  let name := (aliases.lookup name).getD name
  if kinds.contains name || faultKinds.contains name || functions.contains name
      || (thing? name).isSome then
    some name
  else none

/-- Is it a kind, with a name or without? -/
def isKind (name : String) : Bool :=
  kinds.contains name || faultKinds.contains name || namelessKinds.contains name

/-- The texts some names stand for. -/
def texts : List (String × String) :=
  [("__name__", "builtins"), ("__package__", "")]

/-- The kind of what a name means. -/
def kindOf (name : String) : String :=
  if isKind name then "type"
  else ((thing? name).map Thing.kind).getD "builtin_function_or_method"

/-- What a known name is shown as. -/
def shown (name : String) : String :=
  if isKind name then "<class '" ++ name ++ "'>"
  else ((thing? name).map Thing.text).getD ("<built-in function " ++ name ++ ">")

/-- Can what a name means be called? -/
def isCallable (name : String) : Bool :=
  (thing? name).all Thing.callable

end StateMachine.Known
