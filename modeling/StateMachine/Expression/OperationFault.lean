import StateMachine.Document.Integer

/-!
# Faults of operations

Why an operation on data, or one of the functions every expression knows, has no
result.
-/

namespace StateMachine

/-- Why an operation has no result. -/
inductive OperationFault
  /-- Two kinds an operation does not go together with. -/
  | operands (mark left right : String)
  /-- Only the same kind can be joined to a kind. -/
  | joining (kind other : String)
  /-- Something is repeated by what is no integer. -/
  | repeating (kind : String)
  /-- Two kinds that have no order. -/
  | unordered (mark left right : String)
  /-- A kind that takes no sign. -/
  | badSign (mark kind : String)
  | divideByZero
  | floorDivideByZero
  | moduloByZero
  | floatDivideByZero
  | floatFloorDivideByZero
  | floatModuloByZero
  /-- Zero has no negative power. -/
  | zeroPower
  /-- A power is too great for a floating point number. -/
  | hugePower
  /-- The function that prints is shifted, as if to print to something. -/
  | shiftedPrint (left right : String)
  | negativeShift
  /-- A quotient of integers is too great for a floating point number. -/
  | hugeQuotient
  /-- An integer is too great for a floating point number. -/
  | hugeInteger
  /-- A text is asked whether it holds what is no text. -/
  | notInText (kind : String)
  /-- A kind that holds nothing. -/
  | notContainer (kind : String)
  /-- A kind without elements. -/
  | notIterable (kind : String)
  /-- A kind that cannot be a key. -/
  | notKey (kind : String)
  /-- A kind without items. -/
  | noItems (kind : String)
  /-- A kind of which no items can be taken. -/
  | noKindItems (name : String)
  /-- A sequence is asked for an item by what is no place. -/
  | badPlace (kind index : String)
  /-- A sequence has no such place. -/
  | outside (kind : String)
  /-- A place is too great to be one of any sequence. -/
  | hugePlace
  /-- A number is too great to be the length of any sequence. -/
  | hugeCount
  /-- A text becomes too long by being repeated. -/
  | hugeText
  /-- Something becomes too large to be kept. -/
  | noMemory
  /-- A number is shifted too far. -/
  | hugeShift
  /-- A part of a sequence is asked for by what is no place. -/
  | badBound
  | zeroStep
  /-- A table has no such key. -/
  | noEntry (key : String)
  | noLength (kind : String)
  | noAbsolute (kind : String)
  | notCallable (kind : String)
  | noAttribute (kind name : String)
  /-- A kind has no such attribute. -/
  | noKindAttribute (kind name : String)
  | unbound (name : String)
  /-- What is to give the arguments with names of a call is no table. -/
  | notNamed (called kind : String)
  /-- An argument with a name has one that is no text. -/
  | badName
  /-- Two arguments of a call have the same name. -/
  | sameName (called name : String)
  /-- What is to be taken over into a table is none. -/
  | notTable (kind : String)
  /-- What is to take its place in a row has no elements. -/
  | notUnpacked (kind : String)
  /-- What is to give the arguments of a call has no elements. -/
  | notArguments (called kind : String)
  /-- A text is filled in with what has no place in it. -/
  | unused
  /-- There are more places in a text than data. -/
  | tooFew
  /-- A place of a text is named, but the data have no names. -/
  | noNames
  /-- A place of a text ends early. -/
  | openPlace
  /-- The name of a place ends early. -/
  | openPlaceName
  /-- The width of a place is no integer. -/
  | badWidth
  /-- A place is too wide. -/
  | hugeWidth
  /-- A place asks for too many digits. -/
  | hugePrecision
  /-- A width or precision that is filled in is too great. -/
  | hugeQuantity (kind : String)
  /-- A place for numbers is filled with something else. -/
  | notNumber (place kind : String)
  /-- A place for integers is filled with something else. -/
  | notInteger (place kind : String)
  | notReal (kind : String)
  | notCharacter
  | badCharacter
  /-- There is no such kind of place. -/
  | badConversion (c : Char) (index : Nat)
  /-- An integer has too many digits to be written. -/
  | tooLong
  /-- What a function is given stands for no integer. -/
  | integer (f : IntegerFault)
  /-- The encoding of a text is named by what is no text. -/
  | badEncoding (argument kind : String)
  /-- A text is to be decoded. -/
  | decodingText
  /-- A kind that is not made of bytes is to be decoded. -/
  | decoding (kind : String)
  /-- A function takes one argument. -/
  | notOne (function : String) (given : Nat)
  /-- A function takes an argument at least. -/
  | notAny (function : String)
  /-- A function takes no more than one argument. -/
  | moreThanOne (function : String) (given : Nat)
  /-- A function takes no more than some arguments. -/
  | tooMany (function : String) (most given : Nat)
  /-- A function takes no arguments with names. -/
  | noNamed (function : String)
  /-- A function takes no argument of this name. -/
  | badNamed (function name : String)
  /-- An argument is given by its place and by its name. -/
  | givenTwice (function name : String) (place : Nat)
  /-- A function takes some argument by its place. -/
  | noneByPlace (function : String)
  /-- There is only something to take in place of nothing if there is one
      argument. -/
  | badDefault (function : String)
  /-- Texts are to be added up. -/
  | summedTexts
  /-- A kind is asked for by neither one argument nor three. -/
  | badKindCall
  /-- There is no greatest or least of nothing. -/
  | emptySequence (function : String)
  /-- A single character is asked for. -/
  | notSingle (length : Nat)
  | notText (kind : String)
  /-- There is no character of such a number. -/
  | badCode
  | notIndex (kind : String)
  /-- Something that cannot be worked out. -/
  | unknown (what : String)

namespace OperationFault

/-- The kind of a fault of turning something into an integer. -/
def integerKind : IntegerFault → String
  | .badKind _ => "TypeError"
  | .infinite => "OverflowError"
  | _ => "ValueError"

/-- The kind of a fault. -/
def kind : OperationFault → String
  | .divideByZero => "ZeroDivisionError"
  | .floorDivideByZero => "ZeroDivisionError"
  | .moduloByZero => "ZeroDivisionError"
  | .floatDivideByZero => "ZeroDivisionError"
  | .floatFloorDivideByZero => "ZeroDivisionError"
  | .floatModuloByZero => "ZeroDivisionError"
  | .zeroPower => "ZeroDivisionError"
  | .hugePower => "OverflowError"
  | .negativeShift => "ValueError"
  | .hugeQuotient => "OverflowError"
  | .hugeInteger => "OverflowError"
  | .outside _ => "IndexError"
  | .hugePlace => "IndexError"
  | .hugeCount => "OverflowError"
  | .hugeText => "OverflowError"
  | .noMemory => "MemoryError"
  | .hugeShift => "OverflowError"
  | .hugeWidth => "ValueError"
  | .hugePrecision => "ValueError"
  | .hugeQuantity _ => "OverflowError"
  | .zeroStep => "ValueError"
  | .noEntry _ => "KeyError"
  | .noAttribute _ _ => "AttributeError"
  | .noKindAttribute _ _ => "AttributeError"
  | .unbound _ => "NameError"
  | .openPlace => "ValueError"
  | .openPlaceName => "ValueError"
  | .badConversion _ _ => "ValueError"
  | .badCharacter => "OverflowError"
  | .tooLong => "ValueError"
  | .integer f => integerKind f
  | .emptySequence _ => "ValueError"
  | .badCode => "ValueError"
  | .unknown _ => "NotImplementedError"
  | _ => "TypeError"

/-- The wording of a fault. -/
def message : OperationFault → String
  | .operands mark left right =>
    "unsupported operand type(s) for " ++ mark ++ ": '" ++ left ++ "' and '" ++ right ++ "'"
  | .joining kind other =>
    "can only concatenate " ++ kind ++ " (not \"" ++ other ++ "\") to " ++ kind
  | .repeating kind => "can't multiply sequence by non-int of type '" ++ kind ++ "'"
  | .unordered mark left right =>
    "'" ++ mark ++ "' not supported between instances of '" ++ left ++ "' and '" ++ right ++ "'"
  | .badSign mark kind => "bad operand type for unary " ++ mark ++ ": '" ++ kind ++ "'"
  | .divideByZero => "division by zero"
  | .floorDivideByZero => "integer division or modulo by zero"
  | .moduloByZero => "integer modulo by zero"
  | .floatDivideByZero => "float division by zero"
  | .floatFloorDivideByZero => "float floor division by zero"
  | .floatModuloByZero => "float modulo"
  | .zeroPower => "0.0 cannot be raised to a negative power"
  | .hugePower => "(34, 'Numerical result out of range')"
  | .shiftedPrint left right =>
    "unsupported operand type(s) for >>: '" ++ left ++ "' and '" ++ right
      ++ "'. Did you mean \"print(<message>, file=<output_stream>)\"?"
  | .negativeShift => "negative shift count"
  | .hugeQuotient => "integer division result too large for a float"
  | .hugeInteger => "int too large to convert to float"
  | .notInText kind => "'in <string>' requires string as left operand, not " ++ kind
  | .notContainer kind => "argument of type '" ++ kind ++ "' is not iterable"
  | .notIterable kind => "'" ++ kind ++ "' object is not iterable"
  | .notKey kind => "unhashable type: '" ++ kind ++ "'"
  | .noItems kind => "'" ++ kind ++ "' object is not subscriptable"
  | .noKindItems name => "type '" ++ name ++ "' is not subscriptable"
  | .badPlace kind index =>
    if kind = "str" then "string indices must be integers, not '" ++ index ++ "'"
    else kind ++ " indices must be integers or slices, not " ++ index
  | .outside kind => (if kind = "str" then "string" else kind) ++ " index out of range"
  | .hugePlace => "cannot fit 'int' into an index-sized integer"
  | .hugeCount => "cannot fit 'int' into an index-sized integer"
  | .hugeText => "repeated string is too long"
  | .noMemory => ""
  | .hugeShift => "too many digits in integer"
  | .badBound => "slice indices must be integers or None or have an __index__ method"
  | .zeroStep => "slice step cannot be zero"
  | .noEntry key => key
  | .noLength kind => "object of type '" ++ kind ++ "' has no len()"
  | .noAbsolute kind => "bad operand type for abs(): '" ++ kind ++ "'"
  | .notCallable kind => "'" ++ kind ++ "' object is not callable"
  | .noAttribute kind name => "'" ++ kind ++ "' object has no attribute '" ++ name ++ "'"
  | .noKindAttribute kind name =>
    "type object '" ++ kind ++ "' has no attribute '" ++ name ++ "'"
  | .unbound name => "name '" ++ name ++ "' is not defined"
  | .notNamed called kind => called ++ " argument after ** must be a mapping, not " ++ kind
  | .badName => "keywords must be strings"
  | .sameName called name =>
    called ++ " got multiple values for keyword argument '" ++ name ++ "'"
  | .notTable kind => "'" ++ kind ++ "' object is not a mapping"
  | .notArguments called kind => called ++ " argument after * must be an iterable, not " ++ kind
  | .notUnpacked kind => "Value after * must be an iterable, not " ++ kind
  | .unused => "not all arguments converted during string formatting"
  | .tooFew => "not enough arguments for format string"
  | .noNames => "format requires a mapping"
  | .openPlace => "incomplete format"
  | .openPlaceName => "incomplete format key"
  | .badWidth => "* wants int"
  | .hugeWidth => "width too big"
  | .hugePrecision => "precision too big"
  | .hugeQuantity kind => "Python int too large to convert to C " ++ kind
  | .notNumber place kind =>
    "%" ++ place ++ " format: a real number is required, not " ++ kind
  | .notInteger place kind => "%" ++ place ++ " format: an integer is required, not " ++ kind
  | .notReal kind => "must be real number, not " ++ kind
  | .notCharacter => "%c requires int or char"
  | .badCharacter => "%c arg not in range(0x110000)"
  | .badConversion c index =>
    let shown := if 31 ≤ c.toNat && c.toNat ≤ 127 then c else '?'
    "unsupported format character '" ++ String.ofList [shown] ++ "' (0x"
      ++ Text.hexText 1 c.toNat ++ ") at index " ++ toString index
  | .tooLong => DigitLimit.writing
  | .integer f => f.message
  | .badEncoding argument kind => "str() argument '" ++ argument ++ "' must be str, not " ++ kind
  | .decodingText => "decoding str is not supported"
  | .decoding kind => "decoding to str: need a bytes-like object, " ++ kind ++ " found"
  | .notOne function given =>
    function ++ "() takes exactly one argument (" ++ toString given ++ " given)"
  | .notAny function => function ++ " expected at least 1 argument, got 0"
  | .moreThanOne function given =>
    function ++ " expected at most 1 argument, got " ++ toString given
  | .tooMany function most given =>
    function ++ "() takes at most " ++ toString most ++ " arguments (" ++ toString given
      ++ " given)"
  | .noNamed function => function ++ "() takes no keyword arguments"
  | .badNamed function name =>
    "'" ++ name ++ "' is an invalid keyword argument for " ++ function ++ "()"
  | .givenTwice function name place =>
    "argument for " ++ function ++ "() given by name ('" ++ name ++ "') and position ("
      ++ toString place ++ ")"
  | .noneByPlace function => function ++ "() takes at least 1 positional argument (0 given)"
  | .badDefault function =>
    "Cannot specify a default for " ++ function ++ "() with multiple positional arguments"
  | .summedTexts => "sum() can't sum strings [use ''.join(seq) instead]"
  | .badKindCall => "type() takes 1 or 3 arguments"
  | .emptySequence function => function ++ "() arg is an empty sequence"
  | .notSingle length =>
    "ord() expected a character, but string of length " ++ toString length ++ " found"
  | .notText kind => "ord() expected string of length 1, but " ++ kind ++ " found"
  | .badCode => "chr() arg not in range(0x110000)"
  | .notIndex kind => "'" ++ kind ++ "' object cannot be interpreted as an integer"
  | .unknown what => what

end OperationFault
end StateMachine
