import TagGateway.Bus.Name
import TagGateway.Bus.Signature
import TagGateway.Level
import TagGateway.Log.Template.Flaw
import TagGateway.Payload.Flaw
import TagGateway.Settings.Flaw
import TagGateway.Text.Quoted
import TagGateway.Text.Utf8
import TagGateway.Value

/-!
# Faults

Every way in which an operation of the gateway can fail, as a cause. The wording of each cause
is `Fault.message`.
-/

namespace TagGateway

/-- The states of discovery on an adapter. -/
inductive Discovery.Status
  | idle | discovering | stopped | failed
deriving DecidableEq, Repr

/-- The name of a state. -/
def Discovery.Status.name : Discovery.Status → String
  | idle => "idle"
  | discovering => "discovering"
  | stopped => "stopped"
  | failed => "failed"

/-- A cause of failure. -/
inductive Fault
  /-- A text that writes no hardware address. -/
  | invalidAddress (text : String)
  /-- A text that writes no whole number, as it is shown. -/
  | malformedInt (shown : String)
  /-- A text that writes a whole number with more digits than are converted. -/
  | tooManyDigits (digits : Nat)
  | wholeOfNaN
  | wholeOfInfinity
  /-- A value of a kind that has no whole number. -/
  | notWhole (kind : Value.Kind)
  /-- A handler that is called without its last parameters. -/
  | missingArguments (handler : String) (names : List String)
  /-- A handler that is called with more arguments than it has parameters. -/
  | extraArguments (handler : String) (parameters given : Nat)
  /-- An item of a byte list that is no whole number. -/
  | notByte (kind : Value.Kind)
  | byteRange
  /-- A text where bytes are wanted. -/
  | textForBytes
  /-- A value of a kind that has no bytes. -/
  | notBytes (kind : Value.Kind)
  | negativeCount
  /-- A count that no machine word holds. -/
  | countTooLarge
  /-- A count of more bytes than a byte string can hold. -/
  | bytesTooLarge
  /-- A count of more bytes than there is room for. -/
  | outOfMemory
  /-- A value that cannot be walked through. -/
  | notIterable (kind : Value.Kind)
  /-- A text that is looked for among bytes. -/
  | bytesWanted (kind : Value.Kind)
  /-- A value in which nothing can be looked for. -/
  | notSearchable (kind : Value.Kind)
  /-- A value that is no place in a collection. -/
  | notPlace (collection place : Value.Kind)
  /-- A place that a collection does not have. -/
  | noPlace (collection : Value.Kind)
  /-- A place that no machine word holds. -/
  | placeTooLarge
  /-- A key that a dictionary does not have, as it is shown. -/
  | noKey (shown : String)
  /-- A value that has no places. -/
  | noPlaces (kind : Value.Kind)
  /-- A value that can be no key. -/
  | notKey (kind : Value.Kind)
  /-- Bytes that are taken for the path of an object. -/
  | bytesForPath
  /-- A value that is no path of a file. -/
  | notPath (kind : Value.Kind)
  /-- A value that is no part of a path of a file. -/
  | notPathPart (kind : Value.Kind)
  /-- Two values that have no order, which a sign asks for. -/
  | unordered (sign : String) (left right : Value.Kind)
  /-- A value that is written in hexadecimal digits and is no whole number. -/
  | notHexadecimal (kind : Value.Kind)
  /-- A whole number beyond the greatest finite value. -/
  | wholeTooLarge
  /-- A value of a kind that is no number. -/
  | notReal (kind : Value.Kind)
  /-- A component of a vector that is no number. -/
  | notNumber (kind : Value.Kind)
  /-- A value without items, whose items a handler is to be called with. -/
  | notArguments (handler : String) (kind : Value.Kind)
  /-- A value of a kind that has no attribute of this name. -/
  | noAttribute (kind : Value.Kind) (name : String)
  /-- A text that writes no bytes in hexadecimal digits, with the place at which it fails. -/
  | notHexPairs (place : Nat)
  /-- A value that is read as hexadecimal digits and is no text. -/
  | notHexText (kind : Value.Kind)
  /-- A text that writes no decimal number, as it is shown. -/
  | notDecimal (shown : String)
  /-- Two values that an operation, given by its sign, is not defined for. -/
  | unsupported (sign : String) (left right : Value.Kind)
  /-- A value of another kind that is put after a collection. -/
  | notJoined (collection item : Value.Kind)
  /-- A number that the host does not have. -/
  | missingAttribute (name : String)
  /-- A metric, as it is shown, that cannot be written out. -/
  | unwritable (cause : Fault) (metric : String)
  /-- A field that what is made from fields does not have. -/
  | unknownField (owner name : String)
  /-- A field that what is made from fields has already. -/
  | takenField (owner name : String)
  /-- A payload that is not decoded, with the first flaw that forbids it. -/
  | undecodable (tag : Nat) (flaw : Payload.Flaw)
  /-- A call or subscription that the service refused, with the name of its error reply. -/
  | callFailed (message : String) (name : Option String)
  /-- The service cannot be reached. -/
  | unreachable (message : String)
  /-- Another failure on the way to the service. -/
  | transport (message : String)
  /-- Discovery stopped and was not started again. -/
  | discoveryLost (message : String)
  /-- A start when the controller has been used before. -/
  | alreadyUsed (status : Discovery.Status)
  /-- A start inside the run of another one. -/
  | nestedRun
  /-- An assembler of packets without anyone to hand them to. -/
  | noReceiver
  /-- A listener without anyone to hand its packets to. -/
  | noListenerReceiver
  /-- A setting that cannot be read. -/
  | setting (flaw : Settings.Flaw)
  /-- Settings that cannot be used, with all that is wrong with them. -/
  | settings (flaws : List Settings.Flaw)
  /-- A null character in a text that the host takes. -/
  | nullCharacter
  /-- A value that is no text in the place of a variable. -/
  | textWanted (kind : Value.Kind)
  /-- A variable whose name has an equals sign. -/
  | illegalVariable
  /-- A call argument that has no variant type. -/
  | noVariant (shown : String)
  /-- A whole number that does not fit into sixteen bits. -/
  | shortRange
  /-- A part of a message that does not have the form of its name. -/
  | invalidName (part : Bus.NamePart) (text : String)
  /-- A message with a signature that is none. -/
  | invalidSignature (flaw : Bus.Signature.Flaw)
  /-- A failure of the host system. -/
  | system (message : String)
  /-- A directory where a file is wanted. -/
  | isDirectory (path : String)
  /-- A file where a directory is wanted. -/
  | notDirectory (path : String)
  /-- A file in the place of a new directory. -/
  | fileExists (path : String)
  | noSuchFile (path : String)
  /-- A path with a name that is longer than names of files are. -/
  | nameTooLong (path : String)
  /-- A file whose bytes are no text. -/
  | notText (flaw : Text.Utf8.Flaw)
  /-- A level name that does not exist. -/
  | unknownLevel (name : String)
  /-- Bytes that are taken for a name. -/
  | bytesForName
  /-- A text that stands for no level. -/
  | noLevel (text : String)
  /-- The table of layouts, which stands for no level. -/
  | noLevels
  /-- A record whose level is no whole number. -/
  | notRecordLevel
  /-- A value that is no name of a logger. -/
  | notLoggerName
  /-- A template that cannot be filled in. -/
  | template (flaw : Log.Template.Flaw)
  /-- A value, as it is shown, that is the number of no signal of the host. -/
  | noSignal (shown : String)
  /-- Another failure, by its class and text. -/
  | other (kind message : String)
deriving DecidableEq, Repr

/-- The report of a payload that is not decoded. -/
def Payload.refusal (tag : Nat) (flaw : Payload.Flaw) : String :=
  "Data format " ++ toString tag ++ " conversion failed: " ++ flaw.message

namespace Fault

/-- Whether a kind of values has formats of its own. -/
def hasFormats : Value.Kind → Bool
  | .float | .text => true
  | _ => false

/-- The name of the items of a kind of collections. -/
def itemsName : Value.Kind → String
  | .bytes => "byte"
  | .text => "string"
  | kind => kind.name

/-- A value that is no place in a collection, named by its kind. -/
def placeMessage (collection place : Value.Kind) : String :=
  if collection = .text then "string indices must be integers, not '" ++ place.name ++ "'"
  else itemsName collection ++ " indices must be integers or slices, not " ++ place.name

/-- Things that are listed in a sentence. -/
def listed : List String → String
  | [] => ""
  | [one] => one
  | [first, second] => first ++ " and " ++ second
  | several => ", ".intercalate several.dropLast ++ ", and " ++ several.getLastD ""

/-- A handler that is called without its last parameters. -/
def missingMessage (handler : String) (names : List String) : String :=
  handler ++ "() missing " ++ toString names.length ++ " required positional argument" ++
    (if names.length = 1 then "" else "s") ++ ": " ++ listed (names.map Text.quoted)

/-- A failure of the host on a path, with its number. -/
def hostFailure (number : Nat) (what path : String) : String :=
  "[Errno " ++ toString number ++ "] " ++ what ++ ": " ++ Text.quoted path

/-- The table of the plainest layouts, by the sign that marks their places. -/
def layoutTable : String :=
  "\x7b'%': (<class 'logging.PercentStyle'>, '%(levelname)s:%(name)s:%(message)s'), " ++
    "'\x7b': (<class 'logging.StrFormatStyle'>, '\x7blevelname\x7d:\x7bname\x7d:" ++
    "\x7bmessage\x7d'), '$': (<class 'logging.StringTemplateStyle'>, " ++
    "'$\x7blevelname\x7d:$\x7bname\x7d:$\x7bmessage\x7d')\x7d"

/-- The wording of a cause. -/
def message : Fault → String
  | invalidAddress text => "Invalid MAC address: " ++ Text.quoted text
  | malformedInt shown => "invalid literal for int() with base 10: " ++ shown
  | tooManyDigits n =>
    "Exceeds the limit (4300 digits) for integer string conversion: value has " ++ toString n ++
      " digits; use sys.set_int_max_str_digits() to increase the limit"
  | wholeOfNaN => "cannot convert float NaN to integer"
  | wholeOfInfinity => "cannot convert float infinity to integer"
  | notWhole kind =>
    "int() argument must be a string, a bytes-like object or a real number, not '" ++
      kind.name ++ "'"
  | missingArguments handler names => missingMessage handler names
  | extraArguments handler parameters given =>
    handler ++ "() takes " ++ toString parameters ++ " positional arguments but " ++
      toString given ++ " were given"
  | notByte kind => "'" ++ kind.name ++ "' object cannot be interpreted as an integer"
  | byteRange => "bytes must be in range(0, 256)"
  | textForBytes => "string argument without an encoding"
  | notBytes kind => "cannot convert '" ++ kind.name ++ "' object to bytes"
  | negativeCount => "negative count"
  | countTooLarge | placeTooLarge => "cannot fit 'int' into an index-sized integer"
  | bytesTooLarge => "byte string is too large"
  | outOfMemory => ""
  | bytesWanted kind => "a bytes-like object is required, not '" ++ kind.name ++ "'"
  | notSearchable kind => "argument of type '" ++ kind.name ++ "' is not iterable"
  | notPlace collection place => placeMessage collection place
  | noPlace .bytes => "index out of range"
  | noPlace collection => itemsName collection ++ " index out of range"
  | noKey shown => shown
  | noPlaces kind => "'" ++ kind.name ++ "' object is not subscriptable"
  | notKey kind => "unhashable type: '" ++ kind.name ++ "'"
  | notPath .bytes =>
    "argument should be a str object or an os.PathLike object returning str, " ++
      "not <class 'bytes'>"
  | notPath kind => "expected str, bytes or os.PathLike object, not " ++ kind.name
  | notPathPart kind =>
    "unsupported operand type(s) for /: 'PosixPath' and '" ++ kind.name ++ "'"
  | bytesForPath => "startswith first arg must be bytes or a tuple of bytes, not str"
  | notIterable kind => "'" ++ kind.name ++ "' object is not iterable"
  | unordered sign left right =>
    "'" ++ sign ++ "' not supported between instances of '" ++ left.name ++ "' and '" ++
      right.name ++ "'"
  | notHexadecimal kind =>
    if hasFormats kind then "Unknown format code 'X' for object of type '" ++ kind.name ++ "'"
    else "unsupported format string passed to " ++ kind.name ++ ".__format__"
  | wholeTooLarge => "int too large to convert to float"
  | notReal kind => "float() argument must be a string or a real number, not '" ++ kind.name ++ "'"
  | notNumber kind => "must be real number, not " ++ kind.name
  | notArguments handler kind =>
    handler ++ "() argument after * must be an iterable, not " ++ kind.name
  | noAttribute kind name =>
    "'" ++ kind.name ++ "' object has no attribute '" ++ name ++ "'"
  | notHexPairs place =>
    "non-hexadecimal number found in fromhex() arg at position " ++ toString place
  | notHexText kind =>
    "fromhex() argument must be str, not " ++ if kind = .null then "None" else kind.name
  | notDecimal shown => "could not convert string to float: " ++ shown
  | unsupported sign left right =>
    "unsupported operand type(s) for " ++ sign ++ ": '" ++ left.name ++ "' and '" ++ right.name ++
      "'"
  | notJoined .bytes item => "can't concat " ++ item.name ++ " to bytes"
  | notJoined collection item =>
    "can only concatenate " ++ collection.name ++ " (not \"" ++ item.name ++ "\") to " ++
      collection.name
  | missingAttribute name =>
    "'types.SimpleNamespace' object has no attribute '" ++ name ++ "'"
  | unwritable cause metric => "(" ++ Text.quoted cause.message ++ ", " ++ metric ++ ")"
  | unknownField owner name =>
    owner ++ ".__init__() got an unexpected keyword argument '" ++ name ++ "'"
  | takenField owner name =>
    owner ++ ".__init__() got multiple values for argument '" ++ name ++ "'"
  | undecodable tag flaw => Payload.refusal tag flaw
  | callFailed message _ => message
  | unreachable message => message
  | transport message => message
  | discoveryLost message => message
  | alreadyUsed status => "Discovery controller already used (state " ++ status.name ++ ")"
  | nestedRun => "asyncio.run() cannot be called from a running event loop"
  | noReceiver => "PacketAssembler requires a callback"
  | noListenerReceiver => "BleListener initialized with empty callback"
  | setting flaw => flaw.message
  | settings flaws => Settings.report flaws
  | nullCharacter => "embedded null byte"
  | textWanted kind => "str expected, not " ++ kind.plainName
  | illegalVariable => "illegal environment variable name"
  | noVariant shown => "Cannot build a D-Bus variant for " ++ shown
  | shortRange => "DBus INT16 type " ++ "\"n\"" ++ " must be between -32768 and 32767"
  | invalidName part text => "invalid " ++ part.title ++ ": " ++ text
  | invalidSignature flaw => flaw.message
  | system message => message
  | isDirectory path => hostFailure 21 "Is a directory" path
  | notDirectory path => hostFailure 20 "Not a directory" path
  | fileExists path => hostFailure 17 "File exists" path
  | noSuchFile path => hostFailure 2 "No such file or directory" path
  | nameTooLong path => hostFailure 36 "File name too long" path
  | notText flaw => flaw.message
  | unknownLevel name => "module 'logging' has no attribute '" ++ name ++ "'"
  | bytesForName => "attribute name must be string, not 'bytes'"
  | noLevel text => "Unknown level: " ++ Text.quoted text
  | notRecordLevel => "level must be an integer"
  | notLoggerName => "A logger name must be a string"
  | noLevels => "Level not an integer or a valid string: " ++ layoutTable
  | template flaw => flaw.message
  | noSignal shown => shown ++ " is not a valid Signals"
  | other _ message => message

/-- The class of a part of a message that has not the form of its name. -/
def nameTitle : Bus.NamePart → String
  | .service => "InvalidBusNameError"
  | .path => "InvalidObjectPathError"
  | .interface => "InvalidInterfaceNameError"
  | .member => "InvalidMemberNameError"

/-- The class under which reports name a cause. -/
def title : Fault → String
  | invalidAddress _ | malformedInt _ | tooManyDigits _ | wholeOfNaN | byteRange | negativeCount
  | noReceiver | noListenerReceiver | nullCharacter | illegalVariable | noLevel _ | noSignal _
  | notDecimal _ | notHexPairs _ =>
    "ValueError"
  | wholeOfInfinity | wholeTooLarge | countTooLarge | bytesTooLarge => "OverflowError"
  | notReal _ | notWhole _ | notByte _ | textForBytes | notBytes _ | notIterable _ | unordered ..
  | noVariant _ | unsupported .. | bytesWanted _ | notSearchable _ | notPlace .. | noPlaces _
  | notKey _ | notPath _ | notPathPart _ | bytesForPath | notNumber _ | notArguments ..
  | missingArguments .. | extraArguments .. | unknownField .. | takenField .. | bytesForName
  | noLevels | notJoined .. | notHexText _ | textWanted _ | notRecordLevel | notLoggerName =>
    "TypeError"
  | unwritable cause _ => cause.title
  | notHexadecimal kind => if hasFormats kind then "ValueError" else "TypeError"
  | noPlace _ | placeTooLarge => "IndexError"
  | noKey _ => "KeyError"
  | outOfMemory => "MemoryError"
  | undecodable .. => "DecodeError"
  | callFailed .. => "TransportCallError"
  | unreachable _ => "TransportConnectionError"
  | transport _ => "TransportError"
  | discoveryLost .. => "DiscoveryLostError"
  | alreadyUsed _ | nestedRun => "RuntimeError"
  | setting _ | settings _ => "ConfigurationError"
  | shortRange => "SignatureBodyMismatchError"
  | invalidName part _ => nameTitle part
  | invalidSignature _ => "InvalidSignatureError"
  | system _ | nameTooLong _ => "OSError"
  | isDirectory _ => "IsADirectoryError"
  | notDirectory _ => "NotADirectoryError"
  | fileExists _ => "FileExistsError"
  | noSuchFile _ => "FileNotFoundError"
  | notText _ => "UnicodeDecodeError"
  | unknownLevel _ | missingAttribute _ | noAttribute .. => "AttributeError"
  | template flaw => flaw.title
  | other kind _ => kind

/-- The loss of discovery on an adapter after some attempts to restart it. -/
def lost (adapter : String) (attempts : Value) : Fault :=
  discoveryLost
    ("Discovery on " ++ adapter ++ " lost after " ++ attempts.display ++ " restart attempts")

/-- Whether a cause is a value that could write a number and writes none. -/
def isMalformed : Fault → Bool
  | malformedInt _ | tooManyDigits _ | wholeOfNaN | notDecimal _ => true
  | _ => false

/-- Whether a cause is a refused call or subscription, after which work goes on. -/
def isCallFailure : Fault → Bool
  | callFailed .. => true
  | _ => false

end Fault

/-- A message to the operator, with the fault it reports if there is one. -/
structure Notice where
  level : Level
  message : String
  fault : Option Fault := none

end TagGateway
