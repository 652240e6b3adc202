import AlignedLedger.Alignment.AlignedValue
import AlignedLedger.Amount
import AlignedLedger.Label

/-! What can go wrong, one constructor a cause. The kind, the wording and the details of each are
fixed here and nowhere else. -/

namespace AlignedLedger

inductive FaultKind where
  | ledger
  /-- A value outside a descriptor's domain. -/
  | descriptor
  /-- Wire data that do not match what they are read as. -/
  | decode
  /-- A witness or an argument of the wrong shape. -/
  | shape
  /-- Navigation in a tree or the operand stack. -/
  | structural
  /-- A rule of a contract. -/
  | assertion
  | costLimit
  | transcript
  | context
  /-- Data that an operation is not defined for; no report goes with these. -/
  | wrongType
  | badValue
  /-- Text without a UTF-8 form. -/
  | unencodable
  | missingAttribute
  | missingKey
  | missingPosition
  /-- A number or size beyond what a machine counts. -/
  | overflow
  | memory
  | directory
  | notADirectory
  | missingFile
  | fileExists
  | nameLength
  | markup
deriving DecidableEq

namespace FaultKind

/-- The kinds that come with a code, a message and details. -/
def isReported : FaultKind → Bool
  | wrongType | badValue | unencodable | missingAttribute | missingKey | missingPosition | overflow
  | memory | directory | notADirectory | missingFile | fileExists | nameLength | markup => false
  | _ => true

def code : FaultKind → String
  | ledger => "ledger_vm_error"
  | descriptor => "descriptor_error"
  | decode => "decode_error"
  | shape => "shape_error"
  | structural => "structural_error"
  | assertion => "assertion_failed"
  | costLimit => "cost_limit_exceeded"
  | transcript => "transcript_error"
  | context => "context_error"
  | _ => ""

end FaultKind

/-- What can be asked of a container. -/
inductive ContainerUse where
  | index
  | insert
  | remove
  | push

def ContainerUse.phrase : ContainerUse → String
  | index => "index into"
  | insert => "insert into"
  | remove => "remove from"
  | push => "push onto"

/-- The steps that take entries off the operand stack. -/
inductive StackUse where
  | popeq
  | idxKey
  | idx
  | ins
  | addi

def StackUse.phrase : StackUse → String
  | popeq => "popeq"
  | idxKey => "idx stack key"
  | idx => "idx"
  | ins => "ins"
  | addi => "addi"

inductive Fault where
  -- atoms and segments
  | atomLengthNegative
  | atomLengthForbidden (kindName : String)
  | badAtom (got : Datum)
  | unknownAtomKind (got : Datum)
  | segmentNotBytes (got : Datum)
  | segmentTooWide (length : Nat) (atom : Atom)
  | segmentCount (segments atoms : Nat)
  | badAlignedValue (got : Datum)
  | notNumeric (alignment : Alignment)
  | negativeInteger
  -- descriptors
  | integerWidth
  | maxValueTooWide (max length : Int)
  | bytesLengthNegative
  | vectorCountNegative
  | duplicateFields (name : String)
  | notAnInteger (name : Label) (got : Datum)
  | outOfRange (value : Int) (name : Label)
  | notAFieldElement (value : Int)
  | wrongShape (name : Label) (wanted : String) (got : Datum)
  | byteCount (name : Label) (wanted got : Nat)
  | itemCount (name : Label) (wanted got : Nat)
  | fieldNames (name : String) (wanted : List String) (got : List Datum)
  | notDefault (slot : Label) (default got : Datum)
  | textTooLong (text : String) (length : Datum)
  | notBytesLike (name : String) (got : Datum)
  | notNatural (got : Datum)
  | numberTooWide (value : Nat) (length : Datum)
  | outOfSegments (atom : Atom)
  | cannotSkip (count left : Nat)
  | trailingSegments (count : Nat) (name : Label)
  | alignmentMismatch (name : Label) (atoms : Nat) (got : Alignment)
  | exceedsRange (value : Nat) (name : Label)
  | notAMember (value : Nat) (name : Label)
  | invalidBoolean (segment : Bytes)
  | invalidUtf8
  -- trees
  | notNumericKey (alignment : Alignment)
  | indexOutOfRange (index size : Nat)
  | unsupported (use : ContainerUse) (tag : String)
  | notACell (tag : String)
  | cellContent (got : Datum)
  | cellTooLarge (cap : Nat)
  | arrayTooLong (cap : Nat)
  | missingMapKey (key : AlignedValue)
  | chargedContent (got : Datum)
  | badNode (got : Datum)
  | badMapEntry (got : Datum)
  | unknownNodeTag (tag : Datum)
  | invalidCbor (what : String)
  | notAStateFile
  | unsupportedVersion (got : Datum)
  -- instructions
  | badInstruction (got : Datum)
  | malformedInstruction (name got : Datum)
  | unknownInstructionName (name : Datum)
  | badPathKey (got : Datum)
  | unknownInstruction (position : Nat) (got : Datum)
  | cannotPush (got : Datum)
  | stackOverflow (cap : Nat)
  | dupDepth (n : Int) (depth : Nat)
  | pathTooLong (steps cap : Nat)
  | stackUnderflow (use : StackUse) (wanted depth : Nat)
  | popeqMismatch (expected found : AlignedValue)
  | negativeInsCount
  | negativeImmediate
  | addiRejected (cause : Fault)
  | leftOnStack (count : Nat)
  -- cost
  | noCostEntry (got : Datum)
  | amountNotInteger (name : String) (got : Datum)
  | amountNegative (name : String) (value : Int)
  | costLimitExceeded (used : Nat) (limit need : Amount)
  -- contexts, witnesses, transcripts
  | invalidHexAddress (got : Datum)
  | notAnAddress (got : Datum)
  | addressLength (got : Nat)
  | queryContextState (got : Datum)
  | notAConstructorContext
  | notACircuitContext (circuit : String) (got : Datum)
  | witnessesRequired
  | witnessMissing (name : String)
  | witnessReturn (name : String) (got : Datum)
  | witnessValue (name : String) (expected : Label) (cause : Fault)
  | transcriptFinished
  | outputAlreadySet
  | proofShape
  -- the bulletin board
  | notBytes32 (argument : String)
  | slotUnread (slot : Nat)
  | assertionFailed (reason : String)
  -- data that an operation is not defined for
  | wrongType
  | badValue
  | unencodable
  | missingAttribute
  | missingKey
  | missingPosition
  | tooLarge
  | outOfMemory
  -- files and the terminal
  | isDirectory
  | notADirectory
  | missingFile
  | fileExists
  | nameTooLong
  | badMarkup

namespace Fault

def kind : Fault → FaultKind
  | atomLengthNegative | atomLengthForbidden _ | negativeInteger | integerWidth
  | maxValueTooWide .. | bytesLengthNegative | vectorCountNegative | duplicateFields _
  | notAnInteger .. | outOfRange .. | notAFieldElement _ | wrongShape .. | byteCount ..
  | itemCount .. | fieldNames .. | notDefault .. | textTooLong .. | notBytesLike ..
  | notNatural _ | numberTooWide .. => .descriptor
  | badAtom _ | unknownAtomKind _ | segmentNotBytes _ | segmentTooWide .. | segmentCount ..
  | badAlignedValue _ | notNumeric _ | outOfSegments _ | cannotSkip .. | trailingSegments ..
  | alignmentMismatch .. | exceedsRange .. | notAMember .. | invalidBoolean _ | invalidUtf8
  | badNode _ | badMapEntry _ | unknownNodeTag _ | invalidCbor _ | notAStateFile
  | unsupportedVersion _ | badInstruction _ | malformedInstruction .. | unknownInstructionName _
  | badPathKey _ | proofShape => .decode
  | notNumericKey _ | indexOutOfRange .. | unsupported .. | notACell _ | cellContent _
  | cellTooLarge _ | arrayTooLong _ | missingMapKey _ | chargedContent _ | unknownInstruction ..
  | cannotPush _ | stackOverflow _ | dupDepth .. | pathTooLong .. | stackUnderflow ..
  | popeqMismatch .. | negativeInsCount | negativeImmediate | addiRejected _ | leftOnStack _
  | slotUnread _ => .structural
  | noCostEntry _ | amountNotInteger .. | amountNegative .. => .ledger
  | costLimitExceeded .. => .costLimit
  | invalidHexAddress _ | notAnAddress _ | addressLength _ | queryContextState _
  | notAConstructorContext | notACircuitContext .. => .context
  | witnessesRequired | witnessMissing _ | witnessReturn .. | witnessValue ..
  | notBytes32 _ => .shape
  | transcriptFinished | outputAlreadySet => .transcript
  | assertionFailed _ => .assertion
  | wrongType => .wrongType
  | badValue => .badValue
  | unencodable => .unencodable
  | missingAttribute => .missingAttribute
  | missingKey => .missingKey
  | missingPosition => .missingPosition
  | tooLarge => .overflow
  | outOfMemory => .memory
  | isDirectory => .directory
  | notADirectory => .notADirectory
  | missingFile => .missingFile
  | fileExists => .fileExists
  | nameTooLong => .nameLength
  | badMarkup => .markup

def textList (names : List String) : String := Datum.listText (names.map Text.quoted)

def message : Fault → String
  | atomLengthNegative => "bytes atom length must be >= 0"
  | atomLengthForbidden k => k ++ " atom carries no length"
  | badAtom d => "bad alignment atom: " ++ d.written
  | unknownAtomKind d => "unknown alignment atom kind " ++ d.written
  | segmentNotBytes d => "segment must be bytes, got " ++ d.kindName
  | segmentTooWide n a => s!"segment of {n} bytes does not fit " ++ a.name
  | segmentCount n m => s!"{n} segments for an alignment of {m} atoms"
  | badAlignedValue d => "bad aligned value: " ++ d.written
  | notNumeric a => "not a numeric value: alignment " ++ a.text
  | negativeInteger => "cannot encode a negative integer"
  | integerWidth => "integer byte width must be > 0"
  | maxValueTooWide m n => s!"max value {m} does not fit {n} bytes"
  | bytesLengthNegative => "bytes length must be >= 0"
  | vectorCountNegative => "vector count must be >= 0"
  | duplicateFields name => "duplicate field names in " ++ name
  | notAnInteger name d => name.text ++ " must be an int, got " ++ d.kindName
  | outOfRange v name => s!"{v} out of range for {name.text}"
  | notAFieldElement v => s!"{v} is not a field element"
  | wrongShape name wanted d => name.text ++ " expects " ++ wanted ++ ", got " ++ d.kindName
  | byteCount name n k => s!"{name.text} expects exactly {n} bytes, got {k}"
  | itemCount name n k => s!"{name.text} expects {n} items, got {k}"
  | fieldNames name wanted got =>
    name ++ " expects fields " ++ textList wanted ++ ", got " ++ (Datum.list got).written
  | notDefault slot d v => slot.text ++ " must be " ++ d.written ++ ", got " ++ v.written
  | textTooLong t n => Text.quoted t ++ " does not fit in " ++ n.shown ++ " bytes"
  | notBytesLike name d => name ++ " must be bytes-like (got " ++ d.kindName ++ ")"
  | notNatural d => "expected a non-negative int, got " ++ d.written
  | numberTooWide v n => s!"{v} does not fit in " ++ n.shown ++ " bytes"
  | outOfSegments a => "ran out of segments while reading " ++ a.name
  | cannotSkip n left => s!"cannot skip {n} segments, {left} left"
  | trailingSegments n name => s!"{n} trailing segments after decoding {name.text}"
  | alignmentMismatch name n got =>
    s!"{name.text} expects alignment of {n} atoms, got " ++ got.text
  | exceedsRange v name => s!"{v} exceeds {name.text}"
  | notAMember v name => s!"{v} is not a member of {name.text}"
  | invalidBoolean s => "invalid boolean byte " ++ Hex.marked s
  | invalidUtf8 => "opaque string is not valid UTF-8"
  | notNumericKey a => "array index must be a numeric key, got " ++ a.text
  | indexOutOfRange i n => s!"array index {i} out of range (size {n})"
  | unsupported use tag => "cannot " ++ use.phrase ++ " " ++ tag
  | notACell tag => "expected a cell, found " ++ tag
  | cellContent d => "cell holds an AlignedValue, got " ++ d.kindName
  | cellTooLarge cap => s!"cell exceeds {cap} bytes"
  | arrayTooLong cap => s!"array exceeds {cap} entries"
  | missingMapKey k => "missing map key " ++ k.written
  | chargedContent d => "ChargedState wraps a StateValue, got " ++ d.kindName
  | badNode d => "bad state node: " ++ d.written
  | badMapEntry d => "bad map entry: " ++ d.written
  | unknownNodeTag d => "unknown state node tag " ++ d.shown
  | invalidCbor what => what ++ " is not valid CBOR"
  | notAStateFile => "not a ledger_vm state file"
  | unsupportedVersion d => "unsupported state file version " ++ d.written
  | badInstruction d => "bad instruction: " ++ d.written
  | malformedInstruction name d =>
    "malformed " ++ name.written ++ " instruction: " ++ d.written
  | unknownInstructionName name => "unknown instruction " ++ name.written
  | badPathKey d => "bad path key: " ++ d.written
  | unknownInstruction position d => s!"unknown instruction at {position}: " ++ d.written
  | cannotPush d => "cannot push " ++ d.kindName
  | stackOverflow cap => s!"operand stack exceeds {cap}"
  | dupDepth n depth => s!"dup {n} with stack depth {depth}"
  | pathTooLong n cap => s!"path of {n} steps exceeds {cap}"
  | stackUnderflow use n k => "stack underflow in " ++ use.phrase ++ s!": need {n}, have {k}"
  | popeqMismatch .. => "popeq result mismatch"
  | negativeInsCount => "ins count must be >= 0"
  | negativeImmediate => "addi immediate must be >= 0"
  | addiRejected cause => "addi: " ++ cause.message
  | leftOnStack n => s!"instruction sequence left {n} stack entries, expected 1"
  | noCostEntry d => "no cost entry for " ++ d.kindName
  | amountNotInteger name d => name ++ " must be int, got " ++ d.kindName
  | amountNegative name v => s!"{name} must be >= 0, got {v}"
  | costLimitExceeded used limit need =>
    s!"cost limit exceeded: need {need.value} (used {used}, limit {limit.value})"
  | invalidHexAddress d => "invalid hex address: " ++ d.written
  | notAnAddress d => "cannot convert type " ++ d.kindName ++ " to an address"
  | addressLength n => s!"address must be 32 bytes, got {n}"
  | queryContextState d => "query context needs a ChargedState, got " ++ d.kindName
  | notAConstructorContext => "initial_state expects a ConstructorContext"
  | notACircuitContext circuit d => circuit ++ ": expected a CircuitContext, got " ++ d.kindName
  | witnessesRequired => "witnesses object is required"
  | witnessMissing name => "witnesses object has no callable " ++ Text.quoted name
  | witnessReturn name _ =>
    "witness " ++ Text.quoted name ++ " must return (private_state, value)"
  | witnessValue name expected cause =>
    "witness " ++ Text.quoted name ++ " returned a value that is not a " ++ expected.text ++
      ": " ++ cause.message
  | transcriptFinished => "transcript already finished"
  | outputAlreadySet => "transcript output already set"
  | proofShape => "proof data must be a 4-element array"
  | notBytes32 argument => argument ++ " must be Bytes<32>"
  | slotUnread i => s!"read of slot {i} produced no value"
  | assertionFailed reason => reason
  | wrongType => "data of a wrong kind"
  | badValue => "data without a meaning here"
  | unencodable => "text without a UTF-8 form"
  | missingAttribute => "data that cannot be asked for this"
  | missingKey => "no such key"
  | missingPosition => "no such position"
  | tooLarge => "a number or size that is too large"
  | outOfMemory => "out of memory"
  | isDirectory => "a directory stands in the place of the file"
  | notADirectory => "a file stands in the place of a directory"
  | missingFile => "no such file or directory"
  | fileExists => "a file stands in the place of the directory"
  | nameTooLong => "the name is too long"
  | badMarkup => "the text has marks of style that do not match"

/-- The lengths in the names of atoms. -/
def lengths (a : Alignment) : List Datum := a.map fun x => .int x.length

/-- The numbers in a name. -/
def numbers (name : Label) : List Datum := name.numbers.map fun (n : Nat) => .int n

/-- What a message spells out that may be of any length. -/
def spelled : Fault → List Datum
  | badAtom d | unknownAtomKind d | badAlignedValue d | notNatural d | badNode d | badMapEntry d
  | unknownNodeTag d | unsupportedVersion d | badInstruction d | unknownInstructionName d
  | badPathKey d | unknownInstruction _ d => [d]
  | notNumeric a | notNumericKey a => lengths a
  | alignmentMismatch name _ a => numbers name ++ lengths a
  | segmentTooWide _ a | outOfSegments a => lengths [a]
  | missingMapKey k => lengths k.alignment
  | popeqMismatch expected found => lengths expected.alignment ++ lengths found.alignment
  | maxValueTooWide m n => [.int m, .int n]
  | notAFieldElement v | amountNegative _ v | dupDepth v _ => [.int v]
  | indexOutOfRange v _ | stackUnderflow _ v _ => [.int v]
  | outOfRange v name => .int v :: numbers name
  | exceedsRange v name | notAMember v name => .int v :: numbers name
  | notAnInteger name _ | wrongShape name _ _ | byteCount name _ _ | itemCount name _ _
  | trailingSegments _ name => numbers name
  | notDefault slot d v => numbers slot ++ [d, v]
  | fieldNames _ _ got => got
  | textTooLong _ n => [n]
  | numberTooWide v n => [.int v, n]
  | malformedInstruction name d => [name, d]
  | costLimitExceeded used limit need => [.int used, .int limit.value, .int need.value]
  | addiRejected cause => cause.spelled
  | witnessValue _ expected cause => numbers expected ++ cause.spelled
  | _ => []

/-- The fault that is told in the place of this one: a message with a number too long to be written
cannot be made. -/
def told (f : Fault) : Fault := if f.spelled.all Datum.isWritable then f else .badValue

/-- The details that go with a report. -/
def details : Fault → List (String × Json)
  | indexOutOfRange i n => [("index", .int i), ("size", .int n)]
  | popeqMismatch expected found => [("expected", expected.toJson), ("found", found.toJson)]
  | costLimitExceeded used limit need =>
    [("used", .int used), ("limit", limit.toJson), ("need", need.toJson)]
  | witnessMissing name => [("witness", .text name)]
  | witnessReturn name d => [("witness", .text name), ("got", .text d.kindName)]
  | witnessValue name expected _ => [("witness", .text name), ("expected", .text expected.text)]
  | notBytes32 argument => [("argument", .text argument)]
  | _ => []

end Fault

/-- A report as it reaches the caller. -/
structure Report where
  kind : FaultKind
  code : String
  message : String
  details : List (String × Json)

namespace Report

/-- A report made by hand, of data that are shown as text. Without a code it has that of its kind; only
a failed assertion needs a message. -/
def make (kind : FaultKind) (message : Option Datum) (code : Datum)
    (details : List (String × Json)) : Except Fault Report :=
  let code := if code.isNull then kind.code else code.shown
  match message, kind with
  | some d, _ => .ok ⟨kind, code, d.shown, details⟩
  | none, .assertion => .error .wrongType
  | none, _ => .ok ⟨kind, code, "", details⟩

def toJson (r : Report) : Json :=
  .object [("code", .text r.code), ("message", .text r.message), ("context", .object r.details)]

/-- Reports about values that are wrong in themselves. -/
def concernsValue (r : Report) : Bool := r.kind = .descriptor || r.kind = .decode

/-- Reports about values of a wrong type. -/
def concernsType (r : Report) : Bool := r.kind = .shape

end Report

namespace Fault

def report (f : Fault) : Report := ⟨f.kind, f.kind.code, f.message, f.details⟩

end Fault

/-- Writing a name out, which fails with a number in it that is too long. -/
def Label.spell (name : Label) : Except Fault Unit :=
  if name.isWritable then .ok () else .error .badValue

/-- Refuses to go on unless the condition holds. -/
def assertThat (condition : Bool) (reason : String) : Except Fault Unit :=
  if condition then .ok () else .error (.assertionFailed reason)

end AlignedLedger
