import StartupGate.Data.Moment
import StartupGate.Number.Literal
/-!
# Errors of a YAML document

A document is refused at one of six stages: bytes that are no text, a character that may not stand
in it, a text that is no token, tokens that form no document, references that do not fit, or a tag
that its value does not bear out. Beyond that a scalar may be of the right form and yet stand for no
value.
-/

namespace StartupGate.Yaml

/-- Why a text is no token. -/
inductive TokenFault where
  /-- A key stands where a colon has to follow on its line. -/
  | keyWithoutValue
  | unexpectedCharacter
  | entryNotAllowed
  | keyNotAllowed
  | valueNotAllowed
  | directive
  | anchorName
  | tagHandle
  | tagAddress
  | blockHeader
  | unknownEscape
  | unfinishedQuote
  | separatorInQuote
  /-- The reader ran out of steps. -/
  | exhausted
deriving Repr, DecidableEq

/-- Why tokens form no document. -/
inductive GrammarFault where
  | nodeExpected
  | blockEndExpected
  | flowSequenceEndExpected
  | flowMappingEndExpected
  | documentStartExpected
  | repeatedVersion
  | unsupportedVersion
  | repeatedHandle
  | undefinedHandle
deriving Repr, DecidableEq

/-- Why references do not fit. -/
inductive ReferenceFault where
  | undefinedAlias
  | repeatedAnchor
  | secondDocument
deriving Repr, DecidableEq

/-- Why a value does not bear out its tag. -/
inductive TagFault where
  | unknownTag
  | scalarExpected
  | sequenceExpected
  | mappingExpected
  | mergeSource
  | unusableKey
  | singlePairExpected
  | binaryData
deriving Repr, DecidableEq

/-- Why a scalar of the right form stands for no value. -/
inductive ValueFault where
  | literal (e : Number.LiteralError)
  | moment (e : MomentError)
  /-- A word that is no boolean. -/
  | noBoolean (word : String)
  /-- A number without a single character. -/
  | emptyNumber
  /-- A number in sixties of so many places that their weight is beyond the range of a double. -/
  | placesTooMany
  /-- A text that is no timestamp. -/
  | noTimestamp
  /-- A collection where the text of a timestamp is needed. -/
  | timestampOfCollection
  /-- An escape beyond the last code point. -/
  | codePoint
  /-- An escape beyond what is an integer of 32 bits. -/
  | codePointSize
deriving Repr, DecidableEq

/-- Why a document is refused. -/
inductive Error where
  /-- Bytes that are no UTF-8. -/
  | undecodable
  /-- A character that no document may hold. -/
  | unprintable
  | token (fault : TokenFault)
  | grammar (fault : GrammarFault)
  | reference (fault : ReferenceFault)
  | tag (fault : TagFault)
  | value (fault : ValueFault)
deriving Repr, DecidableEq

/-- The wording of a value fault. -/
def ValueFault.message : ValueFault → String
  | .literal e => e.message
  | .moment e => e.message
  | .noBoolean word => Text.quote word
  | .emptyNumber => "string index out of range"
  | .placesTooMany => "int too large to convert to float"
  | .noTimestamp => "'NoneType' object has no attribute 'groupdict'"
  | .timestampOfCollection => "expected string or bytes-like object, got 'list'"
  | .codePoint => "chr() arg not in range(0x110000)"
  | .codePointSize => "Python int too large to convert to C int"

end StartupGate.Yaml
