import Concord.Grammar.Mailbox
import Concord.Grammar.Moment
import Concord.Grammar.Uri
import Concord.Grammar.UriTemplate
import Concord.Json.Pointer
import Concord.Regex.Pattern

namespace Concord.Validation

/-! The formats that a schema can ask texts to have. -/

inductive Format where
  | date
  | dateTime
  | email
  | hostname
  | ipv4
  | ipv6
  | iri
  | iriReference
  | jsonPointer
  | regex
  | relativeJsonPointer
  | time
  | uri
  | uriReference
  | uriTemplate
deriving DecidableEq, Repr

namespace Format

def name : Format → String
  | .date => "date"
  | .dateTime => "date-time"
  | .email => "email"
  | .hostname => "hostname"
  | .ipv4 => "ipv4"
  | .ipv6 => "ipv6"
  | .iri => "iri"
  | .iriReference => "iri-reference"
  | .jsonPointer => "json-pointer"
  | .regex => "regex"
  | .relativeJsonPointer => "relative-json-pointer"
  | .time => "time"
  | .uri => "uri"
  | .uriReference => "uri-reference"
  | .uriTemplate => "uri-template"

def all : List Format :=
  [.date, .dateTime, .email, .hostname, .ipv4, .ipv6, .iri, .iriReference, .jsonPointer, .regex,
    .relativeJsonPointer, .time, .uri, .uriReference, .uriTemplate]

/-- Other names are those of no format, and ask for nothing. -/
def ofName? (written : String) : Option Format := all.find? fun format => format.name = written

def admits (format : Format) (text : String) : Bool :=
  match format with
  | .date => Grammar.isDate text.toList
  | .dateTime => Grammar.isDateTime text.toList
  | .email => Grammar.isMailbox text.toList
  | .hostname => Grammar.isHostName text.toList
  | .ipv4 => Grammar.isAddress4 text.toList
  | .ipv6 => Grammar.isAddress6 text.toList
  | .iri => Grammar.Uri.isForeignAbsolute text.toList
  | .iriReference => Grammar.Uri.isForeignReference text.toList
  | .jsonPointer => Json.Pointer.isWritten text.toList
  | .regex => (Regex.ofSchemaPattern? text).isSome
  | .relativeJsonPointer => Json.Pointer.isWrittenRelative text.toList
  | .time => Grammar.isTime text.toList
  | .uri => Grammar.Uri.isAbsolute text.toList
  | .uriReference => Grammar.Uri.isReference text.toList
  | .uriTemplate => Grammar.UriTemplate.isWritten text.toList

end Format

end Concord.Validation
