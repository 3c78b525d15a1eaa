import InstructionCatalog.Markup.StartTag

/-!
# Reading errors

Why a text is not a document with a single root element.  Faults of the markup
itself carry the byte offset at which reading stopped.
-/

namespace InstructionCatalog.Markup

inductive Fault where
  | unknownMarkup
  | openInstruction
  | openComment
  | openDoctype
  | openCdata
  | openTag
  | unnamedDoctype
  | unmatchedEnd (name : String)
  | mismatchedEnd (expected found : String)
  deriving DecidableEq, Repr

inductive MarkupError where
  | fault (cause : Fault) (offset : Nat)
  | badAttribute (tag : String) (cause : AttributeError)
  | badData (cause : EntityError)
  | secondRoot
  | dataOutsideRoot
  | strayEnd
  | unclosed (tag : String)
  | noElement
  deriving DecidableEq, Repr

def Fault.message : Fault → String
  | unknownMarkup => "syntax error: unknown or missed symbol in markup"
  | openInstruction =>
      "syntax error: processing instruction or xml declaration not closed: " ++
        "`?>` not found before end of input"
  | openComment => "syntax error: comment not closed: `-->` not found before end of input"
  | openDoctype => "syntax error: DOCTYPE not closed: `>` not found before end of input"
  | openCdata => "syntax error: CDATA not closed: `]]>` not found before end of input"
  | openTag => "syntax error: tag not closed: `>` not found before end of input"
  | unnamedDoctype =>
      "ill-formed document: `<!DOCTYPE>` declaration does not contain a name of a document type"
  | unmatchedEnd name =>
      s!"ill-formed document: close tag `</{name}>` does not match any open tag"
  | mismatchedEnd expected found =>
      s!"ill-formed document: expected `</{expected}>`, but `</{found}>` was found"

def AttributeError.detail : AttributeError → String
  | noEquals position =>
      s!"position {position}: attribute key must be directly followed by `=` or space"
  | duplicated position previous =>
      s!"position {position}: duplicated attribute, previous declaration at position {previous}"
  | noValue position => s!"position {position}: `=` must be followed by an attribute value"
  | unquoted position =>
      s!"position {position}: attribute value must be enclosed in `\"` or `'`"
  | unclosedQuote position quote =>
      s!"position {position}: missing closing quote `{quote}` in attribute value"
  | badValue _ cause => cause.message

def AttributeError.message (tag : String) : AttributeError → String
  | badValue key cause => s!"bad value for attribute '{key}': " ++ cause.message
  | e => s!"bad attribute on <{tag}>: " ++ e.detail

def MarkupError.message : MarkupError → String
  | fault cause offset => cause.message ++ s!" (at byte {offset})"
  | badAttribute tag cause => cause.message tag
  | badData cause => "bad character data: " ++ cause.message
  | secondRoot => "junk after document element"
  | dataOutsideRoot => "text outside of the document element"
  | strayEnd => "closing tag without matching opening tag"
  | unclosed tag => s!"unexpected end of input: <{tag}> is not closed"
  | noElement => "no element found"

end InstructionCatalog.Markup
