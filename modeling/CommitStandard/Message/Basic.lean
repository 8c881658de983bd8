import CommitStandard.Footer

/-!
# Commit messages

A message has a header, a body and footers. This module holds the edits of a message, its paint,
and its written form, `Message.render`: the header, the body and the footers as paragraphs.
-/
namespace CommitStandard

/-- A commit message. -/
structure Message where
  header : Header
  body : Text
  footers : List Footer
  bodyStyle : Style
  /-- The text last given for a breaking change. -/
  breakingText : Option Text

/-- What an operation on a footer did and found. -/
structure FooterChange where
  message : Message
  footer : Option Footer

namespace Message

/-- A message without paint. -/
def make (header : Header) (body : Text) (footers : List Footer) : Message :=
  ⟨header, body, footers, .plain, none⟩

def setBody (m : Message) (value : Text) : Message := { m with body := Text.strip value }

/-- Sets the footers from their lines; all of them have to be footers. -/
def setFooters (m : Message) (lines : List Text) : Except InvalidFooter Message :=
  (Footer.parseAll lines).map fun footers => { m with footers }

def trailers (m : Message) : List Text := m.footers.map Footer.token

def footer? (m : Message) (token : Text) : Option Footer :=
  m.footers.find? (·.hasToken token)

def updateFirst (token : Text) (f : Footer → Footer) : List Footer → List Footer
  | [] => []
  | g :: gs => if g.hasToken token then f g :: gs else g :: updateFirst token f gs

/-- Sets the text of the first footer with a token, or adds such a footer at the end. -/
def upsertFooter (m : Message) (token text : Text) : FooterChange :=
  match m.footer? token with
  | some f => ⟨{ m with footers := updateFirst token (·.setText text) m.footers },
      some (f.setText text)⟩
  | none =>
    let f := Footer.make token text
    ⟨{ m with footers := m.footers ++ [f] }, some f⟩

def removeFooter (m : Message) (token : Text) : FooterChange :=
  ⟨{ m with footers := m.footers.eraseP (·.hasToken token) }, m.footer? token⟩

def isBreaking (m : Message) : Bool := m.header.breaking || m.footers.any Footer.isBreaking

/-- Turns the announcement of a breaking change on or off. Turning it on records the text given
now or before in a footer; turning it off removes all such footers. -/
def toggleBreaking (m : Message) (text : Option Text) : Message :=
  if m.isBreaking then
    { m with
      header := m.header.setBreaking false
      footers := m.footers.filter fun f => !f.isBreaking }
  else
    let given := match text with
      | some (c :: cs) => some (c :: cs)
      | _ => m.breakingText
    let m := { m with header := m.header.setBreaking true, breakingText := given }
    match given with
    | some (c :: cs) => (m.upsertFooter Footer.breakingToken (c :: cs)).message
    | _ => m

/-- Whether the name of a part, or its absence, means the body. -/
def meansBody (part : Option Text) : Bool := part.all (· == Part.body.name)

/-- Whether the name of a part, or its absence, means footers. -/
def meansFooters (part : Option Text) : Bool :=
  part.all fun name => [Part.footer, Part.trailer, Part.footers].any fun p => p.name == name

/-- Changes the styles of what a part name means; among the footers, of those with the token that
is asked for. -/
def restyle (m : Message) (part token : Option Text) (f : Style → Style) : Message :=
  { m with
    header := m.header.restyle (HeaderField.named part) f
    bodyStyle := if meansBody part then f m.bodyStyle else m.bodyStyle
    footers := m.footers.map fun g =>
      if meansFooters part && token.all g.hasToken then { g with style := f g.style } else g }

def setPaint (m : Message) (paint : Text → Text) (part token : Option Text) : Message :=
  m.restyle part token (·.withPaint paint)

def showPaint (m : Message) (shown : Bool) (part token : Option Text) : Message :=
  m.restyle part token (·.withShown shown)

/-- The message without any paint shown. -/
def unpainted (m : Message) : Message := m.showPaint false none none

/-- The paragraphs of the written form. -/
def paragraphs (m : Message) : List Text :=
  m.header.render :: ((if m.body.isEmpty then [] else [m.bodyStyle.apply m.body]) ++
    m.footers.map Footer.render)

/-- Writes the message: its parts with blank lines between them. -/
def render (m : Message) : Text := Text.join "\n\n".toList m.paragraphs

end Message

end CommitStandard
