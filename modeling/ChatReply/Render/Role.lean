import ChatReply.Document
import ChatReply.Text.Paint

/-!
# Roles and looks

Every piece of a rendered document plays a role, and each role has one look. A painter writes a
piece of text in its role: with terminal codes, or plainly.
-/

namespace ChatReply

/-- Parts of a rendered document that come neither from runs nor from tokens. -/
inductive Element where
  | header | listMarker | separator | codeFrame
deriving DecidableEq, Repr

/-- The role of a piece of rendered text. -/
inductive Role where
  /-- The text of a token of code. -/
  | token (kind : TokenKind)
  /-- The text of a run. -/
  | run (style : Style)
  /-- Any other part of the document. -/
  | element (element : Element)
deriving DecidableEq, Repr

namespace Role

/-- The look of a role. -/
def look : Role → Look
  | token .keyword => { foreground := some .blue, bold := true }
  | token .typeName => { foreground := some .cyan, bold := true }
  | token .stringLiteral => { foreground := some .red }
  | token .numberLiteral => { foreground := some .yellow }
  | token .comment => { foreground := some .green }
  | token .preprocessor => { foreground := some .magenta }
  | token .operator => { foreground := some .brightBlack }
  | token .plainText => {}
  | run .plain => {}
  | run .bold => { bold := true }
  | run .inlineCode => { foreground := some .red, background := some .brightWhite }
  | element .header => { foreground := some .blue, bold := true }
  | element .listMarker => { bold := true }
  | element .separator => { foreground := some .brightBlack }
  | element .codeFrame => { foreground := some .brightBlack }

end Role

/-- A painter writes a text in its role. -/
abbrev Painter := Role → Text → Text

namespace Painter

/-- Writes a text in the look of its role. -/
def styled : Painter := fun role text =>
  Paint.draw role.look text

/-- Writes a text as it is. -/
def plain : Painter := fun _ text =>
  text

/-- Writes runs one after the other. -/
def runs (paint : Painter) (runs : List Run) : Text :=
  runs.flatMap fun run => paint (.run run.style) run.text

/-- Writes tokens one after the other. -/
def tokens (paint : Painter) (tokens : List Token) : Text :=
  tokens.flatMap fun token => paint (.token token.kind) token.text

end Painter
end ChatReply
