import ChatReply.Text.Range

/-!
# Terminal colours

A painted text stands between a row of select graphic rendition codes and the code that resets
them. Codes can be taken out of a text again.
-/

namespace ChatReply

/-- The colours in use. -/
inductive Color where
  | red | green | yellow | blue | magenta | cyan | brightBlack | brightWhite
deriving DecidableEq, Repr

namespace Color

/-- The name of a colour. -/
def name : Color → String
  | red => "red"
  | green => "green"
  | yellow => "yellow"
  | blue => "blue"
  | magenta => "magenta"
  | cyan => "cyan"
  | brightBlack => "bright_black"
  | brightWhite => "bright_white"

/-- The code that selects the colour for the letters; the background has ten more. -/
def code : Color → Nat
  | red => 31
  | green => 32
  | yellow => 33
  | blue => 34
  | magenta => 35
  | cyan => 36
  | brightBlack => 90
  | brightWhite => 97

end Color

/-- How a text is drawn. -/
structure Look where
  /-- The colour of the letters. -/
  foreground : Option Color := none
  /-- The colour behind the letters. -/
  background : Option Color := none
  /-- Whether the letters are bold. -/
  bold : Bool := false
deriving DecidableEq, Repr

namespace Paint

/-- The character that starts a terminal code. -/
def escapeChar : Char := '\x1b'

/-- The terminal code that selects one graphic rendition. -/
def select (code : Nat) : Text :=
  escapeChar :: '[' :: (Nat.repr code).toList ++ ['m']

/-- The codes that select a look. -/
def codes (look : Look) : Text :=
  (look.foreground.map fun color => select color.code).getD [] ++
    (look.background.map fun color => select (color.code + 10)).getD [] ++
    (if look.bold then select 1 else [])

/-- Draws a text. An empty text and the plain look need no codes. -/
def draw (look : Look) (text : Text) : Text :=
  if text = [] ∨ look = {} then text else codes look ++ text ++ select 0

/-- The character may stand between the bracket and the final letter of a terminal code. -/
def isParameter (c : Char) : Bool :=
  c == ';' || c == '?' || ('0' ≤ c && c ≤ '9')

/-- The length of the terminal code at the head of a text, zero where there is none. -/
def codeLength : Text → Nat
  | start :: '[' :: rest =>
    if start = escapeChar then
      let parameters := (rest.takeWhile isParameter).length
      if (rest.drop parameters).head?.any Char.isAlpha then parameters + 3 else 0
    else 0
  | _ => 0

/-- The text without its terminal codes. -/
def strip (text : Text) : Text :=
  match text with
  | [] => []
  | c :: rest =>
    if codeLength (c :: rest) = 0 then c :: strip rest
    else strip ((c :: rest).drop (codeLength (c :: rest)))
termination_by text.length
decreasing_by
  · simp
  · simp only [List.length_drop, List.length_cons]
    omega

end Paint
end ChatReply
