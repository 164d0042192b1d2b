import ChatReply.Text.Hex
import ChatReply.Text.Unprintable

/-!
# Quoted names

How a message quotes a name that a user gave: in single quotes, or in double quotes if the name
holds a single quote and no double quote. Inside, the quote in use, the backslash and every
unprintable character are escaped.
-/

namespace ChatReply

namespace Quoted

/-- The single quote. -/
def single : Char := '\x27'

/-- The double quote. -/
def double : Char := '\x22'

/-- The quote to put around a name. -/
def quoteFor (name : Text) : Char :=
  if name.contains single && !name.contains double then double else single

/-- A character as it stands between quotes. -/
def escape (quote c : Char) : Text :=
  if c = quote ∨ c = '\\' then ['\\', c]
  else if c = '\n' then ['\\', 'n']
  else if c = '\r' then ['\\', 'r']
  else if c = '\t' then ['\\', 't']
  else if isPrintable c then [c]
  else if c.toNat < 0x100 then '\\' :: 'x' :: hexDigits 2 c.toNat
  else if c.toNat < 0x10000 then '\\' :: 'u' :: hexDigits 4 c.toNat
  else '\\' :: 'U' :: hexDigits 8 c.toNat

end Quoted

/-- A name in quotes. -/
def quoted (name : Text) : Text :=
  let quote := Quoted.quoteFor name
  quote :: name.flatMap (Quoted.escape quote) ++ [quote]

/-- A name in quotes, as a string for a message. -/
def quotedString (name : String) : String :=
  String.ofList (quoted name.toList)

end ChatReply
