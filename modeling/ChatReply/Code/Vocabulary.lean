import ChatReply.Code.Token

/-!
# The vocabulary of code

Code in replies is taken for C#. An identifier is a keyword, the name of a common library type, or
neither; case matters.
-/

namespace ChatReply
namespace Code

/-- Keywords: modifiers, primitive types, control flow and contextual keywords. -/
def keywords : List String :=
  ["using", "namespace", "class", "struct", "interface", "enum", "public", "private", "protected",
   "internal", "sealed", "abstract", "static", "const", "readonly", "volatile", "virtual",
   "override", "async", "await", "extern", "unsafe", "partial", "void", "bool", "byte", "sbyte",
   "char", "decimal", "double", "float", "int", "uint", "long", "ulong", "short", "ushort",
   "string", "object", "dynamic", "var", "if", "else", "switch", "case", "default", "break",
   "continue", "for", "foreach", "while", "do", "goto", "return", "yield", "throw", "try",
   "catch", "finally", "checked", "unchecked", "lock", "fixed", "sizeof", "typeof", "is", "as",
   "new", "this", "base", "value", "out", "ref", "in", "params", "operator", "implicit",
   "explicit", "where", "get", "set", "add", "remove", "event", "delegate", "stackalloc"]

/-- Names of common library types. -/
def typeNames : List String :=
  ["Console", "Math", "String", "Int32", "Double", "Single", "Decimal", "Boolean", "Char", "Byte",
   "SByte", "Int16", "UInt16", "Int64", "UInt64", "Object", "Array", "List", "Dictionary",
   "HashSet", "Queue", "Stack", "Tuple", "ValueTuple", "Task", "ValueTask", "DateTime",
   "TimeSpan", "Guid", "Regex", "StringBuilder", "Stream", "File", "Directory", "Path",
   "Environment", "Convert", "Activator"]

/-- The kind of token that an identifier is. -/
def classify (name : Text) : TokenKind :=
  if keywords.contains (String.ofList name) then .keyword
  else if typeNames.contains (String.ofList name) then .typeName
  else .plainText

end Code
end ChatReply
