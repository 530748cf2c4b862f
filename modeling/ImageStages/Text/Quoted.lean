import ImageStages.Text.Printable

namespace ImageStages.Text

/-! Quoted display of a text, as messages show it.

A text stands in single quotes, unless it holds a single quote and no double
quote.  The backslash and the quote in use are escaped, and so is every
character that does not print. -/

def singleQuote : Char := '\x27'

def doubleQuote : Char := '\x22'

def hexDigits (width value : Nat) : List Char :=
  let digits := Nat.toDigits 16 value
  List.replicate (width - digits.length) '0' ++ digits

/-- The escape of a code point by its code point, in the shortest of three widths. -/
def codePointEscape (c : CodePoint) : List Char :=
  if c.toNat ≤ 0xff then '\\' :: 'x' :: hexDigits 2 c.toNat
  else if c.toNat ≤ 0xffff then '\\' :: 'u' :: hexDigits 4 c.toNat
  else '\\' :: 'U' :: hexDigits 8 c.toNat

def quotedChar (shown : CodePoint → Bool) (quote c : CodePoint) : Text :=
  if c = quote ∨ c = '\\' then ['\\', c]
  else if c = '\t' then ['\\', 't']
  else if c = '\n' then ['\\', 'n']
  else if c = '\r' then ['\\', 'r']
  else if shown c then [c]
  else ofChars (codePointEscape c)

def quoteOf (s : Text) : CodePoint :=
  if s.contains singleQuote && !s.contains doubleQuote then doubleQuote else singleQuote

def quotedChars (shown : CodePoint → Bool) (s : Text) : Text :=
  let quote := quoteOf s
  quote :: s.flatMap (quotedChar shown quote) ++ [quote]

def quoted (s : Text) : Text :=
  quotedChars isPrintable s

/-- The characters of a text where only characters can be shown: a surrogate gives way to
its escape. -/
def shownChars (s : Text) : List Char :=
  s.flatMap fun c => c.char?.elim (codePointEscape c) ([·])

/-- The quoted display that escapes everything beyond ASCII as well. -/
def isPrintableAscii (c : CodePoint) : Bool :=
  0x20 ≤ c.toNat && c.toNat < 0x7f

namespace Shell

def isSafe : CodePoint → Bool
  | .char c =>
      c.isAlphanum || c == '_' || c == '@' || c == '%' || c == '+' || c == '=' || c == ':' ||
        c == ',' || c == '.' || c == '/' || c == '-'
  | .surrogate _ => false

def quotedQuote : Text :=
  [singleQuote, doubleQuote, singleQuote, doubleQuote, singleQuote]

def literalChar (c : CodePoint) : Text :=
  if c = singleQuote then quotedQuote else [c]

/-- A word of safe characters stands for itself.  Any other is put in single quotes,
between which every character is literal; a single quote closes them, stands in
double quotes and opens them again. -/
def quote (s : Text) : Text :=
  if s.isEmpty then [singleQuote, singleQuote]
  else if s.all isSafe then s
  else .char singleQuote :: s.flatMap literalChar ++ [.char singleQuote]

end Shell

end ImageStages.Text
