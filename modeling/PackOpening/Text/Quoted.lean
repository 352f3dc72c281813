import PackOpening.Text.Printable

/-!
Texts in quotes for a reader on the console. Apostrophes quote a text unless it holds an apostrophe
and no double quote. The quote in use, backslashes and whatever is not printable are escaped.
-/
namespace PackOpening.Text

/-- Lower-case hexadecimal digits of a number, as many as asked for. -/
def hexDigits (n : Nat) : (count : Nat) → Text
  | 0 => []
  | count + 1 => hexDigits (n / 16) count ++ [.char (Nat.digitChar (n % 16))]

/-- A code point by its number, in two, four or eight digits. -/
def numbered (c : CodePoint) : Text :=
  if c.code < 0x100 then "\\x" ++ hexDigits c.code 2
  else if c.code < 0x10000 then "\\u" ++ hexDigits c.code 4
  else "\\U" ++ hexDigits c.code 8

/-- A code point within quotes. -/
def quotedCode (quote c : CodePoint) : Text :=
  if c = quote ∨ c = '\\' then ['\\', c]
  else if c = '\n' then ['\\', 'n']
  else if c = '\r' then ['\\', 'r']
  else if c = '\t' then ['\\', 't']
  else if isPrintable c then [c]
  else numbered c

def quoteFor (text : Text) : CodePoint :=
  if text.contains '\'' && !text.contains '"' then '"' else '\''

/-- A text in quotes. -/
def quoted (text : Text) : Text :=
  let quote := quoteFor text
  quote :: (text.flatMap (quotedCode quote) ++ [quote])

example : quoted "it's" = "\"it's\"" ∧ quoted "a\n" = "'a\\n'" ∧
    quoted [.surrogate 0] = "'\\ud800'" := by decide +kernel

end PackOpening.Text
