import ObservedConfig.Text.Digit
import ObservedConfig.Text.Visible

/-! Text in quotes as messages show it. A quote and a backslash are escaped, and every character
without a visible form stands as its code point. -/
namespace ObservedConfig.Text

def escapeChar (c : Char) : String :=
  match c with
  | '\t' => "\\t"
  | '\r' => "\\r"
  | '\n' => "\\n"
  | '\x00' => "\\0"
  | '"' => "\\\""
  | '\\' => "\\\\"
  | c => if isVisible c then c.toString else "\\u\x7b" ++ hex c.toNat 1 ++ "\x7d"

def escaped (s : String) : String :=
  "\"" ++ String.join (s.toList.map escapeChar) ++ "\""

end ObservedConfig.Text
