import ProtectedBoot.Text.GraphemeExtend
import ProtectedBoot.Text.Graphic
import ProtectedBoot.Text.Numeral

/-!
# Quoted text

A text between double quotes, written so that it can be read on any screen: what would end it, or
would not show, is escaped.
-/

namespace ProtectedBoot.Text

/-- The character behind the backslash, for those characters that have an escape of their own. -/
def shortEscape? : Char → Option Char
  | '\x00' => some '0'
  | '\t' => some 't'
  | '\n' => some 'n'
  | '\r' => some 'r'
  | '\\' => some '\\'
  | '\x22' => some '\x22'
  | _ => none

/-- How a character is written between quotes: escaped shortly, or as it is if it shows by itself,
or by its code point. A character that extends another would be drawn onto what stands before it. -/
def escape (c : Char) : List Char :=
  match shortEscape? c with
  | some letter => ['\\', letter]
  | none =>
    if isGraphic c && !extendsGrapheme c then [c]
    else '\\' :: 'u' :: '\x7b' :: hexDigits .lower c.toNat ++ ['\x7d']

/-- The outline of a text. -/
def quoted (text : String) : String :=
  String.ofList ('\x22' :: text.toList.flatMap escape ++ ['\x22'])

end ProtectedBoot.Text
