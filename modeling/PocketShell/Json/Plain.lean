import PocketShell.Json.Value
import PocketShell.Decimal.Shortest
import PocketShell.Text.Literal

/-!
The plain text of a value, for places that hold text only: a string stands for itself, inside
arrays and objects it is a quoted literal; a double shows as few digits as read back.
-/

namespace PocketShell.Json

mutual

def Value.literal : Value → Text
  | .null => "None"
  | .boolean b => (if b then "True" else "False")
  | .integer n => Text.ofInt n
  | .floating x => x.text
  | .string t => Text.literal t
  | .array .nil => ['[', ']']
  | .array (.cons v rest) => '[' :: (v.literal ++ rest.literalTail)
  | .object .nil => ['\x7b', '\x7d']
  | .object (.cons name v rest) =>
      .char '\x7b' :: (Text.literal name ++ ([':', ' '] : Text) ++ v.literal ++ rest.literalTail)

def Items.literalTail : Items → Text
  | .nil => [']']
  | .cons v rest => ([',', ' '] : Text) ++ v.literal ++ rest.literalTail

def Members.literalTail : Members → Text
  | .nil => ['\x7d']
  | .cons name v rest =>
      ([',', ' '] : Text) ++ Text.literal name ++ ([':', ' '] : Text) ++ v.literal
        ++ rest.literalTail

end

def Value.plain : Value → Text
  | .string t => t
  | v => v.literal

end PocketShell.Json
