import DegreeAudit.Encoding.Utf8
import DegreeAudit.Encoding.Wide

namespace DegreeAudit
namespace Encoding

/-!
The text of a document whose encoding is not given. A byte order mark decides; without one, the
places of the zero bytes among the first four do, since a document begins with two ASCII
characters.
-/

/-- The text of a document in UTF-8, UTF-16 or UTF-32, without a byte order mark. -/
def decodeAny (bytes : List UInt8) : Except Fault (List Char) :=
  match bytes with
  | 0x00 :: 0x00 :: 0xFE :: 0xFF :: rest => Utf32.decode .highFirst 4 rest
  | 0xFF :: 0xFE :: 0x00 :: 0x00 :: rest => Utf32.decode .lowFirst 4 rest
  | 0xFE :: 0xFF :: rest => Utf16.decode .highFirst 2 rest
  | 0xFF :: 0xFE :: rest => Utf16.decode .lowFirst 2 rest
  | 0xEF :: 0xBB :: 0xBF :: rest => Utf8.decodeWithHalves rest
  | a :: b :: c :: d :: _ =>
      if a = 0 then
        if b = 0 then Utf32.decode .highFirst 0 bytes else Utf16.decode .highFirst 0 bytes
      else if b = 0 then
        if c = 0 && d = 0 then Utf32.decode .lowFirst 0 bytes
        else Utf16.decode .lowFirst 0 bytes
      else Utf8.decodeWithHalves bytes
  | [a, b] =>
      if a = 0 then Utf16.decode .highFirst 0 bytes
      else if b = 0 then Utf16.decode .lowFirst 0 bytes
      else Utf8.decodeWithHalves bytes
  | _ => Utf8.decodeWithHalves bytes

end Encoding
end DegreeAudit
