/-!
Bytes of a text. Both directions go through the library's own encoding, so that the text of a
byte string exists exactly when the bytes are well formed.
-/
namespace HostNet.Text

def toBytes (text : String) : List UInt8 :=
  text.toUTF8.data.toList

/-- The text that a byte string encodes, if it is well-formed UTF-8. -/
def ofBytes? (bytes : List UInt8) : Option String :=
  String.fromUTF8? ⟨bytes.toArray⟩

end HostNet.Text
