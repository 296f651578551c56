import HostSurvey.Address.Ipv4
import HostSurvey.Packet.Window
import HostSurvey.Text.Hex

/-!
# Rendering extracted bytes

`Content.render` turns bytes into text in one of six ways. Bytes that a way
cannot represent are shown in upper-case hexadecimal digits.
-/

namespace HostSurvey

inductive Content where
  | hex
  | integer
  | rawBytes
  | string
  | ip
  | uuid
  deriving DecidableEq, Repr, Inhabited

namespace Content

/-- The two's complement value of one to sixteen bytes, most significant first. -/
def signedValue? (s : Bytes) : Option Int :=
  if s.isEmpty || 16 < s.length then none
  else some (BitVec.ofNat (8 * s.length) (Bytes.value s)).toInt

def hexText (s : Bytes) : String := String.ofList (Text.Hex.upper s)

def integerText (n : Int) : String :=
  String.ofList (if n < 0 then '-' :: Text.Decimal.ofNat n.natAbs else Text.Decimal.ofNat n.natAbs)

/-- A byte as a signed number. -/
def byteText (b : UInt8) : String := integerText (Int.bmod b.toNat 256)

/-- Sixteen bytes in the five groups of a UUID. -/
def uuidText (s : Bytes) : String :=
  let h := Text.Hex.lower s
  String.ofList <| h.take 8 ++ '-' :: (h.drop 8).take 4 ++ '-' :: (h.drop 12).take 4 ++
    '-' :: (h.drop 16).take 4 ++ '-' :: h.drop 20

/-- Bytes extracted in the given order, put back as they stand in the packet, with the first three
groups of a little-endian UUID turned round. -/
def uuidBytes (e : Endian) (s : Bytes) : Bytes :=
  match e with
  | .big => s
  | .little =>
    let wire := s.reverse
    (wire.take 4).reverse ++ ((wire.drop 4).take 2).reverse ++ ((wire.drop 6).take 2).reverse ++
      wire.drop 8

/-- The text for bytes that were extracted in the order `e`. -/
def render (c : Content) (e : Endian) (s : Bytes) : String :=
  match c with
  | .hex => hexText s
  | .integer => ((signedValue? s).map integerText).getD (hexText s)
  | .rawBytes => "[" ++ String.intercalate ", " (s.map byteText) ++ "]"
  | .string => String.ofList (Text.Utf8.lossy s)
  | .ip =>
    ((signedValue? s).map fun n => (Ipv4.mk (UInt32.ofInt n)).text).getD (hexText s)
  | .uuid => if s.length = 16 then uuidText (uuidBytes e s) else hexText s

end Content

end HostSurvey
